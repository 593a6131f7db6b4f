import DocBlocks.Failure.Report

/-!
# Which cause an error report speaks of

A report looks down an error's chain of causes and stops at the first one it
recognises (`Cause.stopsReport`): a failure of the library, a YAML error, or a
fault of the file system that is a missing file or a denied permission. Other
faults of the file system, notes and plain messages are passed over.

* `Report.ofCauses_append_of_passed` — causes the report passes over play no
  part, so only the first recognised cause counts;
* `Report.ofFailure_message` — a failure is reported by its own message, also
  when the fault below it is dropped (`Failure.detach`);
* `Report.chainText_cons` — a chain with no recognised cause is reported by
  its outermost message, then the other causes numbered from one;
* `Report.ofTrouble_first_recognized` — the whole report: it is the report of
  the first recognised cause, whose message is that failure's message, the
  YAML error's message after `YAML error: `, or, for a fault of the file
  system, the outermost message of the chain.
-/

namespace DocBlocks

/-- Whether a report stops at a cause: a failure of the library, a YAML
error, or a missing file or denied permission. -/
def Cause.stopsReport : Cause → Bool
  | .failure _ => true
  | .yaml _ => true
  | .io e => e.kind == .permissionDenied || e.kind == .notFound
  | _ => false

/-- Dropping the fault below a failure keeps its message. -/
theorem Failure.message_detach (f : Failure) : f.detach.message = f.message := by
  cases f <;> rfl

namespace Report

/-! ### Looking down the chain -/

/-- One step down the chain: a recognised cause is reported on its own, any
other is passed over. -/
theorem ofCauses_cons (outer : String) (c : Cause) (rest : List Cause) :
    ofCauses outer (c :: rest) =
      if c.stopsReport then ofCauses outer [c] else ofCauses outer rest := by
  cases c with
  | io e =>
    -- only the two recognised kinds stop the report
    cases hkind : e.kind <;> simp [ofCauses, Cause.stopsReport, hkind]
  | _ => rfl

/-- Causes the report passes over play no part. -/
theorem ofCauses_append_of_passed (outer : String) {pre : List Cause}
    (hpre : ∀ c ∈ pre, c.stopsReport = false) (rest : List Cause) :
    ofCauses outer (pre ++ rest) = ofCauses outer rest := by
  induction pre with
  | nil => rfl
  | cons c pre ih =>
    obtain ⟨hc, hpre⟩ := List.forall_mem_cons.mp hpre
    rw [List.cons_append, ofCauses_cons, if_neg (Bool.eq_false_iff.mp hc), ih hpre]

/-- A recognised cause gives a report on its own. -/
theorem ofCauses_singleton_isSome (outer : String) {c : Cause} (hc : c.stopsReport = true) :
    (ofCauses outer [c]).isSome = true := by
  cases c with
  | failure f => rfl
  | yaml e => rfl
  | io e =>
    cases hkind : e.kind <;> simp [Cause.stopsReport, hkind] at hc <;> simp [ofCauses, hkind]
  | context t => cases hc
  | message t => cases hc

/-- A chain gives no report of a cause exactly when it has no recognised
cause. -/
theorem ofCauses_eq_none_iff (outer : String) (cs : List Cause) :
    ofCauses outer cs = none ↔ ∀ c ∈ cs, c.stopsReport = false := by
  induction cs with
  | nil => exact ⟨fun _ _ h => absurd h List.not_mem_nil, fun _ => rfl⟩
  | cons c cs ih =>
    rw [List.forall_mem_cons, ofCauses_cons]
    cases hc : c.stopsReport with
    | false => rw [if_neg Bool.false_ne_true, ih]; simp
    | true =>
      have hsome := Option.isSome_iff_ne_none.mp (ofCauses_singleton_isSome outer hc)
      rw [if_pos rfl]
      simp [hsome]

/-! ### The message of each recognised cause -/

/-- A missing file or a denied permission is reported by the outermost
message. -/
theorem message_of_ofCauses_io {outer : String} {e : IoError} {r : Report}
    (h : ofCauses outer [.io e] = some r) : r.message = outer := by
  cases hkind : e.kind <;> simp [ofCauses, hkind] at h <;> rw [← h]

/-- A failure is reported by its own message: dropping the fault below it
keeps the message. -/
theorem ofFailure_message (f : Failure) : (ofFailure f).message = f.message := by
  rw [← Failure.message_detach f]
  dsimp only [ofFailure]
  split <;> rfl

/-- A chain of more than one cause, none of them recognised, is reported by its
outermost message, then the other causes numbered from one. -/
theorem chainText_cons (c : Cause) {rest : List Cause} (hrest : rest ≠ []) :
    chainText ⟨c :: rest⟩ = c.text ++ "\n\nCaused by:" ++
      String.join (rest.mapIdx fun i c => "\n  " ++ toString (i + 1) ++ ": " ++ c.text) := by
  simp only [chainText, List.isEmpty_eq_false_iff.mpr hrest, Bool.false_eq_true, if_false]
  -- the causes are numbered by zipping them with their indices
  congr 2
  apply List.ext_getElem <;> simp

/-! ### The report of an error -/

/-- The report of an error is the report of the first cause it recognises,
with the outermost message of the chain at hand: a failure is reported by its
message, a YAML error by its message after `YAML error: `, and a missing file
or a denied permission by the outermost message. A chain with no recognised
cause is reported by its outermost message, followed, when there are other
causes, by their messages numbered from one; such a report has neither a
suggestion nor details. -/
theorem ofTrouble_first_recognized (t : Trouble) :
    (∀ pre c post, t.chain = pre ++ c :: post → (∀ x ∈ pre, x.stopsReport = false) →
        c.stopsReport = true →
      ∃ r, ofCauses t.text [c] = some r ∧ ofTrouble t = r ∧
        (∀ f, c = .failure f → r.message = c.text) ∧
        (∀ e, c = .yaml e → r.message = "YAML error: " ++ c.text) ∧
        (∀ e, c = .io e → r.message = t.text)) ∧
    (∀ c₀ rest, t.chain = c₀ :: rest → (∀ x ∈ t.chain, x.stopsReport = false) →
      (rest = [] → ofTrouble t = { message := c₀.text }) ∧
      (rest ≠ [] → ofTrouble t =
        { message := c₀.text ++ "\n\nCaused by:" ++
            String.join (rest.mapIdx fun i c => "\n  " ++ toString (i + 1) ++ ": " ++ c.text) })) := by
  constructor
  · intro pre c post hchain hpre hc
    have hfirst : ofCauses t.text t.chain = ofCauses t.text [c] := by
      rw [hchain, ofCauses_append_of_passed _ hpre, ofCauses_cons, if_pos hc]
    obtain ⟨r, hr⟩ := Option.isSome_iff_exists.mp (ofCauses_singleton_isSome t.text hc)
    refine ⟨r, hr, by rw [ofTrouble, hfirst, hr], ?_, ?_, ?_⟩
    · rintro f rfl
      rw [← Option.some.inj hr, ofFailure_message]
      rfl
    · rintro e rfl
      rw [← Option.some.inj hr]
      rfl
    · rintro e rfl
      exact message_of_ofCauses_io hr
  · intro c₀ rest hchain hnone
    have hnoreport : ofCauses t.text t.chain = none := (ofCauses_eq_none_iff _ _).mpr hnone
    obtain ⟨chain⟩ := t
    subst hchain
    refine ⟨?_, fun hrest => ?_⟩
    · rintro rfl
      rw [ofTrouble, hnoreport]
      rfl
    · rw [ofTrouble, hnoreport, chainText_cons c₀ hrest]

example : (ofTrouble ((Trouble.ofIo ⟨.other, "disk full"⟩).withContext "Failed to load")).message =
    "Failed to load\n\nCaused by:\n  1: disk full" := by decide

example : (ofTrouble ((Trouble.ofFailure (.io ⟨.other, "disk full"⟩)).withContext "Failed to load")).message =
    "IO error: disk full" := by decide

end Report

end DocBlocks

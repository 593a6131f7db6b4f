import DocBlocks.Check

/-!
# Validation reports every finding of every entry

A check runs against the validator's sink and only ever appends to it
(`Appends`): on any sink it yields what it yields on an empty one, and leaves
that sink followed by what it reports there. `report` and `pure` append, and
appending is closed under `bind`, so every check of `DocBlocks.Check` appends.

From that the checks of documents are computed outright:

* `countPassing_run` — counting the entries that pass checks each entry once,
  in order, and counts those that pass on their own;
* `Document.check_run` — a document passes when the entries that pass are all
  of them, and it reports the findings of its entries one after the other;
* `checkAll_reports_every_entry` — checking a list of documents reports the
  findings of every entry of every document, in order, passes exactly when
  every entry passes, and splits over appended lists. Nothing is skipped after
  a failure: the fold checks each document before it looks at what the
  documents before it came to.
-/

namespace DocBlocks

variable {α β : Type}

/-! ### Running checks -/

/-- Running a sequenced check runs the first part, then the rest on the sink
the first part left. -/
theorem Validator.run_bind (x : Validator α) (f : α → Validator β) (sink : List Finding) :
    (x >>= f).run sink = (f (x.run sink).1).run (x.run sink).2 := rfl

theorem Validator.run_pure (a : α) (sink : List Finding) :
    (pure a : Validator α).run sink = (a, sink) := rfl

theorem Validator.run_report (f : Finding) (sink : List Finding) :
    (report f).run sink = ((), sink ++ [f]) := rfl

theorem Validator.verdict_passed (c : Validator Bool) :
    c.verdict.passed = (c.run []).1 := rfl

theorem Validator.verdict_findings (c : Validator Bool) :
    c.verdict.findings = (c.run []).2 := rfl

/-! ### Checks only append -/

/-- A check only appends to the sink: run on any sink, it yields what it
yields on an empty one and leaves the sink followed by what it reports there. -/
def Appends (c : Validator α) : Prop :=
  ∀ sink, c.run sink = ((c.run []).1, sink ++ (c.run []).2)

theorem Appends.pure (a : α) : Appends (pure a : Validator α) := by
  intro sink
  rw [Validator.run_pure, Validator.run_pure, List.append_nil]

theorem Appends.report (f : Finding) : Appends (report f) := by
  intro sink
  rw [Validator.run_report, Validator.run_report, List.nil_append]

/-- **Appending is closed under sequencing.** -/
theorem Appends.bind {x : Validator α} {f : α → Validator β} (hx : Appends x)
    (hf : ∀ a, Appends (f a)) : Appends (x >>= f) := by
  intro sink
  rw [Validator.run_bind, Validator.run_bind, hx sink]
  dsimp only
  rw [hf _ (sink ++ _), hf _ (x.run []).2, List.append_assoc]

/-! ### Every check appends -/

theorem warnIfLong_appends (key line : String) (index : Nat) :
    Appends (warnIfLong key line index) := by
  unfold warnIfLong
  split
  · exact Appends.report _
  · exact Appends.pure _

theorem warnLongLines_appends (key : String) (ls : List String) (index : Nat) :
    Appends (warnLongLines key ls index) := by
  induction ls generalizing index with
  | nil => exact Appends.pure _
  | cons l ls ih => exact Appends.bind (warnIfLong_appends _ _ _) fun _ => ih _

theorem checkPresent_appends (key : String) (docblock : List String) :
    Appends (checkPresent key docblock) := by
  unfold checkPresent
  split
  · exact Appends.bind (Appends.report _) fun _ => Appends.pure _
  · exact Appends.pure _

theorem checkReadable_appends (key : String) (err : Option Choice.ChoiceError) :
    Appends (checkReadable key err) := by
  cases err with
  | some err => exact Appends.bind (Appends.report _) fun _ => Appends.pure _
  | none => exact Appends.pure _

theorem Entry.checkDocblock_appends (e : Entry) : Appends e.checkDocblock := by
  unfold Entry.checkDocblock
  split
  · exact Appends.pure _
  · exact Appends.bind (checkPresent_appends _ _) fun _ =>
      Appends.bind (checkReadable_appends _ _) fun _ =>
        Appends.bind (warnLongLines_appends _ _ _) fun _ => Appends.pure _

theorem Entry.check_appends (e : Entry) : Appends e.check :=
  Appends.bind e.checkDocblock_appends fun _ => Appends.pure _

/-- An entry whose key was never located fails its check. -/
theorem Entry.docblock_isSome_of_check {e : Entry} (h : e.check.verdict.passed = true) :
    e.docblock.isSome = true := by
  cases hd : e.docblock with
  | some b => rfl
  | none =>
    have hfail : e.checkDocblock = pure false := by
      unfold Entry.checkDocblock
      rw [hd]
    rw [Validator.verdict_passed, Entry.check, Validator.run_bind, hfail] at h
    cases h

/-! ### What an entry's check reports -/

/-- A check followed by checks that only append, run on an empty sink. -/
theorem Appends.run_bind_nil (x : Validator α) {f : α → Validator β} (hf : ∀ a, Appends (f a)) :
    (x >>= f).run [] = (((f (x.run []).1).run []).1, (x.run []).2 ++ ((f (x.run []).1).run []).2) := by
  rw [Validator.run_bind, hf]

theorem checkPresent_run (key : String) (docblock : List String) :
    (checkPresent key docblock).run [] =
      (!docblock.isEmpty,
        if docblock.isEmpty then [⟨.error, "Missing YAMLDoc block for '" ++ key ++ "'"⟩] else []) := by
  unfold checkPresent
  cases docblock.isEmpty <;> rfl

theorem checkReadable_run (key : String) (err : Option Choice.ChoiceError) :
    (checkReadable key err).run [] =
      (err.isNone, match err with
        | some err => [⟨.error, "Invalid choice section on line " ++ toString err.line
            ++ " of YAMLDoc block for '" ++ key ++ "': " ++ err.reason⟩]
        | none => []) := by
  cases err <;> rfl

/-- Every finding about long lines is a warning. -/
theorem warnLongLines_warns (key : String) (ls : List String) (index : Nat) :
    ∀ f ∈ ((warnLongLines key ls index).run []).2, f.severity = .warn := by
  induction ls generalizing index with
  | nil =>
    intro f hf
    rw [warnLongLines, Validator.run_pure] at hf
    cases hf
  | cons l ls ih =>
    intro f hf
    rw [warnLongLines, Appends.run_bind_nil _ fun _ => warnLongLines_appends _ _ _] at hf
    rcases List.mem_append.mp hf with hf | hf
    · unfold warnIfLong at hf
      split at hf
      · rw [Validator.run_report, List.nil_append, List.mem_singleton] at hf
        rw [hf]
      · rw [Validator.run_pure] at hf
        cases hf
    · exact ih _ f hf

/-- Long lines are warned of exactly when there is one. -/
theorem warnLongLines_eq_nil_iff (key : String) (ls : List String) (index : Nat) :
    ((warnLongLines key ls index).run []).2 = [] ↔ ∀ l ∈ ls, l.length ≤ wrapLength := by
  induction ls generalizing index with
  | nil =>
    rw [warnLongLines, Validator.run_pure]
    simp
  | cons l ls ih =>
    rw [warnLongLines, Appends.run_bind_nil _ fun _ => warnLongLines_appends _ _ _, List.append_eq_nil_iff,
      ih, List.forall_mem_cons]
    unfold warnIfLong
    split
    · rw [Validator.run_report]
      simp only [List.nil_append, List.cons_ne_nil, false_and, false_iff]
      exact fun h => absurd h.1 (by omega)
    · rw [Validator.run_pure]
      simp only [true_and]
      exact ⟨fun h => ⟨by omega, h⟩, fun h => h.2⟩

/-- The check of an entry whose key was never located fails and reports nothing. -/
theorem Entry.check_run_of_none {e : Entry} (hd : e.docblock = none) : e.check.run [] = (false, []) := by
  have hfail : e.checkDocblock = pure false := by
    unfold Entry.checkDocblock
    rw [hd]
  rw [Entry.check, Validator.run_bind, hfail]
  rfl

/-- The check of an entry with a docblock: the docblock must not be empty and
its directive must read, and the findings are those of the three checks in
turn. -/
theorem Entry.check_run_of_some {e : Entry} {docblock : List String} (hd : e.docblock = some docblock) :
    e.check.run [] =
      (!docblock.isEmpty && e.choiceError?.isNone,
        ((checkPresent e.keyText docblock).run []).2 ++ ((checkReadable e.keyText e.choiceError?).run []).2 ++
          ((warnLongLines e.keyText docblock 1).run []).2) := by
  have hcheck : e.checkDocblock = (do
      let present ← checkPresent e.keyText docblock
      let readable ← checkReadable e.keyText e.choiceError?
      warnLongLines e.keyText docblock 1
      pure (present && readable)) := by
    unfold Entry.checkDocblock
    rw [hd]
  have hrest : ∀ present, Appends (do
      let readable ← checkReadable e.keyText e.choiceError?
      warnLongLines e.keyText docblock 1
      pure (present && readable)) := fun _ =>
    Appends.bind (checkReadable_appends _ _) fun _ =>
      Appends.bind (warnLongLines_appends _ _ _) fun _ => Appends.pure _
  rw [Entry.check, Appends.run_bind_nil _ fun _ => Appends.pure _, hcheck, Appends.run_bind_nil _ hrest,
    Appends.run_bind_nil _ fun _ => Appends.bind (warnLongLines_appends _ _ _) fun _ => Appends.pure _,
    Appends.run_bind_nil _ fun _ => Appends.pure _, checkPresent_run, checkReadable_run]
  simp only [Validator.run_pure, Entry.checkValue, Bool.and_true, List.append_nil, List.append_assoc]

/-- **An entry passes** exactly when its key was located with a docblock that
is not empty and whose directive reads. -/
theorem Entry.check_passed_iff (e : Entry) :
    e.check.verdict.passed = true ↔ ∃ docblock, e.docblock = some docblock ∧ docblock ≠ [] ∧ e.choiceError? = none := by
  rw [Validator.verdict_passed]
  cases hd : e.docblock with
  | none => simp [Entry.check_run_of_none hd]
  | some docblock => simp [Entry.check_run_of_some hd, Option.isNone_iff_eq_none]

/-- An entry reports an error exactly when its docblock is empty or its
directive does not read; one never located reports none. -/
theorem Entry.check_error_iff (e : Entry) :
    (∃ f ∈ e.check.verdict.findings, f.severity = .error) ↔
      ∃ docblock, e.docblock = some docblock ∧ (docblock = [] ∨ e.choiceError?.isSome) := by
  rw [Validator.verdict_findings]
  cases hd : e.docblock with
  | none => simp [Entry.check_run_of_none hd]
  | some docblock =>
    have hwarn := warnLongLines_warns e.keyText docblock 1
    rw [Entry.check_run_of_some hd, checkPresent_run, checkReadable_run]
    constructor
    · rintro ⟨f, hf, hsev⟩
      rcases List.mem_append.mp hf with hf | hf
      · rcases List.mem_append.mp hf with hf | hf
        · cases docblock <;> simp_all
        · cases he : e.choiceError? <;> simp_all
      · rw [hwarn f hf] at hsev
        cases hsev
    · rintro ⟨_, ⟨⟩, hbad⟩
      rcases hbad with rfl | hsome
      · exact ⟨_, List.mem_append_left _ (List.mem_append_left _ (List.mem_singleton_self _)), rfl⟩
      · obtain ⟨err, herr⟩ := Option.isSome_iff_exists.mp hsome
        rw [herr]
        exact ⟨_, List.mem_append_left _ (List.mem_append_right _ (List.mem_singleton_self _)), rfl⟩

/-- An entry reports a warning exactly when its docblock has a line longer
than the wrap length; one never located reports none. -/
theorem Entry.check_warn_iff (e : Entry) :
    (∃ f ∈ e.check.verdict.findings, f.severity = .warn) ↔
      ∃ docblock, e.docblock = some docblock ∧ ∃ l ∈ docblock, wrapLength < l.length := by
  rw [Validator.verdict_findings]
  cases hd : e.docblock with
  | none => simp [Entry.check_run_of_none hd]
  | some docblock =>
    have hlong := warnLongLines_eq_nil_iff e.keyText docblock 1
    have hwarn := warnLongLines_warns e.keyText docblock 1
    rw [Entry.check_run_of_some hd, checkPresent_run, checkReadable_run]
    constructor
    · rintro ⟨f, hf, hsev⟩
      rcases List.mem_append.mp hf with hf | hf
      · rcases List.mem_append.mp hf with hf | hf
        · cases docblock <;> simp_all
        · cases he : e.choiceError? <;> simp_all
      · refine ⟨docblock, rfl, Classical.byContradiction fun hnone => ?_⟩
        have hshort : ∀ l ∈ docblock, l.length ≤ wrapLength :=
          fun l hl => Nat.le_of_not_lt fun hlt => hnone ⟨l, hl, hlt⟩
        rw [hlong.mpr hshort] at hf
        cases hf
    · rintro ⟨_, ⟨⟩, l, hl, hlen⟩
      obtain ⟨f, hf⟩ := List.exists_mem_of_ne_nil _ fun hnil => absurd (hlong.mp hnil l hl) (by omega)
      exact ⟨f, List.mem_append_right _ hf, hwarn f hf⟩

/-! ### Documents -/

/-- **Counting visits every entry.** Counting the entries that pass reports
the findings of each entry in turn, as each reports them alone, and counts
the entries that pass alone. -/
theorem countPassing_run (es : List Entry) (sink : List Finding) :
    (countPassing es).run sink =
      ((es.filter fun e => e.check.verdict.passed).length,
        sink ++ es.flatMap fun e => e.check.verdict.findings) := by
  induction es generalizing sink with
  | nil =>
    rw [countPassing, Validator.run_pure]
    simp
  | cons e es ih =>
    rw [countPassing, Validator.run_bind, e.check_appends sink, Validator.run_bind, ih,
      Validator.run_pure]
    simp only [List.filter_cons, List.flatMap_cons, Validator.verdict_passed,
      Validator.verdict_findings, List.append_assoc]
    cases (e.check.run []).1 <;> simp

/-- **A document's check.** It passes when the entries that pass are all of
its entries, and reports the findings of its entries one after the other. -/
theorem Document.check_run (d : Document) (sink : List Finding) :
    d.check.run sink =
      ((d.entries.filter fun e => e.check.verdict.passed).length == d.size,
        sink ++ d.entries.flatMap fun e => e.check.verdict.findings) := by
  rw [Document.check, Validator.run_bind, countPassing_run, Validator.run_pure]

/-- A document passes exactly when each of its entries passes alone. -/
theorem Document.check_passed (d : Document) :
    d.check.verdict.passed = d.entries.all fun e => e.check.verdict.passed := by
  rw [Validator.verdict_passed, Document.check_run, Document.size, Bool.eq_iff_iff, beq_iff_eq,
    List.length_filter_eq_length_iff, List.all_eq_true]

/-- A document reports the findings of its entries, one after the other. -/
theorem Document.check_findings (d : Document) :
    d.check.verdict.findings = d.entries.flatMap fun e => e.check.verdict.findings := by
  rw [Validator.verdict_findings, Document.check_run, List.nil_append]

theorem Document.check_appends (d : Document) : Appends d.check := by
  intro sink
  rw [Document.check_run, Document.check_run, List.nil_append]

/-- The fold over documents, from any verdict so far and on any sink. -/
theorem checkAll_foldlM_run (ds : List Document) (acc : Bool) (sink : List Finding) :
    (ds.foldlM (fun (allValid : Bool) (d : Document) => do
        let valid ← d.check
        pure (valid && allValid)) acc).run sink =
      ((ds.all fun d => d.check.verdict.passed) && acc,
        sink ++ ds.flatMap fun d => d.check.verdict.findings) := by
  induction ds generalizing acc sink with
  | nil =>
    rw [List.foldlM_nil, Validator.run_pure]
    simp
  | cons d ds ih =>
    -- the document is checked first; only then is the verdict so far read
    rw [List.foldlM_cons, Validator.run_bind, Validator.run_bind, d.check_appends sink]
    dsimp only
    rw [Validator.run_pure, ih]
    simp only [List.all_cons, List.flatMap_cons, Validator.verdict_passed,
      Validator.verdict_findings, List.append_assoc]
    cases (d.check.run []).1 <;> simp

/-- Checking documents checks each document in turn, whatever the documents
before it came to. -/
theorem Document.checkAll_run (ds : List Document) (sink : List Finding) :
    (Document.checkAll ds).run sink =
      (ds.all fun d => d.check.verdict.passed,
        sink ++ ds.flatMap fun d => d.check.verdict.findings) := by
  rw [Document.checkAll, checkAll_foldlM_run, Bool.and_true]

/-- Checking documents passes exactly when every entry passes alone. -/
theorem Document.checkAll_passed (ds : List Document) :
    (Document.checkAll ds).verdict.passed = ds.all fun d => d.entries.all fun e => e.check.verdict.passed := by
  rw [Validator.verdict_passed, Document.checkAll_run]
  simp only [Document.check_passed]

/-- **Checking documents reports everything.** Checking a list of documents on
any sink appends the findings of every entry of every document, each as the
entry reports them alone, in document order and then entry order; it passes
exactly when every entry passes alone. A document alone passes when the
number of its entries that pass is its size. Checking two lists one after the
other reports the findings of the first, then those of the second, and
passes when both pass, whichever fails first. -/
theorem checkAll_reports_every_entry (ds : List Document) (sink : List Finding) :
    (Document.checkAll ds).run sink =
        (ds.all fun d => d.entries.all fun e => e.check.verdict.passed,
          sink ++ ds.flatMap fun d => d.entries.flatMap fun e => e.check.verdict.findings) ∧
      (∀ d : Document, d.check.run sink =
        ((d.entries.filter fun e => e.check.verdict.passed).length == d.size,
          sink ++ d.entries.flatMap fun e => e.check.verdict.findings)) ∧
      ∀ ds₁ ds₂ : List Document, (Document.checkAll (ds₁ ++ ds₂)).run sink =
        ((Document.checkAll ds₁).verdict.passed && (Document.checkAll ds₂).verdict.passed,
          sink ++ (Document.checkAll ds₁).verdict.findings
            ++ (Document.checkAll ds₂).verdict.findings) := by
  refine ⟨?_, fun d => d.check_run sink, fun ds₁ ds₂ => ?_⟩
  · rw [Document.checkAll_run]
    simp only [Document.check_passed, Document.check_findings]
  · simp only [Document.checkAll_run, Validator.verdict_passed, Validator.verdict_findings, List.all_append,
      List.flatMap_append, List.nil_append, List.append_assoc]

end DocBlocks

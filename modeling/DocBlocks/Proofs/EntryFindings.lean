import DocBlocks.Proofs.Validation
import DocBlocks.Proofs.EntryChoices

/-!
# What the check of one entry reports

On any sink, the check of an entry whose key was never located reports
nothing and fails. Any other entry gets exactly these findings, in this
order: an error when its docblock is empty (`Finding.missingDocblock`), an
error when its directive cannot be read (`Finding.unreadableChoices`), and a
warning for each docblock line longer than the wrap length, counted in
characters and numbered from one (`longLineWarnings`). It passes when its
docblock is not empty and its directive reads, whatever its value and its
warnings.

* `warnLongLines_run` — the long-line check warns of each long line, in
  order;
* `Entry.check_reports` — the whole report of an entry's check; for an entry
  whose choice section follows its docblock there is at most one error,
  since an empty docblock holds no directive; and an entry fails exactly
  when it reports an error or was never located.
-/

namespace DocBlocks

open DocBlocks.Choice

/-! ### The findings of an entry -/

/-- The error for an empty docblock. -/
def Finding.missingDocblock (key : String) : Finding :=
  ⟨.error, "Missing YAMLDoc block for '" ++ key ++ "'"⟩

/-- The error for a directive that cannot be read. -/
def Finding.unreadableChoices (key : String) (err : ChoiceError) : Finding :=
  ⟨.error, "Invalid choice section on line " ++ toString err.line ++ " of YAMLDoc block for '" ++ key ++
    "': " ++ err.reason⟩

/-- The warning for docblock line `index`, counted from one. -/
def Finding.longLine (key : String) (index : Nat) : Finding :=
  ⟨.warn, "Line " ++ toString index ++ " of YAMLDoc block for '" ++ key ++
    "' exceeds recommended wrap length (80 characters)"⟩

/-- The warnings for the lines of `docblock` longer than the wrap length, in
order, numbering the lines from `index`. -/
def longLineWarnings (key : String) (docblock : List String) (index : Nat) : List Finding :=
  ((docblock.zipIdx index).filter fun p => wrapLength < p.1.length).map fun p =>
    Finding.longLine key p.2

theorem longLineWarnings_cons (key l : String) (ls : List String) (index : Nat) :
    longLineWarnings key (l :: ls) index =
      (if wrapLength < l.length then [Finding.longLine key index] else []) ++
        longLineWarnings key ls (index + 1) := by
  by_cases hlong : wrapLength < l.length <;> simp [longLineWarnings, hlong]

/-- The long-line check warns of each long line, in order. -/
theorem warnLongLines_run (key : String) (ls : List String) (index : Nat) :
    ((warnLongLines key ls index).run []).2 = longLineWarnings key ls index := by
  induction ls generalizing index with
  | nil => rfl
  | cons l ls ih =>
    rw [warnLongLines, Appends.run_bind_nil _ fun _ => warnLongLines_appends _ _ _, ih,
      longLineWarnings_cons]
    unfold warnIfLong
    by_cases hlong : wrapLength < l.length
    · rw [if_pos hlong, if_pos hlong, Validator.run_report, List.nil_append]
      -- the check writes the wrap length out, as 80
      have hwrap : "' exceeds recommended wrap length (" ++ (toString wrapLength ++ " characters)") =
          "' exceeds recommended wrap length (80 characters)" := by decide
      simp only [Finding.longLine, String.append_assoc, hwrap]
    · rw [if_neg hlong, if_neg hlong, Validator.run_pure]

/-! ### The report of an entry -/

/-- The findings of an entry with a docblock, in order: the missing docblock,
the unreadable directive, the long lines. -/
theorem Entry.check_findings_of_some {e : Entry} {docblock : List String}
    (hd : e.docblock = some docblock) :
    (e.check.run []).2 =
      (if docblock.isEmpty then [Finding.missingDocblock e.keyText] else []) ++
        (e.choiceError?.map (Finding.unreadableChoices e.keyText)).toList ++
        longLineWarnings e.keyText docblock 1 := by
  rw [Entry.check_run_of_some hd]
  dsimp only
  rw [checkPresent_run, checkReadable_run, warnLongLines_run]
  cases e.choiceError? <;> rfl

/-- Long lines give warnings only. -/
theorem longLineWarnings_errors (key : String) (docblock : List String) (index : Nat) :
    (longLineWarnings key docblock index).filter (fun f => f.severity == .error) = [] := by
  rw [longLineWarnings, List.filter_eq_nil_iff]
  intro f hf
  obtain ⟨p, -, rfl⟩ := List.mem_map.mp hf
  simp [Finding.longLine]

/-- An entry whose choice section follows its docblock reports one error at
most: an empty docblock holds no directive. -/
theorem Entry.Coherent.errors_le_one {e : Entry} (h : e.Coherent) :
    (e.check.verdict.findings.filter fun f => f.severity == .error).length ≤ 1 := by
  rw [Validator.verdict_findings]
  cases hd : e.docblock with
  | none =>
    rw [Entry.check_run_of_none hd]
    simp
  | some docblock =>
    rw [Entry.check_findings_of_some hd, List.filter_append, List.filter_append,
      longLineWarnings_errors, List.append_nil]
    cases docblock with
    | nil =>
      have hnone : e.choiceError? = none := by
        cases herr : e.choiceError? with
        | none => rfl
        | some err =>
          obtain ⟨b, hb, hlen⟩ := h.docblock_of_choiceError (by rw [herr]; rfl)
          rw [hd, Option.some.injEq] at hb
          rw [← hb] at hlen
          cases hlen
      simp [hnone, Finding.missingDocblock]
    | cons l ls =>
      cases e.choiceError? <;> simp [Finding.unreadableChoices]

/-- An entry fails exactly when it reports an error or was never located. -/
theorem Entry.check_fails_iff (e : Entry) :
    e.check.verdict.passed = false ↔
      (∃ f ∈ e.check.verdict.findings, f.severity = .error) ∨ e.docblock = none := by
  rw [Entry.check_error_iff, ← Bool.not_eq_true, Entry.check_passed_iff]
  cases e.docblock with
  | none => simp
  | some docblock =>
    cases e.choiceError? <;> simp

/-- **What the check of one entry reports.** On any sink, an entry whose key
was never located reports nothing and fails. An entry with a docblock
reports, in order, an error when the docblock is empty, an error when its
directive cannot be read, and a warning for each docblock line longer than
80 characters, numbered from one; it passes when the docblock is not empty
and the directive reads. An entry whose choice section follows its docblock
reports at most one error, and an entry fails exactly when it reports an
error or was never located. -/
theorem Entry.check_reports (e : Entry) (sink : List Finding) :
    (e.docblock = none → e.check.run sink = (false, sink)) ∧
    (∀ docblock, e.docblock = some docblock →
      e.check.run sink = (!docblock.isEmpty && e.choiceError?.isNone,
        sink ++ ((if docblock.isEmpty then [Finding.missingDocblock e.keyText] else []) ++
          (e.choiceError?.map (Finding.unreadableChoices e.keyText)).toList ++
          longLineWarnings e.keyText docblock 1))) ∧
    (e.Coherent → (e.check.verdict.findings.filter fun f => f.severity == .error).length ≤ 1) ∧
    (e.check.verdict.passed = false ↔
      (∃ f ∈ e.check.verdict.findings, f.severity = .error) ∨ e.docblock = none) := by
  refine ⟨fun hd => ?_, fun docblock hd => ?_, fun h => h.errors_le_one, e.check_fails_iff⟩
  · rw [e.check_appends sink, Entry.check_run_of_none hd, List.append_nil]
  · have hpassed : (e.check.run []).1 = (!docblock.isEmpty && e.choiceError?.isNone) := by
      rw [Entry.check_run_of_some hd]
    rw [e.check_appends sink, hpassed, Entry.check_findings_of_some hd]

/-- Lengths are counted in characters: a line of 80 characters, 158 bytes
long, is not too long. -/
example : ((Entry.new (.string "k") .null).withDocblock
    (some ["# " ++ String.ofList (List.replicate 78 'é')])).check.verdict.findings = [] := by
  decide +kernel

end DocBlocks

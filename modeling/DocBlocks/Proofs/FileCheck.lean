import DocBlocks.Command.Validate
import DocBlocks.Files.Tree
import DocBlocks.Proofs.Validation

/-!
# The verdict on a file

Validating a file loads its documents and checks every entry; the outcome
counts the documents and entries and lists the messages of the errors and of
the warnings. This module says what the outcome is for every file system held
in memory and every path:

* a file passes exactly when it loads and every entry was located with a
  docblock that is not empty and whose directive reads, and, in strict mode,
  no docblock line is longer than the wrap length;
* the errors and warnings are the messages of the findings of each severity,
  in the order they were reported, and the findings are those of each entry in
  turn;
* a file that does not load fails with that failure as its one error;
* so a file fails with no error exactly when it loads, nothing reports an
  error, and some key was never located or strict mode saw a warning.

Validating files reads them and changes nothing; each file is checked, and
the command fails exactly when a file does. All of it is
`checkFile_verdict`. Validating reads only (`ReadsOnly`): a run over the tree
that hands it back as it is, so runs over many files are maps.
-/

namespace DocBlocks.Files

variable {α β : Type}

/-! ### Runs that only read -/

theorem TreeM.run_bind (x : TreeM α) (f : α → TreeM β) (t : Tree) :
    (x >>= f).run t = (f (x.run t).1).run (x.run t).2 := rfl

/-- A run over a tree that hands the tree back as it is. -/
def ReadsOnly (x : TreeM α) : Prop := ∀ t, (x.run t).2 = t

theorem ReadsOnly.run_eq {x : TreeM α} (hx : ReadsOnly x) (t : Tree) : x.run t = ((x.run t).1, t) :=
  Prod.ext rfl (hx t)

theorem ReadsOnly.pure (a : α) : ReadsOnly (pure a : TreeM α) := fun _ => rfl

/-- **Reading only is closed under sequencing.** -/
theorem ReadsOnly.bind {x : TreeM α} {f : α → TreeM β} (hx : ReadsOnly x)
    (hf : ∀ a, ReadsOnly (f a)) : ReadsOnly (x >>= f) := by
  intro t
  rw [TreeM.run_bind, hx t, hf]

theorem read_readsOnly (p : String) : ReadsOnly (FileSystem.read p : TreeM _) := fun _ => rfl

theorem readText_readsOnly (p : String) : ReadsOnly (readText p : TreeM _) :=
  ReadsOnly.bind (read_readsOnly p) fun r => by
    cases r <;> exact ReadsOnly.pure _

theorem loadDocuments_readsOnly (p : String) : ReadsOnly (loadDocuments p : TreeM _) :=
  ReadsOnly.bind (readText_readsOnly p) fun r => by
    rcases r with _ | text
    · exact ReadsOnly.pure _
    · dsimp only
      cases Document.parseAll text <;> exact ReadsOnly.pure _

/-- Runs that only read, one per item, give what each gives alone. -/
theorem mapM_run {f : α → TreeM β} (hf : ∀ a, ReadsOnly (f a)) (t : Tree) :
    ∀ l : List α, (l.mapM f).run t = (l.map fun a => ((f a).run t).1, t)
  | [] => rfl
  | a :: l => by
    rw [List.mapM_cons, TreeM.run_bind, (hf a).run_eq, TreeM.run_bind, mapM_run hf t l]
    rfl

end DocBlocks.Files

namespace DocBlocks.Command

open Files

/-! ### One file -/

theorem checkFile_readsOnly (strict : Bool) (p : String) : ReadsOnly (checkFile strict p : TreeM _) :=
  ReadsOnly.bind (loadDocuments_readsOnly p) fun r => by
    cases r <;> exact ReadsOnly.pure _

/-- A file that loads is checked as its documents. -/
theorem checkFile_of_ok {strict : Bool} {p : String} {t : Tree} {docs : List Document}
    (h : ((loadDocuments p : TreeM _).run t).1 = .ok docs) :
    ((checkFile strict p : TreeM _).run t).1 = FileCheck.ofDocuments strict p docs := by
  unfold checkFile
  rw [TreeM.run_bind, h]
  rfl

/-- A file that does not load fails with that failure as its one error. -/
theorem checkFile_of_error {strict : Bool} {p : String} {t : Tree} {trouble : Trouble}
    (h : ((loadDocuments p : TreeM _).run t).1 = .error trouble) :
    ((checkFile strict p : TreeM _).run t).1 =
      ({ file := p, errors := [trouble.fullText] }, [⟨.error, trouble.fullText⟩]) := by
  unfold checkFile
  rw [TreeM.run_bind, h]
  rfl

/-- The messages of one severity are none exactly when no finding has it. -/
theorem messagesOf_eq_nil_iff (s : Severity) (findings : List Finding) :
    messagesOf s findings = [] ↔ ∀ f ∈ findings, f.severity ≠ s := by
  simp [messagesOf, List.filter_eq_nil_iff]

/-- Counting entries document by document counts them all. -/
theorem foldl_size (docs : List Document) (n : Nat) :
    docs.foldl (fun n d => n + d.size) n = n + (docs.flatMap (·.entries)).length := by
  induction docs generalizing n with
  | nil => rfl
  | cons d docs ih =>
    rw [List.foldl_cons, ih, List.flatMap_cons, List.length_append, Document.size, Nat.add_assoc]

/-- The findings of checking documents: those of each entry, in turn. -/
theorem Document.checkAll_findings (docs : List Document) :
    (Document.checkAll docs).verdict.findings =
      docs.flatMap fun d => d.entries.flatMap fun e => e.check.verdict.findings := by
  rw [Validator.verdict_findings, Document.checkAll_run, List.nil_append]
  simp only [Document.check_findings]

/-- Every entry of the documents was located, with a docblock that is not
empty and whose directive reads. -/
def AllDocumented (docs : List Document) : Prop :=
  ∀ d ∈ docs, ∀ e ∈ d.entries, ∃ docblock, e.docblock = some docblock ∧ docblock ≠ [] ∧ e.choiceError? = none

/-- No docblock line of the documents is longer than the wrap length. -/
def AllWrapped (docs : List Document) : Prop :=
  ∀ d ∈ docs, ∀ e ∈ d.entries, ∀ docblock, e.docblock = some docblock → ∀ l ∈ docblock, l.length ≤ wrapLength

theorem checkAll_passed_iff (docs : List Document) :
    (Document.checkAll docs).verdict.passed = true ↔ AllDocumented docs := by
  simp [Document.checkAll_passed, AllDocumented, Entry.check_passed_iff]

/-- No warning is reported exactly when no docblock line is too long. -/
theorem warnings_eq_nil_iff (docs : List Document) :
    messagesOf .warn (Document.checkAll docs).verdict.findings = [] ↔ AllWrapped docs := by
  rw [messagesOf_eq_nil_iff, Document.checkAll_findings, AllWrapped]
  constructor
  · intro h d hd e he docblock hdb l hl
    refine Nat.le_of_not_lt fun hlong => ?_
    obtain ⟨f, hf, hsev⟩ := (Entry.check_warn_iff e).mpr ⟨docblock, hdb, l, hl, hlong⟩
    exact h f (List.mem_flatMap.mpr ⟨d, hd, List.mem_flatMap.mpr ⟨e, he, hf⟩⟩) hsev
  · intro h f hf hsev
    obtain ⟨d, hd, hf⟩ := List.mem_flatMap.mp hf
    obtain ⟨e, he, hf⟩ := List.mem_flatMap.mp hf
    obtain ⟨docblock, hdb, l, hl, hlong⟩ := (Entry.check_warn_iff e).mp ⟨f, hf, hsev⟩
    exact absurd (h d hd e he docblock hdb l hl) (Nat.not_le_of_lt hlong)

/-- No error is reported exactly when every located key has a docblock that is
not empty and whose directive reads. -/
theorem errors_eq_nil_iff (docs : List Document) :
    messagesOf .error (Document.checkAll docs).verdict.findings = [] ↔
      ∀ d ∈ docs, ∀ e ∈ d.entries, ∀ docblock, e.docblock = some docblock →
        docblock ≠ [] ∧ e.choiceError? = none := by
  rw [messagesOf_eq_nil_iff, Document.checkAll_findings]
  constructor
  · intro h d hd e he docblock hdb
    refine ⟨fun hnil => ?_, Option.eq_none_iff_forall_ne_some.mpr fun err herr => ?_⟩
    · obtain ⟨f, hf, hsev⟩ := (Entry.check_error_iff e).mpr ⟨docblock, hdb, .inl hnil⟩
      exact h f (List.mem_flatMap.mpr ⟨d, hd, List.mem_flatMap.mpr ⟨e, he, hf⟩⟩) hsev
    · obtain ⟨f, hf, hsev⟩ := (Entry.check_error_iff e).mpr ⟨docblock, hdb, .inr (by simp [herr])⟩
      exact h f (List.mem_flatMap.mpr ⟨d, hd, List.mem_flatMap.mpr ⟨e, he, hf⟩⟩) hsev
  · intro h f hf hsev
    obtain ⟨d, hd, hf⟩ := List.mem_flatMap.mp hf
    obtain ⟨e, he, hf⟩ := List.mem_flatMap.mp hf
    obtain ⟨docblock, hdb, hbad⟩ := (Entry.check_error_iff e).mp ⟨f, hf, hsev⟩
    obtain ⟨hne, hnone⟩ := h d hd e he docblock hdb
    rcases hbad with hnil | hsome
    · exact hne hnil
    · simp [hnone] at hsome

/-- Every entry with a docblock is documented when no error is reported, so
the entries that fail are those never located. -/
theorem allDocumented_iff_of_no_error {docs : List Document}
    (h : messagesOf .error (Document.checkAll docs).verdict.findings = []) :
    AllDocumented docs ↔ ∀ d ∈ docs, ∀ e ∈ d.entries, e.docblock ≠ none := by
  have hlocated := (errors_eq_nil_iff docs).mp h
  constructor
  · intro hall d hd e he hnone
    obtain ⟨docblock, hdb, -⟩ := hall d hd e he
    rw [hnone] at hdb
    cases hdb
  · intro hsome d hd e he
    obtain ⟨docblock, hdb⟩ := Option.ne_none_iff_exists'.mp (hsome d hd e he)
    exact ⟨docblock, hdb, hlocated d hd e he docblock hdb⟩

/-! ### The outcome of documents that loaded -/

section Loaded

variable (strict : Bool) (p : String) (docs : List Document)

theorem ofDocuments_valid_iff :
    (FileCheck.ofDocuments strict p docs).1.valid = true ↔
      AllDocumented docs ∧ (strict = true → AllWrapped docs) := by
  rw [← checkAll_passed_iff, ← warnings_eq_nil_iff]
  simp only [FileCheck.ofDocuments, Bool.and_eq_true, Bool.not_eq_true', Bool.and_eq_false_iff,
    Bool.not_eq_false', List.isEmpty_iff]
  cases strict <;> simp

theorem ofDocuments_findings :
    (FileCheck.ofDocuments strict p docs).2 =
      docs.flatMap fun d => d.entries.flatMap fun e => e.check.verdict.findings :=
  Document.checkAll_findings docs

theorem ofDocuments_mappings :
    (FileCheck.ofDocuments strict p docs).1.mappings = (docs.flatMap (·.entries)).length := by
  rw [← Nat.zero_add (docs.flatMap (·.entries)).length, ← foldl_size]
  rfl

/-- **A file that loaded fails without an error** exactly when no error is
reported and some key was never located, or strict mode saw a warning. -/
theorem ofDocuments_silent_iff :
    (FileCheck.ofDocuments strict p docs).1.valid = false ∧ (FileCheck.ofDocuments strict p docs).1.errors = [] ↔
      (∀ f ∈ (FileCheck.ofDocuments strict p docs).2, f.severity ≠ .error) ∧
        ((∃ d ∈ docs, ∃ e ∈ d.entries, e.docblock = none) ∨
          (strict = true ∧ (FileCheck.ofDocuments strict p docs).1.warnings ≠ [])) := by
  have herrors : (FileCheck.ofDocuments strict p docs).1.errors = [] ↔
      ∀ f ∈ (FileCheck.ofDocuments strict p docs).2, f.severity ≠ .error :=
    messagesOf_eq_nil_iff _ _
  rw [and_comm, ← herrors, and_congr_right_iff]
  intro hnoerr
  have hlocated := allDocumented_iff_of_no_error hnoerr
  -- with no error, a failing entry is one never located
  have hvalid : (FileCheck.ofDocuments strict p docs).1.valid = false ↔
      ¬ AllDocumented docs ∨ (strict = true ∧ (FileCheck.ofDocuments strict p docs).1.warnings ≠ []) := by
    rw [← Bool.not_eq_true, ofDocuments_valid_iff, ← warnings_eq_nil_iff]
    cases strict
    · simp
    · simpa [FileCheck.ofDocuments] using @Decidable.imp_iff_not_or _ _ (Classical.propDecidable _)
  rw [hvalid, hlocated]
  simp only [ne_eq, Classical.not_forall, Classical.not_not, exists_prop]

end Loaded

/-! ### Many files -/

/-- Validating files checks each of them on the same tree, shows the outcome
of each, and fails with the count of the files that failed. -/
theorem validateFiles_run (files : List String) (format : Format) (strict : Bool) (t : Tree) :
    (validateFiles files format strict : TreeM _).run t =
      ((validationText format (files.map fun p => ((checkFile strict p : TreeM _).run t).1),
        if ((files.map fun p => ((checkFile strict p : TreeM _).run t).1).filter (!·.1.valid)).length == 0 then .ok ()
        else .error (Trouble.ofMessage ("Validation failed for "
          ++ toString ((files.map fun p => ((checkFile strict p : TreeM _).run t).1).filter (!·.1.valid)).length
          ++ " file(s)"))), t) := by
  unfold validateFiles
  rw [TreeM.run_bind, mapM_run (checkFile_readsOnly strict) t]
  rfl

/-- No file failed exactly when every file passed. -/
theorem noneFailed_iff (checks : List (FileCheck × List Finding)) :
    ((checks.filter (!·.1.valid)).length == 0) = true ↔ ∀ c ∈ checks, c.1.valid = true := by
  simp [List.filter_eq_nil_iff]

/-- **The verdict on a file.** For every tree and path, checking the file
leaves the tree as it is and yields an outcome for that path that passes
exactly when the file loads, every entry was located with a docblock that is
not empty and whose directive reads, and, in strict mode, no docblock line is
longer than the wrap length. Its errors and warnings are the messages of the
findings of each severity, in order. When the file loads, the findings are
those of each entry in turn, and the outcome counts its documents and entries;
when it does not, the outcome fails with no documents, entries or warnings,
and the failure is its one error and its one finding. So a file fails with no
error exactly when it loads, no finding is an error, and some key was never
located or strict mode saw a warning. Validating files leaves the tree as it
is, shows the outcome of every file, and fails exactly when some file does. -/
theorem checkFile_verdict (strict : Bool) (t : Tree) :
    (∀ p : String,
      let load : Except Trouble (List Document) := ((loadDocuments p : TreeM _).run t).1
      let check := (checkFile strict p : TreeM _).run t
      check.2 = t ∧ check.1.1.file = p ∧
      (check.1.1.valid = true ↔
        ∃ docs, load = .ok docs ∧ AllDocumented docs ∧ (strict = true → AllWrapped docs)) ∧
      check.1.1.errors = messagesOf .error check.1.2 ∧ check.1.1.warnings = messagesOf .warn check.1.2 ∧
      (∀ docs, load = .ok docs →
        check.1.2 = docs.flatMap (fun d => d.entries.flatMap fun e => e.check.verdict.findings) ∧
        check.1.1.documents = docs.length ∧ check.1.1.mappings = (docs.flatMap (·.entries)).length) ∧
      (∀ trouble, load = .error trouble →
        check.1.1.valid = false ∧ check.1.1.documents = 0 ∧ check.1.1.mappings = 0 ∧
        check.1.1.warnings = [] ∧ check.1.1.errors = [trouble.fullText] ∧
        check.1.2 = [⟨.error, trouble.fullText⟩]) ∧
      (check.1.1.valid = false ∧ check.1.1.errors = [] ↔
        ∃ docs, load = .ok docs ∧ (∀ f ∈ check.1.2, f.severity ≠ .error) ∧
          ((∃ d ∈ docs, ∃ e ∈ d.entries, e.docblock = none) ∨
            (strict = true ∧ check.1.1.warnings ≠ [])))) ∧
    ∀ (files : List String) (format : Format),
      let checks : List (FileCheck × List Finding) := files.map fun p => ((checkFile strict p : TreeM _).run t).1
      let run := (validateFiles files format strict : TreeM _).run t
      run.2 = t ∧ run.1.1 = validationText format checks ∧
        (run.1.2 = .ok () ↔ ∀ c ∈ checks, c.1.valid = true) := by
  refine ⟨fun p => ?_, fun files format => ?_⟩
  · rw [(checkFile_readsOnly strict p).run_eq]
    refine ⟨rfl, ?_⟩
    cases hload : ((loadDocuments p : TreeM _).run t).1 with
    | ok docs =>
      rw [checkFile_of_ok hload]
      refine ⟨rfl, ?_, rfl, rfl, ?_, ?_, ?_⟩
      · rw [ofDocuments_valid_iff]
        simp only [Except.ok.injEq, exists_eq_left']
      · intro docs' hdocs
        obtain rfl := Except.ok.inj hdocs
        exact ⟨ofDocuments_findings strict p docs, rfl, ofDocuments_mappings strict p docs⟩
      · intro trouble htrouble
        cases htrouble
      · rw [ofDocuments_silent_iff]
        simp only [Except.ok.injEq, exists_eq_left']
    | error trouble =>
      rw [checkFile_of_error hload]
      refine ⟨rfl, ?_, rfl, rfl, ?_, ?_, ?_⟩
      · simp
      · intro docs hdocs
        cases hdocs
      · intro trouble' htrouble
        obtain rfl := Except.error.inj htrouble
        exact ⟨rfl, rfl, rfl, rfl, rfl, rfl⟩
      · simp
  · rw [validateFiles_run]
    refine ⟨rfl, rfl, Iff.trans ?_ (noneFailed_iff _)⟩
    -- the command fails exactly when the count of failed files is not zero
    split
    · next hzero => exact iff_of_true rfl hzero
    · next hzero => exact iff_of_false (fun h => by cases h) hzero

end DocBlocks.Command

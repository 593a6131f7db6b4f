import DocBlocks.Document

/-!
# Checking docblocks

Every entry is checked for:

* **presence**: an entry whose key was located but has no comment above it is
  an error; an entry whose key was never located fails without a message;
* **choices**: a `Choose` directive that cannot be read is an error;
* **wrap length**: each docblock line longer than 80 characters is a warning,
  which does not fail the entry.

A check hands its findings to a sink as they arise and yields whether it
passed. Checks of documents and of lists of documents check every entry, also
after a failure, so that all findings are reported.
-/

namespace DocBlocks

open DocBlocks.Choice

/-- How serious a finding is. -/
inductive Severity where
  /-- the entry fails -/
  | error
  /-- a convention is broken; the entry still passes -/
  | warn
  deriving Inhabited, Repr, DecidableEq

/-- The severity as written before a finding's message. -/
def Severity.label : Severity → String
  | .error => "ERROR"
  | .warn => "WARN"

/-- A finding of a check. -/
structure Finding where
  /-- how serious it is -/
  severity : Severity
  /-- what it says -/
  message : String
  deriving Inhabited, Repr, DecidableEq

/-- The finding as printed: `SEVERITY - message`. -/
def Finding.line (f : Finding) : String := f.severity.label ++ " - " ++ f.message

/-- Docblock lines may hold this many characters without a warning. -/
def wrapLength : Nat := 80

/-- A check as the validator runs it: it reports findings to the validator's
sink, which holds what it received so far, in order, and yields whether it
passed. -/
abbrev Validator := StateM (List Finding)

/-- What a check comes to: whether it passed, and its findings in order. -/
structure Verdict where
  /-- whether the check passed -/
  passed : Bool
  /-- the findings, in order -/
  findings : List Finding
  deriving Inhabited, Repr

/-- The verdict of a check run on a sink that has received nothing yet. -/
def Validator.verdict (c : Validator Bool) : Verdict :=
  ⟨(c.run []).1, (c.run []).2⟩

/-- Hands one finding to the sink. -/
def report (f : Finding) : Validator Unit :=
  modify (· ++ [f])

/-- Warns when docblock line `index` is longer than the wrap length. -/
def warnIfLong (key line : String) (index : Nat) : Validator Unit :=
  if line.length > wrapLength then
    report ⟨.warn, "Line " ++ toString index ++ " of YAMLDoc block for '" ++ key
      ++ "' exceeds recommended wrap length (" ++ toString wrapLength ++ " characters)"⟩
  else pure ()

/-- Warns of each docblock line longer than the wrap length, numbering lines
from `index`. -/
def warnLongLines (key : String) : List String → Nat → Validator Unit
  | [], _ => pure ()
  | l :: ls, index => do
    warnIfLong key l index
    warnLongLines key ls (index + 1)

/-- Checks that a docblock is not empty, with an error when it is. -/
def checkPresent (key : String) (docblock : List String) : Validator Bool :=
  if docblock.isEmpty then do
    report ⟨.error, "Missing YAMLDoc block for '" ++ key ++ "'"⟩
    pure false
  else pure true

/-- Checks that a docblock's directive could be read, with an error when it
could not. -/
def checkReadable (key : String) : Option ChoiceError → Validator Bool
  | some err => do
    report ⟨.error, "Invalid choice section on line " ++ toString err.line
      ++ " of YAMLDoc block for '" ++ key ++ "': " ++ err.reason⟩
    pure false
  | none => pure true

/-- The check of an entry's docblock: an entry never located fails without a
finding; otherwise an empty docblock and an unreadable directive are each an
error, and every long line a warning. -/
def Entry.checkDocblock (e : Entry) : Validator Bool :=
  match e.docblock with
  | none => pure false
  | some docblock => do
    let present ← checkPresent e.keyText docblock
    let readable ← checkReadable e.keyText e.choiceError?
    warnLongLines e.keyText docblock 1
    pure (present && readable)

/-- The check of an entry's value against its docblock, which every value
passes and which reports nothing. -/
def Entry.checkValue (_e : Entry) : Bool := true

/-- The check of an entry: its docblock, then its value. -/
def Entry.check (e : Entry) : Validator Bool := do
  let docblockValid ← e.checkDocblock
  let valueValid := e.checkValue
  pure (docblockValid && valueValid)

/-- How many entries pass their checks. Like a filter followed by a count, it
checks every entry, in order. -/
def countPassing : List Entry → Validator Nat
  | [] => pure 0
  | e :: es => do
    let passed ← e.check
    let n ← countPassing es
    pure (if passed then n + 1 else n)

/-- The check of a document: it passes when the count of its entries that
pass is its size. -/
def Document.check (d : Document) : Validator Bool := do
  let valid ← countPassing d.entries
  pure (valid == d.size)

/-- The check of every document, as a fold that checks the document before it
looks at what the documents before it came to. -/
def Document.checkAll (ds : List Document) : Validator Bool :=
  ds.foldlM (fun allValid d => do
    let valid ← d.check
    pure (valid && allValid)) true

end DocBlocks

import DocBlocks.Files.Install
import DocBlocks.Text.Json
import DocBlocks.Command.Parse

/-!
# `yamldoc validate`

Each file is loaded and its mappings checked, and the outcome of a file counts
its documents and mappings and lists the messages of its errors and warnings.
A file that cannot be read or parsed fails with that error as its one finding.
With `strict`, a warning fails a file too.

As text, a file's findings are shown one a line before a summary line marked
`✓` or `✗`; as JSON, all outcomes come in one report at the end. The command
fails when any file does.
-/

namespace DocBlocks.Command

open Files

/-- The outcome of checking one file. -/
structure FileCheck where
  /-- the path as given -/
  file : String
  /-- whether the file passed -/
  valid : Bool := false
  /-- the number of documents read -/
  documents : Nat := 0
  /-- the number of top-level mappings over all documents -/
  mappings : Nat := 0
  /-- the messages of the errors, the failure to load included -/
  errors : List String := []
  /-- the messages of the warnings -/
  warnings : List String := []
  deriving Inhabited, Repr

namespace FileCheck

/-- The outcome as a JSON object. -/
def json (f : FileCheck) : Json :=
  .object [("file", .text f.file), ("valid", .bool f.valid), ("documents", .count f.documents),
    ("mappings", .count f.mappings), ("errors", .array (f.errors.map .text)),
    ("warnings", .array (f.warnings.map .text))]

/-- A noun, with an `s` unless there is one. -/
def counted (n : Nat) (noun : String) : String :=
  toString n ++ " " ++ (if n == 1 then noun else noun ++ "s")

/-- The summary line of a file. -/
def summary (f : FileCheck) : String :=
  (if f.valid then "✓ " else "✗ ") ++ f.file ++ " (" ++ counted f.documents "document" ++ ", "
    ++ counted f.mappings "mapping" ++ ")"

end FileCheck

/-- The messages of the findings of one severity. -/
def messagesOf (s : Severity) (findings : List Finding) : List String :=
  (findings.filter (·.severity == s)).map (·.message)

/-- The outcome of checking documents loaded from a file. -/
def FileCheck.ofDocuments (strict : Bool) (p : String) (docs : List Document) : FileCheck × List Finding :=
  let verdict := (Document.checkAll docs).verdict
  let warnings := messagesOf .warn verdict.findings
  ({ file := p, valid := verdict.passed && !(strict && !warnings.isEmpty), documents := docs.length,
     mappings := docs.foldl (fun n d => n + d.size) 0, errors := messagesOf .error verdict.findings, warnings },
   verdict.findings)

variable {m : Type → Type} [Monad m] [FileSystem m]

/-- Loads and checks one file. -/
def checkFile (strict : Bool) (p : String) : m (FileCheck × List Finding) := do
  match ← loadDocuments p with
  | .ok docs => return FileCheck.ofDocuments strict p docs
  | .error t =>
    let message := t.fullText
    return ({ file := p, errors := [message] }, [⟨.error, message⟩])

/-- What validating shows: each file's findings and summary as text, or one
JSON report. -/
def validationText (format : Format) (checks : List (FileCheck × List Finding)) : String :=
  match format with
  | .text => String.join (checks.map fun (c, findings) =>
      String.join (findings.map (·.line ++ "\n")) ++ c.summary ++ "\n")
  | .json =>
    (Json.object [("valid", .bool (checks.all (·.1.valid))),
                  ("files", .array (checks.map (·.1.json)))]).pretty ++ "\n"

/-- Validates files: what it shows, and whether it failed. -/
def validateFiles (files : List String) (format : Format) (strict : Bool) :
    m (String × Except Trouble Unit) := do
  let checks ← files.mapM (checkFile strict)
  let failed := (checks.filter (!·.1.valid)).length
  let result := if failed == 0 then .ok ()
    else .error (Trouble.ofMessage ("Validation failed for " ++ toString failed ++ " file(s)"))
  return (validationText format checks, result)

end DocBlocks.Command

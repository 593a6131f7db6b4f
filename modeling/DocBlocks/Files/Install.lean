import DocBlocks.Parse
import DocBlocks.Check
import DocBlocks.Files.Name
import DocBlocks.Files.FileSystem
import DocBlocks.Failure.Report

/-!
# Templates and deployments on disk

Installing a template rebuilds its deployment from what the template parses
to, once every mapping of it passes the checks:

1. a path that is not a file is `missing`, a file not named like a template is
   `notATemplate`;
2. the template is read and parsed, and a failure there is an error;
3. a template whose checks fail is `invalid`, and nothing is written;
4. otherwise its documents are rendered and written to the deployment, which
   is then `installed`.

The deployment is written whole or not at all: the text goes to a file beside
it with the extension `tmp`, which is then moved onto the deployment. The
directories above the deployment are made first when they are missing.

Errors carry the notes the program adds on the way up: which file was read or
parsed, which file was being made, and which template was being installed.
-/

namespace DocBlocks.Files

open FileSystem

variable {m : Type → Type} [Monad m] [FileSystem m]

/-- The text of a file, or why it cannot be read. -/
def readText (p : String) : m (Except Trouble String) := do
  match ← read p with
  | .ok text => return .ok text
  | .error e => return .error ((Trouble.ofIo e).withContext ("Failed to read file: " ++ p))

/-- The documents of a file. -/
def loadDocuments (p : String) : m (Except Trouble (List Document)) := do
  match ← readText p with
  | .error t => return .error t
  | .ok text =>
    match Document.parseAll text with
    | .ok docs => return .ok docs
    | .error f => return .error ((Trouble.ofFailure f).withContext ("Failed to parse YAMLDoc file: " ++ p))

/-- Makes a directory and those above it, unless it stands already. Something
other than a directory at the path is an error. -/
def ensureDir (p : String) : m (Except Trouble Unit) := do
  if !(← pathExists p) then
    match ← makeDirs p with
    | .ok () => return .ok ()
    | .error e =>
      return .error ((Trouble.ofIo e).withContext
        ("Failed to create directory: " ++ p ++ "\n\nCheck directory permissions and path validity"))
  else if !(← isDir p) then
    return .error (Trouble.ofMessage ("Path exists but is not a directory: " ++ p))
  else return .ok ()

/-- Makes the directory a path lies in, when the path names one. -/
def ensureParentDir (p : String) : m (Except Trouble Unit) :=
  match Path.parent? p with
  | some q => if q.isEmpty then return .ok () else ensureDir q
  | none => return .ok ()

/-- Writes a file whole: a file beside it with the extension `tmp` is created
(or emptied), takes the text and is synced to the disk, and then takes the
file's place. -/
def writeWhole (p text : String) : m (Except Trouble Unit) := do
  match ← ensureParentDir p with
  | .error t => return .error t
  | .ok () =>
    let temp := Path.withExtension p "tmp"
    match ← write temp "" with
    | .error e =>
      return .error ((Trouble.ofIo e).withContext
        ("Failed to create temp file: " ++ temp ++ "\n\nCheck file permissions and that directory exists"))
    | .ok () =>
      match ← append temp text with
      | .error e => return .error ((Trouble.ofIo e).withContext ("Failed to write to temp file: " ++ temp))
      | .ok () =>
        match ← sync temp with
        | .error e => return .error ((Trouble.ofIo e).withContext "Failed to sync file to disk")
        | .ok () =>
          match ← rename temp p with
          | .error e => return .error ((Trouble.ofIo e).withContext ("Failed to rename temp file to: " ++ p))
          | .ok () => return .ok ()

/-- What installing a template did. -/
inductive InstallOutcome where
  /-- the deployment was written at this path -/
  | installed (target : String)
  /-- the template is not a file -/
  | missing
  /-- the file is not named like a template -/
  | notATemplate
  /-- the template failed its checks and nothing was written -/
  | invalid
  deriving Inhabited, Repr, DecidableEq

/-- Whether the deployment was written. -/
def InstallOutcome.isSuccess : InstallOutcome → Bool
  | .installed _ => true
  | _ => false

/-- The findings of the checks of an install, and what the install came to. -/
structure Installation where
  /-- the findings of the checks, in order -/
  findings : List Finding := []
  /-- the outcome, or the error that stopped the install -/
  result : Except Trouble InstallOutcome
  deriving Inhabited

/-- Whether an install wrote the deployment. -/
def Installation.succeeded (i : Installation) : Bool :=
  match i.result with
  | .ok outcome => outcome.isSuccess
  | .error _ => false

/-- Renders a template's documents and writes them to the deployment. -/
def installChecked (template target : String) (docs : List Document) :
    m (Except Trouble InstallOutcome) := do
  match Document.renderAll docs with
  | .error f => return .error (Trouble.ofFailure f)
  | .ok yaml =>
    match ← writeWhole target yaml with
    | .error t => return .error (t.withContext ("Failed to install " ++ template ++ " to " ++ target))
    | .ok () => return .ok (.installed target)

/-- Installs a template as its deployment. -/
def install (template : String) : m Installation := do
  if !(← isFile template) then return { result := .ok .missing }
  if !isTemplate template then return { result := .ok .notATemplate }
  match associated template with
  | .error f => return { result := .error (Trouble.ofFailure f) }
  | .ok target =>
    match ← loadDocuments template with
    | .error t => return { result := .error t }
    | .ok docs =>
      let verdict := (Document.checkAll docs).verdict
      if !verdict.passed then return { findings := verdict.findings, result := .ok .invalid }
      return { findings := verdict.findings, result := ← installChecked template target docs }

/-- The file paired with a path, when it stands. -/
def findAssociated (p : String) : m (Except Failure (Option String)) := do
  match associated p with
  | .error f => return .error f
  | .ok q => return .ok (if ← pathExists q then some q else none)

/-- Whether a path is a template whose deployment stands. -/
def isInstalled (p : String) : m Bool := do
  if !isTemplate p then return false
  match ← findAssociated p with
  | .ok (some _) => return true
  | _ => return false

/-- The files beneath a directory whose names `classify` accepts, in the order
of their paths, each as the directory joined with its components. -/
def findClassified (dir : String) (classify : String → Bool) : m (Except Trouble (List String)) := do
  if !(← isDir dir) then
    return .error ((Trouble.ofFailure (.fileNotFound dir)).withContext
      ("Cannot search for YAML files in " ++ dir))
  let found := (← filesBeneath dir).filter fun cs =>
    match cs.getLast? with
    | some name => classify name
    | none => false
  return .ok ((found.mergeSort Path.precedes).map (Path.joinAll dir))

/-- The templates beneath a directory. -/
def findTemplates (dir : String) : m (Except Trouble (List String)) := findClassified dir isTemplate

/-- The deployments beneath a directory. -/
def findDeployments (dir : String) : m (Except Trouble (List String)) :=
  findClassified dir isDeployment

end DocBlocks.Files

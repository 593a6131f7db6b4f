import DocBlocks.Command.Validate
import DocBlocks.Command.Install
import DocBlocks.Command.List

/-!
# Running the program

A run reads the command line and carries out what it asks. It ends in one of
three ways:

* the command line stops it: help and the version are output with status `0`,
  a mistake in the line goes to the error output with status `2`;
* the command succeeds: its output, status `0`;
* the command fails: its output, then on the error output `error:` with the
  report of what went wrong (and `details:` and `suggestion:` where the report
  has them), status `1`.
-/

namespace DocBlocks.Command

open Files

/-- What a run shows and how it ends. -/
structure Outcome where
  /-- the exit status -/
  status : Nat
  /-- what goes to standard output -/
  stdout : String
  /-- what goes to the error output -/
  stderr : String
  deriving Inhabited, Repr

/-- The error output for an error that ends a command. -/
def errorText (t : Trouble) : String :=
  String.join ((Report.ofTrouble t).errorLines.map (· ++ "\n"))

variable {m : Type → Type} [Monad m] [FileSystem m]

/-- Carries out a request: what it shows, and whether it failed. -/
def perform : Request → m (String × Except Trouble Unit)
  | .validate files format strict => validateFiles files format strict
  | .install templates dir => installTemplates templates dir
  | .list dir format => listDirectory dir format

/-- Runs the program on the words after its name. -/
def run (words : List String) : m Outcome := do
  match readCommandLine words with
  | .error h => return if h.shown then ⟨h.status, h.text, ""⟩ else ⟨h.status, "", h.text⟩
  | .ok invocation =>
    let (out, result) ← perform invocation.request
    match result with
    | .ok () => return ⟨0, out, ""⟩
    | .error t => return ⟨1, out, errorText t⟩

end DocBlocks.Command

import DocBlocks.Files.Name
import DocBlocks.Files.FileSystem
import DocBlocks.Failure.Report

/-!
# Sample files

Six sample files, each a name with its text, cover the cases the program
tells apart: a file with one documented key, a complete template with both
forms of `Choose`, a template with an undocumented key, one with a docblock
line over the wrap length, three documents in one file, and a `Choose` line
that is not a list.

A sample can be renamed, written into a directory, and asked where its
deployment would lie in a directory.
-/

namespace DocBlocks.Files

/-- A sample file: its name and its text. -/
structure Fixture where
  /-- the file name -/
  name : String
  /-- the text of the file -/
  content : String
  deriving Inhabited, Repr

namespace Fixture

/-- One key with a docblock of three lines. -/
def simple : Fixture :=
  ⟨"simple.yml",
   "---\n# The purpose of this fixture is to show the simplest possible YAMLDoc file:\n" ++
   "# one key, described in a\n# docblock directly above it.\n" ++
   "purpose: Simplest possible YAMLDoc example\n"⟩

/-- One document, every key documented, with both forms of `Choose`. -/
def basic : Fixture :=
  ⟨"basic_config.example.yml",
   "---\n# Name of the application, shown in the title bar\nappname: Hello World\n\n" ++
   "# Log levels to enable\n# Choose (1..2): [debug, info, warn]\nlevels:\n  - info\n\n" ++
   "# Deployment environment\n# Choose:\n# - development\n# - production\n" ++
   "environment: production\n"⟩

/-- A template with one undocumented key. -/
def missingDocblock : Fixture :=
  ⟨"missing_yamldoc.example.yml",
   "---\n# Name of the application\nappname: Hello World\n\nport: 8080\n"⟩

/-- A documented template whose docblock line is 81 characters long. -/
def longLine : Fixture :=
  ⟨"long_line.example.yml",
   "---\n# " ++ String.ofList (List.replicate 79 'x') ++ "\nappname: Hello World\n"⟩

/-- Three documents: the first without a marker, the second closed by `...`,
the third with a docblock line over the wrap length. -/
def multiDocument : Fixture :=
  ⟨"multi_document.example.yml",
   "# Name of the application\nappname: Hello World\n---\n# Port to listen on\n" ++
   "# Choose: [80, 8080]\nport: 8080\n...\n---\n" ++
   "# Hosts allowed to connect, one per line. This line is deliberately longer than eighty characters.\n" ++
   "allowed_hosts:\n  - localhost\n"⟩

/-- A `Choose` line that is not a list, then an undocumented key. -/
def malformedChoices : Fixture :=
  ⟨"malformed_choices.example.yml",
   "---\n# Port to listen on\n# Choose: any port above 1024\nport: 8080\n\nhost: localhost\n"⟩

/-- The same text under another name. -/
def named (f : Fixture) (name : String) : Fixture := { f with name }

/-- Where the sample's deployment lies in a directory: its name without the
first `.example`, beneath the directory. -/
def deploymentIn (f : Fixture) (dir : String) : String :=
  Path.join dir (String.ofList (replaceFirst ".example".toList [] f.name.toList))

variable {m : Type → Type} [Monad m] [FileSystem m]

/-- Writes the sample into a directory and gives its path. -/
def writeTo (f : Fixture) (dir : String) : m (Except Trouble String) := do
  let p := Path.join dir f.name
  match ← FileSystem.write p f.content with
  | .ok () => return .ok p
  | .error e => return .error ((Trouble.ofIo e).withContext ("Failed to write fixture " ++ p))

end Fixture

end DocBlocks.Files

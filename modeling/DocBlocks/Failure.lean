import DocBlocks.Yaml.Error

/-!
# Failures

A failure is a condition that stops an operation: a mapping built without a
key, a document whose root is not a mapping, a file name that is neither a
template nor a deployment, a missing file, a fault of the file system, YAML
that cannot be read or written, or any other reason given as text.

Failures of the file system and of YAML keep the fault below them, which a
report can look through.
-/

namespace DocBlocks

/-- What a fault of the file system is about. -/
inductive IoKind where
  | notFound
  | permissionDenied
  | isDirectory
  | notDirectory
  | other
  deriving Inhabited, Repr, DecidableEq

/-- A fault of the file system. -/
structure IoError where
  /-- its kind -/
  kind : IoKind
  /-- its message -/
  text : String
  deriving Inhabited, Repr, DecidableEq

namespace IoError

/-- The fault the system reports with its number. -/
def system (kind : IoKind) (description : String) (code : Nat) : IoError :=
  ⟨kind, description ++ " (os error " ++ toString code ++ ")"⟩

/-- No such file or directory. -/
def noEntry : IoError := system .notFound "No such file or directory" 2

/-- A path names a directory where a file is needed. -/
def isDirectory : IoError := system .isDirectory "Is a directory" 21

/-- A path goes through a file as if it were a directory. -/
def notDirectory : IoError := system .notDirectory "Not a directory" 20

/-- A path to be created names something already. -/
def alreadyExists : IoError := system .other "File exists" 17

/-- A directory to be replaced still holds entries. -/
def notEmpty : IoError := system .other "Directory not empty" 39

/-- An operation asked for something impossible, such as moving a directory
into itself. -/
def invalidArgument : IoError := system .other "Invalid argument" 22

/-- The fault the system reports by its number, worded as the system words it;
`fallback` words the numbers not known here. -/
def ofCode (code : Nat) (fallback : String) : IoError :=
  match code with
  | 2 => noEntry
  | 13 => system .permissionDenied "Permission denied" 13
  | 17 => alreadyExists
  | 20 => notDirectory
  | 21 => isDirectory
  | 22 => invalidArgument
  | 39 => notEmpty
  | _ => system .other fallback code

end IoError

/-- A condition that stops an operation. -/
inductive Failure where
  | missingKey
  | nonMappingRoot (document : Nat) (found : String)
  | invalidFilename (filename : String)
  | fileNotFound (path : String)
  | io (e : IoError)
  | yaml (e : Yaml.Error)
  | other (message : String)
  deriving Inhabited, Repr, DecidableEq

namespace Failure

/-- The message of a failure. -/
def message : Failure → String
  | missingKey => "YAMLDoc mapping requires a key"
  | nonMappingRoot document found =>
    "YAMLDoc document " ++ toString document ++ " root node is not a mapping (found " ++ found ++ ")"
  | invalidFilename filename => "'" ++ filename ++ "' is neither a YAMLDoc template nor a deployment"
  | fileNotFound path => "File not found: " ++ path
  | io e => "IO error: " ++ e.text
  | yaml e => "YAML error: " ++ e.message
  | other message => message

/-- The failure as its message alone, dropping the fault below it. -/
def detach (f : Failure) : Failure :=
  match f with
  | io _ | yaml _ => other f.message
  | _ => f

end Failure

end DocBlocks

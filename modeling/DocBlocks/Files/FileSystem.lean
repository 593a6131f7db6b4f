import DocBlocks.Failure
import DocBlocks.Files.Path

/-!
# The file system as the program uses it

`FileSystem m` gives, in a monad `m`, the few operations the program needs:
examining a path, reading and writing a file, adding text to a file and
flushing it to the disk, moving a file, making one directory and listing the
files beneath a directory. Paths are text, relative
to where the program runs.

On top of these stand the compound operations, each as the program performs
it:

* `makeDirs` makes a directory and any missing directories above it; it tries
  the directory first and climbs only when something above is missing, and a
  directory that already stands counts as made;
* `isFile`, `isDir` and `pathExists` answer `false` for a path that cannot be
  examined.
-/

namespace DocBlocks.Files

/-- What a path names. -/
inductive Kind where
  | file
  | directory
  /-- a device, a pipe, a socket: neither a file nor a directory -/
  | other
  deriving Inhabited, Repr, DecidableEq

/-- The operations of a file system, in a monad. -/
class FileSystem (m : Type → Type) where
  /-- what the path names, or `none` when it names nothing or cannot be examined -/
  kind? : String → m (Option Kind)
  /-- the text of a file -/
  read : String → m (Except IoError String)
  /-- creates a file, or empties an existing one, and writes the text to it -/
  write : String → String → m (Except IoError Unit)
  /-- writes the text at the end of a file that stands -/
  append : String → String → m (Except IoError Unit)
  /-- flushes what was written to a file to the disk -/
  sync : String → m (Except IoError Unit)
  /-- moves a file or directory, replacing what stands at the new path -/
  rename : String → String → m (Except IoError Unit)
  /-- makes one directory, whose parent must stand -/
  makeDir : String → m (Except IoError Unit)
  /-- the files beneath a directory, at any depth, each as the components
  below the directory, in no particular order -/
  filesBeneath : String → m (List (List String))

namespace FileSystem

variable {m : Type → Type} [Monad m] [FileSystem m]

/-- Whether the path names a file. -/
def isFile (p : String) : m Bool := return (← kind? p) == some .file

/-- Whether the path names a directory. -/
def isDir (p : String) : m Bool := return (← kind? p) == some .directory

/-- Whether the path names anything. -/
def pathExists (p : String) : m Bool := return (← kind? p).isSome

/-- Makes the directory unless it stands already. -/
def makeDirOrFind (p : String) : m (Except IoError Unit) := do
  match ← makeDir p with
  | .ok () => return .ok ()
  | .error e => if ← isDir p then return .ok () else return .error e

/-- Makes a directory and the missing directories above it. `fuel` bounds
the climb; the length of the path is always enough, since each parent is
shorter than its child. -/
def makeDirsWithin : Nat → String → m (Except IoError Unit)
  | 0, _ => return .error ⟨.other, "failed to create whole tree"⟩
  | fuel + 1, p => do
    if p.isEmpty then return .ok ()
    match ← makeDir p with
    | .ok () => return .ok ()
    | .error e =>
      if e.kind == .notFound then
        match Path.parent? p with
        | none => return .error ⟨.other, "failed to create whole tree"⟩
        | some q =>
          match ← makeDirsWithin fuel q with
          | .error e => return .error e
          | .ok () => makeDirOrFind p
      else if ← isDir p then return .ok ()
      else return .error e

/-- Makes a directory and the missing directories above it. -/
def makeDirs (p : String) : m (Except IoError Unit) := makeDirsWithin (p.length + 1) p

end FileSystem

end DocBlocks.Files

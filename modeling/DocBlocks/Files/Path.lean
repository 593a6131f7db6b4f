/-!
# Paths as text

A path is text whose parts are separated by `/`. The file system looks only at
its components: the parts that are neither empty nor `.`. The text itself is
what messages show, so the operations here keep it as written wherever they
can:

* `parent?` drops the last component and the separators and `.` parts before it;
* `fileName?` is the last component;
* `withExtension` puts a new extension in place of the last component's own;
* `join` puts a separator between a directory and a name unless the directory
  ends in one;
* `precedes` orders paths by their components.

A path that ends in a separator or a `.` part names a directory, whatever its
last component is.
-/

namespace DocBlocks.Files.Path

/-- The parts of a path between its separators, empty ones included. -/
def parts (p : String) : List String := (p.toList.splitOn '/').map String.ofList

/-- Whether a part of a path is a component: neither empty nor `.`. -/
def isComponent (part : String) : Bool := part != "" && part != "."

/-- The components of a path, in order. -/
def components (p : String) : List String := (parts p).filter isComponent

/-- Whether a path can name a directory only: it ends in a separator or in a
`.` part after a component. -/
def namesDirectory (p : String) : Bool :=
  match (parts p).getLast? with
  | some last => !isComponent last && (components p).length > 0
  | none => false

/-- Whether a path ends in a `.` part after a component. -/
def endsInDot (p : String) : Bool :=
  (parts p).getLast? == some "." && (components p).length > 0

/-- Reversed parts with leading empty and `.` parts removed, keeping the very
last one, which stands for the current directory or the root. -/
def trimReversed : List String → List String
  | [] => []
  | [x] => [x]
  | last :: before => if isComponent last then last :: before else trimReversed before

/-- Parts with trailing empty and `.` parts removed, keeping a leading `.`
that stands for the current directory. -/
def trimEnd (parts : List String) : List String := (trimReversed parts.reverse).reverse

/-- The directory a path lies in: the path without its last component, and
without the separators and `.` parts before that one. `none` for a path with no
component. -/
def parent? (p : String) : Option String :=
  let kept := trimEnd (parts p)
  match kept.reverse with
  | last :: before =>
    if isComponent last then some ("/".intercalate (trimEnd before.reverse)) else none
  | [] => none

/-- The last component of a path. -/
def fileName? (p : String) : Option String := (components p).getLast?

/-- The name without its extension: everything before the last `.`, unless
that `.` opens the name. -/
def stem (name : String) : String :=
  let cs := name.toList
  match (List.range cs.length).reverse.find? (fun i => cs.getD i ' ' == '.') with
  | some i => if i == 0 then name else String.ofList (cs.take i)
  | none => name

/-- The path with `ext` as the extension of its last component, replacing the
one it had; what follows the last component is dropped. A path without
components is kept as it is. -/
def withExtension (p : String) (ext : String) : String :=
  let kept := trimEnd (parts p)
  match kept.reverse with
  | last :: before =>
    if isComponent last then
      "/".intercalate ((last :: before).reverse.dropLast ++ [stem last ++ "." ++ ext])
    else p
  | [] => p

/-- A name put beneath a directory: a separator stands between them unless the
directory is empty or already ends in one. -/
def join (dir name : String) : String :=
  if name.startsWith "/" || dir.isEmpty then name
  else if dir.endsWith "/" then dir ++ name
  else dir ++ "/" ++ name

/-- A path followed by more components, each put beneath the one before. -/
def joinAll (dir : String) (names : List String) : String :=
  names.foldl join dir

/-- The order of paths by their components: the first differing component
decides, and a path comes before the paths beneath it. -/
def precedes : List String → List String → Bool
  | [], _ => true
  | _ :: _, [] => false
  | a :: as, b :: bs => if a == b then precedes as bs else decide (a < b)

end DocBlocks.Files.Path

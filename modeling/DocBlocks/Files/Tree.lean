import DocBlocks.Files.FileSystem

/-!
# A file system held in memory

A tree maps paths, as lists of components, to what they hold: a file with its
text, or a directory. The empty path is the directory the program runs in, and
every path above an entry is a directory of the tree.

The operations answer as the system does for the paths a tree can hold:

* a path goes through its components in order, and each one above the last
  must be a directory: a missing one fails with "No such file or directory",
  a file with "Not a directory";
* reading a directory fails with "Is a directory", as does writing to one;
* a path that ends in a separator names a directory only, so as a file it
  fails with "Not a directory";
* moving a file onto a directory fails with "Is a directory", and moving a
  file onto a file replaces it;
* making a directory where something stands fails with "File exists".

A tree leaves out what the runs it stands for never meet, and what is proved
of runs over trees holds for such file systems only:

* it has no links, so a path leads where its components say;
* `..` is a name like any other and does not lead to the directory above, and
  a path that starts with a separator is taken from the directory the program
  runs in;
* nothing is refused for want of permission;
* a file that stands always takes more text and is always flushed, so adding
  text to a file and syncing it never fail.

`Tree.listing` gives the whole tree in the order of its paths, which is how a
directory is shown after a run.
-/

namespace DocBlocks.Files

/-- What a path of a tree holds. -/
inductive Node where
  | file (text : String)
  | directory
  deriving Inhabited, Repr, DecidableEq

/-- A file system in memory: its paths and what each one holds. -/
structure Tree where
  /-- the paths and their entries, in no particular order -/
  entries : List (List String × Node) := []
  deriving Inhabited, Repr

namespace Tree

/-- What a path holds; the empty path is always a directory. -/
def get? (t : Tree) (cs : List String) : Option Node :=
  if cs.isEmpty then some .directory else (t.entries.find? (·.1 == cs)).map (·.2)

/-- The tree with `e` at `cs`, in place of what stood there. -/
def set (t : Tree) (cs : List String) (e : Node) : Tree :=
  ⟨(cs, e) :: t.entries.filter (·.1 != cs)⟩

/-- Checks that each component above the last is a directory, going from the
first. `above` is the part of the path already gone through. -/
def reachFrom (t : Tree) (above : List String) : List String → Except IoError Unit
  | [] | [_] => .ok ()
  | c :: rest =>
    match t.get? (above ++ [c]) with
    | some .directory => reachFrom t (above ++ [c]) rest
    | some (.file _) => .error IoError.notDirectory
    | none => .error IoError.noEntry

/-- Checks that each component above the last is a directory. -/
def reach (t : Tree) (cs : List String) : Except IoError Unit := reachFrom t [] cs

/-- What the path names, when it can be examined. -/
def kind? (t : Tree) (p : String) : Option Kind :=
  let cs := Path.components p
  if p.isEmpty then none
  else
    match t.reach cs, t.get? cs with
    | .ok (), some .directory => some .directory
    | .ok (), some (.file _) => if Path.namesDirectory p then none else some .file
    | _, _ => none

/-- The text of the file at a path. -/
def read (t : Tree) (p : String) : Except IoError String := do
  if p.isEmpty then throw IoError.noEntry
  let cs := Path.components p
  t.reach cs
  match t.get? cs with
  | some (.file text) => if Path.namesDirectory p then throw IoError.notDirectory else pure text
  | some .directory => throw IoError.isDirectory
  | none => throw IoError.noEntry

/-- The tree with a file at a path holding `text`, made or emptied first. -/
def write (t : Tree) (p text : String) : Except IoError Tree := do
  if p.isEmpty then throw IoError.noEntry
  let cs := Path.components p
  t.reach cs
  match t.get? cs with
  | some .directory => throw IoError.isDirectory
  | some (.file _) =>
    if Path.namesDirectory p then throw IoError.notDirectory else pure (t.set cs (.file text))
  | none =>
    if Path.endsInDot p then throw IoError.noEntry
    else if Path.namesDirectory p then throw IoError.isDirectory
    else pure (t.set cs (.file text))

/-- The tree with `text` added at the end of the file at a path. -/
def append (t : Tree) (p text : String) : Except IoError Tree := do
  let old ← t.read p
  t.write p (old ++ text)

/-- The tree with a new directory at a path. -/
def makeDir (t : Tree) (p : String) : Except IoError Tree := do
  if p.isEmpty then throw IoError.noEntry
  let cs := Path.components p
  t.reach cs
  match t.get? cs with
  | some _ => throw IoError.alreadyExists
  | none => pure (t.set cs .directory)

/-- Whether `cs` lies strictly beneath `dir`. -/
def beneath (dir cs : List String) : Bool := dir.isPrefixOf cs && dir.length < cs.length

/-- The entries strictly beneath a directory, each with its path below it. -/
def below (t : Tree) (dir : List String) : List (List String × Node) :=
  (t.entries.filter (beneath dir ·.1)).map fun (cs, e) => (cs.drop dir.length, e)

/-- The tree with the entry at `src`, and everything beneath it, moved to
`dst`; what stood at `dst` goes. -/
def move (t : Tree) (src dst : List String) : Tree :=
  let kept := t.entries.filter fun (cs, _) =>
    !(src.isPrefixOf cs) && !(dst.isPrefixOf cs)
  let moved := (t.entries.filter (src.isPrefixOf ·.1)).map fun (cs, e) => (dst ++ cs.drop src.length, e)
  ⟨moved ++ kept⟩

/-- The tree with what stands at `src` moved to `dst`. -/
def rename (t : Tree) (src dst : String) : Except IoError Tree := do
  if src.isEmpty || dst.isEmpty then throw IoError.noEntry
  let sc := Path.components src
  let dc := Path.components dst
  t.reach sc
  match t.get? sc with
  | none => throw IoError.noEntry
  | some (.file _) =>
    if Path.namesDirectory src then throw IoError.notDirectory
    t.reach dc
    if sc == dc then return t
    match t.get? dc with
    | some .directory => throw IoError.isDirectory
    | _ =>
      if Path.namesDirectory dst then throw IoError.notDirectory
      return t.move sc dc
  | some .directory =>
    t.reach dc
    if sc == dc then return t
    if sc.isPrefixOf dc then throw IoError.invalidArgument
    match t.get? dc with
    | some (.file _) => throw IoError.notDirectory
    | some .directory => if (t.below dc).isEmpty then return t.move sc dc else throw IoError.notEmpty
    | none => return t.move sc dc

/-- The files beneath a directory, each as its components below it. -/
def filesBeneath (t : Tree) (p : String) : List (List String) :=
  (t.below (Path.components p)).filterMap fun (cs, e) =>
    match e with
    | .file _ => some cs
    | .directory => none

/-- The tree with an entry at `cs` and directories above it where nothing
stood, as a directory is filled before a run. A directory is only put where
nothing stands. -/
def plant (t : Tree) (cs : List String) (content : Option String) : Tree :=
  let above := (List.range cs.length).map (cs.take ·) |>.filter (!·.isEmpty)
  let t := above.foldl (fun t d => if (t.get? d).isSome then t else t.set d .directory) t
  match content with
  | some text => t.set cs (.file text)
  | none => if (t.get? cs).isSome then t else t.set cs .directory

/-- A tree filled with files and directories, given by their paths. -/
def ofList (items : List (String × Option String)) : Tree :=
  items.foldl (fun t (p, content) => t.plant (Path.components p) content) {}

/-- Every path of the tree in order, directories shown with a trailing
separator and no text, files with their text. -/
def listing (t : Tree) : List (String × Option String) :=
  (t.entries.mergeSort fun a b => Path.precedes a.1 b.1).map fun (cs, e) =>
    match e with
    | .file text => ("/".intercalate cs, some text)
    | .directory => ("/".intercalate cs ++ "/", none)

end Tree

/-- The state of a run over a tree. -/
abbrev TreeM := StateM Tree

/-- Runs a change of the tree, keeping the old tree when it fails. -/
def TreeM.change (f : Tree → Except IoError Tree) : TreeM (Except IoError Unit) := do
  match f (← get) with
  | .ok t => set t; return .ok ()
  | .error e => return .error e

instance : FileSystem TreeM where
  kind? p := return (← get).kind? p
  read p := return (← get).read p
  write p text := TreeM.change (·.write p text)
  append p text := TreeM.change (·.append p text)
  sync _ := return .ok ()
  rename src dst := TreeM.change (·.rename src dst)
  makeDir p := TreeM.change (·.makeDir p)
  filesBeneath p := return (← get).filesBeneath p

end DocBlocks.Files

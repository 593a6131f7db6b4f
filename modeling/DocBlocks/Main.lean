import DocBlocks.Command.Run

/-!
# The `yamldoc` program

The program runs on the file system it is started in: paths are taken as
given, relative to the directory it runs in. Faults of the system keep the
system's own wording and number. The output of a command is written when the
command is done, and the program exits with the command's status.
-/

open DocBlocks DocBlocks.Files DocBlocks.Command

/-- The number a fault of the system carries, if any. -/
def osCode? : IO.Error → Option UInt32
  | .alreadyExists _ c _ | .otherError c _ | .resourceBusy c _ | .resourceVanished c _
  | .unsupportedOperation c _ | .hardwareFault c _ | .unsatisfiedConstraints c _
  | .illegalOperation c _ | .protocolError c _ | .timeExpired c _ | .interrupted _ c _
  | .noFileOrDirectory _ c _ | .invalidArgument _ c _ | .permissionDenied _ c _
  | .resourceExhausted _ c _ | .inappropriateType _ c _ | .noSuchThing _ c _ => some c
  | _ => none

/-- A fault of the system as the program reports it. -/
def systemFault (e : IO.Error) : IoError :=
  match osCode? e with
  | some c => IoError.ofCode c.toNat (toString e)
  | none => ⟨.other, toString e⟩

/-- Runs an action of the system, keeping its fault. -/
def attempt (act : IO α) : IO (Except IoError α) := do
  try return .ok (← act) catch e => return .error (systemFault e)

/-- The files beneath a directory, not following links, each as its
components below the directory. -/
partial def filesUnder (dir : String) : IO (List (List String)) := do
  let here ← IO.currentDir
  match ← ({ here with toString := dir }).readDir.toBaseIO with
  | .error _ => return []
  | .ok entries =>
    let mut found : List (List String) := []
    for entry in entries do
      let p := Path.join dir entry.fileName
      match ← ({ here with toString := p }).symlinkMetadata.toBaseIO with
      | .ok md =>
        if md.type == .dir then
          found := found ++ (← filesUnder p).map (entry.fileName :: ·)
        else if md.type == .file then
          found := found ++ [[entry.fileName]]
      | .error _ => pure ()
    return found

instance : FileSystem IO where
  kind? p := do
    if p.isEmpty then return none
    let here ← IO.currentDir
    match ← ({ here with toString := p }).metadata.toBaseIO with
    | .ok md =>
      return some (if md.type == .dir then .directory else if md.type == .file then .file else .other)
    | .error _ => return none
  read p := attempt (IO.FS.readFile p)
  write p text := attempt (IO.FS.writeFile p text)
  append p text := attempt do
    let h ← IO.FS.Handle.mk p .append
    h.putStr text
  -- the runtime offers a flush of the handle and no sync of the disk
  sync p := attempt do
    let h ← IO.FS.Handle.mk p .append
    h.flush
  rename src dst := attempt (IO.FS.rename src dst)
  makeDir p := attempt (IO.FS.createDir p)
  filesBeneath dir := filesUnder dir

/-- Runs `yamldoc` on its arguments. -/
def main (args : List String) : IO UInt32 := do
  let outcome ← run args
  IO.print outcome.stdout
  IO.eprint outcome.stderr
  return outcome.status.toUInt32

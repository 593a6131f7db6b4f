import DocBlocks.Yaml.Event.Write
import DocBlocks.Yaml.Resolve
import DocBlocks.Yaml.Value

/-!
# Writing a value as YAML text

A value is written as one document. Null, booleans and numbers are written
plain (`null`, `true`, `42`, `1.5`, `.inf`). A string is written as a literal
block when it holds a line feed, single-quoted when its plain form would read
back as something other than this string (`'1'`, `'null'`, `'007'`), and in
whatever style shows it best otherwise.

A tagged value is written as its content with the tag in front. It travels
through the writer the way a mapping of one entry does, whose key is the tag:
a mapping of one entry holds off its start until its key shows whether it is
a tag. This has consequences that the written text keeps:

* a tagged value directly inside another tagged value cannot be written;
* a mapping of one entry whose key is a tagged value loses its start, so the
  key and the value are written as documents of their own and the end of the
  mapping then finds no document to end.
-/

namespace DocBlocks.Yaml

/-- What the encoder knows about tags while writing a mapping of one entry. -/
inductive TagCheck where
  | idle
  /-- a mapping of one entry has begun; its start is not yet written -/
  | pending
  /-- the mapping of one entry is a tagged value's content, already started -/
  | pendingInTag
  /-- a tag was found and goes on the next node -/
  | found (name : String)
  /-- the tagged value's content has been written -/
  | done
  deriving Inhabited, Repr

/-- The encoder: how deep it is in the value, what it knows about tags, and
the writer. -/
structure Encoder where
  /-- nodes open around the next one; a document starts and ends at zero -/
  depth : Nat := 0
  /-- tag checking -/
  check : TagCheck := .idle
  /-- the writer -/
  writer : Writer := {}
  deriving Inhabited

/-- Encoding: the encoder's state, and failure with an error. -/
abbrev EncodeM := StateT Encoder (Except Error)

namespace Encoder

/-- Sends an event to the writer. -/
def send (ev : WriteEvent) : EncodeM Unit := fun s =>
  match (Writer.emit ev).run s.writer with
  | .ok ((), w) => .ok ((), { s with writer := w })
  | .error e => .error e

/-- Sets the tag check. -/
def setCheck (c : TagCheck) : EncodeM Unit := modify fun s => { s with check := c }

/-- Opens a node, starting a document at the top. -/
def valueStart : EncodeM Unit := do
  if (← get).depth == 0 then send .documentStart
  modify fun s => { s with depth := s.depth + 1 }

/-- Closes a node, ending the document at the top. -/
def valueEnd : EncodeM Unit := do
  modify fun s => { s with depth := s.depth - 1 }
  if (← get).depth == 0 then send .documentEnd

/-- Takes the tag found for the next node, with a leading `!`. -/
def takeTag : EncodeM (Option String) := do
  match (← get).check with
  | .found name =>
    setCheck .idle
    return some (if name.startsWith "!" then name else "!" ++ name)
  | _ => return none

/-- Writes the start of a mapping of one entry held off so far. -/
def flushMappingStart : EncodeM Unit := do
  match (← get).check with
  | .pending =>
    setCheck .idle
    valueStart
    let tag ← takeTag
    send (.mappingStart tag)
  | .pendingInTag => setCheck .idle
  | _ => pure ()

/-- Writes a scalar. -/
def scalar (value : String) (style : Requested) : EncodeM Unit := do
  flushMappingStart
  let tag ← takeTag
  valueStart
  send (.scalar tag value style)
  valueEnd

/-- Starts a sequence. -/
def sequenceStart : EncodeM Unit := do
  flushMappingStart
  valueStart
  let tag ← takeTag
  send (.sequenceStart tag)

/-- Ends a sequence. -/
def sequenceEnd : EncodeM Unit := do
  send .sequenceEnd
  valueEnd

/-- Starts a mapping. -/
def mappingStart : EncodeM Unit := do
  flushMappingStart
  valueStart
  let tag ← takeTag
  send (.mappingStart tag)

/-- Ends a mapping. -/
def mappingEnd : EncodeM Unit := do
  send .mappingEnd
  valueEnd

/-- Begins a mapping of `size` entries; one of one entry holds off its start,
unless it is a tagged value's content. -/
def beginMap (size : Nat) : EncodeM Unit := do
  if size == 1 then
    match (← get).check with
    | .found _ =>
      mappingStart
      setCheck .pendingInTag
    | _ => setCheck .pending
  else mappingStart

/-- Finishes a mapping begun by `beginMap`. -/
def finishMap : EncodeM Unit := do
  if let .pending := (← get).check then mappingStart
  match (← get).check with
  | .done => pure ()
  | _ => mappingEnd
  setCheck .idle

/-- The style a string asks for: literal with a line feed, single-quoted when
its plain form reads back as another kind of value or as digits with a leading
zero, any otherwise. -/
def stringStyle (s : String) : Requested :=
  if s.toList.contains '\n' then .literal
  else
    match Plain.ofText s with
    | .string => if Plain.leadingZeroDigits s then .singleQuoted else .any
    | _ => .singleQuoted

/-- Writes a string. -/
def string (s : String) : EncodeM Unit := scalar s (stringStyle s)

/-- Writes a tag as the key of a tagged value's entry: found while a mapping
of one entry is held off, refused inside another tagged value. -/
def tagKey (shown : String) : EncodeM Unit := do
  match (← get).check with
  | .pending => setCheck (.found (shown.drop 1).toString)
  | .pendingInTag => throw .nestedTag
  | _ => string shown

/-- Whether a tag has been found and waits for its node. -/
def tagFound : EncodeM Bool := do
  match (← get).check with
  | .found _ => return true
  | _ => return false

end Encoder

open Encoder in
mutual

/-- Writes a value. -/
def Value.encodeWith : Value → EncodeM Unit
  | .null => scalar "null" .plain
  | .bool b => scalar (if b then "true" else "false") .plain
  | .number n => scalar n.text .plain
  | .string s => Encoder.string s
  | .sequence items => do
    sequenceStart
    Value.encodeItems items
    sequenceEnd
  | .mapping entries => do
    beginMap entries.length
    Value.encodeEntries entries
    finishMap
  | .tagged t v => do
    beginMap 1
    tagKey t
    let tagged ← tagFound
    v.encodeWith
    if tagged then setCheck .done
    finishMap

/-- Writes the items of a sequence, in order. -/
def Value.encodeItems : List Value → EncodeM Unit
  | [] => pure ()
  | v :: rest => do
    v.encodeWith
    Value.encodeItems rest

/-- Writes the entries of a mapping, in order: each key, then its value. -/
def Value.encodeEntries : List (Value × Value) → EncodeM Unit
  | [] => pure ()
  | (k, v) :: rest => do
    k.encodeWith
    let tagged ← tagFound
    v.encodeWith
    if tagged then setCheck .done
    Value.encodeEntries rest

end

/-- The YAML text of a value. -/
def Value.encode (v : Value) : Except Error String :=
  let start : Except Error (Unit × Writer) := (Writer.emit .streamStart).run {}
  match start with
  | .error e => .error e
  | .ok ((), w) =>
    match (Value.encodeWith v).run { writer := w } with
    | .ok ((), s) => .ok s.writer.output
    | .error e => .error e

end DocBlocks.Yaml

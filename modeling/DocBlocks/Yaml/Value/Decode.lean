import DocBlocks.Yaml.Event.Parse
import DocBlocks.Yaml.Resolve
import DocBlocks.Yaml.Value
import DocBlocks.Text.Escaped

/-!
# Reading a value from YAML text

Reading a text gives the value of its one document. The events of the first
document are collected first, with each alias pointing at the event of the
node it repeats. The value is then built from them:

* a scalar with a tag of the YAML core schema (`!!bool`, `!!int`, `!!float`,
  `!!null`) must be written as that kind; any other tag makes it a string,
  and so does quoting or a block style; a plain untagged scalar is resolved by
  its text (`Plain.ofText`);
* a node whose tag starts with `!` (a local tag) is a tagged value;
* a mapping may not hold two equal keys;
* collections nest at most 128 deep, and aliases may be followed at most a
  hundred times per event of the document, which stops texts that repeat a
  node exponentially often.

A fault in the text is reported if the value could be built without reaching
it, unless building the value failed first. A text with a second document is
refused.
-/

namespace DocBlocks.Yaml

/-- A node event of a loaded document. -/
inductive Step where
  /-- the document of a stream without one, which is null -/
  | empty
  /-- an alias, by the position of the event it repeats -/
  | alias (target : Nat)
  | scalar (tag : Option String) (value : String) (style : ScalarStyle)
  | sequenceStart (tag : Option String)
  | sequenceEnd
  | mappingStart (tag : Option String)
  | mappingEnd
  deriving Inhabited, Repr

/-- A document's node events, each with the mark where its node starts, and
the fault that stopped reading inside it, if one did. -/
structure Loaded where
  /-- the node events in order -/
  steps : Array (Step × Mark)
  /-- the fault that ended the document early -/
  fault : Option Error
  deriving Inhabited

/-- The anchor name's latest definition. -/
def anchorTarget? (name : String) : List (String × Nat) → Option Nat
  | [] => none
  | (n, i) :: rest => if n == name then some i else anchorTarget? name rest

/-- The first document of the stream events `evs` and the events after it,
collected with the anchors defined so far and the steps so far. The events end
at the end of the stream or stop early, at `fault`. Only the first document of
a stream may be empty of events; a later one is none, and so is the document
after the end of the stream. -/
def nextDocument (first : Bool) (fault : Option Error) :
    List Event → List (String × Nat) → Array (Step × Mark) → Option (Loaded × List Event)
  | [], _, acc => fault.map fun e => (⟨acc, some e⟩, [])
  | ev :: rest, anchors, acc =>
    let anchored (anchor : Option String) : List (String × Nat) :=
      match anchor with
      | some name => (name, acc.size) :: anchors
      | none => anchors
    match ev.kind with
    | .streamStart | .documentStart _ => nextDocument first fault rest anchors acc
    | .streamEnd =>
      if first then
        some (⟨if acc.isEmpty then acc.push (.empty, ev.start) else acc, none⟩, [])
      else none
    | .documentEnd _ => some (⟨acc, none⟩, rest)
    | .alias name =>
      match anchorTarget? name anchors with
      | some target => nextDocument first fault rest anchors (acc.push (.alias target, ev.start))
      | none => some (⟨acc, some (.unknownAnchor ev.start)⟩, rest)
    | .scalar anchor tag value style =>
      nextDocument first fault rest (anchored anchor) (acc.push (.scalar tag value style, ev.start))
    | .sequenceStart anchor tag _ =>
      nextDocument first fault rest (anchored anchor) (acc.push (.sequenceStart tag, ev.start))
    | .sequenceEnd => nextDocument first fault rest anchors (acc.push (.sequenceEnd, ev.start))
    | .mappingStart anchor tag _ =>
      nextDocument first fault rest (anchored anchor) (acc.push (.mappingStart tag, ev.start))
    | .mappingEnd => nextDocument first fault rest anchors (acc.push (.mappingEnd, ev.start))

/-- The step at a position; past the last one, the fault that ended the
document. -/
def Loaded.stepAt (doc : Loaded) (pos : Nat) : Except Error (Step × Mark) :=
  match doc.steps[pos]? with
  | some s => .ok s
  | none => .error (doc.fault.getD .endOfStream)

/-- The tags of the core schema that a scalar is checked against. -/
def boolTag : String := "tag:yaml.org,2002:bool"
/-- The tag of integers. -/
def intTag : String := "tag:yaml.org,2002:int"
/-- The tag of floats. -/
def floatTag : String := "tag:yaml.org,2002:float"
/-- The tag of null. -/
def nullTag : String := "tag:yaml.org,2002:null"

/-- The shown form of a local tag `!name`, which makes its node a tagged
value: `!` and the name without one leading `!`; the bare tag `!` shows as
`!!`. Inside a tagged value the same node is read for its content and is not
tagged again. -/
def localTag? (tag : Option String) (inTag : Bool) : Option String :=
  if inTag then none
  else
    match tag with
    | some t =>
      match t.toList with
      | '!' :: rest =>
        let name := if rest.isEmpty then "!" else String.ofList rest
        let bare := match name.toList with
          | '!' :: more => if more.isEmpty then name else String.ofList more
          | _ => name
        some ("!" ++ bare)
      | _ => none
    | none => none

/-- The error for a scalar that is not of the kind its tag demands. -/
def invalidValue (text expected : String) : Error :=
  .invalid ("invalid value: string " ++ Text.escaped text ++ ", expected " ++ expected) none

/-- The error for an integer beyond 64-bit words. -/
def wideInteger (i : Int) (signed : Bool) : Error :=
  .invalid ("invalid type: integer `" ++ toString i ++ "` as " ++ (if signed then "i128" else "u128")
    ++ ", expected any YAML value") none

/-- The value of a plain untagged scalar. -/
def plainValue (text : String) : Except Error Value :=
  match Plain.ofText text with
  | .null => .ok .null
  | .bool b => .ok (.bool b)
  | .integer i => .ok (.number (.integer i))
  | .wide i signed => .error (wideInteger i signed)
  | .float x => .ok (.number (.float x))
  | .string => .ok (.string text)

/-- The value of a scalar with its tag and style. -/
def scalarValue (tag : Option String) (text : String) (style : ScalarStyle) (inTag : Bool) :
    Except Error Value :=
  match tag, inTag with
  | some t, false =>
    if t == boolTag then
      match Plain.bool? text with
      | some b => .ok (.bool b)
      | none => .error (invalidValue text "a boolean")
    else if t == intTag then
      match Plain.integer? text with
      | some (.integer i) => .ok (.number (.integer i))
      | some (.wide i signed) => .error (wideInteger i signed)
      | _ => .error (invalidValue text "an integer")
    else if t == floatTag then
      match Plain.float? text with
      | some x => .ok (.number (.float x))
      | none => .error (invalidValue text "a float")
    else if t == nullTag then
      if Plain.isNullText text then .ok .null else .error (invalidValue text "null")
    else if t.startsWith "!" && style == .plain then plainValue text
    else .ok (.string text)
  | _, _ => if style == .plain then plainValue text else .ok (.string text)

/-- The words for a key that a mapping holds twice. -/
def duplicateKey (key : Value) : Error :=
  let what := match key with
    | .null => "with null key"
    | .bool b => "with key `" ++ toString b ++ "`"
    | .number n => "with key " ++ n.text
    | .string s => "with key " ++ Text.escaped s
    | _ => "in YAML map"
  .invalid ("duplicate entry " ++ what) none

/-- Building a value counts the aliases followed. -/
abbrev DecodeM := StateT Nat (Except Error)

/-- Follows one more alias, failing once more than a hundred per event of the
document have been followed. -/
def followAlias (doc : Loaded) : DecodeM Unit := do
  let n := (← get) + 1
  set n
  if n > doc.steps.size * 100 then throw .repetitionLimit

mutual

/-- The value whose node starts at `pos`, at `path`, with `depth` more
collections allowed inside it; `inTag` when the node is read for the content of
its tagged value. Gives the value and the position after its node. A value
error gets the node's mark and path. -/
def valueAt (doc : Loaded) : Nat → Nat → Path → Nat → Bool → DecodeM (Value × Nat)
  | 0, _, _, _, _ => throw .repetitionLimit
  | fuel + 1, pos, path, depth, inTag => do
    let (step, mark) ← liftM (m := Except Error) (doc.stepAt pos)
    tryCatch (stepValue doc fuel pos path depth inTag step mark)
      (fun e => throw (e.placeAt mark path))

/-- The value of the node whose first step `step`, at `pos`, has been read. -/
def stepValue (doc : Loaded) : Nat → Nat → Path → Nat → Bool → Step → Mark → DecodeM (Value × Nat)
  | 0, _, _, _, _, _, _ => throw .repetitionLimit
  | fuel + 1, pos, path, depth, inTag, step, mark =>
    match step with
    | .empty => pure (.null, pos + 1)
    | .alias target => do
      followAlias doc
      let (v, _) ← valueAt doc fuel target (.alias path) depth false
      pure (v, pos + 1)
    | .scalar tag text style =>
      match localTag? tag inTag with
      | some t => do
        let (v, next) ← valueAt doc fuel pos path depth true
        pure (.tagged t v, next)
      | none => do
        let v ← liftM (m := Except Error) (scalarValue tag text style inTag)
        pure (v, pos + 1)
    | .sequenceStart tag =>
      match localTag? tag inTag with
      | some t => do
        let (v, next) ← valueAt doc fuel pos path depth true
        pure (.tagged t v, next)
      | none =>
        match depth with
        | 0 => throw (.recursionLimit mark)
        | inner + 1 => do
          let (items, next) ← itemsAt doc fuel (pos + 1) path inner 0 []
          pure (.sequence items, next)
    | .mappingStart tag =>
      match localTag? tag inTag with
      | some t => do
        let (v, next) ← valueAt doc fuel pos path depth true
        pure (.tagged t v, next)
      | none =>
        match depth with
        | 0 => throw (.recursionLimit mark)
        | inner + 1 => do
          let (entries, next) ← entriesAt doc fuel (pos + 1) path inner []
          pure (.mapping entries, next)
    | .sequenceEnd | .mappingEnd => pure (.null, pos + 1)

/-- The items of a sequence at `path` from `pos` on, after the items `acc`
(last first), the next at `index`. -/
def itemsAt (doc : Loaded) :
    Nat → Nat → Path → Nat → Nat → List Value → DecodeM (List Value × Nat)
  | 0, _, _, _, _, _ => throw .repetitionLimit
  | fuel + 1, pos, path, depth, index, acc => do
    let (step, _) ← liftM (m := Except Error) (doc.stepAt pos)
    match step with
    | .sequenceEnd | .empty => pure (acc.reverse, pos + 1)
    | _ =>
      let (v, next) ← valueAt doc fuel pos (.item path index) depth false
      itemsAt doc fuel next path depth (index + 1) (v :: acc)

/-- The entries of a mapping at `path` from `pos` on, after the entries
`acc`. A key equal to an earlier one is an error, found before its value is
read. -/
def entriesAt (doc : Loaded) :
    Nat → Nat → Path → Nat → List (Value × Value) → DecodeM (List (Value × Value) × Nat)
  | 0, _, _, _, _ => throw .repetitionLimit
  | fuel + 1, pos, path, depth, acc => do
    let (step, _) ← liftM (m := Except Error) (doc.stepAt pos)
    match step with
    | .mappingEnd | .empty => pure (acc, pos + 1)
    | _ =>
      let (k, afterKey) ← valueAt doc fuel pos path depth false
      match acc.find? (fun e => Value.same k e.1) with
      | some (earlier, _) => throw (duplicateKey earlier)
      | none =>
        let valuePath := match step with
          | .scalar _ text _ => Path.entry path text
          | _ => Path.unknown path
        let (v, next) ← valueAt doc fuel afterKey valuePath depth false
        entriesAt doc fuel next path depth (acc ++ [(k, v)])

end

/-- Enough steps to build any value of a document: each alias followed
repeats at most every event. -/
def Loaded.fuel (doc : Loaded) : Nat :=
  2 * (doc.steps.size * 100 + 2) * (doc.steps.size + 2) + 8

/-- Collections may nest this deep. -/
def depthLimit : Nat := 128

/-- The value of a YAML text of one document. -/
def Value.decode (text : String) : Except Error Value :=
  let (events, fault) := Event.parseAll text
  match nextDocument true fault events.toList [] #[] with
  | none => .error .endOfStream
  | some (doc, rest) =>
    match (valueAt doc doc.fuel 0 .root depthLimit false).run 0 with
    | .error e => .error e
    | .ok ((v, _), _) =>
      match doc.fault with
      | some e => .error e
      | none =>
        match nextDocument false fault rest [] #[] with
        | none => .ok v
        | some _ => .error .moreThanOneDocument

end DocBlocks.Yaml

import DocBlocks.Choice.Range
import DocBlocks.Choice.Directive
import DocBlocks.Text.Comment
import DocBlocks.Text.Lines
import DocBlocks.Yaml.Value.Decode

/-!
# Choice sections of a docblock

A docblock may list the values its key allows, with a `Choose` directive on
any line but the first (the first line describes the key). The first
directive found counts. The choices are the YAML list after its colon, or,
when nothing follows the colon, the YAML list formed by the uncommented lines
below it. A list that is empty text or null is the empty list; anything else
that is not a sequence is refused, as is text that is not YAML.
-/

namespace DocBlocks.Choice

open DocBlocks.Yaml DocBlocks.Text

/-- The allowed values of a key and how many of them may be selected. -/
structure Section where
  /-- how many choices may be selected -/
  range : Range
  /-- the allowed values, in order -/
  choices : List Value
  deriving Inhabited, Repr, DecidableEq

/-- The choices written in `text`, for the directive on `line`. -/
def decodeChoices (text : String) (line : Nat) : Except ChoiceError (List Value) :=
  if (trim text).isEmpty then .ok []
  else
    match Value.decode text with
    | .error e => .error ⟨line, "choices are not valid YAML: " ++ e.message⟩
    | .ok (.sequence items) => .ok items
    | .ok .null => .ok []
    | .ok other => .error ⟨line, "choices must be a YAML list, found " ++ other.kind⟩

/-- The section of the first directive among `lines`, the first of them being
docblock line `number` (counted from one). -/
def sectionFrom : List String → Nat → Except ChoiceError (Option Section)
  | [], _ => .ok none
  | line :: below, number =>
    match Directive.ofLine line with
    | none => sectionFrom below (number + 1)
    | some d => do
      let range ← Range.ofCardinality d.cardinality number
      let text := if d.remainder.isEmpty then joinLines (below.map uncomment) else d.remainder
      let choices ← decodeChoices text number
      return some ⟨range, choices⟩

/-- The choice section of a docblock; its first line is never a directive. -/
def Section.ofDocblock (docblock : List String) : Except ChoiceError (Option Section) :=
  sectionFrom (docblock.drop 1) 2

/-- The choice section of an optional docblock; without one there is none. -/
def Section.ofDocblock? : Option (List String) → Except ChoiceError (Option Section)
  | some lines => Section.ofDocblock lines
  | none => .ok none

end DocBlocks.Choice

import DocBlocks.Yaml.Token

/-!
# Events of YAML text

The parser turns tokens into a stream of events: the start and end of the
stream, of each document, of each sequence and mapping, and one event per
scalar or alias. Anchors and tags sit on the event of the node they belong
to. Each event carries the marks where its node starts and ends.
-/

namespace DocBlocks.Yaml

/-- The kinds of event. -/
inductive EventKind where
  | streamStart
  | streamEnd
  | documentStart (implicit : Bool)
  | documentEnd (implicit : Bool)
  | alias (anchor : String)
  | scalar (anchor tag : Option String) (value : String) (style : ScalarStyle)
  | sequenceStart (anchor tag : Option String) (flow : Bool)
  | sequenceEnd
  | mappingStart (anchor tag : Option String) (flow : Bool)
  | mappingEnd
  deriving Inhabited, Repr

/-- An event with the marks of its node. -/
structure Event where
  /-- what the event is -/
  kind : EventKind
  /-- where its node starts -/
  start : Mark
  /-- where its node ends -/
  stop : Mark
  deriving Inhabited, Repr

end DocBlocks.Yaml

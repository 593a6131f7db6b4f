import DocBlocks.Yaml.Error

/-!
# Tokens of YAML text

The scanner cuts a YAML text into tokens: indicators (`-`, `?`, `:`, `,`,
brackets and braces), document markers, directives, anchors, aliases, tags
and scalars, and the implicit tokens that mark where block collections start
and end. Each token carries the marks where it starts and ends.
-/

namespace DocBlocks.Yaml

/-- How a scalar was written. -/
inductive ScalarStyle where
  | plain
  | singleQuoted
  | doubleQuoted
  | literal
  | folded
  deriving Inhabited, Repr, DecidableEq

/-- The kinds of token. -/
inductive TokenKind where
  | streamStart
  | streamEnd
  | versionDirective (major minor : Nat)
  | tagDirective (handle pfx : String)
  | documentStart
  | documentEnd
  | blockSequenceStart
  | blockMappingStart
  | blockEnd
  | flowSequenceStart
  | flowSequenceEnd
  | flowMappingStart
  | flowMappingEnd
  | blockEntry
  | flowEntry
  | key
  | value
  | alias (name : String)
  | anchor (name : String)
  | tag (handle suffix : String)
  | scalar (text : String) (style : ScalarStyle)
  deriving Inhabited, Repr

/-- A token with the marks where it starts and ends. -/
structure Token where
  /-- what the token is -/
  kind : TokenKind
  /-- where it starts -/
  start : Mark
  /-- where it ends -/
  stop : Mark
  deriving Inhabited, Repr

namespace TokenKind

/-- Whether the token is a `-` entry indicator of a block sequence. -/
def isBlockEntry : TokenKind → Bool
  | blockEntry => true
  | _ => false

/-- Whether the token is a `?` key indicator. -/
def isKey : TokenKind → Bool
  | key => true
  | _ => false

/-- Whether the token is a `:` value indicator. -/
def isValue : TokenKind → Bool
  | value => true
  | _ => false

/-- Whether the token ends a block collection. -/
def isBlockEnd : TokenKind → Bool
  | blockEnd => true
  | _ => false

/-- Whether the token is a `,` entry separator. -/
def isFlowEntry : TokenKind → Bool
  | flowEntry => true
  | _ => false

/-- Whether the token is a `]`. -/
def isFlowSequenceEnd : TokenKind → Bool
  | flowSequenceEnd => true
  | _ => false

/-- Whether the token is a `}`. -/
def isFlowMappingEnd : TokenKind → Bool
  | flowMappingEnd => true
  | _ => false

/-- Whether the token is the end of the text. -/
def isStreamEnd : TokenKind → Bool
  | streamEnd => true
  | _ => false

/-- Whether the token is a `---` marker. -/
def isDocumentStart : TokenKind → Bool
  | documentStart => true
  | _ => false

/-- Whether the token is a `...` marker. -/
def isDocumentEnd : TokenKind → Bool
  | documentEnd => true
  | _ => false

/-- Whether the token is a `%YAML` or `%TAG` directive. -/
def isDirective : TokenKind → Bool
  | versionDirective _ _ => true
  | tagDirective _ _ => true
  | _ => false

end TokenKind

end DocBlocks.Yaml

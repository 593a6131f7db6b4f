import DocBlocks.Yaml.Token
import DocBlocks.Yaml.Error

/-!
# Writing events as YAML text

The writer takes a stream of events and lays them out as block YAML: mappings
as `key: value` lines, sequences as `- item` lines, nested collections
indented by two columns (a sequence under a mapping key stays at the key's
column), empty collections as `[]` and `{}`. Lines are never folded.

Each scalar asks for a style or leaves it to the writer, which keeps the
requested style only if the text can be shown in it:

* plain, unless the text starts or ends with a blank, holds a line break or a
  character that does not print, or holds indicators (`: `, ` #`, a leading
  `-`, `[`, `'`, ...) that would read as structure;
* single-quoted, unless it holds a break next to a space or a character that
  does not print;
* literal, unless it ends with a space or holds a character that does not
  print, or is a key;
* double-quoted otherwise, where every character that does not print is
  escaped.

A key is written after `? ` when it spans lines, is a nonempty collection or
is longer than 128 bytes.

The writer looks ahead a few events before it writes a collection, to see if
it is empty. It checks the order of the events and fails on one that cannot
come where it stands. Text is handed over at the end of each document.
-/

namespace DocBlocks.Yaml

/-- The style a scalar asks for. -/
inductive Requested where
  /-- whatever style shows the text best -/
  | any
  | plain
  | singleQuoted
  | literal
  deriving Inhabited, Repr, DecidableEq

/-- What the writer is asked to write. -/
inductive WriteEvent where
  | streamStart
  | streamEnd
  | documentStart
  | documentEnd
  | scalar (tag : Option String) (value : String) (style : Requested)
  | sequenceStart (tag : Option String)
  | sequenceEnd
  | mappingStart (tag : Option String)
  | mappingEnd
  deriving Inhabited, Repr

namespace WriteEvent

/-- How the event changes the nesting of what is open. -/
def depthChange : WriteEvent → Int
  | streamStart | documentStart | sequenceStart _ | mappingStart _ => 1
  | streamEnd | documentEnd | sequenceEnd | mappingEnd => -1
  | scalar .. => 0

/-- The events that must follow an event before it can be written: one for
a document start, two for a sequence start, three for a mapping start. -/
def lookahead : WriteEvent → Option Nat
  | documentStart => some 1
  | sequenceStart _ => some 2
  | mappingStart _ => some 3
  | _ => none

/-- Whether the event ends a sequence. -/
def isSequenceEnd : WriteEvent → Bool
  | sequenceEnd => true
  | _ => false

/-- Whether the event ends a mapping. -/
def isMappingEnd : WriteEvent → Bool
  | mappingEnd => true
  | _ => false

end WriteEvent

/-- Whether the events close what the first of them opens, counting from
`level`. -/
def closesLevel : List WriteEvent → Int → Bool
  | [], _ => false
  | e :: rest, level =>
    let level := level + e.depthChange
    if level == 0 then true else closesLevel rest level

/-- Whether the writer must wait for more events before writing the first
waiting one. -/
def needsMore (q : List WriteEvent) : Bool :=
  match q with
  | [] => true
  | head :: _ =>
    match head.lookahead with
    | none => false
    | some extra => if q.length > extra then false else !closesLevel q 0

/-- Where the writer is. -/
inductive WriteState where
  | streamStart
  | firstDocumentStart
  | documentStart
  | documentContent
  | documentEnd
  | flowSequenceFirstItem
  | flowSequenceItem
  | flowMappingFirstKey
  | flowMappingKey
  | flowMappingSimpleValue
  | flowMappingValue
  | blockSequenceFirstItem
  | blockSequenceItem
  | blockMappingFirstKey
  | blockMappingKey
  | blockMappingSimpleValue
  | blockMappingValue
  | finished
  deriving Inhabited, Repr, DecidableEq

/-- A tag as written: a handle and the rest, or, with no handle that fits, the
whole tag between `!<` and `>`. -/
structure TagParts where
  /-- the handle standing for the tag's prefix -/
  handle : Option String
  /-- the rest of the tag -/
  suffix : String
  deriving Inhabited, Repr

/-- The bytes a tag takes when written, before escapes. -/
def TagParts.length (t : TagParts) : Nat :=
  (t.handle.map String.utf8ByteSize).getD 0 + t.suffix.utf8ByteSize

/-- The parts of a tag: `!name` has the handle `!`, a tag of the core schema
the handle `!!`; the prefix must leave something after it. -/
def tagParts (tag : String) : Except Error TagParts :=
  let core := "tag:yaml.org,2002:"
  if tag.isEmpty then .error (.emitter "tag value must not be empty")
  else if tag.length > 1 && tag.startsWith "!" then .ok ⟨some "!", (tag.drop 1).toString⟩
  else if tag.length > core.length && tag.startsWith core then
    .ok ⟨some "!!", (tag.drop core.length).toString⟩
  else .ok ⟨none, tag⟩

/-- Line breaks: line feed, carriage return, next line, line and paragraph
separators. -/
def isLineBreak (c : Char) : Bool :=
  c == '\n' || c == '\r' || c == '\x85' || c == '\u2028' || c == '\u2029'

/-- Whether a character, or the end of the text, separates words. -/
def isBlankOrEnd : Option Char → Bool
  | none => true
  | some c => c == ' ' || c == '\t' || isLineBreak c

/-- Characters a YAML text may show as they are: the line feed, printable
ASCII, and the rest of Unicode but for the C1 controls, surrogates, the byte
order mark and the two noncharacters at the end of the basic plane. -/
def isPrintable (c : Char) : Bool :=
  let n := c.toNat
  n == 0x0A || (0x20 ≤ n && n ≤ 0x7E) || (0xA0 ≤ n && n ≤ 0xD7FF)
    || (0xE000 ≤ n && n ≤ 0xFFFD && n != 0xFEFF) || n ≥ 0x10000

/-- What a scalar's text allows. -/
structure ScalarFacts where
  /-- the text holds a line break -/
  multiline : Bool := false
  /-- the text may be written plain inside a flow collection -/
  flowPlain : Bool := true
  /-- the text may be written plain in block context -/
  blockPlain : Bool := true
  /-- the text may be written single-quoted -/
  singleQuoted : Bool := true
  /-- the text may be written as a literal block -/
  block : Bool := true
  deriving Inhabited, Repr

/-- The features of a text that decide its style. -/
structure TextFeatures where
  /-- something that reads as structure in block context -/
  blockIndicator : Bool := false
  /-- something that reads as structure in a flow collection -/
  flowIndicator : Bool := false
  lineBreak : Bool := false
  unprintable : Bool := false
  leadingSpace : Bool := false
  leadingBreak : Bool := false
  trailingSpace : Bool := false
  trailingBreak : Bool := false
  /-- a space right after a break -/
  breakSpace : Bool := false
  /-- a break right after a space -/
  spaceBreak : Bool := false
  deriving Inhabited, Repr

/-- Indicators that read as structure at the start of a text. -/
def leadingIndicators : List Char :=
  ['#', ',', '[', ']', '\x7b', '\x7d', '&', '*', '!', '|', '>', '\'', '"', '%', '@', '\x60']

/-- Indicators that read as structure inside a flow collection. -/
def flowIndicators : List Char := [',', '?', '[', ']', '\x7b', '\x7d']

/-- The features of the characters `cs`, the first of them at the start when
`first`; `preceded` when the character before is a blank, `prevSpace` and
`prevBreak` when it is a space or a break. -/
def textFeatures (first preceded prevSpace prevBreak : Bool) :
    List Char → TextFeatures → TextFeatures
  | [], f => f
  | c :: rest, f =>
    let followed := isBlankOrEnd rest.head?
    let last := rest.isEmpty
    let f :=
      if first then
        let f := if leadingIndicators.contains c then
            { f with flowIndicator := true, blockIndicator := true } else f
        let f := if c == '?' || c == ':' then
            { f with flowIndicator := true, blockIndicator := f.blockIndicator || followed } else f
        if c == '-' && followed then { f with flowIndicator := true, blockIndicator := true } else f
      else
        let f := if flowIndicators.contains c then { f with flowIndicator := true } else f
        let f := if c == ':' then
            { f with flowIndicator := true, blockIndicator := f.blockIndicator || followed } else f
        if c == '#' && preceded then { f with flowIndicator := true, blockIndicator := true } else f
    let f := if isPrintable c then f else { f with unprintable := true }
    let f := if isLineBreak c then { f with lineBreak := true } else f
    if c == ' ' then
      let f := { f with leadingSpace := f.leadingSpace || first,
                        trailingSpace := f.trailingSpace || last,
                        breakSpace := f.breakSpace || prevBreak }
      textFeatures false true true false rest f
    else if isLineBreak c then
      let f := { f with leadingBreak := f.leadingBreak || first,
                        trailingBreak := f.trailingBreak || last,
                        spaceBreak := f.spaceBreak || prevSpace }
      textFeatures false true false true rest f
    else
      textFeatures false (isBlankOrEnd (some c)) false false rest f

/-- What a scalar's text allows. -/
def ScalarFacts.ofText (s : String) : ScalarFacts :=
  let cs := s.toList
  if cs.isEmpty then
    { multiline := false, flowPlain := false, blockPlain := true, singleQuoted := true,
      block := false }
  else
    let marker := s.startsWith "---" || s.startsWith "..."
    let f := textFeatures true true false false cs
      { blockIndicator := marker, flowIndicator := marker }
    let plain := !(f.leadingSpace || f.leadingBreak || f.trailingSpace || f.trailingBreak
      || f.breakSpace || f.spaceBreak || f.unprintable || f.lineBreak)
    { multiline := f.lineBreak,
      flowPlain := plain && !f.flowIndicator,
      blockPlain := plain && !f.blockIndicator,
      singleQuoted := !(f.breakSpace || f.spaceBreak || f.unprintable),
      block := !(f.trailingSpace || f.spaceBreak || f.unprintable) }

/-- What the writer works out about an event before writing it. -/
structure Analysis where
  /-- the tag's parts -/
  tag : Option TagParts := none
  /-- what the scalar's text allows -/
  facts : ScalarFacts := {}
  /-- the bytes of the scalar's text -/
  length : Nat := 0
  deriving Inhabited

/-- The analysis of an event. -/
def analyze (ev : WriteEvent) : Except Error Analysis := do
  let tagOf : Option String → Except Error (Option TagParts)
    | some t => some <$> tagParts t
    | none => pure none
  match ev with
  | .scalar tag value _ =>
    return { tag := ← tagOf tag, facts := ScalarFacts.ofText value, length := value.utf8ByteSize }
  | .sequenceStart tag | .mappingStart tag => return { tag := ← tagOf tag }
  | _ => return {}

/-- The state of the writer. -/
structure Writer where
  /-- where it is -/
  state : WriteState := .streamStart
  /-- where to go back to after the nodes being written -/
  states : List WriteState := []
  /-- events not yet written -/
  queue : List WriteEvent := []
  /-- the indentation of the current collection, `-1` before any -/
  indent : Int := -1
  /-- the indentations of the enclosing collections -/
  indents : List Int := []
  /-- how many flow collections are open -/
  flowLevel : Nat := 0
  /-- the node is a document's root -/
  root : Bool := false
  /-- the node is a sequence item -/
  inSequence : Bool := false
  /-- the node is a mapping key or value -/
  inMapping : Bool := false
  /-- the node is a key on one line -/
  simpleKey : Bool := false
  /-- the column the next character goes to -/
  column : Nat := 0
  /-- the last character written separates words -/
  whitespace : Bool := true
  /-- only indentation stands on the line so far -/
  indention : Bool := true
  /-- whether the document is open-ended: `1` after its implicit end, `2` after
  a block scalar that keeps its trailing breaks, which only an end marker
  written before the end of the stream closes -/
  openEnded : Nat := 0
  /-- text written in the current document -/
  pending : String := ""
  /-- text handed over -/
  output : String := ""
  deriving Inhabited

/-- Writing: the writer's state, and failure with an error. -/
abbrev WriteM := StateT Writer (Except Error)

namespace Writer

/-- Fails with a writer error. -/
def fail (problem : String) : WriteM α := throw (.emitter problem)

/-- Writes a character. -/
def put (c : Char) : WriteM Unit :=
  modify fun w => { w with pending := w.pending.push c, column := w.column + 1 }

/-- Writes the characters of a text. -/
def putAll (s : String) : WriteM Unit :=
  modify fun w => { w with pending := w.pending ++ s, column := w.column + s.length }

/-- Ends the line. -/
def putBreak : WriteM Unit :=
  modify fun w => { w with pending := w.pending.push '\n', column := 0 }

/-- Writes a line break of the text: a line feed ends the line as usual,
other breaks are copied. -/
def writeBreak (c : Char) : WriteM Unit :=
  if c == '\n' then putBreak
  else modify fun w => { w with pending := w.pending.push c, column := 0 }

/-- Sets whether only indentation stands on the line. -/
def setIndention (b : Bool) : WriteM Unit := modify fun w => { w with indention := b }

/-- Goes to the current indentation: a new line unless the line holds only
indentation short of it, then spaces up to it. -/
def writeIndent : WriteM Unit := do
  let w ← get
  let indent := w.indent.toNat
  if !w.indention || w.column > indent || (w.column == indent && !w.whitespace) then putBreak
  let w ← get
  putAll (String.ofList (List.replicate (indent - w.column) ' '))
  modify fun w => { w with whitespace := true, indention := true }

/-- Writes an indicator, after a space if `needSpace` and the last character
does not separate words; `isSpace` when the indicator counts as a separator,
`isIndent` when it counts as indentation. -/
def writeIndicator (s : String) (needSpace isSpace isIndent : Bool) : WriteM Unit := do
  if needSpace && !(← get).whitespace then put ' '
  putAll s
  modify fun w => { w with whitespace := isSpace, indention := w.indention && isIndent }

/-- Hands the text of the document over. -/
def flush : WriteM Unit :=
  modify fun w => { w with output := w.output ++ w.pending, pending := "" }

/-- Remembers the state to come back to. -/
def pushState (st : WriteState) : WriteM Unit :=
  modify fun w => { w with states := st :: w.states }

/-- Comes back to the last remembered state. -/
def popState : WriteM Unit :=
  modify fun w => { w with state := w.states.headD .finished, states := w.states.tail }

/-- Goes to a state. -/
def goTo (st : WriteState) : WriteM Unit := modify fun w => { w with state := st }

/-- Comes back to the enclosing indentation. -/
def popIndent : WriteM Unit :=
  modify fun w => { w with indent := w.indents.headD (-1), indents := w.indents.tail }

/-- Indents for a nested node: by two columns, or not at all for a sequence
that stays at its key's column; the first block collection of a document
stands at column zero, a first flow node at column two. -/
def increaseIndent (flow indentless : Bool) : WriteM Unit :=
  modify fun w =>
    let indent :=
      if w.indent < 0 then (if flow then 2 else 0)
      else if !indentless then w.indent + 2
      else w.indent
    { w with indents := w.indent :: w.indents, indent := indent }

/-- Tag characters written as they are; others are written as `%` and the
hexadecimal of each of their bytes. -/
def isTagChar (c : Char) : Bool :=
  c.isAlphanum || ";/?:@&=+$,_.~*'()[]-".toList.contains c

/-- Two upper-case hexadecimal digits of a byte. -/
def hexByte (b : UInt8) : String :=
  let digit (n : Nat) : Char := if n < 10 then Char.ofNat (48 + n) else Char.ofNat (55 + n)
  String.ofList [digit (b.toNat / 16), digit (b.toNat % 16)]

/-- Writes the handle of a tag. -/
def writeTagHandle (handle : String) : WriteM Unit := do
  if !(← get).whitespace then put ' '
  putAll handle
  modify fun w => { w with whitespace := false, indention := false }

/-- Writes the rest of a tag, escaping what a tag cannot hold. -/
def writeTagContent (s : String) : WriteM Unit := do
  for c in s.toList do
    if isTagChar c then put c
    else
      for b in c.toString.toUTF8.toList do
        putAll ("%" ++ hexByte b)
  modify fun w => { w with whitespace := false, indention := false }

/-- Writes a tag. -/
def writeTag : Option TagParts → WriteM Unit
  | none => pure ()
  | some ⟨some handle, suffix⟩ => do
    writeTagHandle handle
    writeTagContent suffix
  | some ⟨none, suffix⟩ => do
    writeIndicator "!<" true false false
    writeTagContent suffix
    writeIndicator ">" false false false

/-- The style a scalar is written in: the requested one if the text allows it
where the scalar stands, else single-quoted, else double-quoted. -/
def chooseStyle (w : Writer) (a : Analysis) (requested : Requested) : ScalarStyle :=
  let style : ScalarStyle := match requested with
    | .any | .plain => .plain
    | .singleQuoted => .singleQuoted
    | .literal => .literal
  let style := if w.simpleKey && a.facts.multiline then .doubleQuoted else style
  let style :=
    if style == .plain then
      if (w.flowLevel > 0 && !a.facts.flowPlain) || (w.flowLevel == 0 && !a.facts.blockPlain)
        || (a.length == 0 && (w.flowLevel > 0 || w.simpleKey)) then .singleQuoted
      else .plain
    else style
  let style := if style == .singleQuoted && !a.facts.singleQuoted then .doubleQuoted else style
  if (style == .literal || style == .folded) && (!a.facts.block || w.flowLevel > 0 || w.simpleKey)
  then .doubleQuoted else style

/-- Writes the characters of a plain scalar. -/
def plainChars : List Char → Bool → WriteM Unit
  | [], _ => pure ()
  | c :: rest, breaks => do
    if c == ' ' then
      put c
      plainChars rest breaks
    else if isLineBreak c then
      if !breaks && c == '\n' then putBreak
      writeBreak c
      setIndention true
      plainChars rest true
    else
      if breaks then writeIndent
      put c
      setIndention false
      plainChars rest false

/-- Writes a plain scalar. -/
def writePlain (value : String) : WriteM Unit := do
  let w ← get
  if !w.whitespace && (!value.isEmpty || w.flowLevel > 0) then put ' '
  plainChars value.toList false
  modify fun w => { w with whitespace := false, indention := false,
                           openEnded := if w.root then 1 else w.openEnded }

/-- Writes the characters of a single-quoted scalar, a quote twice; gives
whether it ended on a break. -/
def singleQuotedChars : List Char → Bool → WriteM Bool
  | [], breaks => pure breaks
  | c :: rest, breaks => do
    if c == ' ' then
      put c
      singleQuotedChars rest breaks
    else if isLineBreak c then
      if !breaks && c == '\n' then putBreak
      writeBreak c
      setIndention true
      singleQuotedChars rest true
    else
      if breaks then writeIndent
      if c == '\'' then put '\''
      put c
      setIndention false
      singleQuotedChars rest false

/-- Writes a single-quoted scalar. -/
def writeSingleQuoted (value : String) : WriteM Unit := do
  writeIndicator "'" true false false
  let breaks ← singleQuotedChars value.toList false
  if breaks then writeIndent
  writeIndicator "'" false false false
  modify fun w => { w with whitespace := false, indention := false }

/-- Upper-case hexadecimal digits of `n`, `width` of them. -/
def hexDigits (n : Nat) : Nat → List Char
  | 0 => []
  | k + 1 =>
    let d := (n / Nat.pow 16 k) % 16
    (if d < 10 then Char.ofNat (48 + d) else Char.ofNat (55 + d)) :: hexDigits n k

/-- The escape of a character in a double-quoted scalar, after its
backslash. -/
def escapeOf (c : Char) : String :=
  match c.toNat with
  | 0x00 => "0"
  | 0x07 => "a"
  | 0x08 => "b"
  | 0x09 => "t"
  | 0x0A => "n"
  | 0x0B => "v"
  | 0x0C => "f"
  | 0x0D => "r"
  | 0x1B => "e"
  | 0x22 => "\""
  | 0x5C => "\\"
  | 0x85 => "N"
  | 0xA0 => "_"
  | 0x2028 => "L"
  | 0x2029 => "P"
  | n =>
    if n ≤ 0xFF then String.ofList ('x' :: hexDigits n 2)
    else if n ≤ 0xFFFF then String.ofList ('u' :: hexDigits n 4)
    else String.ofList ('U' :: hexDigits n 8)

/-- Writes a double-quoted scalar: characters that do not print, breaks, the
byte order mark, the quote and the backslash are escaped. -/
def writeDoubleQuoted (value : String) : WriteM Unit := do
  writeIndicator "\"" true false false
  for c in value.toList do
    if !isPrintable c || c == '\uFEFF' || isLineBreak c || c == '"' || c == '\\' then
      putAll ("\\" ++ escapeOf c)
    else put c
  writeIndicator "\"" false false false
  modify fun w => { w with whitespace := false, indention := false }

/-- The indicators after `|`: an indentation digit when the text starts with
a space or a break, and how trailing breaks are kept: `-` for none, nothing
for one, `+` for more (which leaves the document open-ended). -/
def writeBlockHints (value : String) : WriteM Unit := do
  let cs := value.toList
  match cs.head? with
  | some c => if c == ' ' || isLineBreak c then writeIndicator "2" false false false
  | none => pure ()
  modify fun w => { w with openEnded := 0 }
  let rev := cs.reverse
  let chomp : Option String := match rev with
    | [] => some "-"
    | last :: before =>
      if !isLineBreak last then some "-"
      else match before with
        | [] => some "+"
        | prev :: _ => if isLineBreak prev then some "+" else none
  if chomp == some "+" then modify fun w => { w with openEnded := 2 }
  match chomp with
  | some h => writeIndicator h false false false
  | none => pure ()

/-- Writes the lines of a literal scalar. -/
def literalChars : List Char → Bool → WriteM Unit
  | [], _ => pure ()
  | c :: rest, breaks => do
    if isLineBreak c then
      writeBreak c
      setIndention true
      literalChars rest true
    else
      if breaks then writeIndent
      put c
      setIndention false
      literalChars rest false

/-- Writes a literal block scalar. -/
def writeLiteral (value : String) : WriteM Unit := do
  writeIndicator "|" true false false
  writeBlockHints value
  putBreak
  modify fun w => { w with indention := true, whitespace := true }
  literalChars value.toList true

/-- Writes a scalar in a style. -/
def writeScalar (style : ScalarStyle) (value : String) : WriteM Unit :=
  match style with
  | .plain => writePlain value
  | .singleQuoted => writeSingleQuoted value
  | .doubleQuoted => writeDoubleQuoted value
  | .literal | .folded => writeLiteral value

/-- Whether a collection starting with `ev` is empty. -/
def isEmptyCollection (ev : WriteEvent) (next : Option WriteEvent) : Bool :=
  match ev, next with
  | .sequenceStart _, some n => n.isSequenceEnd
  | .mappingStart _, some n => n.isMappingEnd
  | _, _ => false

/-- Whether a key can be written on one line before its `:`. -/
def isSimpleKey (ev : WriteEvent) (next : Option WriteEvent) (a : Analysis) : Bool :=
  let tagLength := (a.tag.map TagParts.length).getD 0
  match ev with
  | .scalar .. => !a.facts.multiline && tagLength + a.length ≤ 128
  | .sequenceStart _ | .mappingStart _ => isEmptyCollection ev next && tagLength ≤ 128
  | _ => false

/-- Writes a node, standing as a document's root, a sequence item, a mapping
key or value, or a key on one line. -/
def writeNode (ev : WriteEvent) (next : Option WriteEvent) (a : Analysis)
    (root inSequence inMapping simpleKey : Bool) : WriteM Unit := do
  modify fun w => { w with root := root, inSequence := inSequence, inMapping := inMapping,
                           simpleKey := simpleKey }
  match ev with
  | .scalar _ value requested =>
    let style := chooseStyle (← get) a requested
    writeTag a.tag
    increaseIndent true false
    writeScalar style value
    popIndent
    popState
  | .sequenceStart _ =>
    writeTag a.tag
    let w ← get
    if w.flowLevel > 0 || isEmptyCollection ev next then goTo .flowSequenceFirstItem
    else goTo .blockSequenceFirstItem
  | .mappingStart _ =>
    writeTag a.tag
    let w ← get
    if w.flowLevel > 0 || isEmptyCollection ev next then goTo .flowMappingFirstKey
    else goTo .blockMappingFirstKey
  | _ => fail "expected SCALAR, SEQUENCE-START, MAPPING-START, or ALIAS"

/-- Writes the start of a document, or ends the stream. Only the first
document goes without `---`. -/
def writeDocumentStart (ev : WriteEvent) (first : Bool) : WriteM Unit := do
  match ev with
  | .documentStart =>
    modify fun w => { w with openEnded := 0 }
    if !first then
      writeIndent
      writeIndicator "---" true false false
    modify fun w => { w with state := .documentContent, openEnded := 0 }
  | .streamEnd =>
    if (← get).openEnded == 2 then
      writeIndicator "..." true false false
      modify fun w => { w with openEnded := 0 }
      writeIndent
    flush
    goTo .finished
  | _ => fail "expected DOCUMENT-START or STREAM-END"

/-- Writes the implicit end of a document, which leaves no mark, and hands the
document's text over. A document whose last scalar keeps trailing breaks stays
open-ended: only a later document or the end of the stream closes it. -/
def writeDocumentEnd (ev : WriteEvent) : WriteM Unit := do
  match ev with
  | .documentEnd =>
    writeIndent
    if (← get).openEnded == 0 then modify fun w => { w with openEnded := 1 }
    flush
    goTo .documentStart
  | _ => fail "expected DOCUMENT-END"

/-- Writes an item of a flow sequence, or its end. -/
def writeFlowSequenceItem (ev : WriteEvent) (next : Option WriteEvent) (a : Analysis)
    (first : Bool) : WriteM Unit := do
  if first then
    writeIndicator "[" true true false
    increaseIndent true false
    modify fun w => { w with flowLevel := w.flowLevel + 1 }
  match ev with
  | .sequenceEnd =>
    modify fun w => { w with flowLevel := w.flowLevel - 1 }
    popIndent
    writeIndicator "]" false false false
    popState
  | _ =>
    if !first then writeIndicator "," false false false
    pushState .flowSequenceItem
    writeNode ev next a false true false false

/-- Writes a key of a flow mapping, or its end. -/
def writeFlowMappingKey (ev : WriteEvent) (next : Option WriteEvent) (a : Analysis)
    (first : Bool) : WriteM Unit := do
  if first then
    writeIndicator "\x7b" true true false
    increaseIndent true false
    modify fun w => { w with flowLevel := w.flowLevel + 1 }
  match ev with
  | .mappingEnd =>
    modify fun w => { w with flowLevel := w.flowLevel - 1 }
    popIndent
    writeIndicator "\x7d" false false false
    popState
  | _ =>
    if !first then writeIndicator "," false false false
    if isSimpleKey ev next a then
      pushState .flowMappingSimpleValue
      writeNode ev next a false false true true
    else
      writeIndicator "?" true false false
      pushState .flowMappingValue
      writeNode ev next a false false true false

/-- Writes a value of a flow mapping. -/
def writeFlowMappingValue (ev : WriteEvent) (next : Option WriteEvent) (a : Analysis)
    (simple : Bool) : WriteM Unit := do
  if simple then writeIndicator ":" false false false
  else writeIndicator ":" true false false
  pushState .flowMappingKey
  writeNode ev next a false false true false

/-- Writes an item of a block sequence, or its end. A sequence that is a
mapping's value on a line of its own stays at the key's column. -/
def writeBlockSequenceItem (ev : WriteEvent) (next : Option WriteEvent) (a : Analysis)
    (first : Bool) : WriteM Unit := do
  if first then
    let w ← get
    increaseIndent false (w.inMapping && !w.indention)
  match ev with
  | .sequenceEnd =>
    popIndent
    popState
  | _ =>
    writeIndent
    writeIndicator "-" true false true
    pushState .blockSequenceItem
    writeNode ev next a false true false false

/-- Writes a key of a block mapping, or its end. -/
def writeBlockMappingKey (ev : WriteEvent) (next : Option WriteEvent) (a : Analysis)
    (first : Bool) : WriteM Unit := do
  if first then increaseIndent false false
  match ev with
  | .mappingEnd =>
    popIndent
    popState
  | _ =>
    writeIndent
    if isSimpleKey ev next a then
      pushState .blockMappingSimpleValue
      writeNode ev next a false false true true
    else
      writeIndicator "?" true false true
      pushState .blockMappingValue
      writeNode ev next a false false true false

/-- Writes a value of a block mapping: after `:` on the key's line for a
simple key, else on a line of its own. -/
def writeBlockMappingValue (ev : WriteEvent) (next : Option WriteEvent) (a : Analysis)
    (simple : Bool) : WriteM Unit := do
  if simple then writeIndicator ":" false false false
  else
    writeIndent
    writeIndicator ":" true false true
  pushState .blockMappingKey
  writeNode ev next a false false true false

/-- Writes one event, the one after it given when it is waiting. -/
def writeEvent (ev : WriteEvent) (next : Option WriteEvent) : WriteM Unit := do
  let a ← liftM (m := Except Error) (analyze ev)
  match (← get).state with
  | .streamStart =>
    modify fun w => { w with openEnded := 0 }
    match ev with
    | .streamStart =>
      modify fun w => { w with indent := -1, column := 0, whitespace := true, indention := true,
                               state := .firstDocumentStart }
    | _ => fail "expected STREAM-START"
  | .firstDocumentStart => writeDocumentStart ev true
  | .documentStart => writeDocumentStart ev false
  | .documentContent =>
    pushState .documentEnd
    writeNode ev next a true false false false
  | .documentEnd => writeDocumentEnd ev
  | .flowSequenceFirstItem => writeFlowSequenceItem ev next a true
  | .flowSequenceItem => writeFlowSequenceItem ev next a false
  | .flowMappingFirstKey => writeFlowMappingKey ev next a true
  | .flowMappingKey => writeFlowMappingKey ev next a false
  | .flowMappingSimpleValue => writeFlowMappingValue ev next a true
  | .flowMappingValue => writeFlowMappingValue ev next a false
  | .blockSequenceFirstItem => writeBlockSequenceItem ev next a true
  | .blockSequenceItem => writeBlockSequenceItem ev next a false
  | .blockMappingFirstKey => writeBlockMappingKey ev next a true
  | .blockMappingKey => writeBlockMappingKey ev next a false
  | .blockMappingSimpleValue => writeBlockMappingValue ev next a true
  | .blockMappingValue => writeBlockMappingValue ev next a false
  | .finished => fail "expected nothing"

/-- Writes waiting events while none of them needs to see more. -/
def drain : Nat → WriteM Unit
  | 0 => pure ()
  | fuel + 1 => do
    let q := (← get).queue
    if needsMore q then pure ()
    else
      match q with
      | [] => pure ()
      | ev :: rest =>
        writeEvent ev rest.head?
        modify fun w => { w with queue := w.queue.drop 1 }
        drain fuel

/-- Hands an event to the writer, which writes what it can. -/
def emit (ev : WriteEvent) : WriteM Unit := do
  modify fun w => { w with queue := w.queue ++ [ev] }
  drain ((← get).queue.length + 1)

end Writer

end DocBlocks.Yaml

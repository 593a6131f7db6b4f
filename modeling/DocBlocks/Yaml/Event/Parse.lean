import DocBlocks.Yaml.Event
import DocBlocks.Yaml.Token.Scan

/-!
# The parser

The parser reads tokens and produces events, following the grammar of YAML
streams: documents, each with optional directives and one node; nodes with
an optional anchor and tag; block and flow collections. It asks the scanner
for one token at a time, so a fault later in the text is found only once the
parser gets there.

`Event.parseAll` gives every event up to the end of the stream, or the events
before the first fault together with that fault.
-/

namespace DocBlocks.Yaml

/-- Where the parser is in the grammar. -/
inductive ParseState where
  | streamStart
  | implicitDocumentStart
  | documentStart
  | documentContent
  | documentEnd
  | blockNode
  | blockNodeOrIndentlessSequence
  | flowNode
  | blockSequenceFirstEntry
  | blockSequenceEntry
  | indentlessSequenceEntry
  | blockMappingFirstKey
  | blockMappingKey
  | blockMappingValue
  | flowSequenceFirstEntry
  | flowSequenceEntry
  | flowSequenceEntryMappingKey
  | flowSequenceEntryMappingValue
  | flowSequenceEntryMappingEnd
  | flowMappingFirstKey
  | flowMappingKey
  | flowMappingValue
  | flowMappingEmptyValue
  | finished
  deriving Inhabited, Repr, DecidableEq

/-- The state of the parser. -/
structure Parser where
  /-- the scanner it takes tokens from -/
  scanner : Scanner
  /-- where it is -/
  state : ParseState := .streamStart
  /-- where to go back to after the nodes being read -/
  states : Array ParseState := #[]
  /-- where the collections being read start -/
  marks : Array Mark := #[]
  /-- the tag handles of the current document and their prefixes -/
  tagDirectives : Array (String × String) := #[]
  deriving Inhabited

/-- Parsing: a state of the parser, and failure with an error. -/
abbrev ParseM := StateT Parser (Except Error)

/-- Runs a step of the scanner. -/
def liftScan (m : ScanM α) : ParseM α := fun p =>
  match m.run p.scanner with
  | .ok (a, sc) => .ok (a, { p with scanner := sc })
  | .error e => .error e

/-- The next token. -/
def peek : ParseM Token := liftScan peekToken

/-- Takes the next token. -/
def skip : ParseM Unit := liftScan skipToken

/-- Goes to the given state. -/
def goTo (st : ParseState) : ParseM Unit := modify fun p => { p with state := st }

/-- Remembers a state to come back to. -/
def pushState (st : ParseState) : ParseM Unit :=
  modify fun p => { p with states := p.states.push st }

/-- Comes back to the last remembered state. -/
def popState : ParseM Unit :=
  modify fun p => { p with state := p.states.back?.getD .finished, states := p.states.pop }

/-- Remembers where a collection starts. -/
def pushMark (m : Mark) : ParseM Unit := modify fun p => { p with marks := p.marks.push m }

/-- Forgets where the innermost collection starts, giving it. -/
def popMark : ParseM Mark := do
  let p ← get
  set { p with marks := p.marks.pop }
  return p.marks.back?.getD {}

/-- A fault of the grammar at `mark`. -/
def parseFault (problem : String) (mark : Mark) : ParseM α :=
  throw (Error.malformed problem mark none 0)

/-- A fault of the grammar at `mark`, inside the construct `context` that
starts at `contextMark`. -/
def parseFaultIn (context : String) (contextMark : Mark) (problem : String) (mark : Mark) :
    ParseM α :=
  throw (Error.malformed problem mark (some (context, contextMark)) 0)

/-- An empty plain scalar at `mark`, for a node that is left out. -/
def emptyScalar (mark : Mark) : Event := ⟨.scalar none none "" .plain, mark, mark⟩

/-- The handles every document has: `!` and `!!`. -/
def defaultTagDirectives : List (String × String) :=
  [("!", "!"), ("!!", "tag:yaml.org,2002:")]

/-- Adds a tag directive; a second directive for one handle is a fault unless
`allowDuplicates`, when it is ignored. -/
def appendTagDirective (handle pfx : String) (allowDuplicates : Bool) (mark : Mark) :
    ParseM Unit := do
  let p ← get
  if p.tagDirectives.any (·.1 == handle) then
    if !allowDuplicates then parseFault "found duplicate %TAG directive" mark
  else set { p with tagDirectives := p.tagDirectives.push (handle, pfx) }

/-- Reads the directives before a document, then adds the default handles. -/
def processDirectives : ParseM Unit := do
  let rec loop (versionSeen : Bool) : Nat → ParseM Unit
    | 0 => pure ()
    | fuel + 1 => do
      let t ← peek
      match t.kind with
      | .versionDirective major minor =>
        if versionSeen then parseFault "found duplicate %YAML directive" t.start
        if major != 1 || (minor != 1 && minor != 2) then
          parseFault "found incompatible YAML document" t.start
        skip
        loop true fuel
      | .tagDirective handle pfx =>
        appendTagDirective handle pfx false t.start
        skip
        loop versionSeen fuel
      | _ => pure ()
  loop false ((← get).scanner.remaining + 1)
  let t ← peek
  for (handle, pfx) in defaultTagDirectives do
    appendTagDirective handle pfx true t.start

/-- The start of a document, or the end of the stream. Only the first
document may start without `---`; `...` markers between documents are
skipped. -/
def parseDocumentStart (implicit : Bool) : ParseM Event := do
  if !implicit then
    let rec skipEnds : Nat → ParseM Unit
      | 0 => pure ()
      | fuel + 1 => do
        if (← peek).kind.isDocumentEnd then
          skip
          skipEnds fuel
    skipEnds ((← get).scanner.remaining + 1)
  let t ← peek
  if implicit && !t.kind.isDirective && !t.kind.isDocumentStart && !t.kind.isStreamEnd then
    processDirectives
    pushState .documentEnd
    goTo .blockNode
    return ⟨.documentStart true, t.start, t.start⟩
  else if !t.kind.isStreamEnd then
    let start := t.start
    processDirectives
    let t ← peek
    if !t.kind.isDocumentStart then
      parseFault "did not find expected <document start>" t.start
    pushState .documentEnd
    goTo .documentContent
    skip
    return ⟨.documentStart false, start, t.stop⟩
  else
    goTo .finished
    skip
    return ⟨.streamEnd, t.start, t.stop⟩

/-- The end of a document, explicit with `...` or implicit. -/
def parseDocumentEnd : ParseM Event := do
  let t ← peek
  let (implicit, stop) ←
    if t.kind.isDocumentEnd then
      skip
      pure (false, t.stop)
    else pure (true, t.start)
  modify fun p => { p with tagDirectives := #[], state := .documentStart }
  return ⟨.documentEnd implicit, t.start, stop⟩

/-- The full tag of a handle and suffix, by the document's tag directives. -/
def resolveTag (handle suffix : String) (nodeStart tagMark : Mark) : ParseM String := do
  if handle.isEmpty then return suffix
  match (← get).tagDirectives.find? (·.1 == handle) with
  | some (_, pfx) => return pfx ++ suffix
  | none => parseFaultIn "while parsing a node" nodeStart "found undefined tag handle" tagMark

/-- A node: an alias, or an optional anchor and tag (in either order) before
a scalar or a collection. With neither content nor properties it is a fault;
with properties alone it is an empty scalar. -/
def parseNode (block indentlessSequence : Bool) : ParseM Event := do
  let t ← peek
  match t.kind with
  | .alias name =>
    popState
    skip
    return ⟨.alias name, t.start, t.stop⟩
  | _ =>
    let start := t.start
    -- anchor and tag, in either order
    let (anchor, tagParts, stop) ← match t.kind with
      | .anchor name => do
        skip
        let t2 ← peek
        match t2.kind with
        | .tag h s => skip; pure (some name, some (h, s, t2.start), t2.stop)
        | _ => pure (some name, none, t.stop)
      | .tag h s => do
        skip
        let t2 ← peek
        match t2.kind with
        | .anchor name => skip; pure (some name, some (h, s, t.start), t2.stop)
        | _ => pure (none, some (h, s, t.start), t.stop)
      | _ => pure (none, none, t.start)
    let tag ← match tagParts with
      | some (h, s, tagMark) => some <$> resolveTag h s start tagMark
      | none => pure none
    let t ← peek
    match t.kind with
    | .blockEntry =>
      if indentlessSequence then
        goTo .indentlessSequenceEntry
        return ⟨.sequenceStart anchor tag false, start, t.stop⟩
      else content t start stop anchor tag
    | _ => content t start stop anchor tag
where
  /-- The node's content after its properties. -/
  content (t : Token) (start stop : Mark) (anchor tag : Option String) : ParseM Event := do
    match t.kind with
    | .scalar value style =>
      popState
      skip
      return ⟨.scalar anchor tag value style, start, t.stop⟩
    | .flowSequenceStart =>
      goTo .flowSequenceFirstEntry
      return ⟨.sequenceStart anchor tag true, start, t.stop⟩
    | .flowMappingStart =>
      goTo .flowMappingFirstKey
      return ⟨.mappingStart anchor tag true, start, t.stop⟩
    | .blockSequenceStart =>
      if block then
        goTo .blockSequenceFirstEntry
        return ⟨.sequenceStart anchor tag false, start, t.stop⟩
      else noContent t start stop anchor tag
    | .blockMappingStart =>
      if block then
        goTo .blockMappingFirstKey
        return ⟨.mappingStart anchor tag false, start, t.stop⟩
      else noContent t start stop anchor tag
    | _ => noContent t start stop anchor tag
  /-- A node without content: empty if it has properties, else a fault. -/
  noContent (t : Token) (start stop : Mark) (anchor tag : Option String) : ParseM Event := do
    if anchor.isSome || tag.isSome then
      popState
      return ⟨.scalar anchor tag "" .plain, start, stop⟩
    else
      parseFaultIn (if block then "while parsing a block node" else "while parsing a flow node")
        start "did not find expected node content" t.start

/-- An entry of a block sequence, or its end. -/
def parseBlockSequenceEntry (first : Bool) : ParseM Event := do
  if first then
    pushMark (← peek).start
    skip
  let t ← peek
  match t.kind with
  | .blockEntry =>
    skip
    let t2 ← peek
    if !t2.kind.isBlockEntry && !t2.kind.isBlockEnd then
      pushState .blockSequenceEntry
      parseNode true false
    else
      goTo .blockSequenceEntry
      return emptyScalar t.stop
  | .blockEnd =>
    popState
    let _ ← popMark
    skip
    return ⟨.sequenceEnd, t.start, t.stop⟩
  | _ =>
    let m ← popMark
    parseFaultIn "while parsing a block collection" m "did not find expected '-' indicator" t.start

/-- An entry of a sequence written at its mapping's indentation. -/
def parseIndentlessSequenceEntry : ParseM Event := do
  let t ← peek
  match t.kind with
  | .blockEntry =>
    skip
    let t2 ← peek
    if !t2.kind.isBlockEntry && !t2.kind.isKey && !t2.kind.isValue && !t2.kind.isBlockEnd then
      pushState .indentlessSequenceEntry
      parseNode true false
    else
      goTo .indentlessSequenceEntry
      return emptyScalar t.stop
  | _ =>
    popState
    return ⟨.sequenceEnd, t.start, t.start⟩

/-- A key of a block mapping, or its end. -/
def parseBlockMappingKey (first : Bool) : ParseM Event := do
  if first then
    pushMark (← peek).start
    skip
  let t ← peek
  match t.kind with
  | .key =>
    skip
    let t2 ← peek
    if !t2.kind.isKey && !t2.kind.isValue && !t2.kind.isBlockEnd then
      pushState .blockMappingValue
      parseNode true true
    else
      goTo .blockMappingValue
      return emptyScalar t.stop
  | .blockEnd =>
    popState
    let _ ← popMark
    skip
    return ⟨.mappingEnd, t.start, t.stop⟩
  | _ =>
    let m ← popMark
    parseFaultIn "while parsing a block mapping" m "did not find expected key" t.start

/-- A value of a block mapping; a key without `:` has an empty value. -/
def parseBlockMappingValue : ParseM Event := do
  let t ← peek
  match t.kind with
  | .value =>
    skip
    let t2 ← peek
    if !t2.kind.isKey && !t2.kind.isValue && !t2.kind.isBlockEnd then
      pushState .blockMappingKey
      parseNode true true
    else
      goTo .blockMappingKey
      return emptyScalar t.stop
  | _ =>
    goTo .blockMappingKey
    return emptyScalar t.start

/-- An entry of a flow sequence, or its end. A `key: value` entry is a
mapping of one entry. -/
def parseFlowSequenceEntry (first : Bool) : ParseM Event := do
  if first then
    pushMark (← peek).start
    skip
  let t ← peek
  let t ←
    if !t.kind.isFlowSequenceEnd && !first then
      if t.kind.isFlowEntry then
        skip
        peek
      else
        let m ← popMark
        parseFaultIn "while parsing a flow sequence" m "did not find expected ',' or ']'" t.start
    else pure t
  if !t.kind.isFlowSequenceEnd then
    if t.kind.isKey then
      goTo .flowSequenceEntryMappingKey
      skip
      return ⟨.mappingStart none none true, t.start, t.stop⟩
    else
      pushState .flowSequenceEntry
      parseNode false false
  else
    popState
    let _ ← popMark
    skip
    return ⟨.sequenceEnd, t.start, t.stop⟩

/-- The key of a one-entry mapping inside a flow sequence. -/
def parseFlowSequenceEntryMappingKey : ParseM Event := do
  let t ← peek
  if !t.kind.isValue && !t.kind.isFlowEntry && !t.kind.isFlowSequenceEnd then
    pushState .flowSequenceEntryMappingValue
    parseNode false false
  else
    goTo .flowSequenceEntryMappingValue
    return emptyScalar t.stop

/-- The value of a one-entry mapping inside a flow sequence. -/
def parseFlowSequenceEntryMappingValue : ParseM Event := do
  let t ← peek
  if t.kind.isValue then
    skip
    let t2 ← peek
    if !t2.kind.isFlowEntry && !t2.kind.isFlowSequenceEnd then
      pushState .flowSequenceEntryMappingEnd
      return ← parseNode false false
    goTo .flowSequenceEntryMappingEnd
    return emptyScalar t2.start
  goTo .flowSequenceEntryMappingEnd
  return emptyScalar t.start

/-- The end of a one-entry mapping inside a flow sequence. -/
def parseFlowSequenceEntryMappingEnd : ParseM Event := do
  let t ← peek
  goTo .flowSequenceEntry
  return ⟨.mappingEnd, t.start, t.start⟩

/-- A key of a flow mapping, or its end. -/
def parseFlowMappingKey (first : Bool) : ParseM Event := do
  if first then
    pushMark (← peek).start
    skip
  let t ← peek
  let t ←
    if !t.kind.isFlowMappingEnd && !first then
      if t.kind.isFlowEntry then
        skip
        peek
      else
        let m ← popMark
        parseFaultIn "while parsing a flow mapping" m "did not find expected ',' or '\x7d'" t.start
    else pure t
  if !t.kind.isFlowMappingEnd then
    if t.kind.isKey then
      skip
      let t2 ← peek
      if !t2.kind.isValue && !t2.kind.isFlowEntry && !t2.kind.isFlowMappingEnd then
        pushState .flowMappingValue
        parseNode false false
      else
        goTo .flowMappingValue
        return emptyScalar t2.start
    else
      pushState .flowMappingEmptyValue
      parseNode false false
  else
    popState
    let _ ← popMark
    skip
    return ⟨.mappingEnd, t.start, t.stop⟩

/-- A value of a flow mapping; `empty` for a key written without `:`. -/
def parseFlowMappingValue (empty : Bool) : ParseM Event := do
  let t ← peek
  if empty then
    goTo .flowMappingKey
    return emptyScalar t.start
  if t.kind.isValue then
    skip
    let t2 ← peek
    if !t2.kind.isFlowEntry && !t2.kind.isFlowMappingEnd then
      pushState .flowMappingKey
      return ← parseNode false false
    goTo .flowMappingKey
    return emptyScalar t2.start
  goTo .flowMappingKey
  return emptyScalar t.start

/-- The content of an explicit document; a document of markers alone holds an
empty scalar. -/
def parseDocumentContent : ParseM Event := do
  let t ← peek
  if t.kind.isDirective || t.kind.isDocumentStart || t.kind.isDocumentEnd || t.kind.isStreamEnd then
    popState
    return emptyScalar t.start
  else parseNode true false

/-- The first token of the stream. -/
def parseStreamStart : ParseM Event := do
  let t ← peek
  match t.kind with
  | .streamStart =>
    goTo .implicitDocumentStart
    skip
    return ⟨.streamStart, t.start, t.start⟩
  | _ => parseFault "did not find expected <stream-start>" t.start

/-- The next event. -/
def parseEvent : ParseM Event := do
  match (← get).state with
  | .streamStart => parseStreamStart
  | .implicitDocumentStart => parseDocumentStart true
  | .documentStart => parseDocumentStart false
  | .documentContent => parseDocumentContent
  | .documentEnd => parseDocumentEnd
  | .blockNode => parseNode true false
  | .blockNodeOrIndentlessSequence => parseNode true true
  | .flowNode => parseNode false false
  | .blockSequenceFirstEntry => parseBlockSequenceEntry true
  | .blockSequenceEntry => parseBlockSequenceEntry false
  | .indentlessSequenceEntry => parseIndentlessSequenceEntry
  | .blockMappingFirstKey => parseBlockMappingKey true
  | .blockMappingKey => parseBlockMappingKey false
  | .blockMappingValue => parseBlockMappingValue
  | .flowSequenceFirstEntry => parseFlowSequenceEntry true
  | .flowSequenceEntry => parseFlowSequenceEntry false
  | .flowSequenceEntryMappingKey => parseFlowSequenceEntryMappingKey
  | .flowSequenceEntryMappingValue => parseFlowSequenceEntryMappingValue
  | .flowSequenceEntryMappingEnd => parseFlowSequenceEntryMappingEnd
  | .flowMappingFirstKey => parseFlowMappingKey true
  | .flowMappingKey => parseFlowMappingKey false
  | .flowMappingValue => parseFlowMappingValue false
  | .flowMappingEmptyValue => parseFlowMappingValue true
  | .finished => let m := (← get).scanner.mark; return ⟨.streamEnd, m, m⟩

/-- Events until the end of the stream or the first fault. -/
def parseEvents (p : Parser) (acc : Array Event) : Nat → Array Event × Option Error
  | 0 => (acc, none)
  | fuel + 1 =>
    match parseEvent.run p with
    | .error e => (acc, some e)
    | .ok (ev, p') =>
      match ev.kind with
      | .streamEnd => (acc.push ev, none)
      | _ => parseEvents p' (acc.push ev) fuel

/-- Every event of a text up to the end of the stream, or the events before
the first fault together with that fault. A character that no text may hold
is a fault before any event. -/
def Event.parseAll (text : String) : Array Event × Option Error :=
  match disallowedOffset? text.toList with
  | some offset => (#[], some (Error.malformed "control characters are not allowed" {} none offset))
  | none =>
    let sc := Scanner.start text
    parseEvents { scanner := sc } #[] (8 * (sc.input.size + 8))

end DocBlocks.Yaml

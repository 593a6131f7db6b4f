import DocBlocks.Yaml.Token

/-!
# The scanner

The scanner reads a YAML text character by character and queues tokens for
the parser. Block structure comes from indentation: a key or entry at a
deeper column opens a block collection (an implicit start token), and a line
at a shallower column closes it (end tokens). Whether a scalar is a mapping
key is known only when a `:` follows it on the same line, so the scanner
remembers a *possible simple key* per flow level and inserts the key token
(and a block mapping start) back at its place once the `:` arrives. The parser
takes a token only when no possible simple key could still be inserted before
it.

Every fault the scanner finds is an `Error.malformed` with the position where
it stopped and the position where the construct it was reading started.
-/

namespace DocBlocks.Yaml

/-! ## Character classes -/

/-- Line breaks: carriage return, line feed, next line, line and paragraph
separators. -/
def isBreak (c : Char) : Bool :=
  c == '\r' || c == '\n' || c == '\x85' || c == '\u2028' || c == '\u2029'

/-- The end of the text reads as the character zero, which no text holds. -/
def isEnd (c : Char) : Bool := c == '\x00'

/-- A line break or the end of the text. -/
def isBreakOrEnd (c : Char) : Bool := isBreak c || isEnd c

/-- A space or a tab. -/
def isWhite (c : Char) : Bool := c == ' ' || c == '\t'

/-- A space, a tab, a line break or the end of the text. -/
def isWhiteOrEnd (c : Char) : Bool := isWhite c || isBreakOrEnd c

/-- The characters of anchor names, tag handles and directive names:
ASCII letters and digits, `_` and `-`. -/
def isNameChar (c : Char) : Bool := c.isAlphanum || c == '_' || c == '-'

/-- A hexadecimal digit. -/
def isHexDigit (c : Char) : Bool :=
  c.isDigit || ('a' ≤ c && c ≤ 'f') || ('A' ≤ c && c ≤ 'F')

/-- The value of a hexadecimal digit. -/
def hexValue (c : Char) : Nat :=
  if c.isDigit then c.toNat - '0'.toNat
  else if 'a' ≤ c && c ≤ 'f' then c.toNat - 'a'.toNat + 10
  else c.toNat - 'A'.toNat + 10

/-- The characters a text may hold at all. -/
def isAllowedChar (c : Char) : Bool :=
  let n := c.toNat
  n == 0x09 || n == 0x0A || n == 0x0D || (0x20 ≤ n && n ≤ 0x7E) || n == 0x85 ||
    (0xA0 ≤ n && n ≤ 0xD7FF) || (0xE000 ≤ n && n ≤ 0xFFFD) || 0x10000 ≤ n

/-- The byte offset of the first character that a text may not hold. -/
def disallowedOffset? (cs : List Char) : Option Nat :=
  go cs 0
where
  /-- Walks the characters with the byte offset reached so far. -/
  go : List Char → Nat → Option Nat
    | [], _ => none
    | c :: rest, offset => if isAllowedChar c then go rest (offset + c.utf8Size) else some offset

/-! ## Scanner state -/

/-- A place where a simple key may start. -/
structure SimpleKey where
  /-- whether a key may still start here -/
  possible : Bool := false
  /-- whether a key must start here (a block key at the indentation column) -/
  required : Bool := false
  /-- the number of the token the key token would come before -/
  tokenNumber : Nat := 0
  /-- where the key would start -/
  mark : Mark := {}
  deriving Inhabited, Repr

/-- The state of the scanner. -/
structure Scanner where
  /-- the characters of the text -/
  input : Array Char
  /-- the index of the next character -/
  pos : Nat := 0
  /-- the position of the next character -/
  mark : Mark := {}
  /-- tokens scanned and not yet taken -/
  queue : Array Token := #[]
  /-- tokens taken so far -/
  tokensParsed : Nat := 0
  /-- whether the head of the queue may be taken -/
  tokenAvailable : Bool := false
  /-- whether the stream start token was queued -/
  streamStartProduced : Bool := false
  /-- the current indentation column, `-1` outside every block collection -/
  indent : Int := -1
  /-- the indentation columns of the enclosing block collections -/
  indents : Array Int := #[]
  /-- whether a simple key may start at the next token -/
  simpleKeyAllowed : Bool := false
  /-- the possible simple key of each flow level, innermost last -/
  simpleKeys : Array SimpleKey := #[]
  /-- how many flow collections enclose the position -/
  flowLevel : Nat := 0
  deriving Inhabited

namespace Scanner

/-- The scanner at the start of a text; a byte order mark at its start is
no character of it. -/
def start (text : String) : Scanner :=
  let cs := match text.toList with
    | '\uFEFF' :: rest => rest
    | cs => cs
  { input := cs.toArray }

/-- The character `k` places ahead, or the end character. -/
def ahead (s : Scanner) (k : Nat) : Char := s.input.getD (s.pos + k) '\x00'

/-- A bound on the steps of any loop over the rest of the text. -/
def remaining (s : Scanner) : Nat := s.input.size - s.pos + 1

end Scanner

/-- Scanning: a state of the scanner, and failure with an error. -/
abbrev ScanM := StateT Scanner (Except Error)

/-! ## Moving through the text -/

/-- Moves past one character that is not a line break. -/
def advance : ScanM Unit :=
  modify fun s =>
    { s with pos := s.pos + 1,
             mark := { s.mark with index := s.mark.index + (s.ahead 0).utf8Size,
                                   column := s.mark.column + 1 } }

/-- Moves past a line break; a carriage return and line feed count as one. -/
def advanceBreak : ScanM Unit :=
  modify fun s =>
    if s.ahead 0 == '\r' && s.ahead 1 == '\n' then
      { s with pos := s.pos + 2, mark := ⟨s.mark.index + 2, s.mark.line + 1, 0⟩ }
    else if isBreak (s.ahead 0) then
      { s with pos := s.pos + 1, mark := ⟨s.mark.index + (s.ahead 0).utf8Size, s.mark.line + 1, 0⟩ }
    else s

/-- Reads a line break as scalars hold it: carriage return, line feed, both,
or next line become a line feed; line and paragraph separators stay. -/
def readBreak : ScanM String := do
  let s ← get
  let c := s.ahead 0
  if c == '\r' && s.ahead 1 == '\n' then
    set { s with pos := s.pos + 2, mark := ⟨s.mark.index + 2, s.mark.line + 1, 0⟩ }
    return "\n"
  else if c == '\r' || c == '\n' || c == '\x85' then
    set { s with pos := s.pos + 1, mark := ⟨s.mark.index + c.utf8Size, s.mark.line + 1, 0⟩ }
    return "\n"
  else if c == '\u2028' || c == '\u2029' then
    set { s with pos := s.pos + 1, mark := ⟨s.mark.index + c.utf8Size, s.mark.line + 1, 0⟩ }
    return String.singleton c
  else return ""

/-- The current character. -/
def current : ScanM Char := do return (← get).ahead 0

/-- The character after the current one. -/
def next : ScanM Char := do return (← get).ahead 1

/-- The current position. -/
def here : ScanM Mark := do return (← get).mark

/-- Moves past characters while `p` holds of the scanner. -/
def skipWhile (p : Scanner → Bool) : Nat → ScanM Unit
  | 0 => pure ()
  | fuel + 1 => do
    if p (← get) then
      advance
      skipWhile p fuel

/-- Appends characters to `acc` while `p` holds of the current one. -/
def readWhile (p : Char → Bool) (acc : String) : Nat → ScanM String
  | 0 => pure acc
  | fuel + 1 => do
    let c ← current
    if p c then
      advance
      readWhile p (acc.push c) fuel
    else pure acc

/-- A bound on the steps of any loop over the rest of the text. -/
def budget : ScanM Nat := do return (← get).remaining

/-- Fails with a fault found at the current position. -/
def fault (context : String) (contextMark : Mark) (problem : String) : ScanM α := do
  throw (Error.scanner context contextMark problem (← here))

/-- Fails with a fault that has no construct around it. -/
def bareFault (problem : String) : ScanM α := do
  throw (Error.malformed problem (← here) none 0)

/-- Whether the next characters are a document marker `---` or `...` at the
start of a line, followed by a blank or the end. -/
def atDocumentMarker (s : Scanner) : Bool :=
  s.mark.column == 0 &&
    ((s.ahead 0 == '-' && s.ahead 1 == '-' && s.ahead 2 == '-') ||
      (s.ahead 0 == '.' && s.ahead 1 == '.' && s.ahead 2 == '.')) &&
    isWhiteOrEnd (s.ahead 3)

/-! ## Simple keys and indentation -/

/-- Drops possible simple keys that can no longer be keys: those on an earlier
line, or more than 1024 bytes back. A required one is a fault. -/
def staleSimpleKeys : ScanM Unit := do
  let s ← get
  let keys ← s.simpleKeys.mapM fun k =>
    if k.possible && (k.mark.line < s.mark.line || k.mark.index + 1024 < s.mark.index) then
      if k.required then
        throw (Error.scanner "while scanning a simple key" k.mark "could not find expected ':'" s.mark)
      else pure { k with possible := false }
    else pure k
  set { s with simpleKeys := keys }

/-- Drops the possible simple key of the current flow level; a required one
is a fault. -/
def removeSimpleKey : ScanM Unit := do
  let s ← get
  match s.simpleKeys.back? with
  | none => pure ()
  | some k =>
    if k.possible && k.required then
      throw (Error.scanner "while scanning a simple key" k.mark "could not find expected ':'" s.mark)
    set { s with simpleKeys := s.simpleKeys.pop.push { k with possible := false } }

/-- Remembers that the next token may start a simple key. In a block
collection a key at the indentation column is required. -/
def saveSimpleKey : ScanM Unit := do
  let s ← get
  if s.simpleKeyAllowed then
    let key : SimpleKey :=
      { possible := true,
        required := s.flowLevel == 0 && s.indent == (s.mark.column : Int),
        tokenNumber := s.tokensParsed + s.queue.size,
        mark := s.mark }
    removeSimpleKey
    modify fun s => { s with simpleKeys := s.simpleKeys.pop.push key }

/-- Enters a flow collection. -/
def increaseFlowLevel : ScanM Unit :=
  modify fun s => { s with simpleKeys := s.simpleKeys.push {}, flowLevel := s.flowLevel + 1 }

/-- Leaves a flow collection. -/
def decreaseFlowLevel : ScanM Unit :=
  modify fun s =>
    if s.flowLevel > 0 then { s with flowLevel := s.flowLevel - 1, simpleKeys := s.simpleKeys.pop }
    else s

/-- Queues a token. -/
def enqueue (kind : TokenKind) (start stop : Mark) : ScanM Unit :=
  modify fun s => { s with queue := s.queue.push ⟨kind, start, stop⟩ }

/-- Opens a block collection at `column` if it is deeper than the current
indentation: the start token goes at the end of the queue, or at the place of
token `number`. Flow collections have no indentation. -/
def rollIndent (column : Int) (number : Option Nat) (kind : TokenKind) (mark : Mark) :
    ScanM Unit := do
  let s ← get
  if s.flowLevel == 0 && s.indent < column then
    let token : Token := ⟨kind, mark, mark⟩
    let queue := match number with
      | none => s.queue.push token
      | some n => s.queue.insertIdxIfInBounds (n - s.tokensParsed) token
    set { s with indents := s.indents.push s.indent, indent := column, queue }

/-- Closes the block collections deeper than `column`, one end token each. -/
def unrollIndent (column : Int) : Nat → ScanM Unit
  | 0 => pure ()
  | fuel + 1 => do
    let s ← get
    if s.flowLevel == 0 && s.indent > column then
      set { s with queue := s.queue.push ⟨.blockEnd, s.mark, s.mark⟩,
                   indent := s.indents.back?.getD (-1),
                   indents := s.indents.pop }
      unrollIndent column fuel

/-- Closes every block collection. -/
def unrollAll : ScanM Unit := do
  unrollIndent (-1) ((← get).indents.size + 1)

/-! ## Directives -/

/-- The name of a directive, which must be followed by a blank. -/
def scanDirectiveName (start : Mark) : ScanM String := do
  let name ← readWhile isNameChar "" (← budget)
  if name.isEmpty then
    fault "while scanning a directive" start "could not find expected directive name"
  if !isWhiteOrEnd (← current) then
    fault "while scanning a directive" start "found unexpected non-alphabetical character"
  return name

/-- One number of a `%YAML` version: one to nine digits. -/
def scanVersionNumber (start : Mark) (length value : Nat) : Nat → ScanM Nat
  | 0 => pure value
  | fuel + 1 => do
    let c ← current
    if c.isDigit then
      if length + 1 > 9 then
        fault "while scanning a %YAML directive" start "found extremely long version number"
      advance
      scanVersionNumber start (length + 1) (value * 10 + (c.toNat - '0'.toNat)) fuel
    else if length == 0 then
      fault "while scanning a %YAML directive" start "did not find expected version number"
    else pure value

/-- The version of a `%YAML` directive: two numbers and a dot between. -/
def scanVersionValue (start : Mark) : ScanM (Nat × Nat) := do
  skipWhile (fun s => isWhite (s.ahead 0)) (← budget)
  let major ← scanVersionNumber start 0 0 (← budget)
  if (← current) != '.' then
    fault "while scanning a %YAML directive" start "did not find expected digit or '.' character"
  advance
  let minor ← scanVersionNumber start 0 0 (← budget)
  return (major, minor)

/-- A tag handle: `!`, `!!` or `!name!`. Inside a directive only a complete
handle is one; in a tag, `!name` without its closing `!` is the start of a
suffix. -/
def scanTagHandle (directive : Bool) (start : Mark) : ScanM String := do
  if (← current) != '!' then
    fault (if directive then "while scanning a tag directive" else "while scanning a tag") start
      "did not find expected '!'"
  advance
  let handle ← readWhile isNameChar "!" (← budget)
  if (← current) == '!' then
    advance
    return handle.push '!'
  else
    if directive && handle != "!" then
      fault "while parsing a tag directive" start "did not find expected '!'"
    return handle

/-- The bytes of `%`-escaped octets, one UTF-8 sequence. -/
def scanUriEscape (directive : Bool) (start : Mark) (width : Nat) (acc : ByteArray) :
    Nat → ScanM ByteArray
  | 0 => pure acc
  | fuel + 1 => do
    let s ← get
    let context := if directive then "while parsing a %TAG directive" else "while parsing a tag"
    if !(s.ahead 0 == '%' && isHexDigit (s.ahead 1) && isHexDigit (s.ahead 2)) then
      fault context start "did not find URI escaped octet"
    let octet := hexValue (s.ahead 1) * 16 + hexValue (s.ahead 2)
    let width ←
      if width == 0 then
        let w :=
          if octet < 0x80 then 1 else if octet / 32 == 6 then 2
          else if octet / 16 == 14 then 3 else if octet / 8 == 30 then 4 else 0
        if w == 0 then fault context start "found an incorrect leading UTF-8 octet"
        pure w
      else
        if octet / 64 != 2 then fault context start "found an incorrect trailing UTF-8 octet"
        pure width
    advance; advance; advance
    let acc := acc.push octet.toUInt8
    if width == 1 then pure acc else scanUriEscape directive start (width - 1) acc fuel

/-- Whether `c` may appear in a tag. Brackets and commas only may inside
`!<…>` and in `%TAG` prefixes. -/
def isUriChar (brackets : Bool) (c : Char) : Bool :=
  isNameChar c || ";/?:@&=+$.%!~*'()".toList.contains c || (brackets && ",[]".toList.contains c)

/-- The characters of a tag after its handle. -/
def scanTagUriChars (brackets directive : Bool) (start : Mark) (acc : String) (length : Nat) :
    Nat → ScanM (String × Nat)
  | 0 => pure (acc, length)
  | fuel + 1 => do
    let c ← current
    if isUriChar brackets c then
      if c == '%' then
        let bytes ← scanUriEscape directive start 0 ByteArray.empty 4
        let text := (String.fromUTF8? bytes).getD "�"
        scanTagUriChars brackets directive start (acc ++ text) (length + 1) fuel
      else
        advance
        scanTagUriChars brackets directive start (acc.push c) (length + 1) fuel
    else pure (acc, length)

/-- A tag's suffix, continuing `head` (a handle that turned out to be the start
of the suffix) without its `!`. It must not be empty. -/
def scanTagUri (brackets directive : Bool) (head : String) (start : Mark) : ScanM String := do
  let init := if head.length > 1 then String.ofList (head.toList.drop 1) else ""
  let (uri, length) ← scanTagUriChars brackets directive start init head.length (← budget)
  if length == 0 then
    fault (if directive then "while parsing a %TAG directive" else "while parsing a tag") start
      "did not find expected tag URI"
  return uri

/-- The handle and prefix of a `%TAG` directive. -/
def scanTagDirectiveValue (start : Mark) : ScanM (String × String) := do
  skipWhile (fun s => isWhite (s.ahead 0)) (← budget)
  let handle ← scanTagHandle true start
  if !isWhite (← current) then
    fault "while scanning a %TAG directive" start "did not find expected whitespace"
  skipWhile (fun s => isWhite (s.ahead 0)) (← budget)
  let pfx ← scanTagUri true true "" start
  if !isWhiteOrEnd (← current) then
    fault "while scanning a %TAG directive" start "did not find expected whitespace or line break"
  return (handle, pfx)

/-- Skips blanks and a comment up to the end of the line. -/
def skipToLineEnd : ScanM Unit := do
  skipWhile (fun s => isWhite (s.ahead 0)) (← budget)
  if (← current) == '#' then
    skipWhile (fun s => !isBreakOrEnd (s.ahead 0)) (← budget)

/-- A `%YAML` or `%TAG` directive and the rest of its line. -/
def scanDirective : ScanM Token := do
  let start ← here
  advance
  let name ← scanDirectiveName start
  let kind ←
    if name == "YAML" then
      let (major, minor) ← scanVersionValue start
      pure (TokenKind.versionDirective major minor)
    else if name == "TAG" then
      let (handle, pfx) ← scanTagDirectiveValue start
      pure (TokenKind.tagDirective handle pfx)
    else
      fault "while scanning a directive" start "found unknown directive name"
  let stop ← here
  skipToLineEnd
  if !isBreakOrEnd (← current) then
    fault "while scanning a directive" start "did not find expected comment or line break"
  if isBreak (← current) then advanceBreak
  return ⟨kind, start, stop⟩

/-! ## Anchors, aliases and tags -/

/-- An anchor `&name` or an alias `*name`. -/
def scanAnchor (isAlias : Bool) : ScanM Token := do
  let start ← here
  advance
  let name ← readWhile isNameChar "" (← budget)
  let stop ← here
  let c ← current
  let ends := isWhiteOrEnd c || c == '?' || c == ':' || c == ',' || c == ']' || c == '}' ||
    c == '%' || c == '@' || c == '`'
  if name.isEmpty || !ends then
    fault (if isAlias then "while scanning an alias" else "while scanning an anchor") start
      "did not find expected alphabetic or numeric character"
  return ⟨if isAlias then .alias name else .anchor name, start, stop⟩

/-- A tag: `!<uri>`, `!handle!suffix`, `!suffix` or `!` alone. -/
def scanTag : ScanM Token := do
  let start ← here
  let (handle, suffix) ←
    if (← next) == '<' then
      advance; advance
      let suffix ← scanTagUri true false "" start
      if (← current) != '>' then
        fault "while scanning a tag" start "did not find the expected '>'"
      advance
      pure ("", suffix)
    else
      let handle ← scanTagHandle false start
      if handle.length > 1 && handle.back == '!' then
        let suffix ← scanTagUri false false "" start
        pure (handle, suffix)
      else
        let suffix ← scanTagUri false false handle start
        -- `!` alone: an empty handle and the suffix `!`
        if suffix.isEmpty then pure ("", "!") else pure ("!", suffix)
  let s ← get
  if !isWhiteOrEnd (s.ahead 0) && (s.flowLevel == 0 || s.ahead 0 != ',') then
    fault "while scanning a tag" start "did not find expected whitespace or line break"
  return ⟨.tag handle suffix, start, s.mark⟩

/-! ## Block scalars -/

/-- Skips the indentation and empty lines before a line of a block scalar,
collecting the line breaks. With no indentation given yet, it is the deepest
indentation among the empty lines, at least one more than the enclosing
collection's. -/
def blockScalarBreaks (indent : Nat) (start : Mark) (breaks : String) (stop : Mark)
    (maxIndent : Nat) : Nat → ScanM (Nat × String × Mark)
  | 0 => pure (indent, breaks, stop)
  | fuel + 1 => do
    skipWhile (fun s => (indent == 0 || s.mark.column < indent) && s.ahead 0 == ' ') (← budget)
    let s ← get
    let maxIndent := max maxIndent s.mark.column
    if (indent == 0 || s.mark.column < indent) && s.ahead 0 == '\t' then
      fault "while scanning a block scalar" start
        "found a tab character where an indentation space is expected"
    if isBreak (s.ahead 0) then
      let b ← readBreak
      blockScalarBreaks indent start (breaks ++ b) (← here) maxIndent fuel
    else if indent == 0 then
      let atLeast := max (s.indent + 1) 1
      pure (max maxIndent atLeast.toNat, breaks, stop)
    else pure (indent, breaks, stop)

/-- The state of reading the lines of a block scalar. -/
structure BlockLines where
  /-- the text so far -/
  text : String
  /-- the line break after the last line, not yet written -/
  leadingBreak : String
  /-- the empty lines after it, not yet written -/
  trailingBreaks : String
  /-- whether the last line started with a blank -/
  leadingBlank : Bool
  /-- the indentation of the scalar -/
  indent : Nat
  /-- where the scalar's token ends -/
  stop : Mark

/-- Reads the lines of a block scalar while they are indented as its first.
A folded scalar joins two lines with a space unless a line starts with a
blank or empty lines come between. -/
def blockScalarLines (literal : Bool) (start : Mark) (st : BlockLines) : Nat → ScanM BlockLines
  | 0 => pure st
  | fuel + 1 => do
    let s ← get
    if s.mark.column == st.indent && !isEnd (s.ahead 0) then
      let trailingBlank := isWhite (s.ahead 0)
      let text :=
        if !literal && st.leadingBreak.startsWith "\n" && !st.leadingBlank && !trailingBlank then
          if st.trailingBreaks.isEmpty then st.text.push ' ' else st.text
        else st.text ++ st.leadingBreak
      let text := text ++ st.trailingBreaks
      let leadingBlank := isWhite (s.ahead 0)
      let text ← readWhile (fun c => !isBreakOrEnd c) text (← budget)
      let leadingBreak ← readBreak
      let (indent, trailingBreaks, stop) ←
        blockScalarBreaks st.indent start "" (← here) 0 (← budget)
      blockScalarLines literal start
        { text, leadingBreak, trailingBreaks, leadingBlank, indent, stop } fuel
    else pure st

/-- A literal (`|`) or folded (`>`) scalar, with its indicators: `+` keeps the
final line breaks, `-` drops them all, and a digit gives the indentation. -/
def scanBlockScalar (literal : Bool) : ScanM Token := do
  let start ← here
  advance
  let c ← current
  let (chomping, increment) ←
    if c == '+' || c == '-' then
      advance
      let d ← current
      if d.isDigit then
        if d == '0' then
          fault "while scanning a block scalar" start "found an indentation indicator equal to 0"
        advance
        pure ((if c == '+' then 1 else -1 : Int), d.toNat - '0'.toNat)
      else pure ((if c == '+' then 1 else -1 : Int), 0)
    else if c.isDigit then
      if c == '0' then
        fault "while scanning a block scalar" start "found an indentation indicator equal to 0"
      advance
      let d ← current
      if d == '+' || d == '-' then
        advance
        pure ((if d == '+' then 1 else -1 : Int), c.toNat - '0'.toNat)
      else pure (0, c.toNat - '0'.toNat)
    else pure (0, 0)
  skipToLineEnd
  if !isBreakOrEnd (← current) then
    fault "while scanning a block scalar" start "did not find expected comment or line break"
  if isBreak (← current) then advanceBreak
  let stop ← here
  let s ← get
  let indent : Nat :=
    if increment == 0 then 0
    else if s.indent ≥ 0 then (s.indent + increment).toNat else increment
  let (indent, trailingBreaks, stop) ← blockScalarBreaks indent start "" stop 0 (← budget)
  let st ← blockScalarLines literal start
    { text := "", leadingBreak := "", trailingBreaks, leadingBlank := false, indent, stop }
    (← budget)
  let text := if chomping != -1 then st.text ++ st.leadingBreak else st.text
  let text := if chomping == 1 then text ++ st.trailingBreaks else text
  return ⟨.scalar text (if literal then .literal else .folded), start, st.stop⟩

/-! ## Flow scalars -/

/-- The character an escape letter stands for in a double-quoted scalar, or
the number of hexadecimal digits that follow it. -/
def escapeOf (c : Char) : Option (Sum Char Nat) :=
  match c with
  | '0' => some (.inl '\x00')
  | 'a' => some (.inl '\x07')
  | 'b' => some (.inl '\x08')
  | 't' => some (.inl '\t')
  | '\t' => some (.inl '\t')
  | 'n' => some (.inl '\n')
  | 'v' => some (.inl '\x0B')
  | 'f' => some (.inl '\x0C')
  | 'r' => some (.inl '\r')
  | 'e' => some (.inl '\x1B')
  | ' ' => some (.inl ' ')
  | '"' => some (.inl '"')
  | '/' => some (.inl '/')
  | '\\' => some (.inl '\\')
  | 'N' => some (.inl '\x85')
  | '_' => some (.inl '\xA0')
  | 'L' => some (.inl '\u2028')
  | 'P' => some (.inl '\u2029')
  | 'x' => some (.inr 2)
  | 'u' => some (.inr 4)
  | 'U' => some (.inr 8)
  | _ => none

/-- The value of `count` hexadecimal digits starting `offset` places ahead,
if they are all hexadecimal. -/
def hexDigitsAhead (s : Scanner) (offset : Nat) : Nat → Nat → Option Nat
  | 0, acc => some acc
  | count + 1, acc =>
    let c := s.ahead offset
    if isHexDigit c then hexDigitsAhead s (offset + 1) count (acc * 16 + hexValue c) else none

/-- Reads the characters of a quoted scalar up to a blank, the closing quote,
or (double-quoted) an escaped line break. -/
def quotedChars (single : Bool) (start : Mark) (text : String) :
    Nat → ScanM (String × Bool)
  | 0 => pure (text, false)
  | fuel + 1 => do
    let s ← get
    let c := s.ahead 0
    if isWhiteOrEnd c then pure (text, false)
    else if single && c == '\'' && s.ahead 1 == '\'' then
      advance; advance
      quotedChars single start (text.push '\'') fuel
    else if c == (if single then '\'' else '"') then pure (text, false)
    else if !single && c == '\\' && isBreak (s.ahead 1) then
      advance
      advanceBreak
      pure (text, true)
    else if !single && c == '\\' then
      match escapeOf (s.ahead 1) with
      | none => fault "while parsing a quoted scalar" start "found unknown escape character"
      | some (.inl ch) =>
        advance; advance
        quotedChars single start (text.push ch) fuel
      | some (.inr width) =>
        advance; advance
        let s ← get
        match hexDigitsAhead s 0 width 0 with
        | none => fault "while parsing a quoted scalar" start "did not find expected hexadecimal number"
        | some code =>
          if (0xD800 ≤ code && code ≤ 0xDFFF) || code > 0x10FFFF then
            fault "while parsing a quoted scalar" start "found invalid Unicode character escape code"
          for _ in [0:width] do advance
          quotedChars single start (text.push (Char.ofNat code)) fuel
    else
      advance
      quotedChars single start (text.push c) fuel

/-- The blanks and line breaks inside a quoted scalar: blanks before the first
break are kept, blanks after a break are not, and the breaks are collected. -/
def quotedBlanks (leadingBlanks : Bool) (whitespaces leadingBreak trailingBreaks : String) :
    Nat → ScanM (Bool × String × String × String)
  | 0 => pure (leadingBlanks, whitespaces, leadingBreak, trailingBreaks)
  | fuel + 1 => do
    let c ← current
    if isWhite c then
      if leadingBlanks then
        advance
        quotedBlanks leadingBlanks whitespaces leadingBreak trailingBreaks fuel
      else
        advance
        quotedBlanks leadingBlanks (whitespaces.push c) leadingBreak trailingBreaks fuel
    else if isBreak c then
      if leadingBlanks then
        let b ← readBreak
        quotedBlanks leadingBlanks whitespaces leadingBreak (trailingBreaks ++ b) fuel
      else
        let b ← readBreak
        quotedBlanks true "" b trailingBreaks fuel
    else pure (leadingBlanks, whitespaces, leadingBreak, trailingBreaks)

/-- Joins what stood between two runs of characters: a single line break
folds to a space, further breaks stay, and blanks on one line stay. -/
def joinBlanks (text : String) (leadingBlanks : Bool)
    (whitespaces leadingBreak trailingBreaks : String) : String :=
  if leadingBlanks then
    if leadingBreak.startsWith "\n" then
      if trailingBreaks.isEmpty then text.push ' ' else text ++ trailingBreaks
    else text ++ leadingBreak ++ trailingBreaks
  else text ++ whitespaces

/-- Reads a quoted scalar from its current position to the closing quote. -/
def quotedBody (single : Bool) (start : Mark) (text : String) : Nat → ScanM String
  | 0 => pure text
  | fuel + 1 => do
    let s ← get
    if atDocumentMarker s then
      fault "while scanning a quoted scalar" start "found unexpected document indicator"
    if isEnd (s.ahead 0) then
      fault "while scanning a quoted scalar" start "found unexpected end of stream"
    let (text, escapedBreak) ← quotedChars single start text (← budget)
    if (← current) == (if single then '\'' else '"') then pure text
    else
      let (leadingBlanks, whitespaces, leadingBreak, trailingBreaks) ←
        quotedBlanks escapedBreak "" "" "" (← budget)
      quotedBody single start
        (joinBlanks text leadingBlanks whitespaces leadingBreak trailingBreaks) fuel

/-- A single- or double-quoted scalar. -/
def scanFlowScalar (single : Bool) : ScanM Token := do
  let start ← here
  advance
  let text ← quotedBody single start "" (← budget)
  advance
  return ⟨.scalar text (if single then .singleQuoted else .doubleQuoted), start, ← here⟩

/-! ## Plain scalars -/

/-- Reads the characters of a plain scalar up to a blank or an indicator
that ends it, writing first what stood before them. -/
def plainChars (start : Mark) (text whitespaces leadingBreak trailingBreaks : String)
    (leadingBlanks : Bool) (stop : Mark) : Nat → ScanM (String × Bool × String × Mark)
  | 0 => pure (text, leadingBlanks, whitespaces, stop)
  | fuel + 1 => do
    let s ← get
    let c := s.ahead 0
    if isWhiteOrEnd c then pure (text, leadingBlanks, whitespaces, stop)
    else if s.flowLevel > 0 && c == ':' && ",?[]\x7b\x7d".toList.contains (s.ahead 1) then
      fault "while scanning a plain scalar" start "found unexpected ':'"
    else if (c == ':' && isWhiteOrEnd (s.ahead 1)) ||
        (s.flowLevel > 0 && (c == ',' || c == '[' || c == ']' || c == '{' || c == '}')) then
      pure (text, leadingBlanks, whitespaces, stop)
    else
      let text :=
        if leadingBlanks || !whitespaces.isEmpty then
          joinBlanks text leadingBlanks whitespaces leadingBreak trailingBreaks
        else text
      advance
      plainChars start (text.push c) "" "" "" false (← here) fuel

/-- The blanks and line breaks after a run of a plain scalar's characters. A
tab may not stand in the indentation of a continuation line. -/
def plainBlanks (start : Mark) (indent : Int) (leadingBlanks : Bool)
    (whitespaces leadingBreak trailingBreaks : String) :
    Nat → ScanM (Bool × String × String × String)
  | 0 => pure (leadingBlanks, whitespaces, leadingBreak, trailingBreaks)
  | fuel + 1 => do
    let s ← get
    let c := s.ahead 0
    if isWhite c then
      if leadingBlanks && (s.mark.column : Int) < indent && c == '\t' then
        fault "while scanning a plain scalar" start "found a tab character that violates indentation"
      advance
      if leadingBlanks then
        plainBlanks start indent leadingBlanks whitespaces leadingBreak trailingBreaks fuel
      else
        plainBlanks start indent leadingBlanks (whitespaces.push c) leadingBreak trailingBreaks fuel
    else if isBreak c then
      let b ← readBreak
      if leadingBlanks then
        plainBlanks start indent leadingBlanks whitespaces leadingBreak (trailingBreaks ++ b) fuel
      else
        plainBlanks start indent true "" b trailingBreaks fuel
    else pure (leadingBlanks, whitespaces, leadingBreak, trailingBreaks)

/-- Reads a plain scalar run by run. It ends before a document marker or a
comment, before an indicator that ends it, and at a line indented no deeper
than the enclosing block collection. -/
def plainBody (start : Mark) (indent : Int) (text whitespaces leadingBreak trailingBreaks : String)
    (leadingBlanks : Bool) (stop : Mark) : Nat → ScanM (String × Mark × Bool)
  | 0 => pure (text, stop, leadingBlanks)
  | fuel + 1 => do
    let s ← get
    if atDocumentMarker s || s.ahead 0 == '#' then pure (text, stop, leadingBlanks)
    else
      let (text, leadingBlanks, whitespaces, stop) ←
        plainChars start text whitespaces leadingBreak trailingBreaks leadingBlanks stop (← budget)
      let leadingBreak := if leadingBlanks then leadingBreak else ""
      let trailingBreaks := if leadingBlanks then trailingBreaks else ""
      let c ← current
      if !(isWhite c || isBreak c) then pure (text, stop, leadingBlanks)
      else
        let (leadingBlanks, whitespaces, leadingBreak, trailingBreaks) ←
          plainBlanks start indent leadingBlanks whitespaces leadingBreak trailingBreaks (← budget)
        let s ← get
        if s.flowLevel == 0 && (s.mark.column : Int) < indent then pure (text, stop, leadingBlanks)
        else plainBody start indent text whitespaces leadingBreak trailingBreaks leadingBlanks stop fuel

/-- A plain scalar. After one that spans lines a simple key may follow. -/
def scanPlainScalar : ScanM Token := do
  let start ← here
  let indent := (← get).indent + 1
  let (text, stop, leadingBlanks) ← plainBody start indent "" "" "" "" false start (← budget)
  if leadingBlanks then modify fun s => { s with simpleKeyAllowed := true }
  return ⟨.scalar text .plain, start, stop⟩

/-! ## Fetching tokens -/

/-- Queues a token that the scanner reads with `scan`. -/
def fetchWith (scan : ScanM Token) : ScanM Unit := do
  let t ← scan
  modify fun s => { s with queue := s.queue.push t }

/-- Queues the one-character token `kind` at the current position. -/
def fetchIndicator (kind : TokenKind) : ScanM Unit := do
  let start ← here
  advance
  enqueue kind start (← here)

/-- The start of the text: no indentation yet, and a simple key may start. -/
def fetchStreamStart : ScanM Unit :=
  modify fun s =>
    { s with indent := -1, simpleKeys := s.simpleKeys.push {}, simpleKeyAllowed := true,
             streamStartProduced := true, queue := s.queue.push ⟨.streamStart, s.mark, s.mark⟩ }

/-- The end of the text, on a line of its own: every block collection closes. -/
def fetchStreamEnd : ScanM Unit := do
  modify fun s =>
    if s.mark.column != 0 then { s with mark := { s.mark with column := 0, line := s.mark.line + 1 } }
    else s
  unrollAll
  removeSimpleKey
  modify fun s => { s with simpleKeyAllowed := false }
  let m ← here
  enqueue .streamEnd m m

/-- A directive, which closes every block collection. -/
def fetchDirective : ScanM Unit := do
  unrollAll
  removeSimpleKey
  modify fun s => { s with simpleKeyAllowed := false }
  fetchWith scanDirective

/-- A `---` or `...` marker, which closes every block collection. -/
def fetchDocumentIndicator (kind : TokenKind) : ScanM Unit := do
  unrollAll
  removeSimpleKey
  modify fun s => { s with simpleKeyAllowed := false }
  let start ← here
  advance; advance; advance
  enqueue kind start (← here)

/-- A `[` or `{`, which may start a simple key and opens a flow level. -/
def fetchFlowCollectionStart (kind : TokenKind) : ScanM Unit := do
  saveSimpleKey
  increaseFlowLevel
  modify fun s => { s with simpleKeyAllowed := true }
  fetchIndicator kind

/-- A `]` or `}`, which closes a flow level. -/
def fetchFlowCollectionEnd (kind : TokenKind) : ScanM Unit := do
  removeSimpleKey
  decreaseFlowLevel
  modify fun s => { s with simpleKeyAllowed := false }
  fetchIndicator kind

/-- A `,` between flow entries. -/
def fetchFlowEntry : ScanM Unit := do
  removeSimpleKey
  modify fun s => { s with simpleKeyAllowed := true }
  fetchIndicator .flowEntry

/-- A `-` entry. In a block collection it may open a block sequence, and only
where a simple key could start. -/
def fetchBlockEntry : ScanM Unit := do
  let s ← get
  if s.flowLevel == 0 then
    if !s.simpleKeyAllowed then
      bareFault "block sequence entries are not allowed in this context"
    rollIndent s.mark.column none .blockSequenceStart s.mark
  removeSimpleKey
  modify fun s => { s with simpleKeyAllowed := true }
  fetchIndicator .blockEntry

/-- A `?` key indicator. In a block collection it may open a block mapping. -/
def fetchKey : ScanM Unit := do
  let s ← get
  if s.flowLevel == 0 then
    if !s.simpleKeyAllowed then
      bareFault "mapping keys are not allowed in this context"
    rollIndent s.mark.column none .blockMappingStart s.mark
  removeSimpleKey
  modify fun s => { s with simpleKeyAllowed := s.flowLevel == 0 }
  fetchIndicator .key

/-- A `:` value indicator. After a possible simple key the key token goes back
to the key's place (and a block mapping may open there); otherwise the value
follows a `?` key or has an empty key. -/
def fetchValue : ScanM Unit := do
  let s ← get
  match s.simpleKeys.back? with
  | some k =>
    if k.possible then
      let token : Token := ⟨.key, k.mark, k.mark⟩
      set { s with queue := s.queue.insertIdxIfInBounds (k.tokenNumber - s.tokensParsed) token }
      rollIndent k.mark.column (some k.tokenNumber) .blockMappingStart k.mark
      modify fun s =>
        { s with simpleKeys := s.simpleKeys.pop.push { k with possible := false },
                 simpleKeyAllowed := false }
    else valueWithoutKey
  | none => valueWithoutKey
  fetchIndicator .value
where
  /-- The `:` of a complex key, or of an empty key. -/
  valueWithoutKey : ScanM Unit := do
    let s ← get
    if s.flowLevel == 0 then
      if !s.simpleKeyAllowed then
        bareFault "mapping values are not allowed in this context"
      rollIndent s.mark.column none .blockMappingStart s.mark
    modify fun s => { s with simpleKeyAllowed := s.flowLevel == 0 }

/-- An anchor or alias, which may start a simple key. -/
def fetchAnchor (isAlias : Bool) : ScanM Unit := do
  saveSimpleKey
  modify fun s => { s with simpleKeyAllowed := false }
  fetchWith (scanAnchor isAlias)

/-- A tag, which may start a simple key. -/
def fetchTag : ScanM Unit := do
  saveSimpleKey
  modify fun s => { s with simpleKeyAllowed := false }
  fetchWith scanTag

/-- A block scalar; a simple key may follow it. -/
def fetchBlockScalar (literal : Bool) : ScanM Unit := do
  removeSimpleKey
  modify fun s => { s with simpleKeyAllowed := true }
  fetchWith (scanBlockScalar literal)

/-- A quoted scalar, which may be a simple key. -/
def fetchFlowScalar (single : Bool) : ScanM Unit := do
  saveSimpleKey
  modify fun s => { s with simpleKeyAllowed := false }
  fetchWith (scanFlowScalar single)

/-- A plain scalar, which may be a simple key. -/
def fetchPlainScalar : ScanM Unit := do
  saveSimpleKey
  modify fun s => { s with simpleKeyAllowed := false }
  fetchWith scanPlainScalar

/-- Skips blanks, comments and line breaks up to the next token. Tabs may not
stand where they could be read as indentation: at the start of a block line,
or after a block indicator. -/
def skipToToken : Nat → ScanM Unit
  | 0 => pure ()
  | fuel + 1 => do
    let s ← get
    if s.mark.column == 0 && s.ahead 0 == '\uFEFF' then advance
    skipWhile (fun s => s.ahead 0 == ' ' ||
      ((s.flowLevel > 0 || !s.simpleKeyAllowed) && s.ahead 0 == '\t')) (← budget)
    if (← current) == '#' then
      skipWhile (fun s => !isBreakOrEnd (s.ahead 0)) (← budget)
    if isBreak (← current) then
      advanceBreak
      modify fun s => if s.flowLevel == 0 then { s with simpleKeyAllowed := true } else s
      skipToToken fuel

/-- Whether `c` may start a plain scalar where `after` follows it. -/
def startsPlain (flow : Bool) (c after : Char) : Bool :=
  !(isWhiteOrEnd c || "-?:,[]\x7b\x7d#&*!|>'\"%@`".toList.contains c) ||
    (c == '-' && !isWhite after) ||
    (!flow && (c == '?' || c == ':') && !isWhiteOrEnd after)

/-- Scans the next token and queues it, with the block structure tokens that
come before it. -/
def fetchNextToken : ScanM Unit := do
  if !(← get).streamStartProduced then fetchStreamStart
  else
    skipToToken (← budget)
    staleSimpleKeys
    unrollIndent (← here).column ((← get).indents.size + 1)
    let s ← get
    let c := s.ahead 0
    let after := s.ahead 1
    let flow := s.flowLevel > 0
    let atLineStart := s.mark.column == 0
    if isEnd c then fetchStreamEnd
    else if atLineStart && c == '%' then fetchDirective
    else if atLineStart && c == '-' && after == '-' && s.ahead 2 == '-' && isWhiteOrEnd (s.ahead 3) then
      fetchDocumentIndicator .documentStart
    else if atLineStart && c == '.' && after == '.' && s.ahead 2 == '.' && isWhiteOrEnd (s.ahead 3) then
      fetchDocumentIndicator .documentEnd
    else if c == '[' then fetchFlowCollectionStart .flowSequenceStart
    else if c == '{' then fetchFlowCollectionStart .flowMappingStart
    else if c == ']' then fetchFlowCollectionEnd .flowSequenceEnd
    else if c == '}' then fetchFlowCollectionEnd .flowMappingEnd
    else if c == ',' then fetchFlowEntry
    else if c == '-' && isWhiteOrEnd after then fetchBlockEntry
    else if c == '?' && (flow || isWhiteOrEnd after) then fetchKey
    else if c == ':' && (flow || isWhiteOrEnd after) then fetchValue
    else if c == '*' then fetchAnchor true
    else if c == '&' then fetchAnchor false
    else if c == '!' then fetchTag
    else if c == '|' && !flow then fetchBlockScalar true
    else if c == '>' && !flow then fetchBlockScalar false
    else if c == '\'' then fetchFlowScalar true
    else if c == '"' then fetchFlowScalar false
    else if startsPlain flow c after then fetchPlainScalar
    else fault "while scanning for the next token" s.mark "found character that cannot start any token"

/-- Scans until the head of the queue may be taken: the queue holds a token
and no possible simple key could still be inserted before it. -/
def fetchMoreTokens : Nat → ScanM Unit
  | 0 => pure ()
  | fuel + 1 => do
    let s ← get
    let need ←
      if s.queue.isEmpty then pure true
      else
        staleSimpleKeys
        let s ← get
        pure (s.simpleKeys.any fun k => k.possible && k.tokenNumber == s.tokensParsed)
    if need then
      fetchNextToken
      fetchMoreTokens fuel
    else modify fun s => { s with tokenAvailable := true }

/-- The next token, scanning as far as needed. -/
def peekToken : ScanM Token := do
  if !(← get).tokenAvailable then fetchMoreTokens ((← get).remaining + 3)
  let s ← get
  match s.queue[0]? with
  | some t => pure t
  | none => pure ⟨.streamEnd, s.mark, s.mark⟩

/-- Takes the next token. -/
def skipToken : ScanM Unit :=
  modify fun s =>
    { s with tokenAvailable := false, tokensParsed := s.tokensParsed + 1,
             queue := s.queue.extract 1 s.queue.size }

end DocBlocks.Yaml

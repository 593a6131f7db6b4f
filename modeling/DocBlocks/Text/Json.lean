/-!
# JSON reports

The reports a command prints for tools are JSON: objects with their members
in a fixed order, arrays, text, counts and truth values. `Json.pretty` writes
them the common pretty way: every member and item on a line of its own,
indented by two spaces a level, a colon and a space after each key, and empty
arrays and objects as `[]` and `{}`.

Text is quoted with `"` and `\` escaped, the control characters written as
`\b`, `\t`, `\n`, `\f`, `\r` or `\u00` and two hexadecimal digits, and every
other character as it is.
-/

namespace DocBlocks

/-- A JSON value whose object members keep their order. -/
inductive Json where
  | null
  | bool (b : Bool)
  | count (n : Nat)
  | text (s : String)
  | array (items : List Json)
  | object (members : List (String × Json))
  deriving Inhabited, Repr

namespace Json

/-- A hexadecimal digit, lowercase. -/
def hexDigit (n : Nat) : Char :=
  if n < 10 then Char.ofNat ('0'.toNat + n) else Char.ofNat ('a'.toNat + n - 10)

/-- A character as it stands in quoted JSON text. -/
def escapeChar (c : Char) : String :=
  if c == '"' then "\\\""
  else if c == '\\' then "\\\\"
  else if c == '\n' then "\\n"
  else if c == '\t' then "\\t"
  else if c == '\r' then "\\r"
  else if c.toNat == 8 then "\\b"
  else if c.toNat == 12 then "\\f"
  else if c.toNat < 32 then
    "\\u00" ++ (hexDigit (c.toNat / 16)).toString ++ (hexDigit (c.toNat % 16)).toString
  else c.toString

/-- Text as a quoted JSON string. -/
def quote (s : String) : String := "\"" ++ String.join (s.toList.map escapeChar) ++ "\""

/-- Spaces that indent a line `level` levels deep. -/
def indent (level : Nat) : String := String.ofList (List.replicate (2 * level) ' ')

mutual

/-- A value written pretty, its first line not indented, its other lines
indented for `level`. -/
def prettyAt (level : Nat) : Json → String
  | null => "null"
  | bool b => if b then "true" else "false"
  | count n => toString n
  | text s => quote s
  | array [] => "[]"
  | array items => "[\n" ++ prettyItems (level + 1) items ++ "\n" ++ indent level ++ "]"
  | object [] => "\x7b\x7d"
  | object members => "\x7b\n" ++ prettyMembers (level + 1) members ++ "\n" ++ indent level ++ "\x7d"

/-- The items of an array, one a line, at `level`. -/
def prettyItems (level : Nat) : List Json → String
  | [] => ""
  | [v] => indent level ++ prettyAt level v
  | v :: rest => indent level ++ prettyAt level v ++ ",\n" ++ prettyItems level rest

/-- The members of an object, one a line, at `level`. -/
def prettyMembers (level : Nat) : List (String × Json) → String
  | [] => ""
  | [(k, v)] => indent level ++ quote k ++ ": " ++ prettyAt level v
  | (k, v) :: rest => indent level ++ quote k ++ ": " ++ prettyAt level v ++ ",\n" ++ prettyMembers level rest

end

/-- A value written pretty. -/
def pretty (v : Json) : String := prettyAt 0 v

end Json

end DocBlocks

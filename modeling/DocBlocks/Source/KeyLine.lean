import DocBlocks.Text.Blank
import DocBlocks.Yaml.Value.Decode

/-!
# The line that declares a key

Each top-level key of a document is declared on a line of the document text.
Such a line starts in the first column with neither a blank, `#`, `-`, `?`,
nor a document marker, and holds `key: value`:

* a key in double quotes ends at the closing quote, a backslash escaping the
  character after it; a key in single quotes ends at the closing quote, where
  two quotes stand for one; after the key come optional blanks and a `:`;
* any other key is the text before the first `:` that ends the line or is
  followed by a blank, less trailing blanks.

A line declares a key when its key text reads, as YAML, as a value equal to
the key. Keys are looked for in order: from the line after the previous key's
line to the end of the document, then from its top.
-/

namespace DocBlocks.Source

open DocBlocks.Text DocBlocks.Yaml

/-- Whether the text after a colon makes the colon separate a key from its
value: it is empty or starts with a blank. -/
def separatesValue : List Char → Bool
  | [] => true
  | c :: _ => isBlank c

/-- The rest of a quoted scalar after its opening quote, split after its
closing quote. With `backslash`, a backslash escapes the next character;
without, two quotes stand for one. -/
def closeQuote (quote : Char) (backslash : Bool) : List Char → Option (List Char × List Char)
  | [] => none
  | [c] => if c == quote then some ([c], []) else none
  | c :: d :: more =>
    if backslash && c == '\\' then
      (closeQuote quote backslash more).map fun (body, r) => (c :: d :: body, r)
    else if c == quote then
      if !backslash && d == quote then
        (closeQuote quote backslash more).map fun (body, r) => (c :: d :: body, r)
      else some ([c], d :: more)
    else (closeQuote quote backslash (d :: more)).map fun (body, r) => (c :: body, r)

/-- The characters before the first colon that separates a value, given those
before (last first). -/
def plainKey : List Char → List Char → Option (List Char)
  | [], _ => none
  | c :: rest, acc =>
    if c == ':' && separatesValue rest then some acc.reverse else plainKey rest (c :: acc)

/-- The key text a top-level line declares, quotes included. -/
def declaredKey (line : String) : Option String :=
  match line.toList with
  | [] => none
  | first :: rest =>
    if isBlank first || first == '#' || first == '-' || first == '?'
        || line.startsWith "---" || line.startsWith "..." then none
    else if first == '"' || first == '\'' then
      match closeQuote first (first == '"') rest with
      | none => none
      | some (body, after) =>
        match after.dropWhile isBlank with
        | ':' :: more => if separatesValue more then some (String.ofList (first :: body)) else none
        | _ => none
    else
      (plainKey (first :: rest) []).map fun cs => trimEnd (String.ofList cs)

/-- Whether a line declares the key `key`. -/
def declares (key : Value) (line : String) : Bool :=
  match declaredKey line with
  | some text =>
    match Value.decode text with
    | .ok v => v.same key
    | .error _ => false
  | none => false

/-- The index of the first line satisfying `p`, counting the first line as
`i`. -/
def firstIndexFrom (p : String → Bool) : List String → Nat → Option Nat
  | [], _ => none
  | l :: ls, i => if p l then some i else firstIndexFrom p ls (i + 1)

/-- The line declaring `key`: the first from `start` on, else the first
before `start`. -/
def findKeyLine (lines : List String) (key : Value) (start : Nat) : Option Nat :=
  match firstIndexFrom (declares key) (lines.drop start) start with
  | some i => some i
  | none => firstIndexFrom (declares key) (lines.take start) 0

end DocBlocks.Source

import DocBlocks.Binary64.Read
import DocBlocks.Numeral

/-!
# What a plain scalar denotes

A plain scalar (one written without quotes) is resolved by its text, in this
order: the empty text and `~`, `null`, `Null`, `NULL` are null; `true`,
`True`, `TRUE`, `false`, `False`, `FALSE` are booleans; then integers, then
floats; everything else is a string.

Integers are decimal, or `0x`, `0o`, `0b` followed by digits of that radix,
with an optional sign before the prefix. Digits with a leading zero (`007`,
`-01`) are strings, as YAML 1.2 has them. An integer beyond 64-bit words but
within 128 bits is recognised as such, so that a reader can refuse it.

Floats are decimal numerals (`1.5`, `.5`, `1e3`, `2.`), and `.inf`, `-.inf`,
`.nan` in three spellings each; a numeral whose value overflows to infinity is
no float.
-/

namespace DocBlocks.Yaml

/-- What the text of a plain scalar denotes. -/
inductive Plain where
  | null
  | bool (b : Bool)
  /-- an integer within 64-bit words, signed or unsigned -/
  | integer (i : Int)
  /-- an integer that needs 128 bits, read as signed or unsigned -/
  | wide (i : Int) (signed : Bool)
  | float (x : Binary64)
  | string
  deriving Inhabited, Repr

namespace Plain

/-- The spellings of null other than the empty text. -/
def isNullText (s : String) : Bool :=
  s == "~" || s == "null" || s == "Null" || s == "NULL"

/-- The spellings of the booleans. -/
def bool? (s : String) : Option Bool :=
  if s == "true" || s == "True" || s == "TRUE" then some true
  else if s == "false" || s == "False" || s == "FALSE" then some false
  else none

/-- Digits with a leading zero after an optional sign, such as `007` or `-01`:
YAML 1.2 reads these as strings. -/
def leadingZeroDigits (s : String) : Bool :=
  let cs := match s.toList with
    | '-' :: rest => rest
    | '+' :: rest => rest
    | cs => cs
  match cs with
  | '0' :: d :: rest => (d :: rest).all Char.isDigit
  | _ => false

/-- The radix a letter after `0` introduces. -/
def radixOf : Char → Option Nat
  | 'x' => some 16
  | 'o' => some 8
  | 'b' => some 2
  | _ => none

/-- A nonnegative integer below `bound`: an optional `+`, then a radix prefix
and digits without a sign, or decimal digits without a leading zero. -/
def unsigned? (bound : Nat) (s : String) : Option Nat :=
  let body := match s.toList with
    | '+' :: rest => rest
    | cs => cs
  let decimal : Option Nat := match body with
    | '+' :: _ | '-' :: _ => none
    | _ => if leadingZeroDigits s then none else Numeral.readUnsigned? 10 bound body
  match body with
  | '0' :: p :: rest =>
    match radixOf p, rest with
    | some _, '+' :: _ | some _, '-' :: _ => none
    | some radix, _ => (Numeral.readUnsigned? radix bound rest).orElse fun _ => decimal
    | none, _ => decimal
  | _ => decimal

/-- A signed integer in `[-bound, bound)`: `-` and a radix prefix and digits,
or a signed decimal without a leading zero. -/
def signed? (bound : Nat) (s : String) : Option Int :=
  let prefixed : Option Int := match s.toList with
    | '-' :: '0' :: p :: rest =>
      match radixOf p with
      | some radix => Numeral.readSigned? radix bound ('-' :: rest)
      | none => none
    | _ => none
  prefixed.orElse fun _ =>
    if leadingZeroDigits s then none else Numeral.readSigned? 10 bound s.toList

/-- The integer a text denotes: within 64-bit words if it can be, else within
128 bits. -/
def integer? (s : String) : Option Plain :=
  match unsigned? (Nat.pow 2 64) s with
  | some n => some (integer n)
  | none =>
    match signed? (Nat.pow 2 63) s with
    | some i => some (integer i)
    | none =>
      match unsigned? (Nat.pow 2 128) s with
      | some n => some (wide n false)
      | none =>
        match signed? (Nat.pow 2 127) s with
        | some i => some (wide i true)
        | none => none

/-- The float a text denotes: `.inf`, `-.inf`, `.nan` spelled all lower case,
capitalised or all upper case, or a finite decimal numeral. One `+` may lead,
but not before another sign. -/
def float? (s : String) : Option Binary64 :=
  let unsigned? : Option String := match s.toList with
    | '+' :: '+' :: _ | '+' :: '-' :: _ => none
    | '+' :: rest => some (String.ofList rest)
    | _ => some s
  match unsigned? with
  | none => none
  | some u =>
    if u == ".inf" || u == ".Inf" || u == ".INF" then some (Binary64.infinity false)
    else if s == "-.inf" || s == "-.Inf" || s == "-.INF" then some (Binary64.infinity true)
    else if s == ".nan" || s == ".NaN" || s == ".NAN" then some Binary64.nan
    else
      match Binary64.ofDecimal? u with
      | some x => if x.isFinite then some x else none
      | none => none

/-- What the text of a plain scalar denotes. -/
def ofText (s : String) : Plain :=
  if s.isEmpty || isNullText s then null
  else
    match bool? s with
    | some b => bool b
    | none =>
      match integer? s with
      | some p => p
      | none =>
        if leadingZeroDigits s then string
        else
          match float? s with
          | some x => float x
          | none => string

/-- Whether the text reads back as a string when written plain. -/
def isString (s : String) : Bool :=
  match ofText s with
  | string => true
  | _ => false

end Plain

end DocBlocks.Yaml

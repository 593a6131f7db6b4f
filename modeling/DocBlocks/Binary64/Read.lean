import DocBlocks.Binary64.Basic

/-!
# Reading decimal numerals into binary64

A decimal numeral is an optional sign, digits with at most one decimal point
(at least one digit in all), and an optional exponent: `e` or `E`, an optional
sign and at least one digit. The words `inf`, `infinity` and `nan` in any case,
after an optional sign, name the infinities and NaN. Nothing else is a numeral:
no blanks, no digit separators, no hexadecimal.

The value of a numeral is rounded to the nearest binary64, a tie going to the
even significand. The rounding is exact: it is done on natural numbers.
-/

namespace DocBlocks.Binary64

/-- The decimal digits at the front of `cs` with their value, and the rest. -/
def spanDigits : List Char → List Char × List Char
  | c :: rest =>
    if c.isDigit then
      let (ds, r) := spanDigits rest
      (c :: ds, r)
    else ([], c :: rest)
  | [] => ([], [])

/-- The value of a list of decimal digits. -/
def digitsValue (ds : List Char) : Nat :=
  ds.foldl (fun acc c => acc * 10 + (c.toNat - '0'.toNat)) 0

/-- Exponent values are read up to this bound and then no further: any
exponent this large already gives an infinity or a zero. -/
def exponentCap : Nat := 0x10000

/-- The value of exponent digits, saturating once it reaches the cap. -/
def exponentValue (ds : List Char) : Nat :=
  ds.foldl (fun acc c => if acc < exponentCap then acc * 10 + (c.toNat - '0'.toNat) else acc) 0

/-- A numeral's parts: sign, significant digits as a number, and the power of
ten they are scaled by. -/
structure Scientific where
  /-- the sign -/
  negative : Bool
  /-- the digits read as one natural number -/
  digits : Nat
  /-- the power of ten that multiplies `digits` -/
  exponent : Int
  deriving Repr

/-- What a numeral denotes before rounding. -/
inductive Numeral where
  | finite (s : Scientific)
  | infinity (negative : Bool)
  | nan (negative : Bool)
  deriving Repr

/-- The optional exponent part, which must end the numeral. -/
def readExponent : List Char → Option Int
  | [] => some 0
  | e :: rest =>
    if e == 'e' || e == 'E' then
      let (neg, body) := match rest with
        | '-' :: r => (true, r)
        | '+' :: r => (false, r)
        | r => (false, r)
      let (ds, tail) := spanDigits body
      if ds.isEmpty || !tail.isEmpty then none
      else
        let v : Int := exponentValue ds
        some (if neg then -v else v)
    else none

/-- Reads the unsigned part of a numeral. -/
def readUnsigned (neg : Bool) (cs : List Char) : Option Numeral :=
  let word := String.ofList (cs.map Char.toLower)
  if word == "inf" || word == "infinity" then some (.infinity neg)
  else if word == "nan" then some (.nan neg)
  else
    let (whole, afterWhole) := spanDigits cs
    let (frac, afterFrac) := match afterWhole with
      | '.' :: r => spanDigits r
      | r => ([], r)
    if whole.isEmpty && frac.isEmpty then none
    else
      match readExponent afterFrac with
      | none => none
      | some e => some (.finite ⟨neg, digitsValue (whole ++ frac), e - frac.length⟩)

/-- Reads a numeral: an optional sign, then the unsigned part. -/
def readNumeral (s : String) : Option Numeral :=
  match s.toList with
  | '-' :: rest => if rest.isEmpty then none else readUnsigned true rest
  | '+' :: rest => if rest.isEmpty then none else readUnsigned false rest
  | cs => readUnsigned false cs

/-- The number of decimal digits of `n`, with one digit for zero. -/
def decimalLength (n : Nat) : Nat :=
  (Nat.toDigits 10 n).length

/-- The binary64 nearest to `num / den` (both positive), ties to even. -/
def nearestRatio (neg : Bool) (num den : Nat) : Binary64 :=
  -- `b` with `2 ^ b ≤ num / den < 2 ^ (b + 1)`
  let guess : Int := (Nat.log2 num : Int) - (Nat.log2 den : Int)
  let below : Bool :=
    if guess ≥ 0 then num < den * Nat.pow 2 guess.toNat else num * Nat.pow 2 (-guess).toNat < den
  let b := if below then guess - 1 else guess
  let q : Int := max (b - 52) (-1074)
  let (n, d) := if q ≥ 0 then (num, den * Nat.pow 2 q.toNat) else (num * Nat.pow 2 (-q).toNat, den)
  let m := n / d
  let r := n % d
  let up := 2 * r > d || (2 * r == d && m % 2 == 1)
  let m := if up then m + 1 else m
  if m == 2 * hidden then ofSignificand neg hidden (q + 1) else ofSignificand neg m q

/-- The binary64 nearest to `± digits · 10 ^ exponent`. -/
def ofScientific (s : Scientific) : Binary64 :=
  if s.digits == 0 then zero s.negative
  else
    let magnitude : Int := (decimalLength s.digits : Int) + s.exponent
    -- at least 10 ^ 310 overflows; below 10 ^ -325 is under half the least subnormal
    if magnitude > 310 then infinity s.negative
    else if magnitude < -324 then zero s.negative
    else if s.exponent ≥ 0 then nearestRatio s.negative (s.digits * Nat.pow 10 s.exponent.toNat) 1
    else nearestRatio s.negative s.digits (Nat.pow 10 (-s.exponent).toNat)

/-- The binary64 a numeral denotes, if the text is a numeral. -/
def ofDecimal? (s : String) : Option Binary64 :=
  match readNumeral s with
  | none => none
  | some (.finite sc) => some (ofScientific sc)
  | some (.infinity neg) => some (infinity neg)
  | some (.nan neg) => some (if neg then ofFields true 0x7FF (Nat.pow 2 51) else nan)

end DocBlocks.Binary64

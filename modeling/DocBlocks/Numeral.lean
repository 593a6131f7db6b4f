/-!
# Integer numerals in a radix

An integer numeral in radix `r` is an optional sign and at least one digit of
that radix (`0`–`9`, then letters of either case). An unsigned reader accepts
only `+` as a sign; a signed reader accepts both. A numeral whose magnitude
falls outside the reader's range is no numeral of it.
-/

namespace DocBlocks.Numeral

/-- The value of `c` as a digit of `radix`, if it is one. -/
def digitValue? (radix : Nat) (c : Char) : Option Nat :=
  let v :=
    if c.isDigit then c.toNat - '0'.toNat
    else if 'a' ≤ c && c ≤ 'z' then c.toNat - 'a'.toNat + 10
    else if 'A' ≤ c && c ≤ 'Z' then c.toNat - 'A'.toNat + 10
    else 36
  if v < radix then some v else none

/-- The value of digits of `radix`, most significant first. -/
def digitsValue? (radix : Nat) : List Char → Nat → Option Nat
  | [], acc => some acc
  | c :: rest, acc =>
    match digitValue? radix c with
    | some v => digitsValue? radix rest (acc * radix + v)
    | none => none

/-- The value of a nonempty run of digits of `radix`. -/
def magnitude? (radix : Nat) (cs : List Char) : Option Nat :=
  if cs.isEmpty then none else digitsValue? radix cs 0

/-- An unsigned numeral below `bound`: an optional `+`, then digits. -/
def readUnsigned? (radix bound : Nat) (cs : List Char) : Option Nat :=
  let body := match cs with
    | '+' :: rest => rest
    | _ => cs
  match magnitude? radix body with
  | some v => if v < bound then some v else none
  | none => none

/-- A signed numeral in `[-bound, bound)`: an optional sign, then digits. -/
def readSigned? (radix bound : Nat) (cs : List Char) : Option Int :=
  match cs with
  | '-' :: rest =>
    match magnitude? radix rest with
    | some v => if v ≤ bound then some (-(v : Int)) else none
    | none => none
  | _ =>
    match readUnsigned? radix bound cs with
    | some v => some v
    | none => none

end DocBlocks.Numeral

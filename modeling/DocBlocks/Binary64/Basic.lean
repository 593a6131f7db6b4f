/-!
# Binary64 values

A binary64 value is kept as its 64 bits: one sign bit, eleven exponent bits and
fifty-two fraction bits. A finite value is `± significand · 2 ^ exponent`, with
the hidden bit added to the fraction unless the exponent field is zero. All
reading, printing and comparing of floats in the library goes through this
view; no operation of core's `Float` is used.
-/

namespace DocBlocks

/-- A binary64 value, by its bits. -/
structure Binary64 where
  /-- the 64 bits of the value -/
  bits : UInt64
  deriving DecidableEq, Inhabited, Repr

namespace Binary64

/-- Two to the fifty-second, the hidden bit of normal values. -/
def hidden : Nat := Nat.pow 2 52

/-- The sign bit. -/
def negative (x : Binary64) : Bool := x.bits >>> 63 == 1

/-- The eleven exponent bits. -/
def exponentField (x : Binary64) : Nat := ((x.bits >>> 52) &&& 0x7FF).toNat

/-- The fifty-two fraction bits. -/
def fraction (x : Binary64) : Nat := (x.bits &&& 0xFFFFFFFFFFFFF).toNat

/-- Not a number. -/
def isNaN (x : Binary64) : Bool := x.exponentField == 0x7FF && x.fraction != 0

/-- An infinity of either sign. -/
def isInfinite (x : Binary64) : Bool := x.exponentField == 0x7FF && x.fraction == 0

/-- Neither an infinity nor a NaN. -/
def isFinite (x : Binary64) : Bool := x.exponentField != 0x7FF

/-- A zero of either sign. -/
def isZero (x : Binary64) : Bool := x.exponentField == 0 && x.fraction == 0

/-- The significand of a finite value: the fraction with its hidden bit. -/
def significand (x : Binary64) : Nat :=
  if x.exponentField == 0 then x.fraction else x.fraction + hidden

/-- The binary exponent of a finite value: its magnitude is
`significand · 2 ^ exponent`. -/
def exponent (x : Binary64) : Int :=
  if x.exponentField == 0 then -1074 else (x.exponentField : Int) - 1075

/-- The value with the given sign, exponent field and fraction. -/
def ofFields (neg : Bool) (exponentField fraction : Nat) : Binary64 :=
  ⟨UInt64.ofNat ((if neg then Nat.pow 2 63 else 0) + exponentField * hidden + fraction)⟩

/-- Positive or negative infinity. -/
def infinity (neg : Bool) : Binary64 := ofFields neg 0x7FF 0

/-- Zero of the given sign. -/
def zero (neg : Bool) : Binary64 := ofFields neg 0 0

/-- The quiet NaN with a clear sign bit. -/
def nan : Binary64 := ofFields false 0x7FF (Nat.pow 2 51)

/-- The value nearest to `± m · 2 ^ q`, where `m < 2 ^ 53` is already rounded:
it is a subnormal when `m` lacks the hidden bit, an infinity when the exponent
is past the largest. -/
def ofSignificand (neg : Bool) (m : Nat) (q : Int) : Binary64 :=
  if m < hidden then ofFields neg 0 m
  else
    let field := q + 1075
    if field > 2046 then infinity neg else ofFields neg field.toNat (m - hidden)

/-- Equality of numbers as YAML values compare them: every NaN equals every
NaN, the two zeros are equal, and otherwise the bits decide. -/
def sameNumber (x y : Binary64) : Bool :=
  if x.isNaN || y.isNaN then x.isNaN && y.isNaN
  else x.bits == y.bits || (x.isZero && y.isZero)

end Binary64

end DocBlocks

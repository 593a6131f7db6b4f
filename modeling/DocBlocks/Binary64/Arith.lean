import DocBlocks.Binary64.Read

/-!
# Rounded arithmetic on binary64 values

An operation on binary64 values computes its exact result and rounds it to the
nearest binary64 value, a tie going to the even significand: the rule of
IEEE 754 for addition and division. Here the exact result is a fraction of
natural numbers and the rounding is `nearestRatio`, so no operation of core's
`Float` is used and every step can be followed in the logic.

Only non-negative finite values arise where this arithmetic is used, and the
operations below are written for them.
-/

namespace DocBlocks.Binary64

/-- The magnitude of a finite value as a fraction `num / den`. -/
def ratio (x : Binary64) : Nat × Nat :=
  let e := x.exponent
  if e ≥ 0 then (x.significand * Nat.pow 2 e.toNat, 1)
  else (x.significand, Nat.pow 2 (-e).toNat)

/-- The value nearest to `num / den`, zero when `num` is; `den` is positive. -/
def ofRatio (num den : Nat) : Binary64 :=
  if num == 0 then zero false else nearestRatio false num den

/-- The sum of two non-negative values, rounded. -/
def add (x y : Binary64) : Binary64 :=
  let (a, b) := x.ratio
  let (c, d) := y.ratio
  ofRatio (a * d + c * b) (b * d)

/-- A non-negative value divided by a positive natural, rounded. -/
def divNat (x : Binary64) (k : Nat) : Binary64 :=
  let (a, b) := x.ratio
  ofRatio a (b * k)

/-- Whether one non-negative value is below another. -/
def lt (x y : Binary64) : Bool :=
  let (a, b) := x.ratio
  let (c, d) := y.ratio
  a * d < c * b

/-- Whether one non-negative value is at most another. -/
def le (x y : Binary64) : Bool := !lt y x

end DocBlocks.Binary64

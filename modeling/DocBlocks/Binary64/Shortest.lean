import DocBlocks.Binary64.Read

/-!
# The shortest decimal that reads back

Every finite nonzero binary64 value owns an interval of reals that round to
it; the ends belong to it when its significand is even. The shortest decimal
of the value is the multiple of the largest power of ten that lies in that
interval, and of several such multiples the one nearest to the value, an exact
tie going to the even multiple. It has the fewest significant digits of all
decimals that read back as the value.

`Binary64.text` writes such a decimal the way YAML documents write floats:
positional between `1e-5` and `1e16` with at least one digit after the point,
scientific outside (`1e16`, `1.5e-7`, no `+` and no leading zeros in the
exponent), and `.nan`, `.inf`, `-.inf` for the values that are not finite.
-/

namespace DocBlocks.Binary64

/-- A decimal `digits · 10 ^ exponent` with no trailing zero in `digits`. -/
structure Decimal where
  /-- the significant digits as a number -/
  digits : Nat
  /-- the power of ten of the last digit -/
  exponent : Int
  deriving Repr, DecidableEq

/-- The interval of a finite nonzero value, scaled: the value is `c / d`, and
the interval runs from `a / d` to `b / d`. -/
structure Interval where
  /-- scaled lower end -/
  a : Nat
  /-- scaled upper end -/
  b : Nat
  /-- scaled value -/
  c : Nat
  /-- common denominator -/
  d : Nat
  /-- whether the ends belong to the interval -/
  closed : Bool

/-- The rounding interval of a finite nonzero magnitude `m · 2 ^ e`: half the
gap to each neighbour, where the gap below is half as wide at the bottom of a
binade. -/
def interval (x : Binary64) : Interval :=
  let m := x.significand
  let e := x.exponent - 2
  let lowerGap := if x.fraction == 0 && x.exponentField > 1 then 1 else 2
  let scale := if e ≥ 0 then Nat.pow 2 e.toNat else 1
  let d := if e ≥ 0 then 1 else Nat.pow 2 (-e).toNat
  { a := (4 * m - lowerGap) * scale, b := (4 * m + 2) * scale, c := 4 * m * scale, d,
    closed := m % 2 == 0 }

/-- The least and greatest `t` with `t · 10 ^ k` in the interval (the range
is empty when the first exceeds the second). -/
def multiplesAt (iv : Interval) (k : Int) : Nat × Nat :=
  -- the interval's ends measured in units of `10 ^ k`, as fractions `lo / den`, `hi / den`
  let (lo, hi, den) :=
    if k ≥ 0 then (iv.a, iv.b, iv.d * Nat.pow 10 k.toNat)
    else (iv.a * Nat.pow 10 (-k).toNat, iv.b * Nat.pow 10 (-k).toNat, iv.d)
  let least := if iv.closed then (lo + den - 1) / den else lo / den + 1
  let greatest := if iv.closed then hi / den else (hi - 1) / den
  (least, greatest)

/-- The multiple of `10 ^ k` nearest to the value, ties to even. -/
def nearestAt (iv : Interval) (k : Int) : Nat :=
  let (num, den) := if k ≥ 0 then (iv.c, iv.d * Nat.pow 10 k.toNat) else (iv.c * Nat.pow 10 (-k).toNat, iv.d)
  let t := num / den
  let r := num % den
  if 2 * r > den || (2 * r == den && t % 2 == 1) then t + 1 else t

/-- Searches downwards from the power `k` for the first power of ten with a
multiple in the interval. -/
def shortestFrom (iv : Interval) : Nat → Int → Decimal
  | 0, k => ⟨nearestAt iv k, k⟩
  | fuel + 1, k =>
    let (least, greatest) := multiplesAt iv k
    if least ≤ greatest then
      let t := nearestAt iv k
      ⟨if t < least then least else if t > greatest then greatest else t, k⟩
    else shortestFrom iv fuel (k - 1)

/-- The shortest decimal of a finite nonzero value. The search starts at a
power of ten no smaller than the upper end, so no larger power has a
positive multiple in the interval. -/
def shortest (x : Binary64) : Decimal :=
  let iv := interval x
  let start : Int := (decimalLength iv.b : Int) - (decimalLength iv.d : Int) + 1
  shortestFrom iv 40 start

/-- Decimal digits of `n`. -/
def digitText (n : Nat) : String := String.ofList (Nat.toDigits 10 n)

/-- A run of zeros. -/
def zeros (n : Nat) : String := String.ofList (List.replicate n '0')

/-- The exponent of scientific notation: a minus sign when negative, no plus. -/
def exponentText (e : Int) : String :=
  if e < 0 then "-" ++ digitText e.natAbs else digitText e.toNat

/-- Writes the shortest decimal of a finite nonzero magnitude. With `n` digits
and last-digit power `k`, the value lies in `[10 ^ (n + k - 1), 10 ^ (n + k))`. -/
def decimalText (dec : Decimal) : String :=
  let ds := digitText dec.digits
  let n : Int := ds.length
  let k := dec.exponent
  let kk := n + k
  if 0 ≤ k && kk ≤ 16 then ds ++ zeros k.toNat ++ ".0"
  else if 0 < kk && kk ≤ 16 then
    String.ofList (ds.toList.take kk.toNat) ++ "." ++ String.ofList (ds.toList.drop kk.toNat)
  else if -5 < kk && kk ≤ 0 then "0." ++ zeros (-kk).toNat ++ ds
  else if n == 1 then ds ++ "e" ++ exponentText (kk - 1)
  else
    String.ofList (ds.toList.take 1) ++ "." ++ String.ofList (ds.toList.drop 1) ++ "e" ++
      exponentText (kk - 1)

/-- The text of a float in YAML. -/
def text (x : Binary64) : String :=
  if x.isNaN then ".nan"
  else if x.isInfinite then (if x.negative then "-.inf" else ".inf")
  else
    let sign := if x.negative then "-" else ""
    if x.isZero then sign ++ "0.0" else sign ++ decimalText (shortest x)

end DocBlocks.Binary64

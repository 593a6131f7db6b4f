import DocBlocks.Binary64.Arith

/-!
# Similar words

When a word on the command line is not known, the known words close to it are
suggested. Closeness is the Jaro similarity of the two words: with `m` the
characters of one word that match a character of the other not further away
than half the longer length less one (each character matched once, in order),
and `t` half the matched characters that stand in a different order,

  `sim = (m / |a| + m / |b| + (m - t) / m) / 3`,

and `0` when nothing matches. A word is suggested when its similarity is over
`0.7`.

The similarity is computed in binary64 arithmetic, each quotient and each sum
rounded to nearest in the order written, and compared with the binary64 value
nearest to `0.7`. The rounding decides borderline cases: a similarity of
exactly `0.7` computes to just above it, and two similarities that are equal
as fractions may compute to neighbouring values, which orders them.
-/

namespace DocBlocks.Command

/-- The binary64 value nearest to `0.7`, the threshold of closeness. -/
def closeness : Binary64 := Binary64.ofRatio 7 10

/-- Whether a similarity is over the threshold. -/
def isClose (x : Binary64) : Bool := Binary64.lt closeness x

/-- Marks in `taken` the first character of `b` in `[lo, hi)` equal to `c`
and not yet taken; `none` when there is none. -/
def matchIn (b : Array Char) (c : Char) (lo : Nat) (taken : Array Bool) :
    Nat → Nat → Option (Array Bool)
  | 0, _ => none
  | fuel + 1, j =>
    if j < lo then matchIn b c lo taken fuel (j + 1)
    else if j < b.size && b.getD j ' ' == c && !taken.getD j true then some (taken.set! j true)
    else matchIn b c lo taken fuel (j + 1)

/-- The characters of `a` matched in `b`, in order, with which of `b`'s
characters they took. -/
def matchAll (a : List Char) (b : Array Char) (range : Nat) :
    Nat → Array Bool → List Char → List Char × Array Bool
  | _, taken, [] => ([], taken)
  | i, taken, c :: rest =>
    let lo := i - range
    let hi := min b.size (i + range + 1)
    match matchIn b c lo taken hi 0 with
    | some taken' =>
      let (found, final) := matchAll a b range (i + 1) taken' rest
      (c :: found, final)
    | none => matchAll a b range (i + 1) taken rest

/-- The Jaro similarity of two words, rounded as binary64 arithmetic rounds it. -/
def similarity (a b : String) : Binary64 :=
  let as := a.toList
  let bs := b.toList.toArray
  if as.isEmpty && bs.isEmpty then Binary64.ofRatio 1 1
  else if as.isEmpty || bs.isEmpty then Binary64.ofRatio 0 1
  else
    let range := max as.length bs.size / 2 - 1
    let (fromA, taken) := matchAll as bs range 0 (Array.replicate bs.size false) as
    let fromB := (bs.toList.zip taken.toList).filterMap fun (c, t) => if t then some c else none
    let m := fromA.length
    let t := ((fromA.zip fromB).filter fun (x, y) => x != y).length / 2
    if m == 0 then Binary64.ofRatio 0 1
    else
      let sum := Binary64.add (Binary64.add (Binary64.ofRatio m as.length)
        (Binary64.ofRatio m bs.size)) (Binary64.ofRatio (m - t) m)
      Binary64.divNat sum 3

/-- The known words close to `word`, the closest last; among equally close
ones the earlier known word comes first. -/
def closeWords (word : String) (known : List String) : List String :=
  let scored := (known.map fun k => (similarity word k, k)).filter (isClose ·.1)
  (scored.mergeSort fun x y => Binary64.le x.1 y.1).map (·.2)

end DocBlocks.Command

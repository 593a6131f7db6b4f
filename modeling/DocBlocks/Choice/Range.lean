import DocBlocks.Numeral
import DocBlocks.Text.Blank

/-!
# How many choices may be selected

A choice range is an exact count (`2`) or an inclusive range (`1..3`). It is
written between the parentheses of a `Choose` directive; without them exactly
one choice is allowed. A count is a decimal number in the range of 64-bit
words, with an optional `+`; blanks around counts and around the whole text
are ignored. A range whose lower bound exceeds its upper bound is empty, and
refused.
-/

namespace DocBlocks.Choice

/-- How many of the listed choices may be selected. -/
inductive Range where
  | exactly (n : Nat)
  | between (min max : Nat)
  deriving Inhabited, Repr, DecidableEq

namespace Range

/-- The fewest selections allowed. -/
def min : Range → Nat
  | exactly n => n
  | between lo _ => lo

/-- The most selections allowed. -/
def max : Range → Nat
  | exactly n => n
  | between _ hi => hi

/-- Whether selecting `count` choices is allowed. -/
def contains (r : Range) (count : Nat) : Bool := r.min ≤ count && count ≤ r.max

/-- The range as written: `n` or `min..max`. -/
def text : Range → String
  | exactly n => toString n
  | between lo hi => toString lo ++ ".." ++ toString hi

/-- A range allows exactly the counts between its bounds. -/
theorem contains_iff (r : Range) (count : Nat) :
    r.contains count = true ↔ r.min ≤ count ∧ count ≤ r.max := by
  simp [contains]

end Range

/-- A `Choose` directive that was found but could not be read: the line of the
docblock it stands on (counted from one) and why. -/
structure ChoiceError where
  /-- the docblock line of the directive, counted from one -/
  line : Nat
  /-- why the directive was refused -/
  reason : String
  deriving Inhabited, Repr, DecidableEq

/-- The message of a choice error. -/
def ChoiceError.message (e : ChoiceError) : String :=
  "Invalid choice section on line " ++ toString e.line ++ " of YAMLDoc block: " ++ e.reason

/-- The largest count plus one. -/
def countBound : Nat := Nat.pow 2 64

/-- A count: decimal digits with an optional `+`, below `countBound`. -/
def readCount (s : String) : Option Nat :=
  Numeral.readUnsigned? 10 countBound (Text.trim s).toList

/-- The text before and after the first `..` of `cs`, if there is one. -/
def splitRange : List Char → Option (List Char × List Char)
  | [] => none
  | '.' :: '.' :: rest => some ([], rest)
  | c :: rest => (splitRange rest).map fun (lo, hi) => (c :: lo, hi)

/-- The range a directive's parentheses give, for the directive on `line`;
none stands for no parentheses. -/
def Range.ofCardinality (cardinality : Option String) (line : Nat) : Except ChoiceError Range :=
  match cardinality with
  | none => .ok (.exactly 1)
  | some raw =>
    let text := Text.trim raw
    let count (s : String) : Except ChoiceError Nat :=
      match readCount s with
      | some n => .ok n
      | none => .error ⟨line, "'" ++ text ++ "' is not a count or a range like 1..3"⟩
    match splitRange text.toList with
    | some (lo, hi) => do
      let lo ← count (String.ofList lo)
      let hi ← count (String.ofList hi)
      if lo > hi then .error ⟨line, "range " ++ toString lo ++ ".." ++ toString hi ++ " is empty"⟩
      else .ok (.between lo hi)
    | none => .exactly <$> count text

end DocBlocks.Choice

import DocBlocks.Choice.Range
import Mathlib.Data.List.DropRight

/-!
# Reading a choice range

The text between the parentheses of a `Choose` directive is read as a range.
After trimming it is cut at its first `..`: without one it must be a count,
with one both sides must be counts with the lower bound not above the upper.
A count, once trimmed, is an optional `+` and one or more ASCII digits, with a
value below `countBound` (`IsCount`).

* `readCount_eq_some_iff` — a count reads as the value its digits write, and
  only then;
* `splitRange_eq_some_iff`, `splitRange_eq_none_iff` — the cut falls at the
  first `..` of the text, and there is none exactly when the text holds no
  `..`;
* `Range.ofCardinality_grammar` — which texts read as which ranges, and which
  error every other text gives: both name the directive's line, and the
  range is called empty exactly when both bounds read and the lower is the
  greater. Every range read has its lower bound at most its upper one, and
  reading the text a range is written as gives that range back.
-/

namespace DocBlocks.Numeral

/-! ### Decimal numerals -/

/-- `cs` writes `v` in decimal: an optional `+`, then one or more ASCII digits
whose value is `v`. -/
def WritesDecimal (cs : List Char) (v : Nat) : Prop :=
  ∃ ds, (cs = ds ∨ cs = '+' :: ds) ∧ ds ≠ [] ∧ (∀ c ∈ ds, c.isDigit) ∧ Nat.ofDigitChars 10 ds 0 = v

theorem digitValue?_ten (c : Char) :
    digitValue? 10 c = if c.isDigit then some (c.toNat - '0'.toNat) else none := by
  have hdigit : c.isDigit = true ↔ 48 ≤ c.toNat ∧ c.toNat ≤ 57 := Char.isDigit_iff_toNat
  unfold digitValue?
  by_cases hc : c.isDigit = true
  · have hlt : c.toNat - 48 < 10 := by have := hdigit.mp hc; omega
    simp [hc, hlt]
  · simp only [hc, if_false, Bool.false_eq_true]
    -- a letter is worth ten or more, anything else thirty-six
    split
    · rw [if_neg (by omega)]
    · split <;> rw [if_neg (by omega)]

theorem digitsValue?_ten (cs : List Char) (acc : Nat) :
    digitsValue? 10 cs acc =
      if cs.all Char.isDigit then some (Nat.ofDigitChars 10 cs acc) else none := by
  induction cs generalizing acc with
  | nil => simp [digitsValue?]
  | cons c cs ih =>
    by_cases hc : c.isDigit = true
    · simp only [digitsValue?, digitValue?_ten, hc, if_true, ih, Nat.ofDigitChars_cons, Nat.mul_comm]
      simp [hc]
    · simp [digitsValue?, digitValue?_ten, hc]

theorem magnitude?_ten_eq_some_iff {ds : List Char} {v : Nat} :
    magnitude? 10 ds = some v ↔ ds ≠ [] ∧ (∀ c ∈ ds, c.isDigit) ∧ Nat.ofDigitChars 10 ds 0 = v := by
  unfold magnitude?
  cases ds with
  | nil => simp
  | cons c cs =>
    rw [digitsValue?_ten]
    split <;> simp_all

/-- A numeral after a `+` is its digits. -/
theorem writesDecimal_plus {rest : List Char} {v : Nat} :
    WritesDecimal ('+' :: rest) v ↔ magnitude? 10 rest = some v := by
  rw [magnitude?_ten_eq_some_iff]
  constructor
  · rintro ⟨ds, hds | hds, hne, hdigits, hv⟩
    · -- `+` is no digit
      have := hdigits '+' (hds ▸ List.mem_cons_self)
      cases this
    · obtain ⟨-, rfl⟩ := List.cons.inj hds
      exact ⟨hne, hdigits, hv⟩
  · rintro ⟨hne, hdigits, hv⟩
    exact ⟨rest, .inr rfl, hne, hdigits, hv⟩

/-- A numeral that does not start with `+` is its digits. -/
theorem writesDecimal_of_not_plus {cs : List Char} {v : Nat}
    (h : ∀ rest, cs = '+' :: rest → False) :
    WritesDecimal cs v ↔ magnitude? 10 cs = some v := by
  rw [magnitude?_ten_eq_some_iff]
  constructor
  · rintro ⟨ds, rfl | hds, hne, hdigits, hv⟩
    · exact ⟨hne, hdigits, hv⟩
    · exact absurd hds (h ds)
  · rintro ⟨hne, hdigits, hv⟩
    exact ⟨cs, .inl rfl, hne, hdigits, hv⟩

/-- **Reading an unsigned decimal.** It succeeds exactly on the numerals
below the bound, with their value. -/
theorem readUnsigned?_ten_eq_some_iff {bound : Nat} {cs : List Char} {v : Nat} :
    readUnsigned? 10 bound cs = some v ↔ WritesDecimal cs v ∧ v < bound := by
  unfold readUnsigned?
  -- past an optional `+`, the digits are read, then kept only below the bound
  split
  · rename_i rest
    rw [writesDecimal_plus]
    dsimp only
    rcases magnitude? 10 rest with _ | w
    · simp
    · by_cases hw : w < bound <;> simp [hw] <;> omega
  · rename_i hnot
    rw [writesDecimal_of_not_plus hnot]
    dsimp only
    rcases magnitude? 10 cs with _ | w
    · simp
    · by_cases hw : w < bound <;> simp [hw] <;> omega

/-- A number's decimal text writes it. -/
theorem writesDecimal_toDigits (v : Nat) : WritesDecimal (Nat.toDigits 10 v) v :=
  ⟨_, .inl rfl, Nat.toDigits_ne_nil, fun _ hc => Nat.isDigit_of_mem_toDigits (by decide) (by decide) hc,
    Nat.ofDigitChars_ten_toDigits⟩

end DocBlocks.Numeral

namespace DocBlocks.Text

/-! ### Trimmed texts -/

/-- A text with no blank at either end. -/
def Trimmed (cs : List Char) : Prop :=
  (∀ c, cs.head? = some c → isBlank c = false) ∧ (∀ c, cs.getLast? = some c → isBlank c = false)

theorem toList_trim (s : String) :
    (trim s).toList = (s.toList.dropWhile isBlank).rdropWhile isBlank := by
  rw [trim, trimEnd, trimStart, String.toList_ofList, String.toList_ofList]
  rfl

/-- A text with no blank at either end is its own trimmed form. -/
theorem trim_eq_self {s : String} (h : Trimmed s.toList) : trim s = s := by
  have hstart : s.toList.dropWhile isBlank = s.toList := by
    cases hs : s.toList with
    | nil => rfl
    | cons c cs => exact List.dropWhile_cons_of_neg (by simp [h.1 c (by rw [hs]; rfl)])
  rw [← String.toList_inj, toList_trim, hstart, List.rdropWhile_eq_self_iff]
  intro hne
  simp [h.2 _ (List.getLast?_eq_some_getLast hne)]

theorem trimmed_trim (s : String) : Trimmed (trim s).toList := by
  rw [toList_trim]
  refine ⟨fun c hc => ?_, fun c hc => ?_⟩
  · -- the first character kept is the first that was not dropped
    obtain ⟨t, ht⟩ := List.rdropWhile_prefix (p := isBlank) (l := s.toList.dropWhile isBlank)
    have hhead : (s.toList.dropWhile isBlank).head? = some c := by
      rw [← ht, List.head?_append, hc]
      rfl
    have := List.head?_dropWhile_not isBlank s.toList
    rw [hhead] at this
    exact this
  · have hne : (s.toList.dropWhile isBlank).rdropWhile isBlank ≠ [] := by
      rintro h
      rw [h] at hc
      cases hc
    rw [List.getLast?_eq_some_getLast hne, Option.some.injEq] at hc
    rw [← hc]
    simpa using List.rdropWhile_last_not _ _ hne

theorem trim_trim (s : String) : trim (trim s) = trim s :=
  trim_eq_self (trimmed_trim s)

/-- A text without blanks has none at its ends. -/
theorem trimmed_of_forall {cs : List Char} (h : ∀ c ∈ cs, isBlank c = false) : Trimmed cs :=
  ⟨fun c hc => h c (List.mem_of_mem_head? hc), fun c hc => h c (List.mem_of_getLast? hc)⟩

/-- Digits are no blanks. -/
theorem isBlank_of_isDigit {c : Char} (h : c.isDigit = true) : isBlank c = false := by
  have hrange : 48 ≤ c.toNat ∧ c.toNat ≤ 57 := Char.isDigit_iff_toNat.mp h
  simp only [isBlank, Bool.or_eq_false_iff, Bool.and_eq_false_iff, decide_eq_false_iff_not,
    beq_eq_false_iff_ne]
  omega

theorem isBlank_of_mem_toDigits {c : Char} {v : Nat} (h : c ∈ Nat.toDigits 10 v) : isBlank c = false :=
  isBlank_of_isDigit (Nat.isDigit_of_mem_toDigits (by decide) (by decide) h)

theorem trimmed_toDigits (v : Nat) : Trimmed (Nat.toDigits 10 v) :=
  trimmed_of_forall fun _ => isBlank_of_mem_toDigits

end DocBlocks.Text

namespace DocBlocks.Choice

open DocBlocks.Text DocBlocks.Numeral

/-! ### Counts -/

/-- `text`, trimmed, is a count of value `v`: an optional `+`, then ASCII
digits, worth less than `countBound`. -/
def IsCount (text : String) (v : Nat) : Prop :=
  WritesDecimal (trim text).toList v ∧ v < countBound

theorem readCount_eq_some_iff {text : String} {v : Nat} : readCount text = some v ↔ IsCount text v :=
  readUnsigned?_ten_eq_some_iff

theorem readCount_eq_none_iff {text : String} : readCount text = none ↔ ∀ v, ¬ IsCount text v := by
  simp only [← readCount_eq_some_iff, Option.eq_none_iff_forall_ne_some]

/-- A text is a count of one value at most. -/
theorem isCount_iff_of_readCount {text : String} {v : Nat} (h : readCount text = some v) (w : Nat) :
    IsCount text w ↔ w = v := by
  rw [← readCount_eq_some_iff, h, Option.some.injEq, eq_comm]

/-- A count's decimal text reads back as that count. -/
theorem readCount_toString {v : Nat} (hv : v < countBound) : readCount (toString v) = some v := by
  have htext : (toString v).toList = Nat.toDigits 10 v := Nat.toList_repr
  rw [readCount_eq_some_iff, IsCount, trim_eq_self (htext ▸ trimmed_toDigits v), htext]
  exact ⟨writesDecimal_toDigits v, hv⟩

/-! ### The first `..` -/

/-- `cs` is `lo`, then the first `..` of `cs`, then `hi`. -/
def SplitsAtFirstDots (cs lo hi : List Char) : Prop :=
  cs = lo ++ '.' :: '.' :: hi ∧ ¬ ['.', '.'] <:+: lo ++ ['.']

/-- Text that starts with `..` starts with `..` before any later `..` it
holds. -/
theorem dots_prefix_of_eq {lo hi rest : List Char}
    (h : lo ++ '.' :: '.' :: hi = '.' :: '.' :: rest) : lo = [] ∨ ['.', '.'] <+: lo ++ ['.'] := by
  match lo, h with
  | [], _ => exact .inl rfl
  | [_], h =>
    obtain ⟨rfl, -⟩ := List.cons.inj h
    exact .inr (List.prefix_refl _)
  | _ :: _ :: _, h =>
    simp only [List.cons_append, List.cons.injEq] at h
    obtain ⟨rfl, rfl, -⟩ := h
    exact .inr ⟨_, rfl⟩

/-- The case of `splitRange` that reads past `c` is the one where `c :: rest`
does not start with `..`. -/
theorem not_starts_with_dots {c : Char} {rest : List Char} (h : ∀ r, c = '.' → rest = '.' :: r → False) :
    ¬ ['.', '.'] <+: c :: rest := by
  rintro ⟨t, ht⟩
  simp only [List.cons_append, List.nil_append, List.cons.injEq] at ht
  exact h t ht.1.symm ht.2.symm

/-- **The cut.** A text is cut around its first `..`. -/
theorem splitRange_eq_some_iff {cs lo hi : List Char} :
    splitRange cs = some (lo, hi) ↔ SplitsAtFirstDots cs lo hi := by
  fun_induction splitRange cs generalizing lo hi with
  | case1 => simp [SplitsAtFirstDots]
  | case2 rest =>
    constructor
    · rintro ⟨⟩
      refine ⟨rfl, fun hinf => ?_⟩
      have := hinf.length_le
      simp at this
    · rintro ⟨heq, hfirst⟩
      rcases dots_prefix_of_eq heq.symm with rfl | hpre
      · obtain ⟨-, -, rfl⟩ := List.cons.inj heq
        rfl
      · exact absurd hpre.isInfix hfirst
  | case3 c rest hnot ih =>
    constructor
    · intro h
      obtain ⟨⟨lo', hi'⟩, hsplit, hpair⟩ := Option.map_eq_some_iff.mp h
      obtain ⟨rfl, rfl⟩ := Prod.mk.inj hpair
      obtain ⟨hrest, hfirst⟩ := ih.mp hsplit
      refine ⟨by rw [hrest]; rfl, fun hinf => ?_⟩
      rcases List.infix_cons_iff.mp hinf with hpre | hinf
      · -- a `..` starting at `c` would start `c :: rest`
        refine not_starts_with_dots hnot (hpre.trans ⟨'.' :: hi', ?_⟩)
        rw [hrest]
        simp
      · exact hfirst hinf
    · rintro ⟨heq, hfirst⟩
      match lo, heq, hfirst with
      | [], heq, _ =>
        obtain ⟨rfl, rfl⟩ := List.cons.inj heq
        exact absurd rfl (hnot hi rfl)
      | x :: lo', heq, hfirst =>
        obtain ⟨rfl, hrest⟩ := List.cons.inj heq
        have hsplit : splitRange rest = some (lo', hi) :=
          ih.mpr ⟨hrest, fun hinf => hfirst (hinf.trans (List.infix_cons List.infix_rfl))⟩
        rw [hsplit]
        rfl

theorem splitRange_eq_none_iff {cs : List Char} : splitRange cs = none ↔ ¬ ['.', '.'] <:+: cs := by
  fun_induction splitRange cs with
  | case1 => simp
  | case2 rest =>
    simp only [reduceCtorEq, false_iff, not_not]
    exact ⟨[], rest, rfl⟩
  | case3 c rest hnot ih =>
    rw [Option.map_eq_none_iff, ih, List.infix_cons_iff, not_or]
    exact ⟨fun h => ⟨not_starts_with_dots hnot, h⟩, And.right⟩

/-! ### Reading a cardinality -/

/-- The reason a text that is neither a count nor a range is refused. -/
def countReason (text : String) : String :=
  "'" ++ text ++ "' is not a count or a range like 1..3"

/-- The reason a range whose lower bound exceeds its upper one is refused. -/
def emptyReason (lo hi : Nat) : String :=
  "range " ++ toString lo ++ ".." ++ toString hi ++ " is empty"

section
variable {s : String} {n : Nat}

/-! Each way the reading can go, computed. -/

theorem ofCardinality_of_count (hsplit : splitRange (trim s).toList = none) {v : Nat}
    (hv : readCount (trim s) = some v) : Range.ofCardinality (some s) n = .ok (.exactly v) := by
  unfold Range.ofCardinality
  dsimp only
  rw [hsplit]
  dsimp only
  rw [hv]
  rfl

theorem ofCardinality_of_not_count (hsplit : splitRange (trim s).toList = none)
    (hv : readCount (trim s) = none) :
    Range.ofCardinality (some s) n = .error ⟨n, countReason (trim s)⟩ := by
  unfold Range.ofCardinality
  dsimp only
  rw [hsplit]
  dsimp only
  rw [hv]
  rfl

variable {lo hi : List Char}

theorem ofCardinality_of_bounds (hsplit : splitRange (trim s).toList = some (lo, hi)) {a b : Nat}
    (ha : readCount (String.ofList lo) = some a) (hb : readCount (String.ofList hi) = some b) :
    Range.ofCardinality (some s) n =
      if b < a then .error ⟨n, emptyReason a b⟩ else .ok (.between a b) := by
  unfold Range.ofCardinality
  dsimp only
  rw [hsplit]
  dsimp only
  rw [ha, hb]
  rfl

theorem ofCardinality_of_not_lower (hsplit : splitRange (trim s).toList = some (lo, hi))
    (ha : readCount (String.ofList lo) = none) :
    Range.ofCardinality (some s) n = .error ⟨n, countReason (trim s)⟩ := by
  unfold Range.ofCardinality
  dsimp only
  rw [hsplit]
  dsimp only
  rw [ha]
  rfl

theorem ofCardinality_of_not_upper (hsplit : splitRange (trim s).toList = some (lo, hi)) {a : Nat}
    (ha : readCount (String.ofList lo) = some a) (hb : readCount (String.ofList hi) = none) :
    Range.ofCardinality (some s) n = .error ⟨n, countReason (trim s)⟩ := by
  unfold Range.ofCardinality
  dsimp only
  rw [hsplit]
  dsimp only
  rw [ha, hb]
  rfl

end

/-! ### What a cardinality reads as -/

section
variable {s : String} {n : Nat}

/-- Without `..`, the text reads as the count it is. -/
theorem ofCardinality_single_eq_ok_iff (hsplit : splitRange (trim s).toList = none) (r : Range) :
    Range.ofCardinality (some s) n = .ok r ↔ ∃ v, r = .exactly v ∧ IsCount (trim s) v := by
  rcases hv : readCount (trim s) with _ | v
  · rw [ofCardinality_of_not_count hsplit hv]
    simp [readCount_eq_none_iff.mp hv]
  · rw [ofCardinality_of_count hsplit hv, Except.ok.injEq]
    simp [isCount_iff_of_readCount hv, eq_comm]

/-- Without `..`, a text that is no count is refused. -/
theorem ofCardinality_single_eq_error_iff (hsplit : splitRange (trim s).toList = none)
    (e : ChoiceError) :
    Range.ofCardinality (some s) n = .error e ↔
      (∀ v, ¬ IsCount (trim s) v) ∧ e = ⟨n, countReason (trim s)⟩ := by
  rcases hv : readCount (trim s) with _ | v
  · rw [ofCardinality_of_not_count hsplit hv, Except.error.injEq]
    simp [readCount_eq_none_iff.mp hv, eq_comm]
  · rw [ofCardinality_of_count hsplit hv]
    simp [isCount_iff_of_readCount hv]

variable {lo hi : List Char}

/-- Around `..`, the text reads as the range of its two counts, the lower not
above the upper. -/
theorem ofCardinality_split_eq_ok_iff (hsplit : splitRange (trim s).toList = some (lo, hi))
    (r : Range) :
    Range.ofCardinality (some s) n = .ok r ↔
      ∃ a b, r = .between a b ∧ IsCount (String.ofList lo) a ∧ IsCount (String.ofList hi) b ∧ a ≤ b := by
  rcases ha : readCount (String.ofList lo) with _ | a
  · rw [ofCardinality_of_not_lower hsplit ha]
    simp [readCount_eq_none_iff.mp ha]
  rcases hb : readCount (String.ofList hi) with _ | b
  · rw [ofCardinality_of_not_upper hsplit ha hb]
    simp [readCount_eq_none_iff.mp hb]
  rw [ofCardinality_of_bounds hsplit ha hb]
  by_cases hab : b < a
  · simp [hab, isCount_iff_of_readCount ha, isCount_iff_of_readCount hb]
  · simp [hab, isCount_iff_of_readCount ha, isCount_iff_of_readCount hb, eq_comm]
    omega

/-- Around `..`, a side that is no count, or bounds the wrong way round, are
refused, each with its own reason. -/
theorem ofCardinality_split_eq_error_iff (hsplit : splitRange (trim s).toList = some (lo, hi))
    (e : ChoiceError) :
    Range.ofCardinality (some s) n = .error e ↔
      (∃ a b, IsCount (String.ofList lo) a ∧ IsCount (String.ofList hi) b ∧ b < a ∧
          e = ⟨n, emptyReason a b⟩) ∨
        ((∀ a, ¬ IsCount (String.ofList lo) a) ∨ (∀ b, ¬ IsCount (String.ofList hi) b)) ∧
          e = ⟨n, countReason (trim s)⟩ := by
  rcases ha : readCount (String.ofList lo) with _ | a
  · rw [ofCardinality_of_not_lower hsplit ha, Except.error.injEq]
    simp [readCount_eq_none_iff.mp ha, eq_comm]
  rcases hb : readCount (String.ofList hi) with _ | b
  · rw [ofCardinality_of_not_upper hsplit ha hb, Except.error.injEq]
    simp [readCount_eq_none_iff.mp hb, isCount_iff_of_readCount ha, eq_comm]
  rw [ofCardinality_of_bounds hsplit ha hb]
  by_cases hab : b < a
  · simp [hab, isCount_iff_of_readCount ha, isCount_iff_of_readCount hb, eq_comm]
  · simp [hab, isCount_iff_of_readCount ha, isCount_iff_of_readCount hb]

end

/-! ### Ranges read back -/

/-- A range read has its lower bound at most its upper one, both below
`countBound`. -/
theorem ofCardinality_ok_bounds {c : Option String} {n : Nat} {r : Range}
    (h : Range.ofCardinality c n = .ok r) : r.min ≤ r.max ∧ r.max < countBound := by
  cases c with
  | none =>
    obtain rfl : Range.exactly 1 = r := Except.ok.inj h
    exact ⟨Nat.le_refl 1, by decide⟩
  | some s =>
    rcases hsplit : splitRange (trim s).toList with _ | ⟨lo, hi⟩
    · obtain ⟨v, rfl, -, hv⟩ := (ofCardinality_single_eq_ok_iff hsplit r).mp h
      exact ⟨Nat.le_refl v, hv⟩
    · obtain ⟨a, b, rfl, -, ⟨-, hb⟩, hab⟩ := (ofCardinality_split_eq_ok_iff hsplit r).mp h
      exact ⟨hab, hb⟩

theorem dot_not_mem_toDigits (v : Nat) : '.' ∉ Nat.toDigits 10 v := fun h =>
  absurd (Nat.isDigit_of_mem_toDigits (by decide) (by decide) h) (by decide)

/-- **Writing a range and reading it back.** A range within the bounds
reads back from its text. -/
theorem ofCardinality_text {r : Range} (hr : r.min ≤ r.max) (hb : r.max < countBound) (n : Nat) :
    Range.ofCardinality (some r.text) n = .ok r := by
  cases r with
  | exactly v =>
    have htext : (Range.text (.exactly v)).toList = Nat.toDigits 10 v := Nat.toList_repr
    have htrim : trim (Range.text (.exactly v)) = Range.text (.exactly v) :=
      trim_eq_self (htext ▸ trimmed_toDigits v)
    have hsplit : splitRange (trim (Range.text (.exactly v))).toList = none := by
      rw [htrim, htext, splitRange_eq_none_iff]
      exact fun hinf => dot_not_mem_toDigits v (hinf.subset List.mem_cons_self)
    exact ofCardinality_of_count hsplit (by rw [htrim]; exact readCount_toString hb)
  | between a b =>
    have htext : (Range.text (.between a b)).toList =
        Nat.toDigits 10 a ++ '.' :: '.' :: Nat.toDigits 10 b := by
      simp [Range.text, Nat.toList_repr]
    have htrim : trim (Range.text (.between a b)) = Range.text (.between a b) := by
      refine trim_eq_self (trimmed_of_forall fun c hc => ?_)
      rw [htext] at hc
      simp only [List.mem_append, List.mem_cons] at hc
      rcases hc with hc | rfl | rfl | hc
      · exact isBlank_of_mem_toDigits hc
      · rfl
      · rfl
      · exact isBlank_of_mem_toDigits hc
    have hsplit : splitRange (trim (Range.text (.between a b))).toList =
        some (Nat.toDigits 10 a, Nat.toDigits 10 b) := by
      rw [htrim, htext, splitRange_eq_some_iff]
      refine ⟨rfl, fun hinf => ?_⟩
      -- `..` holds two dots, the lower bound's digits and one dot only one
      have hcount := hinf.sublist.count_le '.'
      simp [List.count_eq_zero.mpr (dot_not_mem_toDigits a)] at hcount
    have hbounds : a ≤ b ∧ b < countBound := ⟨hr, hb⟩
    rw [ofCardinality_of_bounds hsplit (a := a) (b := b), if_neg (by omega)]
    · rw [← Nat.toString_eq_ofList_toDigits]
      exact readCount_toString (by omega)
    · rw [← Nat.toString_eq_ofList_toDigits]
      exact readCount_toString hb

/-- **Reading a cardinality.** Without parentheses exactly one choice is
allowed. A text, once trimmed, either holds no `..` or is cut at its first
one. Cut, it reads as the range of its two sides when both are counts, the
lower not above the upper; uncut, it reads as the count it is. Every other
text is refused with an error on line `n`: the range is called empty when
both sides are counts and the lower is the greater, and otherwise the
trimmed text is quoted as neither a count nor a range. Every range read has
its lower bound at most its upper one and reads back from its own text. -/
theorem Range.ofCardinality_grammar (n : Nat) :
    Range.ofCardinality none n = .ok (.exactly 1) ∧
    (∀ s, ['.', '.'] <:+: (trim s).toList → ∃ lo hi, SplitsAtFirstDots (trim s).toList lo hi) ∧
    (∀ s lo hi, SplitsAtFirstDots (trim s).toList lo hi →
      (∀ r, Range.ofCardinality (some s) n = .ok r ↔
        ∃ a b, r = .between a b ∧ IsCount (String.ofList lo) a ∧ IsCount (String.ofList hi) b ∧
          a ≤ b) ∧
      ∀ e, Range.ofCardinality (some s) n = .error e ↔
        (∃ a b, IsCount (String.ofList lo) a ∧ IsCount (String.ofList hi) b ∧ b < a ∧
            e = ⟨n, emptyReason a b⟩) ∨
          ((∀ a, ¬ IsCount (String.ofList lo) a) ∨ (∀ b, ¬ IsCount (String.ofList hi) b)) ∧
            e = ⟨n, countReason (trim s)⟩) ∧
    (∀ s, ¬ ['.', '.'] <:+: (trim s).toList →
      (∀ r, Range.ofCardinality (some s) n = .ok r ↔
        ∃ v, r = .exactly v ∧ WritesDecimal (trim s).toList v ∧ v < countBound) ∧
      ∀ e, Range.ofCardinality (some s) n = .error e ↔
        (∀ v, ¬ (WritesDecimal (trim s).toList v ∧ v < countBound)) ∧
          e = ⟨n, countReason (trim s)⟩) ∧
    ∀ c r, Range.ofCardinality c n = .ok r →
      r.min ≤ r.max ∧ Range.ofCardinality (some r.text) n = .ok r := by
  refine ⟨rfl, fun s hdots => ?_, fun s lo hi hcut => ?_, fun s hnone => ?_, fun c r h => ?_⟩
  · rcases hsplit : splitRange (trim s).toList with _ | ⟨lo, hi⟩
    · exact absurd hdots (splitRange_eq_none_iff.mp hsplit)
    · exact ⟨lo, hi, splitRange_eq_some_iff.mp hsplit⟩
  · have hsplit := splitRange_eq_some_iff.mpr hcut
    exact ⟨ofCardinality_split_eq_ok_iff hsplit, ofCardinality_split_eq_error_iff hsplit⟩
  · have hsplit := splitRange_eq_none_iff.mpr hnone
    have hok := ofCardinality_single_eq_ok_iff (n := n) hsplit
    have herror := ofCardinality_single_eq_error_iff (n := n) hsplit
    -- the text is trimmed already, so it is a count exactly when it writes one
    simp only [IsCount, trim_trim] at hok herror
    exact ⟨hok, herror⟩
  · obtain ⟨hr, hb⟩ := ofCardinality_ok_bounds h
    exact ⟨hr, ofCardinality_text hr hb n⟩

example : Range.ofCardinality (some " 2 .. +05 ") 3 = .ok (.between 2 5) := by decide +kernel

example : Range.ofCardinality (some "1...3") 3 = .error ⟨3, countReason "1...3"⟩ := by decide +kernel

example : Range.ofCardinality (some "18446744073709551616") 3 =
    .error ⟨3, countReason "18446744073709551616"⟩ := by decide +kernel

end DocBlocks.Choice

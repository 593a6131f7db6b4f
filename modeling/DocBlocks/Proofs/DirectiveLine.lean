import DocBlocks.Choice.Directive

/-!
# Where a line holds a `Choose` directive

A directive is spelled by the keyword `Choose`, blanks, optionally a count of
decimal digits and dots in parentheses followed by more blanks, and a colon;
the rest of the line after the colon must hold no line feed, and trimmed it is
the directive's remainder (`Spells`). It must start at a word boundary
(`IsWordBoundary`): since the keyword starts with a word character, the
character before it must not be one. A line holds the directive spelled at
the first place where both hold.

* `afterKeyword_eq_some_iff` — what follows the keyword is read exactly when
  it spells a directive;
* `findDirective_eq_some_iff` — the scan finds the directive at the first
  word boundary that starts one;
* `Directive.ofLine_eq_some_iff` — the directive of a line is the one spelled
  at the first word boundary of the line where a directive is spelled.
-/

namespace DocBlocks.Choice

open DocBlocks.Text

/-! ### The grammar of a directive -/

/-- `cs` spells the directive `d`: the keyword, blanks, optionally a count of
decimal digits and dots in parentheses and more blanks, then a colon; what
follows the colon holds no line feed and, trimmed, is the remainder. -/
inductive Spells : List Char → Directive → Prop
  | plain {blanks tail : List Char} :
      (∀ c ∈ blanks, isBlank c = true) → '\n' ∉ tail →
      Spells (keyword ++ (blanks ++ ':' :: tail)) ⟨none, trim (String.ofList tail)⟩
  | counted {blanks count blanks' tail : List Char} :
      (∀ c ∈ blanks, isBlank c = true) → count ≠ [] →
      (∀ c ∈ count, isDecimalDigit c = true ∨ c = '.') →
      (∀ c ∈ blanks', isBlank c = true) → '\n' ∉ tail →
      Spells (keyword ++ (blanks ++ '(' :: (count ++ ')' :: (blanks' ++ ':' :: tail))))
        ⟨some (String.ofList count), trim (String.ofList tail)⟩

/-- Whether the character on one side of a position is a word character; past
an end of the text there is none. -/
def wordSide (c : Option Char) : Bool := (c.map isWordChar).getD false

/-- Position `p` of `cs` is a word boundary: of the characters just before and
just after it, exactly one is a word character. -/
def IsWordBoundary (cs : List Char) (p : Nat) : Prop :=
  wordSide (cs.take p).getLast? ≠ wordSide (cs.drop p).head?

/-- A directive is spelled at position `p` of `cs`, which is a word
boundary. -/
def SpelledAt (cs : List Char) (p : Nat) (d : Directive) : Prop :=
  IsWordBoundary cs p ∧ Spells (cs.drop p) d

theorem Spells.keyword_append {cs : List Char} {d : Directive} (h : Spells cs d) :
    ∃ rest, cs = keyword ++ rest := by
  cases h with
  | plain => exact ⟨_, rfl⟩
  | counted => exact ⟨_, rfl⟩

/-! ### Reading what follows the keyword -/

theorem remainderOf_eq_some_iff {tail : List Char} {rem : String} :
    remainderOf tail = some rem ↔ '\n' ∉ tail ∧ rem = trim (String.ofList tail) := by
  by_cases h : '\n' ∈ tail <;> simp [remainderOf, h, eq_comm]

theorem afterKeyword_plain {blanks tail : List Char} (hblanks : ∀ c ∈ blanks, isBlank c = true)
    (htail : '\n' ∉ tail) :
    afterKeyword (blanks ++ ':' :: tail) = some ⟨none, trim (String.ofList tail)⟩ := by
  have hr : (blanks ++ ':' :: tail).dropWhile isBlank = ':' :: tail := by
    rw [List.dropWhile_append_of_pos hblanks, List.dropWhile_cons_of_neg (by decide)]
  simp [afterKeyword, hr, remainderOf_eq_some_iff.mpr ⟨htail, rfl⟩]

theorem afterKeyword_counted {blanks count blanks' tail : List Char}
    (hblanks : ∀ c ∈ blanks, isBlank c = true) (hcount : count ≠ [])
    (hdigits : ∀ c ∈ count, isDecimalDigit c = true ∨ c = '.')
    (hblanks' : ∀ c ∈ blanks', isBlank c = true) (htail : '\n' ∉ tail) :
    afterKeyword (blanks ++ '(' :: (count ++ ')' :: (blanks' ++ ':' :: tail))) =
      some ⟨some (String.ofList count), trim (String.ofList tail)⟩ := by
  have hr : (blanks ++ '(' :: (count ++ ')' :: (blanks' ++ ':' :: tail))).dropWhile isBlank =
      '(' :: (count ++ ')' :: (blanks' ++ ':' :: tail)) := by
    rw [List.dropWhile_append_of_pos hblanks, List.dropWhile_cons_of_neg (by decide)]
  have hdigits' : ∀ c ∈ count, (isDecimalDigit c || c == '.') = true := by
    intro c hc
    simpa using hdigits c hc
  have htake : (count ++ ')' :: (blanks' ++ ':' :: tail)).takeWhile
      (fun c => isDecimalDigit c || c == '.') = count := by
    rw [List.takeWhile_append_of_pos hdigits', List.takeWhile_cons_of_neg (by decide), List.append_nil]
  have hdrop : (count ++ ')' :: (blanks' ++ ':' :: tail)).dropWhile
      (fun c => isDecimalDigit c || c == '.') = ')' :: (blanks' ++ ':' :: tail) := by
    rw [List.dropWhile_append_of_pos hdigits', List.dropWhile_cons_of_neg (by decide)]
  have hafter : (blanks' ++ ':' :: tail).dropWhile isBlank = ':' :: tail := by
    rw [List.dropWhile_append_of_pos hblanks', List.dropWhile_cons_of_neg (by decide)]
  obtain ⟨c, cs, hcs⟩ := List.exists_cons_of_ne_nil hcount
  simp only [afterKeyword, hr, htake, hdrop]
  rw [hcs]
  simp only [hafter, remainderOf_eq_some_iff.mpr ⟨htail, rfl⟩, Option.map_some]

/-- A list is the run of its first elements that satisfy `p`, then the rest
from the first one that does not. -/
theorem exists_run_append_dropWhile {α : Type} (p : α → Bool) (l : List α) :
    ∃ run, (∀ c ∈ run, p c = true) ∧ l = run ++ l.dropWhile p :=
  ⟨l.takeWhile p, List.all_eq_true.mp List.all_takeWhile, List.takeWhile_append_dropWhile.symm⟩

/-- What `afterKeyword` reads is spelled after the keyword. -/
theorem spells_of_afterKeyword {rest : List Char} {d : Directive} (h : afterKeyword rest = some d) :
    Spells (keyword ++ rest) d := by
  -- the proof follows the reading: blanks, then a count in parentheses or a colon
  obtain ⟨blanks, hblanks, hrest⟩ := exists_run_append_dropWhile isBlank rest
  rw [hrest]
  simp only [afterKeyword] at h
  generalize rest.dropWhile isBlank = r at h ⊢
  split at h
  next d' hcount =>
    cases h
    split at hcount
    next inner =>
      -- the count is the longest run of digits and dots, which the model takes
      have hdigits : ∀ c ∈ inner.takeWhile (fun c => isDecimalDigit c || c == '.'),
          (isDecimalDigit c || c == '.') = true :=
        List.all_eq_true.mp List.all_takeWhile
      rw [← List.takeWhile_append_dropWhile (p := fun c => isDecimalDigit c || c == '.') (l := inner)]
      generalize inner.takeWhile (fun c => isDecimalDigit c || c == '.') = count at hcount hdigits ⊢
      generalize inner.dropWhile (fun c => isDecimalDigit c || c == '.') = afterCount at hcount ⊢
      split at hcount
      next c cs after =>
        obtain ⟨blanks', hblanks', hafter⟩ := exists_run_append_dropWhile isBlank after
        rw [hafter]
        generalize after.dropWhile isBlank = r' at hcount ⊢
        split at hcount
        next tail =>
          obtain ⟨rem, hrem, rfl⟩ := Option.map_eq_some_iff.mp hcount
          obtain ⟨hnl, rfl⟩ := remainderOf_eq_some_iff.mp hrem
          exact .counted hblanks (List.cons_ne_nil c cs) (fun x hx => by simpa using hdigits x hx)
            hblanks' hnl
        next => cases hcount
      next => cases hcount
    next => cases hcount
  next =>
    -- no count: the colon must follow the blanks
    split at h
    next tail =>
      obtain ⟨rem, hrem, rfl⟩ := Option.map_eq_some_iff.mp h
      obtain ⟨hnl, rfl⟩ := remainderOf_eq_some_iff.mp hrem
      exact .plain hblanks hnl
    next => cases h

/-- What follows the keyword is read exactly when it spells a directive. -/
theorem afterKeyword_eq_some_iff {rest : List Char} {d : Directive} :
    afterKeyword rest = some d ↔ Spells (keyword ++ rest) d := by
  refine ⟨spells_of_afterKeyword, fun h => ?_⟩
  generalize hcs : keyword ++ rest = cs at h
  cases h with
  | plain hblanks htail =>
    rw [List.append_cancel_left hcs]
    exact afterKeyword_plain hblanks htail
  | counted hblanks hcount hdigits hblanks' htail =>
    rw [List.append_cancel_left hcs]
    exact afterKeyword_counted hblanks hcount hdigits hblanks' htail

/-- A text spells a directive when it starts with the keyword and what follows
is read as one. -/
theorem spells_iff_isPrefixOf {cs : List Char} {d : Directive} :
    Spells cs d ↔ keyword.isPrefixOf cs = true ∧ afterKeyword (cs.drop keyword.length) = some d := by
  constructor
  · intro h
    obtain ⟨rest, rfl⟩ := h.keyword_append
    rw [List.drop_left, afterKeyword_eq_some_iff]
    exact ⟨List.isPrefixOf_iff_prefix.mpr (List.prefix_append _ _), h⟩
  · rintro ⟨hpre, hread⟩
    rw [← List.prefix_iff_eq_append.mp (List.isPrefixOf_iff_prefix.mp hpre)]
    exact afterKeyword_eq_some_iff.mp hread

/-- A text spells one directive at most. -/
theorem Spells.unique {cs : List Char} {d d' : Directive} (h : Spells cs d) (h' : Spells cs d') :
    d = d' :=
  Option.some.inj ((spells_iff_isPrefixOf.mp h).2.symm.trans (spells_iff_isPrefixOf.mp h').2)

/-- A directive starts with a word character. -/
theorem wordSide_head_of_spells {cs : List Char} {d : Directive} (h : Spells cs d) :
    wordSide cs.head? = true := by
  obtain ⟨rest, rfl⟩ := h.keyword_append
  rfl

theorem not_spells_nil {d : Directive} : ¬ Spells [] d := fun h => by
  obtain ⟨rest, hrest⟩ := h.keyword_append
  cases hrest

/-! ### The scan along a line -/

/-- The scan takes a directive that starts right after a non-word
character. -/
theorem findDirective_cons_of_spells {prev : Option Char} {c : Char} {rest : List Char}
    {d : Directive} (hprev : wordSide prev = false) (h : Spells (c :: rest) d) :
    findDirective prev (c :: rest) = some d := by
  obtain ⟨hpre, hread⟩ := spells_iff_isPrefixOf.mp h
  simp only [wordSide] at hprev
  simp [findDirective, hprev, hpre, hread]

/-- Where no directive starts right after a non-word character, the scan moves
one character on. -/
theorem findDirective_cons_of_not_spells {prev : Option Char} {c : Char} {rest : List Char}
    (h : wordSide prev = false → ∀ d, ¬ Spells (c :: rest) d) :
    findDirective prev (c :: rest) = findDirective (some c) rest := by
  cases hside : wordSide prev with
  | true =>
    simp only [wordSide] at hside
    simp [findDirective, hside]
  | false =>
    cases hpre : keyword.isPrefixOf (c :: rest) with
    | false => simp [findDirective, hpre]
    | true =>
      cases hread : afterKeyword ((c :: rest).drop keyword.length) with
      | none => simp [findDirective, hpre, hread]
      | some d => exact absurd (spells_iff_isPrefixOf.mpr ⟨hpre, hread⟩) (h hside d)

/-- A directive is spelled where the scanned text starts exactly when the
character before it is not a word character. -/
theorem spelledAt_length_iff {pre cs : List Char} {d : Directive} :
    SpelledAt (pre ++ cs) pre.length d ↔ wordSide pre.getLast? = false ∧ Spells cs d := by
  rw [SpelledAt, IsWordBoundary, List.take_left, List.drop_left]
  constructor
  · rintro ⟨hboundary, hs⟩
    rw [wordSide_head_of_spells hs] at hboundary
    exact ⟨Bool.eq_false_iff.mpr hboundary, hs⟩
  · rintro ⟨hside, hs⟩
    rw [hside, wordSide_head_of_spells hs]
    exact ⟨Bool.false_ne_true, hs⟩

/-- Two directives spelled at one position are the same. -/
theorem SpelledAt.unique {cs : List Char} {p : Nat} {d d' : Directive} (h : SpelledAt cs p d)
    (h' : SpelledAt cs p d') : d = d' :=
  h.2.unique h'.2

/-- The scan of the text after `pre` finds the directive spelled at the first
position, from the end of `pre` on, where one is spelled. -/
theorem findDirective_eq_some_iff (pre cs : List Char) (d : Directive) :
    findDirective pre.getLast? cs = some d ↔
      ∃ p, SpelledAt (pre ++ cs) (pre.length + p) d ∧
        ∀ q < p, ¬ ∃ d', SpelledAt (pre ++ cs) (pre.length + q) d' := by
  induction cs generalizing pre with
  | nil =>
    -- nothing is spelled at the end of the text
    constructor
    · intro h
      cases h
    · rintro ⟨p, ⟨-, hs⟩, -⟩
      rw [List.append_nil, List.drop_eq_nil_of_le (Nat.le_add_right _ _)] at hs
      exact absurd hs not_spells_nil
  | cons c rest ih =>
    -- the scan of `rest` sees `c` before it
    have ih' := ih (pre ++ [c])
    rw [List.getLast?_concat, List.append_assoc, List.singleton_append, List.length_append,
      List.length_singleton] at ih'
    have hshift : ∀ q d', SpelledAt (pre ++ c :: rest) (pre.length + 1 + q) d' ↔
        SpelledAt (pre ++ c :: rest) (pre.length + (q + 1)) d' := fun q d' => by
      rw [Nat.add_right_comm, Nat.add_assoc]
    by_cases hhere : ∃ d', SpelledAt (pre ++ c :: rest) pre.length d'
    · -- a directive starts at `c`: the scan stops there
      obtain ⟨d', hd'⟩ := hhere
      obtain ⟨hside, hs⟩ := spelledAt_length_iff.mp hd'
      rw [findDirective_cons_of_spells hside hs]
      constructor
      · rintro ⟨⟩
        exact ⟨0, hd', fun q hq => absurd hq (Nat.not_lt_zero q)⟩
      · rintro ⟨p, hp, hbefore⟩
        cases p with
        | zero => exact congrArg some (hd'.unique hp)
        | succ p => exact absurd ⟨d', hd'⟩ (hbefore 0 (Nat.succ_pos p))
    · -- none starts at `c`: the scan moves on
      have hnot : wordSide pre.getLast? = false → ∀ d', ¬ Spells (c :: rest) d' :=
        fun hside d' hs => hhere ⟨d', spelledAt_length_iff.mpr ⟨hside, hs⟩⟩
      rw [findDirective_cons_of_not_spells hnot, ih']
      constructor
      · rintro ⟨p, hp, hbefore⟩
        refine ⟨p + 1, (hshift p d).mp hp, ?_⟩
        rintro q hq ⟨d', hq'⟩
        cases q with
        | zero => exact hhere ⟨d', hq'⟩
        | succ q => exact hbefore q (Nat.lt_of_succ_lt_succ hq) ⟨d', (hshift q d').mpr hq'⟩
      · rintro ⟨p, hp, hbefore⟩
        cases p with
        | zero => exact absurd ⟨d, hp⟩ hhere
        | succ p =>
          refine ⟨p, (hshift p d).mpr hp, ?_⟩
          rintro q hq ⟨d', hq'⟩
          exact hbefore (q + 1) (Nat.succ_lt_succ hq) ⟨d', (hshift q d').mp hq'⟩

/-! ### The directive of a line -/

/-- A line holds a directive exactly when one is spelled at a word boundary of
it, and the directive it holds is the one spelled at the first such
position. -/
theorem Directive.ofLine_eq_some_iff (line : String) (d : Directive) :
    Directive.ofLine line = some d ↔
      ∃ p, IsWordBoundary line.toList p ∧ Spells (line.toList.drop p) d ∧
        ∀ q < p, ¬ (IsWordBoundary line.toList q ∧ ∃ d', Spells (line.toList.drop q) d') := by
  have hscan := findDirective_eq_some_iff [] line.toList d
  rw [List.getLast?_nil, List.nil_append, List.length_nil] at hscan
  simp only [Nat.zero_add, SpelledAt, exists_and_left, and_assoc] at hscan
  rw [Directive.ofLine, hscan]

example : Directive.ofLine "# Choose (1..3): [a]" = some ⟨some "1..3", "[a]"⟩ := by decide

example : Directive.ofLine "# Choose (one or two): [a, b]" = none := by decide

end DocBlocks.Choice

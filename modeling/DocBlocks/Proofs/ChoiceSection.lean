import DocBlocks.Choice.Section
import DocBlocks.Proofs.Cardinality

/-!
# The choice section of a docblock

A docblock's choice section comes from its first `Choose` directive after the
first line (`FirstDirective`); the lines before the directive play no part
beyond not holding one. The directive's parentheses give the range, read
first, so an unreadable range is the error whatever follows. The choices are
read from the text after the colon, or, when nothing follows it, from all the
lines below the directive, uncommented and joined (`choiceText`).

* `sectionFrom_append_of_none` — lines without a directive are passed over,
  only moving the line count on;
* `decodeChoices_eq_ok_iff`, `decodeChoices_eq_error_iff` — empty text and
  null are the empty list, a sequence its items, and anything else an error
  naming the kind found or the reason the text is not YAML;
* `Section.ofDocblock_first_directive` — the section as the first directive
  decides it: none without a directive, else the range and choices of that
  directive with every error on its line, whatever the lines before it hold.
-/

namespace DocBlocks.Choice

open DocBlocks.Text DocBlocks.Yaml

/-! ### Where the first directive stands -/

/-- The directive line `j` of a docblock holds, if any. -/
def directiveAt (docblock : List String) (j : Nat) : Option Directive :=
  docblock[j]?.bind Directive.ofLine

/-- Line `i` of `docblock` (counted from zero) holds its first directive after
the first line, and that directive is `d`. -/
def FirstDirective (docblock : List String) (i : Nat) (d : Directive) : Prop :=
  1 ≤ i ∧ directiveAt docblock i = some d ∧ ∀ j, 1 ≤ j → j < i → directiveAt docblock j = none

/-- The text the choices of directive `d` are read from, `below` being the
docblock lines after it: the directive's remainder, or, when that is empty,
the lines below uncommented and joined. -/
def choiceText (d : Directive) (below : List String) : String :=
  if d.remainder.isEmpty then joinLines (below.map uncomment) else d.remainder

theorem directiveAt_cons_succ (first : String) (ls : List String) (j : Nat) :
    directiveAt (first :: ls) (j + 1) = directiveAt ls j := rfl

/-- A list of lines holds no directive, or a first one. -/
theorem none_or_first_directive (ls : List String) :
    (∀ l ∈ ls, Directive.ofLine l = none) ∨
      ∃ pre line below d, ls = pre ++ line :: below ∧ (∀ l ∈ pre, Directive.ofLine l = none) ∧
        Directive.ofLine line = some d := by
  induction ls with
  | nil => exact .inl fun _ h => absurd h List.not_mem_nil
  | cons l ls ih =>
    cases hl : Directive.ofLine l with
    | some d => exact .inr ⟨[], l, ls, d, rfl, fun _ h => absurd h List.not_mem_nil, hl⟩
    | none =>
      rcases ih with hnone | ⟨pre, line, below, d, rfl, hpre, hline⟩
      · exact .inl (List.forall_mem_cons.mpr ⟨hl, hnone⟩)
      · exact .inr ⟨l :: pre, line, below, d, rfl, List.forall_mem_cons.mpr ⟨hl, hpre⟩, hline⟩

/-- The first directive of `first :: pre ++ line :: below`, when `pre` holds
none, stands on `line`. -/
theorem firstDirective_of_split {first line : String} {pre below : List String}
    (hpre : ∀ l ∈ pre, Directive.ofLine l = none) {d : Directive} (hline : Directive.ofLine line = some d) :
    FirstDirective (first :: (pre ++ line :: below)) (pre.length + 1) d := by
  refine ⟨Nat.le_add_left 1 _, ?_, fun j hj hlt => ?_⟩
  · rw [directiveAt_cons_succ, directiveAt, List.getElem?_append_right (Nat.le_refl _), Nat.sub_self]
    exact hline
  · obtain ⟨k, rfl⟩ : ∃ k, j = k + 1 := ⟨j - 1, by omega⟩
    have hk : k < pre.length := by omega
    rw [directiveAt_cons_succ, directiveAt, List.getElem?_append_left hk, List.getElem?_eq_getElem hk]
    exact hpre _ (List.getElem_mem hk)

/-- A docblock has one first directive at most. -/
theorem FirstDirective.unique {D : List String} {i i' : Nat} {d d' : Directive}
    (h : FirstDirective D i d) (h' : FirstDirective D i' d') : i = i' ∧ d = d' := by
  obtain ⟨hi, hd, hbefore⟩ := h
  obtain ⟨hi', hd', hbefore'⟩ := h'
  rcases Nat.lt_trichotomy i i' with hlt | rfl | hgt
  · rw [hbefore' i hi hlt] at hd
    cases hd
  · rw [hd] at hd'
    exact ⟨rfl, Option.some.inj hd'⟩
  · rw [hbefore i' hi' hgt] at hd'
    cases hd'

/-- A docblock with a first directive has a directive after its first line. -/
theorem FirstDirective.exists_directive {D : List String} {i : Nat} {d : Directive}
    (h : FirstDirective D i d) : ¬ ∀ j, 1 ≤ j → directiveAt D j = none := fun hnone => by
  have hd := h.2.1
  rw [hnone i h.1] at hd
  cases hd

/-! ### Scanning for the directive -/

/-- Lines without a directive are passed over, moving the line count on. -/
theorem sectionFrom_append_of_none {pre : List String} (hpre : ∀ l ∈ pre, Directive.ofLine l = none)
    (rest : List String) (number : Nat) :
    sectionFrom (pre ++ rest) number = sectionFrom rest (number + pre.length) := by
  induction pre generalizing number with
  | nil => rfl
  | cons l pre ih =>
    obtain ⟨hl, hpre⟩ := List.forall_mem_cons.mp hpre
    rw [List.cons_append, sectionFrom, hl, ih hpre, List.length_cons, Nat.add_assoc, Nat.add_comm 1]

theorem sectionFrom_of_none {ls : List String} (h : ∀ l ∈ ls, Directive.ofLine l = none)
    (number : Nat) : sectionFrom ls number = .ok none := by
  have := sectionFrom_append_of_none h [] number
  rwa [List.append_nil] at this

/-- At a directive the range is read first, then the choices. -/
theorem sectionFrom_cons_of_directive {line : String} {d : Directive}
    (hline : Directive.ofLine line = some d) (below : List String) (number : Nat) :
    sectionFrom (line :: below) number = (do
      let range ← Range.ofCardinality d.cardinality number
      let choices ← decodeChoices (choiceText d below) number
      return some ⟨range, choices⟩) := by
  rw [sectionFrom, hline]
  rfl

section
variable {line : String} {d : Directive} (hline : Directive.ofLine line = some d)
  (below : List String) (number : Nat)
include hline

theorem sectionFrom_cons_eq_ok_iff (s : Option Section) :
    sectionFrom (line :: below) number = .ok s ↔
      ∃ sec, s = some sec ∧ Range.ofCardinality d.cardinality number = .ok sec.range ∧
        decodeChoices (choiceText d below) number = .ok sec.choices := by
  rw [sectionFrom_cons_of_directive hline]
  rcases hr : Range.ofCardinality d.cardinality number with e | r
  · simp [bind, Except.bind]
  rcases hc : decodeChoices (choiceText d below) number with e | cs
  · simp [bind, Except.bind]
  simp only [bind, Except.bind, pure, Except.pure, Except.ok.injEq]
  constructor
  · rintro rfl
    exact ⟨_, rfl, rfl, rfl⟩
  · rintro ⟨⟨r', cs'⟩, rfl, rfl, rfl⟩
    rfl

theorem sectionFrom_cons_eq_error_iff (e : ChoiceError) :
    sectionFrom (line :: below) number = .error e ↔
      Range.ofCardinality d.cardinality number = .error e ∨
        (∃ r, Range.ofCardinality d.cardinality number = .ok r) ∧
          decodeChoices (choiceText d below) number = .error e := by
  rw [sectionFrom_cons_of_directive hline]
  rcases hr : Range.ofCardinality d.cardinality number with e' | r
  · simp [bind, Except.bind]
  rcases hc : decodeChoices (choiceText d below) number with e' | cs
  · simp [bind, Except.bind]
  · simp [bind, Except.bind, pure, Except.pure]

end

/-! ### Reading the choices -/

/-- Empty text and null are the empty list, and a sequence is its items. -/
theorem decodeChoices_eq_ok_iff (text : String) (number : Nat) (cs : List Value) :
    decodeChoices text number = .ok cs ↔
      cs = [] ∧ ((trim text).isEmpty ∨ Value.decode text = .ok .null) ∨
        (trim text).isEmpty = false ∧ Value.decode text = .ok (.sequence cs) := by
  unfold decodeChoices
  cases hempty : (trim text).isEmpty with
  | true => simp [eq_comm]
  | false =>
    rcases hdecode : Value.decode text with err | v
    · simp
    · cases v <;> simp [eq_comm]

/-- Any other value, or text that is not YAML, is refused on the directive's
line, naming what was found or why the text does not read. -/
theorem decodeChoices_eq_error_iff (text : String) (number : Nat) (e : ChoiceError) :
    decodeChoices text number = .error e ↔
      (trim text).isEmpty = false ∧
        ((∃ err, Value.decode text = .error err ∧
            e = ⟨number, "choices are not valid YAML: " ++ err.message⟩) ∨
          ∃ v, Value.decode text = .ok v ∧ v ≠ .null ∧ (∀ items, v ≠ .sequence items) ∧
            e = ⟨number, "choices must be a YAML list, found " ++ v.kind⟩) := by
  unfold decodeChoices
  cases hempty : (trim text).isEmpty with
  | true => simp
  | false =>
    rcases hdecode : Value.decode text with err | v
    · simp [eq_comm]
    · cases v <;> simp [eq_comm]

/-- Every error of a range or of the choices names the directive's line. -/
theorem line_of_ofCardinality_error {c : Option String} {number : Nat} {e : ChoiceError}
    (h : Range.ofCardinality c number = .error e) : e.line = number := by
  cases c with
  | none => cases h
  | some s =>
    rcases hsplit : splitRange (trim s).toList with _ | ⟨lo, hi⟩
    · obtain ⟨-, rfl⟩ := (ofCardinality_single_eq_error_iff hsplit e).mp h
      rfl
    · rcases (ofCardinality_split_eq_error_iff hsplit e).mp h with ⟨_, _, -, -, -, rfl⟩ | ⟨-, rfl⟩ <;> rfl

theorem line_of_decodeChoices_error {text : String} {number : Nat} {e : ChoiceError}
    (h : decodeChoices text number = .error e) : e.line = number := by
  rcases ((decodeChoices_eq_error_iff text number e).mp h).2 with ⟨_, -, rfl⟩ | ⟨_, -, -, -, rfl⟩ <;> rfl

/-! ### The section of a docblock -/

/-- A docblock has no directive after its first line, and no section; or it
has a first one, and its section is read from there on. -/
theorem ofDocblock_cases (D : List String) :
    ((∀ j, 1 ≤ j → directiveAt D j = none) ∧ Section.ofDocblock D = .ok none) ∨
      ∃ i d line, FirstDirective D i d ∧ D[i]? = some line ∧ Directive.ofLine line = some d ∧
        Section.ofDocblock D = sectionFrom (line :: D.drop (i + 1)) (i + 1) := by
  cases D with
  | nil => exact .inl ⟨fun j _ => rfl, rfl⟩
  | cons first rest =>
    rcases none_or_first_directive rest with hnone | ⟨pre, line, below, d, rfl, hpre, hline⟩
    · refine .inl ⟨fun j hj => ?_, sectionFrom_of_none hnone 2⟩
      obtain ⟨k, rfl⟩ : ∃ k, j = k + 1 := ⟨j - 1, by omega⟩
      rw [directiveAt_cons_succ, directiveAt]
      cases hk : rest[k]? with
      | none => rfl
      | some l => exact hnone l (List.mem_of_getElem? hk)
    · refine .inr ⟨pre.length + 1, d, line, firstDirective_of_split hpre hline, ?_, hline, ?_⟩
      · simp
      · rw [Section.ofDocblock, List.drop_one, List.tail_cons, sectionFrom_append_of_none hpre]
        have hdrop : (pre ++ line :: below).drop (pre.length + 1) = below := by
          rw [List.drop_append, List.drop_of_length_le (by omega)]
          simp
        rw [List.drop_succ_cons, hdrop, Nat.add_comm 2]

theorem ofDocblock_eq_none_iff (D : List String) :
    Section.ofDocblock D = .ok none ↔ ∀ j, 1 ≤ j → directiveAt D j = none := by
  rcases ofDocblock_cases D with ⟨hnone, hsec⟩ | ⟨i, d, line, hfirst, -, hline, hsec⟩
  · exact ⟨fun _ => hnone, fun _ => hsec⟩
  · rw [hsec, sectionFrom_cons_eq_ok_iff hline]
    constructor
    · rintro ⟨_, ⟨⟩, -⟩
    · exact fun hnone => absurd hnone hfirst.exists_directive

theorem ofDocblock_eq_some_iff (D : List String) (sec : Section) :
    Section.ofDocblock D = .ok (some sec) ↔ ∃ i d, FirstDirective D i d ∧
      Range.ofCardinality d.cardinality (i + 1) = .ok sec.range ∧
      decodeChoices (choiceText d (D.drop (i + 1))) (i + 1) = .ok sec.choices := by
  rcases ofDocblock_cases D with ⟨hnone, hsec⟩ | ⟨i, d, line, hfirst, -, hline, hsec⟩
  · rw [hsec]
    constructor
    · rintro ⟨⟩
    · rintro ⟨i, d, hfirst, -⟩
      exact absurd hnone hfirst.exists_directive
  · rw [hsec, sectionFrom_cons_eq_ok_iff hline]
    constructor
    · rintro ⟨_, ⟨⟩, hrange, hchoices⟩
      exact ⟨i, d, hfirst, hrange, hchoices⟩
    · rintro ⟨i', d', hfirst', hrange, hchoices⟩
      obtain ⟨rfl, rfl⟩ := hfirst'.unique hfirst
      exact ⟨sec, rfl, hrange, hchoices⟩

theorem ofDocblock_eq_error_iff (D : List String) (e : ChoiceError) :
    Section.ofDocblock D = .error e ↔ ∃ i d, FirstDirective D i d ∧
      (Range.ofCardinality d.cardinality (i + 1) = .error e ∨
        (∃ r, Range.ofCardinality d.cardinality (i + 1) = .ok r) ∧
          decodeChoices (choiceText d (D.drop (i + 1))) (i + 1) = .error e) := by
  rcases ofDocblock_cases D with ⟨hnone, hsec⟩ | ⟨i, d, line, hfirst, -, hline, hsec⟩
  · rw [hsec]
    constructor
    · rintro ⟨⟩
    · rintro ⟨i, d, hfirst, -⟩
      exact absurd hnone hfirst.exists_directive
  · rw [hsec, sectionFrom_cons_eq_error_iff hline]
    constructor
    · exact fun herror => ⟨i, d, hfirst, herror⟩
    · rintro ⟨i', d', hfirst', herror⟩
      obtain ⟨rfl, rfl⟩ := hfirst'.unique hfirst
      exact herror

/-- Every error names the line of the first directive, counted from one. -/
theorem line_of_ofDocblock_error {D : List String} {e : ChoiceError}
    (h : Section.ofDocblock D = .error e) : ∃ i d, FirstDirective D i d ∧ e.line = i + 1 := by
  obtain ⟨i, d, hfirst, hrange | ⟨-, hchoices⟩⟩ := (ofDocblock_eq_error_iff D e).mp h
  · exact ⟨i, d, hfirst, line_of_ofCardinality_error hrange⟩
  · exact ⟨i, d, hfirst, line_of_decodeChoices_error hchoices⟩

/-- The section depends only on where the first directive stands and on the
lines from there on. -/
theorem ofDocblock_eq_of_drop {D D' : List String} {i : Nat} {d d' : Directive}
    (h : FirstDirective D i d) (h' : FirstDirective D' i d') (hdrop : D'.drop i = D.drop i) :
    Section.ofDocblock D' = Section.ofDocblock D := by
  rcases ofDocblock_cases D with ⟨hnone, -⟩ | ⟨j, e, line, hfirst, hat, -, hsec⟩
  · exact absurd hnone h.exists_directive
  rcases ofDocblock_cases D' with ⟨hnone, -⟩ | ⟨j', e', line', hfirst', hat', -, hsec'⟩
  · exact absurd hnone h'.exists_directive
  obtain ⟨rfl, -⟩ := h.unique hfirst
  obtain ⟨rfl, -⟩ := h'.unique hfirst'
  -- line `i` and the lines below it are the same in both
  have hline : line' = line := by
    have hsame : D'[i]? = D[i]? := by
      rw [← Nat.add_zero i, ← List.getElem?_drop, ← List.getElem?_drop, hdrop]
    rw [hat, hat'] at hsame
    exact Option.some.inj hsame
  have hbelow : D'.drop (i + 1) = D.drop (i + 1) := by
    rw [← List.drop_drop, ← List.drop_drop, hdrop]
  rw [hsec, hsec', hline, hbelow]

/-- **The choice section of a docblock.** Without a docblock there is no
section. With one, there is none exactly when no line after the first holds
a directive. Otherwise the first such line `i` decides it: its range is read
first, for line `i + 1`, and an unreadable range is the error whatever
follows; then the choices are read from the directive's remainder, or when
that is empty from all the lines below it, uncommented. Every error names
line `i + 1`, and two docblocks whose first directive stands on the same
line and which agree from that line on have the same section. Empty text
and null are the empty list of choices, a sequence its items; any other
value is refused by its kind, and text that does not read by the decoder's
reason. -/
theorem Section.ofDocblock_first_directive (D : List String) :
    Section.ofDocblock? none = .ok none ∧
    (Section.ofDocblock D = .ok none ↔ ∀ j, 1 ≤ j → directiveAt D j = none) ∧
    (∀ sec, Section.ofDocblock D = .ok (some sec) ↔ ∃ i d, FirstDirective D i d ∧
      Range.ofCardinality d.cardinality (i + 1) = .ok sec.range ∧
      decodeChoices (choiceText d (D.drop (i + 1))) (i + 1) = .ok sec.choices) ∧
    (∀ e, Section.ofDocblock D = .error e ↔ ∃ i d, FirstDirective D i d ∧
      (Range.ofCardinality d.cardinality (i + 1) = .error e ∨
        (∃ r, Range.ofCardinality d.cardinality (i + 1) = .ok r) ∧
          decodeChoices (choiceText d (D.drop (i + 1))) (i + 1) = .error e)) ∧
    (∀ e, Section.ofDocblock D = .error e → ∃ i d, FirstDirective D i d ∧ e.line = i + 1) ∧
    (∀ D' i d d', FirstDirective D i d → FirstDirective D' i d' → D'.drop i = D.drop i →
      Section.ofDocblock D' = Section.ofDocblock D) ∧
    (∀ text number cs, decodeChoices text number = .ok cs ↔
      cs = [] ∧ ((trim text).isEmpty ∨ Value.decode text = .ok .null) ∨
        (trim text).isEmpty = false ∧ Value.decode text = .ok (.sequence cs)) ∧
    ∀ text number e, decodeChoices text number = .error e ↔
      (trim text).isEmpty = false ∧
        ((∃ err, Value.decode text = .error err ∧
            e = ⟨number, "choices are not valid YAML: " ++ err.message⟩) ∨
          ∃ v, Value.decode text = .ok v ∧ v ≠ .null ∧ (∀ items, v ≠ .sequence items) ∧
            e = ⟨number, "choices must be a YAML list, found " ++ v.kind⟩) :=
  ⟨rfl, ofDocblock_eq_none_iff D, ofDocblock_eq_some_iff D, ofDocblock_eq_error_iff D,
    fun _ => line_of_ofDocblock_error, fun _ _ _ _ h h' hdrop => ofDocblock_eq_of_drop h h' hdrop,
    decodeChoices_eq_ok_iff, decodeChoices_eq_error_iff⟩

example : Section.ofDocblock ["# Fruit", "# Choose (1..2):", "# - oranges", "# - bananas"] =
    .ok (some ⟨.between 1 2, [.string "oranges", .string "bananas"]⟩) := by decide +kernel

example : Section.ofDocblock ["# Choose: [a]", "# Fruit", "# Choose (2..1):", "# - [unclosed"] =
    .error ⟨3, "range 2..1 is empty"⟩ := by decide +kernel

end DocBlocks.Choice

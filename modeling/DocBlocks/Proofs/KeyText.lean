import DocBlocks.Source.KeyLine

/-!
# The key text a line declares

A top-level line declares a key when it starts with neither a blank, `#`,
`-`, `?` nor `...`, and has one of three shapes:

* a double-quoted key, whose body pairs a backslash with the character after
  it (`QuotedBody '"' true`);
* a single-quoted key, whose body doubles the quotes it holds
  (`QuotedBody '\'' false`), not followed by another quote;
* any other key, which is the text before the first colon that ends the line
  or is followed by a blank, less trailing blanks (`SplitsAtKeyColon`).

After a quoted key come optional blanks and a colon that ends the line or is
followed by a blank (`EndsKey`); a quoted key without its closing quote, or
without that colon, declares nothing, and is not read as a plain key.

* `closeQuote_eq_some_iff` — the closing quote found is the one that ends a
  well-formed body;
* `plainKey_eq_some_iff` — a plain key ends at the first separating colon;
* `declaredKey_eq_some_iff_quoted`, `declaredKey_eq_some_iff_plain` — past
  the first character, the line is read by the rule that character picks;
* `declaredKey_eq_some_iff` — the three shapes together are exactly the
  lines that declare a key, with the key text each gives.
-/

namespace DocBlocks.Source

open DocBlocks.Text

/-! ### Quoted keys -/

/-- The body of a quoted key, before its closing `quote`: with `backslash`, a
backslash and the character after it stand together; without, two quotes
stand for one; any other character stands alone. -/
inductive QuotedBody (quote : Char) (backslash : Bool) : List Char → Prop
  | nil : QuotedBody quote backslash []
  | escape (c : Char) {rest : List Char} :
      backslash = true → QuotedBody quote backslash rest → QuotedBody quote backslash ('\\' :: c :: rest)
  | doubled {rest : List Char} :
      backslash = false → QuotedBody quote backslash rest →
        QuotedBody quote backslash (quote :: quote :: rest)
  | plain {c : Char} {rest : List Char} :
      c ≠ quote → (backslash = true → c ≠ '\\') → QuotedBody quote backslash rest →
        QuotedBody quote backslash (c :: rest)

section
variable {quote : Char} {backslash : Bool}

/-- **The closing quote.** Scanning from after the opening quote, the quote
found closes a well-formed body; without backslashes it is not followed by
another quote, which would have doubled it. -/
theorem closeQuote_eq_some_iff (hq : quote ≠ '\\') {rest kb after : List Char} :
    closeQuote quote backslash rest = some (kb, after) ↔
      ∃ body, rest = body ++ quote :: after ∧ QuotedBody quote backslash body ∧
        (backslash = false → after.head? ≠ some quote) ∧ kb = body ++ [quote] := by
  constructor
  · intro h
    fun_induction closeQuote quote backslash rest generalizing kb after with
    | case1 => cases h
    | case2 c hc =>
      obtain ⟨rfl, rfl⟩ := Prod.mk.inj (Option.some.inj h)
      obtain rfl := eq_of_beq hc
      exact ⟨[], rfl, .nil, fun _ => by simp, rfl⟩
    | case3 => cases h
    | case4 c d more hescape ih =>
      obtain ⟨⟨kb', after'⟩, hmore, hpair⟩ := Option.map_eq_some_iff.mp h
      obtain ⟨rfl, rfl⟩ := Prod.mk.inj hpair
      obtain ⟨body, rfl, hbody, hnext, rfl⟩ := ih hmore
      simp only [Bool.and_eq_true, beq_iff_eq] at hescape
      obtain ⟨hb, rfl⟩ := hescape
      exact ⟨'\\' :: d :: body, rfl, .escape d hb hbody, hnext, rfl⟩
    | case5 c d more _ hc hdoubled ih =>
      obtain ⟨⟨kb', after'⟩, hmore, hpair⟩ := Option.map_eq_some_iff.mp h
      obtain ⟨rfl, rfl⟩ := Prod.mk.inj hpair
      obtain ⟨body, rfl, hbody, hnext, rfl⟩ := ih hmore
      simp only [Bool.and_eq_true, Bool.not_eq_true', beq_iff_eq] at hdoubled
      obtain ⟨hb, rfl⟩ := hdoubled
      obtain rfl := eq_of_beq hc
      exact ⟨_ :: _ :: body, rfl, .doubled hb hbody, hnext, rfl⟩
    | case6 c d more _ hc hsingle =>
      obtain ⟨rfl, rfl⟩ := Prod.mk.inj (Option.some.inj h)
      obtain rfl := eq_of_beq hc
      refine ⟨[], rfl, .nil, fun hb => ?_, rfl⟩
      simp only [hb, Bool.not_false, Bool.true_and, beq_iff_eq] at hsingle
      simpa using hsingle
    | case7 c d more hescape hc ih =>
      obtain ⟨⟨kb', after'⟩, hmore, hpair⟩ := Option.map_eq_some_iff.mp h
      obtain ⟨rfl, rfl⟩ := Prod.mk.inj hpair
      obtain ⟨body, hrest, hbody, hnext, rfl⟩ := ih hmore
      have hplain : c ≠ quote := fun h => hc (by simp [h])
      have hnotescape : backslash = true → c ≠ '\\' := fun hb h => hescape (by simp [hb, h])
      exact ⟨c :: body, by rw [hrest]; rfl, .plain hplain hnotescape hbody, hnext, rfl⟩
  · rintro ⟨body, rfl, hbody, hnext, rfl⟩
    have hnotescape : (backslash && quote == '\\') = false := by simp [hq]
    induction hbody with
    | nil =>
      cases after with
      | nil => simp [closeQuote]
      | cons d more =>
        -- the quote closes: a backslash never stands for it, and it is not doubled
        have hsingle : (!backslash && d == quote) = false := by
          cases backslash with
          | true => rfl
          | false => simpa using hnext rfl
        simp [closeQuote, hnotescape, hsingle]
    | escape c hb _ ih =>
      subst hb
      simp [closeQuote, ih]
    | doubled hb _ ih =>
      subst hb
      simp [closeQuote, ih]
    | @plain c rest hc hplain _ ih =>
      -- a character that neither escapes nor closes is passed over
      obtain ⟨d, more, hdm⟩ := List.exists_cons_of_ne_nil
        (List.append_ne_nil_of_right_ne_nil rest (List.cons_ne_nil quote after))
      have hescape : (backslash && c == '\\') = false := by
        cases backslash <;> simp_all
      have hclose : (c == quote) = false := by simpa using hc
      rw [List.cons_append, hdm]
      simp only [closeQuote, hescape, hclose, Bool.false_eq_true, if_false]
      rw [← hdm, ih]
      rfl

end

/-! ### Where a key ends -/

/-- A colon followed by `more` separates a value: `more` is empty or starts
with a blank. -/
def Separates (more : List Char) : Prop :=
  ∀ c, more.head? = some c → isBlank c = true

theorem separatesValue_iff (more : List Char) : separatesValue more = true ↔ Separates more := by
  cases more with
  | nil => simp [separatesValue, Separates]
  | cons c more => simp [separatesValue, Separates]

/-- The text after a quoted key lets the key end there: optional blanks,
then a colon that separates a value. -/
def EndsKey (after : List Char) : Prop :=
  ∃ more, after.dropWhile isBlank = ':' :: more ∧ Separates more

/-- `line` holds a plain key whose text, before its trailing blanks are
dropped, is `pre`: a colon that separates a value follows `pre`, and no colon
inside `pre` does. -/
def SplitsAtKeyColon (line pre : List Char) : Prop :=
  ∃ post, line = pre ++ ':' :: post ∧ Separates post ∧
    ∀ p q, pre = p ++ ':' :: q → ¬ Separates (q ++ ':' :: post)

/-- **The plain key.** It ends at the first colon that separates a value;
the characters before the scan are kept in front of it. -/
theorem plainKey_eq_some_iff {cs acc key : List Char} :
    plainKey cs acc = some key ↔ ∃ pre, SplitsAtKeyColon cs pre ∧ key = acc.reverse ++ pre := by
  constructor
  · intro h
    fun_induction plainKey cs acc with
    | case1 => cases h
    | case2 c rest acc hsep =>
      obtain rfl := Option.some.inj h
      simp only [Bool.and_eq_true, beq_iff_eq, separatesValue_iff] at hsep
      obtain ⟨rfl, hsep⟩ := hsep
      refine ⟨[], ⟨rest, rfl, hsep, fun p q hpq => ?_⟩, by rw [List.append_nil]⟩
      cases p <;> cases hpq
    | case3 c rest acc hnot ih =>
      obtain ⟨pre, ⟨post, rfl, hsep, hfirst⟩, rfl⟩ := ih h
      refine ⟨c :: pre, ⟨post, rfl, hsep, fun p q hpq => ?_⟩, by simp⟩
      cases p with
      | nil =>
        -- a colon at `c` would have ended the key there
        obtain ⟨rfl, rfl⟩ := List.cons.inj hpq
        simpa [separatesValue_iff] using hnot
      | cons d p =>
        obtain ⟨-, hpq⟩ := List.cons.inj hpq
        exact hfirst p q hpq
  · rintro ⟨pre, ⟨post, rfl, hsep, hfirst⟩, rfl⟩
    induction pre generalizing acc with
    | nil =>
      simp [plainKey, (separatesValue_iff post).mpr hsep]
    | cons c pre ih =>
      have hnot : (c == ':' && separatesValue (pre ++ ':' :: post)) = false := by
        cases hc : c == ':' with
        | false => rfl
        | true =>
          rw [eq_of_beq hc] at hfirst
          rw [Bool.true_and, Bool.eq_false_iff]
          exact fun h => hfirst [] pre rfl ((separatesValue_iff _).mp h)
      rw [List.cons_append, plainKey, hnot, if_neg Bool.false_ne_true,
        ih (fun p q hpq => hfirst (c :: p) q (by rw [hpq]; rfl))]
      simp

/-! ### The key a line declares -/

/-- After an opening `quote`, `rest` holds a quoted key's body, its closing
quote, and text that lets the key end there; `key` is the quoted key, quotes
included. Without backslashes the closing quote is not followed by another
one. -/
def QuotedKey (quote : Char) (backslash : Bool) (rest key : List Char) : Prop :=
  ∃ body after, rest = body ++ quote :: after ∧ QuotedBody quote backslash body ∧
    (backslash = false → after.head? ≠ some quote) ∧ EndsKey after ∧ key = quote :: body ++ [quote]

/-- The line starts with a character that may start a key, and with no
document marker. -/
theorem guard_eq_false_iff {line : String} {first : Char} :
    (isBlank first || first == '#' || first == '-' || first == '?' || line.startsWith "---" ||
        line.startsWith "...") = false ↔
      isBlank first = false ∧ first ≠ '#' ∧ first ≠ '-' ∧ first ≠ '?' ∧
        ¬ "---".toList <+: line.toList ∧ ¬ "...".toList <+: line.toList := by
  simp [and_assoc]

/-- A line declares nothing unless it starts with a character that may start
a key. -/
theorem opens_of_declaredKey {line key : String} (h : declaredKey line = some key) :
    ∃ first rest, line.toList = first :: rest ∧
      (isBlank first || first == '#' || first == '-' || first == '?' || line.startsWith "---" ||
        line.startsWith "...") = false := by
  unfold declaredKey at h
  split at h
  · cases h
  rename_i first rest hl
  split at h
  · cases h
  rename_i hguard
  exact ⟨first, rest, hl, Bool.eq_false_iff.mpr hguard⟩

section
variable {line : String} {first : Char} {rest : List Char} {key : String}
  (hl : line.toList = first :: rest)
  (hguard : (isBlank first || first == '#' || first == '-' || first == '?' ||
    line.startsWith "---" || line.startsWith "...") = false)
include hl hguard

/-- A line that opens with a quote declares the quoted key it starts with,
and nothing else. -/
theorem declaredKey_eq_some_iff_quoted (hquote : (first == '"' || first == '\'') = true) :
    declaredKey line = some key ↔ QuotedKey first (first == '"') rest key.toList := by
  have hq : first ≠ '\\' := by
    simp only [Bool.or_eq_true, beq_iff_eq] at hquote
    rcases hquote with rfl | rfl <;> decide
  rw [declaredKey, hl]
  dsimp only
  rw [hguard, if_neg Bool.false_ne_true, if_pos hquote]
  constructor
  · intro h
    split at h
    · cases h
    rename_i kb after hclose
    obtain ⟨body, hrest, hbody, hnext, rfl⟩ := (closeQuote_eq_some_iff hq).mp hclose
    -- after the closing quote: blanks, then a colon that separates a value
    split at h
    · rename_i more hmore
      split at h
      · rename_i hsep
        refine ⟨body, after, hrest, hbody, hnext, ⟨more, hmore, (separatesValue_iff more).mp hsep⟩, ?_⟩
        rw [← Option.some.inj h, String.toList_ofList]
        rfl
      · cases h
    · cases h
  · rintro ⟨body, after, rfl, hbody, hnext, ⟨more, hmore, hsep⟩, hkey⟩
    rw [(closeQuote_eq_some_iff hq).mpr ⟨body, rfl, hbody, hnext, rfl⟩]
    dsimp only
    rw [hmore]
    simp only [(separatesValue_iff more).mpr hsep, if_true]
    rw [← String.ofList_toList (s := key), hkey]
    rfl

/-- Any other line declares its plain key. -/
theorem declaredKey_eq_some_iff_plain (hquote : (first == '"' || first == '\'') = false) :
    declaredKey line = some key ↔
      ∃ pre, SplitsAtKeyColon line.toList pre ∧ key = trimEnd (String.ofList pre) := by
  rw [declaredKey, hl]
  dsimp only
  rw [hguard, if_neg Bool.false_ne_true, hquote, if_neg Bool.false_ne_true, Option.map_eq_some_iff]
  constructor
  · rintro ⟨cs, hcs, rfl⟩
    obtain ⟨pre, hsplit, hpre⟩ := plainKey_eq_some_iff.mp hcs
    exact ⟨pre, hsplit, by rw [hpre, List.reverse_nil, List.nil_append]⟩
  · rintro ⟨pre, hsplit, rfl⟩
    exact ⟨pre, plainKey_eq_some_iff.mpr ⟨pre, hsplit, by simp⟩, rfl⟩

end

/-- **The key text of a line.** A line declares a key exactly when it starts
with a character other than a blank, `#`, `-` or `?`, starts with no `---`
or `...`, and is a double-quoted key, a single-quoted key, or a plain key;
the key text is the quoted key, quotes included, or the text before the
first separating colon less its trailing blanks. -/
theorem declaredKey_eq_some_iff (line key : String) :
    declaredKey line = some key ↔
      ∃ first rest, line.toList = first :: rest ∧ isBlank first = false ∧ first ≠ '#' ∧
        first ≠ '-' ∧ first ≠ '?' ∧ ¬ "---".toList <+: line.toList ∧ ¬ "...".toList <+: line.toList ∧
        ((first = '"' ∧ QuotedKey '"' true rest key.toList) ∨
          (first = '\'' ∧ QuotedKey '\'' false rest key.toList) ∨
          (first ≠ '"' ∧ first ≠ '\'' ∧ ∃ pre, SplitsAtKeyColon line.toList pre ∧
            key = trimEnd (String.ofList pre))) := by
  constructor
  · intro h
    obtain ⟨first, rest, hl, hguard⟩ := opens_of_declaredKey h
    obtain ⟨hblank, hhash, hdash, hquery, hstart, hend⟩ := guard_eq_false_iff.mp hguard
    refine ⟨first, rest, hl, hblank, hhash, hdash, hquery, hstart, hend, ?_⟩
    cases hquote : (first == '"' || first == '\'') with
    | true =>
      have hquoted := (declaredKey_eq_some_iff_quoted hl hguard hquote).mp h
      simp only [Bool.or_eq_true, beq_iff_eq] at hquote
      rcases hquote with rfl | rfl
      · exact .inl ⟨rfl, hquoted⟩
      · exact .inr (.inl ⟨rfl, hquoted⟩)
    | false =>
      have hplain := (declaredKey_eq_some_iff_plain hl hguard hquote).mp h
      simp only [Bool.or_eq_false_iff, beq_eq_false_iff_ne] at hquote
      exact .inr (.inr ⟨hquote.1, hquote.2, hplain⟩)
  · rintro ⟨first, rest, hl, hblank, hhash, hdash, hquery, hstart, hend, hshape⟩
    have hguard := guard_eq_false_iff.mpr ⟨hblank, hhash, hdash, hquery, hstart, hend⟩
    rcases hshape with ⟨rfl, hquoted⟩ | ⟨rfl, hquoted⟩ | ⟨hd, hs, hplain⟩
    · exact (declaredKey_eq_some_iff_quoted hl hguard rfl).mpr hquoted
    · exact (declaredKey_eq_some_iff_quoted hl hguard rfl).mpr hquoted
    · exact (declaredKey_eq_some_iff_plain hl hguard (by simp [hd, hs])).mpr hplain

example : declaredKey "url: http://example.com" = some "url" := by decide +kernel

example : declaredKey "'it''s' : c" = some "'it''s'" := by decide +kernel

example : declaredKey "\"a\\\": b\": c" = some "\"a\\\": b\"" := by decide +kernel

example : declaredKey "'a' b: c" = none := by decide +kernel

end DocBlocks.Source

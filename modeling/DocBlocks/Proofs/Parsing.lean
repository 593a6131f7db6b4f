import DocBlocks.Parse
import Mathlib.Data.List.Forall2

/-!
# Reading a template: documents, keys and the lines that declare them

A template text is cut into document texts; those without content are
skipped, and each other one is read twice, once as YAML and once line by line.
This module says what that gives for every text.

* `KeyLine` says where a key is found from a cursor: the first line at or
  after the cursor that declares it, or, when none does, the first line that
  does. `findKeyLine_eq_some` and `findKeyLine_eq_none` show that the search
  finds exactly that line.
* `Located` says which entries a document with a given root mapping has: the
  keys in order, each found from the line after the previous key's line, with
  the comment block above its line as docblock and the choice section derived
  from it; a key declared on no line keeps no docblock. It is deterministic
  (`Located.unique`), and `locateEntries_located` shows the reading meets it.
* `parseAll_spec` puts it together: the document texts are read in order,
  blank ones skipped; the first other one that is not a mapping stops the
  reading with its error, numbered by its place among all the document texts;
  otherwise every other one gives its located entries.
-/

namespace DocBlocks

open DocBlocks.Yaml DocBlocks.Source DocBlocks.Text DocBlocks.Choice

namespace Source

/-! ### Searching lines -/

/-- **The first line that passes.** A search that finds line `j`, counting the
first line as `i`, has found a line that passes with none passing before it. -/
theorem firstIndexFrom_eq_some {p : String → Bool} {ls : List String} {i j : Nat}
    (h : firstIndexFrom p ls i = some j) :
    i ≤ j ∧ ls[j - i]?.any p = true ∧ ∀ m, i ≤ m → m < j → ls[m - i]?.any p = false := by
  induction ls generalizing i with
  | nil => simp [firstIndexFrom] at h
  | cons l ls ih =>
    simp only [firstIndexFrom] at h
    split at h
    · -- the line counted `i` passes
      rename_i hl
      cases h
      exact ⟨Nat.le_refl _, by simpa using hl, fun m hm hmj => absurd hmj (by omega)⟩
    · rename_i hl
      obtain ⟨hij, hp, hbefore⟩ := ih h
      have hshift : j - i = (j - (i + 1)) + 1 := by omega
      refine ⟨by omega, by rw [hshift, List.getElem?_cons_succ]; exact hp, ?_⟩
      intro m hm hmj
      rcases Nat.eq_or_lt_of_le hm with rfl | hlt
      · simpa using hl
      · have hm' : m - i = (m - (i + 1)) + 1 := by omega
        rw [hm', List.getElem?_cons_succ]
        exact hbefore m (by omega) hmj

/-- A search that finds nothing has passed over lines that all fail. -/
theorem firstIndexFrom_eq_none {p : String → Bool} {ls : List String} {i : Nat}
    (h : firstIndexFrom p ls i = none) (m : Nat) : ls[m]?.any p = false := by
  induction ls generalizing i m with
  | nil => simp
  | cons l ls ih =>
    simp only [firstIndexFrom] at h
    split at h
    · cases h
    · cases m with
      | zero => simpa using ‹¬p l = true›
      | succ m => simpa using ih h m

/-! ### The line of a key -/

/-- Whether line `j` of `lines` declares `key`; no line past the end does. -/
def declaresAt (lines : List String) (key : Value) (j : Nat) : Bool :=
  lines[j]?.any (declares key)

/-- Line `j` is where `key` is found from line `cursor` on: the first line at
or after the cursor that declares it, or, when no line from the cursor on
declares it, the first line that does. -/
def KeyLine (lines : List String) (key : Value) (cursor j : Nat) : Prop :=
  declaresAt lines key j = true ∧
    ((cursor ≤ j ∧ ∀ i, cursor ≤ i → i < j → declaresAt lines key i = false) ∨
      ((∀ i, cursor ≤ i → declaresAt lines key i = false) ∧
        ∀ i, i < j → declaresAt lines key i = false))

/-- A key is found at one line at most. -/
theorem KeyLine.unique {lines : List String} {key : Value} {cursor j j' : Nat}
    (h : KeyLine lines key cursor j) (h' : KeyLine lines key cursor j') : j = j' := by
  obtain ⟨hj, hfirst | ⟨hnone, hleast⟩⟩ := h <;>
    obtain ⟨hj', hfirst' | ⟨hnone', hleast'⟩⟩ := h'
  · -- both from the cursor on: neither lies before the other
    rcases Nat.lt_trichotomy j j' with hlt | heq | hgt
    · rw [hfirst'.2 j hfirst.1 hlt] at hj
      cases hj
    · exact heq
    · rw [hfirst.2 j' hfirst'.1 hgt] at hj'
      cases hj'
  · rw [hnone' j hfirst.1] at hj
    cases hj
  · rw [hnone j' hfirst'.1] at hj'
    cases hj'
  · rcases Nat.lt_trichotomy j j' with hlt | heq | hgt
    · rw [hleast' j hlt] at hj
      cases hj
    · exact heq
    · rw [hleast j' hgt] at hj'
      cases hj'

/-- **The search finds the key's line.** -/
theorem findKeyLine_eq_some {lines : List String} {key : Value} {cursor j : Nat}
    (h : findKeyLine lines key cursor = some j) : KeyLine lines key cursor j := by
  unfold findKeyLine at h
  split at h
  · -- found from the cursor on
    rename_i i hi
    cases h
    obtain ⟨hci, hp, hbefore⟩ := firstIndexFrom_eq_some hi
    refine ⟨?_, .inl ⟨hci, fun m hcm hmi => ?_⟩⟩
    · simpa [declaresAt, List.getElem?_drop, Nat.add_sub_cancel' hci] using hp
    · simpa [declaresAt, List.getElem?_drop, Nat.add_sub_cancel' hcm] using hbefore m hcm hmi
  · -- found before the cursor, none declaring it from the cursor on
    rename_i hnone
    obtain ⟨-, hp, hbefore⟩ := firstIndexFrom_eq_some h
    have hjc : j < cursor := by
      rcases Nat.lt_or_ge j cursor with hlt | hge
      · exact hlt
      · -- the lines before the cursor end before line `j`
        have hlen : (lines.take cursor).length ≤ j - 0 := by
          rw [List.length_take]
          omega
        rw [List.getElem?_eq_none hlen] at hp
        cases hp
    refine ⟨?_, .inr ⟨fun m hcm => ?_, fun m hmj => ?_⟩⟩
    · simpa [declaresAt, List.getElem?_take, hjc] using hp
    · have := firstIndexFrom_eq_none hnone (m - cursor)
      simpa [declaresAt, List.getElem?_drop, Nat.add_sub_cancel' hcm] using this
    · have := hbefore m (Nat.zero_le _) hmj
      simpa [declaresAt, List.getElem?_take, show m < cursor by omega] using this

/-- **The search finds nothing only for a key no line declares.** -/
theorem findKeyLine_eq_none {lines : List String} {key : Value} {cursor : Nat}
    (h : findKeyLine lines key cursor = none) (j : Nat) : declaresAt lines key j = false := by
  unfold findKeyLine at h
  split at h
  · cases h
  · rename_i hnone
    by_cases hjc : cursor ≤ j
    · have := firstIndexFrom_eq_none hnone (j - cursor)
      simpa [declaresAt, List.getElem?_drop, Nat.add_sub_cancel' hjc] using this
    · have := firstIndexFrom_eq_none h j
      simpa [declaresAt, List.getElem?_take, show j < cursor by omega] using this

end Source

/-! ### The entries of a document -/

/-- The entries of a document whose lines are `lines` and whose root mapping
has the entries `kvs`, when keys are located from line `cursor` on: each key
found at its `KeyLine` takes the comment block above that line as docblock,
with the choice section derived from it, and the next key is located from the
line after it; a key no line declares keeps no docblock and leaves the cursor
where it was. -/
inductive Located (lines : List String) : Nat → List (Value × Value) → List Entry → Prop
  | nil (cursor : Nat) : Located lines cursor [] []
  | found {cursor j : Nat} {key value : Value} {kvs : List (Value × Value)} {es : List Entry} :
      KeyLine lines key cursor j → Located lines (j + 1) kvs es →
      Located lines cursor ((key, value) :: kvs)
        (⟨key, value, some (blockAbove lines j), Section.ofDocblock (blockAbove lines j)⟩ :: es)
  | missing {cursor : Nat} {key value : Value} {kvs : List (Value × Value)} {es : List Entry} :
      (∀ j, declaresAt lines key j = false) → Located lines cursor kvs es →
      Located lines cursor ((key, value) :: kvs) (⟨key, value, none, .ok none⟩ :: es)

/-- The located entries are determined by the lines, the cursor and the root
mapping. -/
theorem Located.unique {lines : List String} {cursor : Nat} {kvs : List (Value × Value)}
    {es es' : List Entry} (h : Located lines cursor kvs es) (h' : Located lines cursor kvs es') :
    es = es' := by
  induction h generalizing es' with
  | nil => cases h'; rfl
  | found hline _ ih =>
    cases h' with
    | found hline' hrest' =>
      obtain rfl := hline.unique hline'
      rw [ih hrest']
    | missing hnone _ => exact absurd hline.1 (by rw [hnone]; decide)
  | missing hnone _ ih =>
    cases h' with
    | found hline' _ => exact absurd hline'.1 (by rw [hnone]; decide)
    | missing _ hrest' => rw [ih hrest']

/-- **Reading a root mapping locates its keys.** -/
theorem locateEntries_located (lines : List String) (kvs : List (Value × Value)) (cursor : Nat) :
    Located lines cursor kvs (locateEntries lines kvs cursor) := by
  induction kvs generalizing cursor with
  | nil => exact .nil cursor
  | cons kv kvs ih =>
    obtain ⟨key, value⟩ := kv
    unfold locateEntries
    split
    · rename_i j hj
      exact .found (findKeyLine_eq_some hj) (ih (j + 1))
    · rename_i hnone
      exact .missing (findKeyLine_eq_none hnone) (ih cursor)

/-! ### Documents -/

/-- A document text whose YAML is a mapping. -/
def DecodesToMapping (text : String) : Prop :=
  ∃ kvs, Value.decode text = .ok (.mapping kvs)

/-- How a document text fails to give a document when it is the `number`th of
its template: its YAML cannot be read, or its root is not a mapping. -/
inductive DocumentFailure (text : String) (number : Nat) : Failure → Prop
  | yaml {e : Yaml.Error} : Value.decode text = .error e → DocumentFailure text number (.yaml e)
  | nonMappingRoot {v : Value} : Value.decode text = .ok v → (∀ kvs, v ≠ .mapping kvs) →
      DocumentFailure text number (.nonMappingRoot number v.kind)

/-- A document text read as a document: its YAML is a mapping, and the
document holds the located entries of that mapping. -/
def ReadsAs (text : String) (d : Document) : Prop :=
  ∃ kvs, Value.decode text = .ok (.mapping kvs) ∧ Located (lines text) 0 kvs d.entries

theorem Document.parse_of_mapping {text : String} {kvs : List (Value × Value)} (number : Nat)
    (h : Value.decode text = .ok (.mapping kvs)) :
    Document.parse text number = .ok ⟨locateEntries (lines text) kvs 0⟩ := by
  simp [Document.parse, h]

theorem Document.parse_of_not_mapping {text : String} (number : Nat)
    (h : ¬ DecodesToMapping text) :
    ∃ f, Document.parse text number = .error f ∧ DocumentFailure text number f := by
  unfold Document.parse
  split
  · rename_i e he
    exact ⟨_, rfl, .yaml he⟩
  · rename_i kvs hkvs
    exact absurd ⟨kvs, hkvs⟩ h
  · rename_i v hnot hv
    exact ⟨_, rfl, .nonMappingRoot hv hnot⟩

/-- A document text that gives a document is read as its located entries. -/
theorem Document.parse_eq_ok {text : String} {number : Nat} {d : Document}
    (h : Document.parse text number = .ok d) : ReadsAs text d := by
  unfold Document.parse at h
  split at h
  · cases h
  · rename_i kvs hkvs
    cases h
    exact ⟨kvs, hkvs, locateEntries_located _ _ _⟩
  · cases h

/-- What a successful reading gives: each document text with content, read as
its located entries, in order. -/
theorem parseTexts_eq_ok {texts : List String} {number : Nat} {ds : List Document}
    (h : parseTexts texts number = .ok ds) :
    List.Forall₂ ReadsAs (texts.filter fun x => !isBlankDocument x) ds := by
  induction texts generalizing number ds with
  | nil =>
    cases h
    exact .nil
  | cons x rest ih =>
    cases hb : isBlankDocument x with
    | true =>
      simp only [parseTexts, hb, if_true] at h
      simpa [hb] using ih h
    | false =>
      simp only [parseTexts, hb, Bool.false_eq_true, if_false] at h
      -- the document, then the rest, each read without failure
      cases hd : Document.parse x number with
      | error f =>
        rw [hd] at h
        cases h
      | ok d =>
        cases hrest : parseTexts rest (number + 1) with
        | error f =>
          rw [hd, hrest] at h
          cases h
        | ok ds' =>
          rw [hd, hrest] at h
          cases h
          rw [List.filter_cons_of_pos (by simp [hb])]
          exact .cons (Document.parse_eq_ok hd) (ih hrest)

/-- Each document a template reads as is read from one of its document texts. -/
theorem readsAs_of_parseAll {t : String} {ds : List Document} {d : Document}
    (h : Document.parseAll t = .ok ds) (hd : d ∈ ds) : ∃ x ∈ splitDocuments t, ReadsAs x d := by
  have hread := parseTexts_eq_ok h
  obtain ⟨i, hi, rfl⟩ := List.getElem_of_mem hd
  have hi' : i < ((splitDocuments t).filter fun x => !isBlankDocument x).length := by
    rw [hread.length_eq]
    exact hi
  have hx : ((splitDocuments t).filter fun x => !isBlankDocument x)[i] ∈
      (splitDocuments t).filter fun x => !isBlankDocument x := List.getElem_mem _
  exact ⟨_, List.mem_of_mem_filter hx, (List.forall₂_iff_get.mp hread).2 i hi' hi⟩

/-- When every document text with content is a mapping, each of them is read
as its located entries, in order. -/
theorem parseTexts_ok (texts : List String) (number : Nat)
    (h : ∀ x ∈ texts, isBlankDocument x = false → DecodesToMapping x) :
    ∃ ds, parseTexts texts number = .ok ds ∧
      List.Forall₂ ReadsAs (texts.filter fun x => !isBlankDocument x) ds := by
  induction texts generalizing number with
  | nil => exact ⟨[], rfl, .nil⟩
  | cons x rest ih =>
    obtain ⟨ds, hds, hall⟩ := ih (number + 1) fun y hy => h y (List.mem_cons_of_mem x hy)
    cases hb : isBlankDocument x with
    | true =>
      -- skipped, but counted
      exact ⟨ds, by simp [parseTexts, hb, hds], by simpa [hb] using hall⟩
    | false =>
      obtain ⟨kvs, hkvs⟩ := h x List.mem_cons_self hb
      refine ⟨⟨locateEntries (lines x) kvs 0⟩ :: ds, ?_, ?_⟩
      · simp only [parseTexts, hb, Bool.false_eq_true, if_false,
          Document.parse_of_mapping number hkvs, hds]
        rfl
      · rw [List.filter_cons_of_pos (by simp [hb])]
        exact .cons ⟨kvs, hkvs, locateEntries_located _ _ _⟩ hall

/-- The first document text with content that is not a mapping stops the
reading with its failure, numbered by its place among all the texts. -/
theorem parseTexts_error (texts : List String) (number i : Nat) (hi : i < texts.length)
    (hblank : isBlankDocument texts[i] = false) (hfail : ¬ DecodesToMapping texts[i])
    (hbefore : ∀ j (hj : j < i), isBlankDocument texts[j] = false → DecodesToMapping texts[j]) :
    ∃ f, parseTexts texts number = .error f ∧ DocumentFailure texts[i] (number + i) f := by
  induction texts generalizing number i with
  | nil => cases hi
  | cons x rest ih =>
    cases i with
    | zero =>
      simp only [List.getElem_cons_zero, Nat.add_zero] at hblank hfail ⊢
      obtain ⟨f, hf, hfailure⟩ := Document.parse_of_not_mapping number hfail
      refine ⟨f, ?_, hfailure⟩
      simp only [parseTexts, hblank, Bool.false_eq_true, if_false, hf]
      rfl
    | succ i =>
      simp only [List.getElem_cons_succ] at hblank hfail ⊢
      have hi' : i < rest.length := by simpa using hi
      have hrest : ∀ j (hj : j < i), isBlankDocument rest[j] = false → DecodesToMapping rest[j] :=
        fun j hj => by simpa using hbefore (j + 1) (by omega)
      obtain ⟨f, hf, hfailure⟩ := ih (number + 1) i hi' hblank hfail hrest
      rw [show number + (i + 1) = number + 1 + i by omega]
      refine ⟨f, ?_, hfailure⟩
      cases hb : isBlankDocument x with
      | true => simp [parseTexts, hb, hf]
      | false =>
        obtain ⟨kvs, hkvs⟩ : DecodesToMapping x := hbefore 0 (by omega) hb
        simp only [parseTexts, hb, Bool.false_eq_true, if_false,
          Document.parse_of_mapping number hkvs, hf]
        rfl

/-- **Reading a template.** The document texts of a template are read in
order, and those without content (every line blank, `---`, `...` or a comment
once trimmed) are skipped. The first other one that is not a mapping stops
the reading with its failure, a YAML error or a root that is not a mapping,
numbered by its place among all the document texts counting from one, the
skipped ones included. When there is none, the reading gives one document for
each other text, in order, holding the located entries of its root mapping:
the keys in their order, each with the comment block above the line where it
is found as docblock and the choice section derived from that docblock. -/
theorem parseAll_spec (t : String) :
    (∀ i (hi : i < (splitDocuments t).length),
      isBlankDocument (splitDocuments t)[i] = false → ¬ DecodesToMapping (splitDocuments t)[i] →
      (∀ j (hj : j < i), isBlankDocument (splitDocuments t)[j] = false →
        DecodesToMapping (splitDocuments t)[j]) →
      ∃ f, Document.parseAll t = .error f ∧ DocumentFailure (splitDocuments t)[i] (i + 1) f) ∧
    ((∀ x ∈ splitDocuments t, isBlankDocument x = false → DecodesToMapping x) →
      ∃ ds, Document.parseAll t = .ok ds ∧
        List.Forall₂ ReadsAs ((splitDocuments t).filter fun x => !isBlankDocument x) ds) := by
  refine ⟨fun i hi hblank hfail hbefore => ?_, parseTexts_ok _ 1⟩
  rw [Nat.add_comm]
  exact parseTexts_error _ 1 i hi hblank hfail hbefore

end DocBlocks

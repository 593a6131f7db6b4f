import DocBlocks.Proofs.Parsing

/-!
# An entry's choice section follows its docblock

An entry keeps the choice section derived from its docblock next to the
docblock itself (`Entry.Coherent`). Every way the library has of making an
entry or changing one keeps the two together: a new entry has neither, a
built entry and an entry whose docblock is set derive the section from the
docblock, setting the value leaves both alone, and reading a template gives
entries whose sections are derived from their docblocks. `Entry.Reachable`
collects the entries so produced, in any order and number; an entry edited
inside a document is edited by the same two setters.

The headline theorem, `Entry.Reachable.choices_follow_docblock`, says that
every reachable entry is coherent, and what follows: the choices and their
range come together, a section and an error never do, an error needs a
docblock of two lines at least, each setter changes only what it sets, and
setting a docblock forgets what was there before.
-/

namespace DocBlocks

open DocBlocks.Yaml DocBlocks.Choice DocBlocks.Text DocBlocks.Source

namespace Entry

/-! ### The invariant -/

/-- An entry whose choice section is the one derived from its docblock. -/
def Coherent (e : Entry) : Prop :=
  e.choices = Section.ofDocblock? e.docblock

@[simp] theorem withValue_key (e : Entry) (v : Value) : (e.withValue v).key = e.key := rfl
@[simp] theorem withValue_value (e : Entry) (v : Value) : (e.withValue v).value = v := rfl
@[simp] theorem withValue_docblock (e : Entry) (v : Value) :
    (e.withValue v).docblock = e.docblock := rfl
@[simp] theorem withValue_choices (e : Entry) (v : Value) :
    (e.withValue v).choices = e.choices := rfl

@[simp] theorem withDocblock_key (e : Entry) (d : Option (List String)) :
    (e.withDocblock d).key = e.key := rfl
@[simp] theorem withDocblock_value (e : Entry) (d : Option (List String)) :
    (e.withDocblock d).value = e.value := rfl
@[simp] theorem withDocblock_docblock (e : Entry) (d : Option (List String)) :
    (e.withDocblock d).docblock = d := rfl
@[simp] theorem withDocblock_choices (e : Entry) (d : Option (List String)) :
    (e.withDocblock d).choices = Section.ofDocblock? d := rfl

theorem coherent_new (key value : Value) : (Entry.new key value).Coherent := rfl

theorem coherent_withDocblock (e : Entry) (d : Option (List String)) :
    (e.withDocblock d).Coherent := rfl

theorem Coherent.withValue {e : Entry} (h : e.Coherent) (v : Value) : (e.withValue v).Coherent :=
  h

/-- A built entry is a new entry given its docblock. -/
theorem coherent_of_build {key value : Option Value} {docblock : Option (List String)}
    {e : Entry} (h : Entry.build key value docblock = .ok e) : e.Coherent := by
  unfold Entry.build at h
  split at h
  · cases h
  · cases h
  · cases h
    exact coherent_withDocblock _ docblock

/-- Located entries are coherent: a found key's section is derived from the
block above its line, and a key not found has neither. -/
theorem coherent_of_located {lines : List String} {cursor : Nat} {kvs : List (Value × Value)}
    {es : List Entry} (h : Located lines cursor kvs es) : ∀ e ∈ es, e.Coherent := by
  induction h with
  | nil => intro e he; cases he
  | found _ _ ih =>
    intro e he
    rcases List.mem_cons.mp he with rfl | he
    · rfl
    · exact ih e he
  | missing _ _ ih =>
    intro e he
    rcases List.mem_cons.mp he with rfl | he
    · rfl
    · exact ih e he

/-- The entries of a read template are coherent. -/
theorem coherent_of_parseAll {t : String} {ds : List Document} {d : Document} {e : Entry}
    (h : Document.parseAll t = .ok ds) (hd : d ∈ ds) (he : e ∈ d.entries) : e.Coherent := by
  obtain ⟨x, -, kvs, -, hlocated⟩ := readsAs_of_parseAll h hd
  exact coherent_of_located hlocated e he

/-! ### Reachable entries -/

/-- The entries the library's operations produce: new entries, built entries,
the entries of a read template, and any of these with a value or a docblock
set, in any order and number. -/
inductive Reachable : Entry → Prop
  | new (key value : Value) : Reachable (Entry.new key value)
  | build {key value : Option Value} {docblock : Option (List String)} {e : Entry} :
      Entry.build key value docblock = .ok e → Reachable e
  | parse {t : String} {ds : List Document} {d : Document} {e : Entry} :
      Document.parseAll t = .ok ds → d ∈ ds → e ∈ d.entries → Reachable e
  | withValue {e : Entry} (value : Value) : Reachable e → Reachable (e.withValue value)
  | withDocblock {e : Entry} (docblock : Option (List String)) :
      Reachable e → Reachable (e.withDocblock docblock)

/-- Every reachable entry is coherent. -/
theorem Reachable.coherent {e : Entry} (h : e.Reachable) : e.Coherent := by
  induction h with
  | new key value => exact coherent_new key value
  | build hbuild => exact coherent_of_build hbuild
  | parse hparse hd he => exact coherent_of_parseAll hparse hd he
  | withValue value _ ih => exact ih.withValue value
  | withDocblock docblock _ _ => exact coherent_withDocblock _ docblock

/-! ### What coherence gives -/

/-- A docblock of one line at most has no directive, since its first line is
never read as one. -/
theorem ofDocblock_short {docblock : List String} (h : docblock.length ≤ 1) :
    Section.ofDocblock docblock = .ok none := by
  have hdrop : docblock.drop 1 = [] := List.drop_eq_nil_of_le h
  rw [Section.ofDocblock, hdrop, sectionFrom]

/-- A coherent entry with a choice error has a docblock of two lines at least. -/
theorem Coherent.docblock_of_choiceError {e : Entry} (h : e.Coherent)
    (herr : e.choiceError?.isSome) : ∃ b, e.docblock = some b ∧ 2 ≤ b.length := by
  unfold Coherent at h
  unfold choiceError? at herr
  cases hd : e.docblock with
  | none =>
    rw [hd] at h
    rw [h] at herr
    cases herr
  | some b =>
    refine ⟨b, rfl, ?_⟩
    rcases Nat.lt_or_ge b.length 2 with hshort | hlong
    · rw [hd, Section.ofDocblock?, ofDocblock_short (by omega)] at h
      rw [h] at herr
      cases herr
    · exact hlong

/-- A section and an error are never both there. -/
theorem not_section_and_choiceError (e : Entry) :
    ¬ (e.section?.isSome ∧ e.choiceError?.isSome) := by
  unfold section? choiceError?
  split <;> simp

/-- The choices and their range come from one section. -/
theorem choices_isSome_eq_range_isSome (e : Entry) :
    (e.section?.map Section.choices).isSome = (e.section?.map Section.range).isSome := by
  simp

/-- Setting a docblock with no readable directive leaves no section. -/
theorem section?_withDocblock_eq_none {d : Option (List String)}
    (h : ∀ s, Section.ofDocblock? d ≠ .ok (some s)) (e : Entry) :
    (e.withDocblock d).section? = none := by
  unfold section?
  rw [withDocblock_choices]
  split
  · rename_i s hs
    cases s with
    | none => rfl
    | some s => exact absurd hs (h s)
  · rfl

/-- Setting a docblock forgets the docblock and the section there before. -/
theorem withDocblock_eq_of_key_value {e e' : Entry} (hk : e'.key = e.key)
    (hv : e'.value = e.value) (d : Option (List String)) :
    e'.withDocblock d = e.withDocblock d := by
  cases e
  cases e'
  cases hk
  cases hv
  rfl

/-- **Choice sections follow docblocks.** Every entry reachable by the
library's operations holds the choice section derived from its docblock.
Hence its choices and their range are there together or not at all; it never
holds both a section and a choice error; an error needs a docblock of two
lines at least. Setting the value changes the value alone; setting the
docblock changes the docblock and the section alone, and the result depends
on the key, the value and the new docblock only, so a docblock without a
readable directive leaves no choices, whatever was there before. -/
theorem Reachable.choices_follow_docblock {e : Entry} (h : e.Reachable) :
    e.choices = Section.ofDocblock? e.docblock ∧
      (e.section?.map Section.choices).isSome = (e.section?.map Section.range).isSome ∧
      ¬ (e.section?.isSome ∧ e.choiceError?.isSome) ∧
      (e.choiceError?.isSome → ∃ b, e.docblock = some b ∧ 2 ≤ b.length) ∧
      (∀ v, (e.withValue v).key = e.key ∧ (e.withValue v).value = v ∧
        (e.withValue v).docblock = e.docblock ∧ (e.withValue v).choices = e.choices) ∧
      (∀ d, (e.withDocblock d).key = e.key ∧ (e.withDocblock d).value = e.value ∧
        (e.withDocblock d).docblock = d ∧ (e.withDocblock d).choices = Section.ofDocblock? d) ∧
      (∀ (e' : Entry) d, e'.key = e.key → e'.value = e.value → e'.withDocblock d = e.withDocblock d) ∧
      (∀ d, (∀ s, Section.ofDocblock? d ≠ .ok (some s)) → (e.withDocblock d).section? = none) :=
  ⟨h.coherent, e.choices_isSome_eq_range_isSome, e.not_section_and_choiceError,
    h.coherent.docblock_of_choiceError, fun _ => ⟨rfl, rfl, rfl, rfl⟩,
    fun _ => ⟨rfl, rfl, rfl, rfl⟩, fun _ d hk hv => withDocblock_eq_of_key_value hk hv d,
    fun _ hd => section?_withDocblock_eq_none hd e⟩

/-- The entry of a port whose directive cannot be read, set on a new entry. -/
theorem port_entry_choices_follow_docblock :
    let e := (Entry.new (.string "port") .null).withDocblock
      (some ["# Port", "# Choose: any port above 1024"])
    e.Reachable ∧ e.choices = Section.ofDocblock? e.docblock ∧
      (e.section?.map Section.choices).isSome = (e.section?.map Section.range).isSome ∧
      ¬ (e.section?.isSome ∧ e.choiceError?.isSome) ∧
      (e.choiceError?.isSome → ∃ b, e.docblock = some b ∧ 2 ≤ b.length) ∧
      (∀ v, (e.withValue v).key = e.key ∧ (e.withValue v).value = v ∧
        (e.withValue v).docblock = e.docblock ∧ (e.withValue v).choices = e.choices) ∧
      (∀ d, (e.withDocblock d).key = e.key ∧ (e.withDocblock d).value = e.value ∧
        (e.withDocblock d).docblock = d ∧ (e.withDocblock d).choices = Section.ofDocblock? d) ∧
      (∀ (e' : Entry) d, e'.key = e.key → e'.value = e.value → e'.withDocblock d = e.withDocblock d) ∧
      (∀ d, (∀ s, Section.ofDocblock? d ≠ .ok (some s)) → (e.withDocblock d).section? = none) :=
  let h : Reachable ((Entry.new (.string "port") .null).withDocblock
      (some ["# Port", "# Choose: any port above 1024"])) := .withDocblock _ (.new _ _)
  ⟨h, Reachable.choices_follow_docblock h⟩

end Entry

end DocBlocks

import DocBlocks.Proofs.Layout
import DocBlocks.Proofs.EntryChoices
import DocBlocks.Proofs.Validation
import Mathlib.Control.Monad.Basic

/-!
# Installing writes what the template reads as

Installing a template renders the documents it reads as and writes them to
the deployment. Read back, the deployment gives the same documents, given
what the YAML library is trusted to do: the text it writes for an entry's key
and value is whole lines, the first declaring the key and every other one
continuing the entry (`EmitsKey`), and the text written for a document reads
as that document's entries.

Two things are lost on the way whatever the YAML library does, although a
deployment is meant to read back as its template:

* cutting a text into lines drops one carriage return before each line feed,
  so a docblock line that still ends in a carriage return loses it
  (`carriage_return_lost_from_docblock`);
* the last document is read without its final line feed, so a value that
  needs that line feed, such as a literal block keeping its last line break,
  reads back without it (`literal_block_loses_final_line_feed`).

The headline theorem, `parseAll_renderAll`, is the round trip for every
template that reads and passes its checks, when no docblock line ends in a
carriage return and the last document reads as its entries without its final
line feed too. It rests on three facts: an entry is written as its docblock,
its key line and lines declaring nothing (`Entry.Laid`), so each key is found
on its own line with its docblock above it (`located_of_laid`); the rendered
text is cut back into the rendered documents (`splitDocuments_rendered`); and
each document text reads as its document (`Document.parse_of_laid`).
-/

namespace DocBlocks

open DocBlocks.Yaml DocBlocks.Text DocBlocks.Source DocBlocks.Choice

/-! ### What the YAML library writes for an entry -/

/-- Whether a line continues the YAML of an entry: it starts with a blank or
`-`, and opens no document. -/
def continuesEntry (l : String) : Bool :=
  (l.toList.head?.any fun c => isBlank c || c == '-') && !isDocumentStart l

/-- The YAML written for the mapping of `key` to a value: whole lines, each
ended by a line feed, the first declaring the key and every other one
continuing the entry. -/
def EmitsKey (key : Value) (yaml : String) : Prop :=
  ∃ first rest, yaml = unlines (first :: rest) ∧ IsLine first ∧ declares key first = true ∧
    ∀ l ∈ rest, IsLine l ∧ continuesEntry l = true

/-- YAML that is one line declaring the key, ended by a line feed. -/
theorem EmitsKey.of_line {key : Value} {line : String} (hline : IsLine line)
    (hkey : declares key line = true) : EmitsKey key (line ++ "\n") :=
  ⟨line, [], by rw [unlines_cons, unlines_nil, String.append_empty], hline, hkey, by simp⟩

/-- A line continuing an entry is not empty, declares no key and is inside a
document. -/
theorem continuesEntry_facts {l : String} (h : continuesEntry l = true) :
    l ≠ "" ∧ declaredKey l = none ∧ inside l = true := by
  simp only [continuesEntry, Bool.and_eq_true, Bool.not_eq_true'] at h
  obtain ⟨hhead, hstart⟩ := h
  cases hl : l.toList with
  | nil => rw [hl] at hhead; cases hhead
  | cons c cs =>
    rw [hl, List.head?_cons, Option.any_some] at hhead
    have hquiet : (isBlank c || c == '#' || c == '-') = true := by
      simp only [Bool.or_eq_true, beq_iff_eq] at hhead ⊢
      rcases hhead with h | h
      · exact .inl (.inl h)
      · exact .inr h
    refine ⟨ne_empty_of_toList_eq_cons hl, declaredKey_eq_none hl hquiet, ?_⟩
    have hdot : c ≠ '.' := by
      rintro rfl
      exact absurd hhead (by decide)
    rw [inside, hstart, isDocumentEnd_eq_false (by simp [hl, hdot])]
    rfl

theorem declaredKey_of_declares {key : Value} {l : String} (h : declares key l = true) :
    ∃ text, declaredKey l = some text := by
  unfold declares at h
  split at h
  · rename_i text htext
    exact ⟨text, htext⟩
  · cases h

/-- A line declaring a key is not empty and is inside a document. -/
theorem declares_facts {key : Value} {l : String} (h : declares key l = true) :
    l ≠ "" ∧ inside l = true := by
  obtain ⟨text, htext⟩ := declaredKey_of_declares h
  obtain ⟨c, cs, hl, -, -, -, hstart, hend⟩ := head_of_declaredKey htext
  refine ⟨ne_empty_of_toList_eq_cons hl, ?_⟩
  rw [inside, hstart, hend]
  rfl

/-! ### Entries written as whole lines -/

namespace Entry

/-- The lines an entry is written as; none when it cannot be written. -/
def renderedLines (e : Entry) : List String :=
  match e.render with
  | .ok text => lines text
  | .error _ => []

/-- An entry written as whole lines: its docblock, all comments, then the line
declaring its key, then lines continuing the entry. -/
structure Laid (e : Entry) : Prop where
  render : e.render = .ok (unlines e.renderedLines)
  parts : ∃ b first rest, e.docblock = some b ∧ e.renderedLines = b ++ first :: rest ∧
    (∀ l ∈ b, isComment l = true) ∧ declares e.key first = true ∧
    ∀ l ∈ rest, continuesEntry l = true
  isLine : ∀ l ∈ e.renderedLines, IsLine l

theorem render_eq {e : Entry} {b : List String} {yaml : String} (hb : e.docblock = some b)
    (hyaml : (Value.mapping [(e.key, e.value)]).encode = .ok yaml) :
    e.render = .ok (unlines b ++ yaml) := by
  unfold Entry.render
  rw [hyaml, hb]
  rfl

/-- An entry with a docblock of whole comment lines, whose YAML the library
writes as whole lines, is written as whole lines. -/
theorem Laid.of_emitsKey {e : Entry} {b : List String} {yaml : String}
    (hb : e.docblock = some b) (hcomment : ∀ l ∈ b, isComment l = true ∧ IsLine l)
    (hyaml : (Value.mapping [(e.key, e.value)]).encode = .ok yaml) (hemit : EmitsKey e.key yaml) :
    e.Laid := by
  obtain ⟨first, rest, rfl, hfirst, hkey, hrest⟩ := hemit
  have hall : ∀ l ∈ b ++ first :: rest, IsLine l := by
    intro l hl
    rcases List.mem_append.mp hl with hl | hl
    · exact (hcomment l hl).2
    · rcases List.mem_cons.mp hl with rfl | hl
      · exact hfirst
      · exact (hrest l hl).1
  have hrender : e.render = .ok (unlines (b ++ first :: rest)) := by
    rw [render_eq hb hyaml, unlines_append]
  have hlines : e.renderedLines = b ++ first :: rest := by
    rw [renderedLines, hrender]
    exact lines_unlines hall
  exact ⟨by rw [hlines]; exact hrender,
    ⟨b, first, rest, hb, hlines, fun l hl => (hcomment l hl).1, hkey, fun l hl => (hrest l hl).2⟩,
    by rw [hlines]; exact hall⟩

/-- The lines of an entry written as whole lines are not empty and are inside
a document. -/
theorem Laid.line_facts {e : Entry} (h : e.Laid) :
    ∀ l ∈ e.renderedLines, l ≠ "" ∧ inside l = true := by
  obtain ⟨b, first, rest, -, hlines, hcomment, hkey, hrest⟩ := h.parts
  rw [hlines]
  intro l hl
  rcases List.mem_append.mp hl with hl | hl
  · obtain ⟨c, cs, hcs, -⟩ := head_of_isComment (hcomment l hl)
    exact ⟨ne_empty_of_toList_eq_cons hcs, inside_of_isComment (hcomment l hl)⟩
  · rcases List.mem_cons.mp hl with rfl | hl
    · exact declares_facts hkey
    · obtain ⟨hne, -, hinside⟩ := continuesEntry_facts (hrest l hl)
      exact ⟨hne, hinside⟩

/-- A coherent entry is a new entry given its docblock. -/
theorem Coherent.eq_withDocblock {e : Entry} (h : e.Coherent) :
    (Entry.new e.key e.value).withDocblock e.docblock = e := by
  cases e with
  | mk key value docblock choices =>
    unfold Coherent at h
    dsimp only at h
    subst h
    rfl

end Entry

/-! ### Finding keys in written entries -/

/-- The comment block above lines that follow a line that is no comment is
made of all of them, when they are all comments. -/
theorem blockAbove_append {P b : List String} (hb : ∀ l ∈ b, isComment l = true)
    (hstop : ∃ l, P.getLast? = some l ∧ isComment l = false) (T : List String) :
    blockAbove (P ++ b ++ T) (P ++ b).length = b := by
  obtain ⟨l, hl, hcl⟩ := hstop
  obtain ⟨P', rfl⟩ := List.getLast?_eq_some_iff.mp hl
  have hrev : ∀ x ∈ b.reverse, isComment x = true := fun x hx => hb x (List.mem_reverse.mp hx)
  have hP : (P' ++ [l]).reverse = l :: P'.reverse := by simp
  rw [blockAbove, List.take_left, List.reverse_append, List.takeWhile_append_of_pos hrev, hP,
    List.takeWhile_cons_of_neg (by simp [hcl]), List.append_nil, List.reverse_reverse]

/-- No line of `P` from line `cursor` on declares a key. -/
def QuietFrom (P : List String) (cursor : Nat) : Prop :=
  ∀ i (hi : i < P.length), cursor ≤ i → declaredKey P[i] = none

/-- Lines that declare nothing, put after `P`, declare nothing from the end of
`P` on. -/
theorem quietFrom_append (P : List String) {Q : List String}
    (hQ : ∀ l ∈ Q, declaredKey l = none) : QuietFrom (P ++ Q) P.length := by
  intro i hi hPi
  rw [List.getElem_append_right hPi]
  exact hQ _ (List.getElem_mem _)

/-- **A key declared right below its docblock is found there.** Located from
a cursor after which no line declares a key, above lines that stop a comment
block, the key's entry takes that docblock. -/
theorem Located.of_docblock {P b T : List String} {first : String} {e : Entry} {cursor : Nat}
    {kvs : List (Value × Value)} {es : List Entry}
    (hb : e.docblock = some b) (hcomment : ∀ l ∈ b, isComment l = true)
    (hkey : declares e.key first = true) (hc : cursor ≤ P.length) (hquiet : QuietFrom P cursor)
    (hstop : ∃ l, P.getLast? = some l ∧ isComment l = false)
    (htail : Located (P ++ b ++ first :: T) ((P ++ b).length + 1) kvs es) :
    Located (P ++ b ++ first :: T) cursor ((e.key, e.value) :: kvs)
      ((Entry.new e.key e.value).withDocblock e.docblock :: es) := by
  have hline : KeyLine (P ++ b ++ first :: T) e.key cursor (P ++ b).length := by
    refine ⟨?_, .inl ⟨by simp only [List.length_append]; omega, fun i hci hij => ?_⟩⟩
    · simp [declaresAt, hkey]
    · -- the lines between the cursor and the key are quiet ones, then comments
      rw [declaresAt, List.getElem?_append_left hij, List.getElem?_eq_getElem hij, Option.any_some]
      apply declares_eq_false
      rcases Nat.lt_or_ge i P.length with hP | hP
      · rw [List.getElem_append_left hP]
        exact hquiet i hP hci
      · rw [List.getElem_append_right hP]
        exact declaredKey_of_isComment (hcomment _ (List.getElem_mem _))
  have h : Located (P ++ b ++ first :: T) cursor ((e.key, e.value) :: kvs)
      (⟨e.key, e.value, some (blockAbove (P ++ b ++ first :: T) (P ++ b).length),
        Section.ofDocblock (blockAbove (P ++ b ++ first :: T) (P ++ b).length)⟩ :: es) :=
    .found hline htail
  rw [blockAbove_append hcomment hstop] at h
  rw [hb]
  exact h

/-- **Entries written as whole lines are located in order.** Written one after
the other with an empty line between two, after lines that stop a comment
block and declare nothing from the cursor on, each entry is found at its key
line with its own docblock. -/
theorem located_of_laid : ∀ (es : List Entry), (∀ e ∈ es, e.Laid) →
    ∀ (P : List String) (cursor : Nat), cursor ≤ P.length → QuietFrom P cursor →
    (∃ l, P.getLast? = some l ∧ isComment l = false) →
    Located (P ++ List.intercalate [""] (es.map Entry.renderedLines)) cursor
      (es.map fun e => (e.key, e.value))
      (es.map fun e => (Entry.new e.key e.value).withDocblock e.docblock)
  | [], _, _, cursor, _, _, _ => .nil cursor
  | e :: es, hlaid, P, cursor, hc, hquiet, hstop => by
    obtain ⟨b, first, rest, hb, hlines, hcomment, hkey, hrest⟩ := (hlaid e List.mem_cons_self).parts
    cases es with
    | nil =>
      rw [List.map_singleton, List.intercalate_singleton, hlines, ← List.append_assoc]
      exact Located.of_docblock hb hcomment hkey hc hquiet hstop (.nil _)
    | cons e' es =>
      -- the next entry is located after the rest of this one and the empty line
      have hquiet' : QuietFrom (P ++ b ++ [first] ++ (rest ++ [""])) (P ++ b ++ [first]).length := by
        refine quietFrom_append _ fun l hl => ?_
        rcases List.mem_append.mp hl with hl | hl
        · exact (continuesEntry_facts (hrest l hl)).2.1
        · rw [List.mem_singleton.mp hl]
          rfl
      have hnext := located_of_laid (e' :: es) (fun x hx => hlaid x (List.mem_cons_of_mem e hx))
        (P ++ b ++ [first] ++ (rest ++ [""])) (P ++ b ++ [first]).length (by simp) hquiet'
        ⟨"", List.getLast?_eq_some_iff.mpr ⟨P ++ b ++ [first] ++ rest, by simp⟩,
          isComment_eq_false (by simp)⟩
      have hlines' : P ++ List.intercalate [""] ((e :: e' :: es).map Entry.renderedLines) =
          P ++ b ++ first :: (rest ++ [""] ++ List.intercalate [""] ((e' :: es).map Entry.renderedLines)) := by
        rw [List.map_cons, List.map_cons, List.intercalate_cons_cons, ← List.map_cons, hlines]
        simp
      have hnext_lines : P ++ b ++ [first] ++ (rest ++ [""]) ++
          List.intercalate [""] ((e' :: es).map Entry.renderedLines) =
          P ++ b ++ first :: (rest ++ [""] ++ List.intercalate [""] ((e' :: es).map Entry.renderedLines)) := by
        simp
      rw [hnext_lines, show (P ++ b ++ [first]).length = (P ++ b).length + 1 by
        simp only [List.length_append, List.length_singleton]] at hnext
      rw [hlines']
      exact Located.of_docblock hb hcomment hkey hc hquiet hstop hnext

/-! ### Documents written as whole lines -/

namespace Document

/-- The keys and values of a document's entries, in order: the root mapping
the document is read from. -/
def pairs (d : Document) : List (Value × Value) :=
  d.entries.map fun e => (e.key, e.value)

/-- The lines a document is written as: the `---` line, then the lines of its
entries with an empty line between two. -/
def renderedLines (d : Document) : List String :=
  "---" :: List.intercalate [""] (d.entries.map Entry.renderedLines)

/-- A document written as whole lines: it has entries, and each is written as
whole lines and holds the section derived from its docblock. -/
structure Laid (d : Document) : Prop where
  nonempty : d.entries ≠ []
  entries : ∀ e ∈ d.entries, e.Laid
  coherent : ∀ e ∈ d.entries, e.Coherent

theorem renderEntries_of_laid : ∀ (es : List Entry), (∀ e ∈ es, e.Laid) →
    renderEntries es = .ok (es.map fun e => unlines e.renderedLines)
  | [], _ => rfl
  | e :: es, h => by
    rw [renderEntries, (h e List.mem_cons_self).render,
      renderEntries_of_laid es fun x hx => h x (List.mem_cons_of_mem e hx)]
    rfl

/-- A document written as whole lines renders as its lines. -/
theorem Laid.render {d : Document} (h : d.Laid) : d.render = .ok (unlines d.renderedLines) := by
  have hmap : (d.entries.map fun e => unlines e.renderedLines) =
      (d.entries.map Entry.renderedLines).map unlines := by
    rw [List.map_map]
    rfl
  rw [Document.render, renderEntries_of_laid _ h.entries, hmap]
  show Except.ok ("---\n" ++ "\n".intercalate ((d.entries.map Entry.renderedLines).map unlines)) = _
  rw [intercalate_unlines, renderedLines, unlines_cons]
  rfl

theorem renderEach_of_laid : ∀ (ds : List Document), (∀ d ∈ ds, d.Laid) →
    renderEach ds = .ok (ds.map fun d => unlines d.renderedLines)
  | [], _ => rfl
  | d :: ds, h => by
    rw [renderEach, (h d List.mem_cons_self).render,
      renderEach_of_laid ds fun x hx => h x (List.mem_cons_of_mem d hx)]
    rfl

/-- **Rendering documents written as whole lines.** The text is their lines,
with an empty line between two documents. -/
theorem renderAll_of_laid {ds : List Document} (h : ∀ d ∈ ds, d.Laid) :
    renderAll ds = .ok (unlines (List.intercalate [""] (ds.map renderedLines))) := by
  have hmap : (ds.map fun d => unlines d.renderedLines) = (ds.map renderedLines).map unlines := by
    rw [List.map_map]
    rfl
  rw [renderAll, renderEach_of_laid ds h, hmap]
  show Except.ok ("\n".intercalate ((ds.map renderedLines).map unlines)) = _
  rw [intercalate_unlines]

/-- The entries' lines of a document written as whole lines are inside it, and
one of them declares a key. -/
theorem Laid.body {d : Document} (h : d.Laid) :
    (∀ l ∈ List.intercalate [""] (d.entries.map Entry.renderedLines), inside l = true) ∧
      ∃ l ∈ List.intercalate [""] (d.entries.map Entry.renderedLines), ∃ t, declaredKey l = some t := by
  refine ⟨fun l hl => ?_, ?_⟩
  · rcases mem_intercalate _ hl with rfl | ⟨L, hL, hl⟩
    · exact inside_empty
    · obtain ⟨e, he, rfl⟩ := List.mem_map.mp hL
      exact ((h.entries e he).line_facts l hl).2
  · obtain ⟨e, es, hes⟩ := List.exists_cons_of_ne_nil h.nonempty
    obtain ⟨b, first, rest, -, hlines, -, hkey, -⟩ := (h.entries e (hes ▸ List.mem_cons_self)).parts
    obtain ⟨t, ht⟩ := declaredKey_of_declares hkey
    refine ⟨first, ?_, t, ht⟩
    rw [hes, List.map_cons]
    exact mem_intercalate_cons (by rw [hlines]; simp) _

/-- Every line of a document written as whole lines is cut back whole. -/
theorem Laid.isLine {d : Document} (h : d.Laid) : ∀ l ∈ d.renderedLines, IsLine l := by
  intro l hl
  rcases List.mem_cons.mp hl with rfl | hl
  · decide
  · rcases mem_intercalate _ hl with rfl | ⟨L, hL, hl⟩
    · decide
    · obtain ⟨e, he, rfl⟩ := List.mem_map.mp hL
      exact (h.entries e he).isLine l hl

/-- A document written as whole lines does not end in an empty line. -/
theorem Laid.getLast?_ne {d : Document} (h : d.Laid) : d.renderedLines.getLast? ≠ some "" := by
  have hlists : ∀ L ∈ d.entries.map Entry.renderedLines, L ≠ [] ∧ "" ∉ L := by
    intro L hL
    obtain ⟨e, he, rfl⟩ := List.mem_map.mp hL
    obtain ⟨b, first, rest, -, hlines, -⟩ := (h.entries e he).parts
    exact ⟨by rw [hlines]; simp, fun hmem => ((h.entries e he).line_facts "" hmem).1 rfl⟩
  have hlast := getLast?_intercalate_ne _ hlists
  rw [renderedLines, List.getLast?_cons]
  cases hX : (List.intercalate [""] (d.entries.map Entry.renderedLines)).getLast? with
  | none =>
    intro heq
    exact absurd (Option.some.inj heq) (by decide)
  | some x =>
    rw [hX] at hlast
    intro heq
    exact hlast (congrArg some (Option.some.inj heq))

/-- **A document text reads as the document written there.** A text whose lines
are those a document is written as, and whose YAML is the document's root
mapping, is read as that document. -/
theorem parse_of_laid {x : String} {number : Nat} {d : Document} (h : d.Laid)
    (hlines : lines x = d.renderedLines) (hdecode : Value.decode x = .ok (.mapping d.pairs)) :
    Document.parse x number = .ok d := by
  have hmarker : declaredKey "---" = none :=
    declaredKey_eq_none (show "---".toList = ['-', '-', '-'] by simp) (by decide)
  have hquiet : QuietFrom ([] ++ ["---"]) 0 :=
    quietFrom_append [] fun l hl => by rw [List.mem_singleton.mp hl]; exact hmarker
  have hlocated := located_of_laid d.entries h.entries ["---"] 0 (Nat.zero_le _) hquiet
    ⟨"---", rfl, isComment_eq_false (by intro c cs hcs; simp at hcs; rw [← hcs.1]; decide)⟩
  have hlocated' : Located (lines x) 0 d.pairs
      (d.entries.map fun e => (Entry.new e.key e.value).withDocblock e.docblock) := by
    rw [hlines]
    exact hlocated
  have hentries := Located.unique (locateEntries_located (lines x) d.pairs 0) hlocated'
  have hmap : (d.entries.map fun e => (Entry.new e.key e.value).withDocblock e.docblock) =
      d.entries := by
    conv_rhs => rw [← List.map_id' d.entries]
    exact List.map_congr_left fun e he => (h.coherent e he).eq_withDocblock
  rw [Document.parse_of_mapping number hdecode, hentries, hmap]

end Document

/-- **The documents written as whole lines are read back.** Cut into the texts
of documents written one after another, each but the last with the line
feed of the empty line after it, they read as those documents when each text
holds the document's root mapping. -/
theorem parseTexts_documentTexts : ∀ (ds : List Document) (number : Nat), (∀ d ∈ ds, d.Laid) →
    (∀ d ∈ ds, Value.decode (unlines d.renderedLines) = .ok (.mapping d.pairs)) →
    (∀ d, ds.getLast? = some d → Value.decode (joinLines d.renderedLines) = .ok (.mapping d.pairs)) →
    parseTexts (documentTexts (ds.map Document.renderedLines)) number = .ok ds
  | [], _, _, _, _ => rfl
  | [d], number, hlaid, _, hlast => by
    have h := hlaid d List.mem_cons_self
    have hlines : lines (joinLines d.renderedLines) = d.renderedLines :=
      lines_joinLines h.isLine h.getLast?_ne
    obtain ⟨-, l, hl, t, ht⟩ := h.body
    have hblank : isBlankDocument (joinLines d.renderedLines) = false :=
      isBlankDocument_eq_false (by rw [hlines]; exact List.mem_cons_of_mem _ hl) ht
    rw [List.map_singleton, documentTexts, parseTexts, if_neg (by simp [hblank]),
      Document.parse_of_laid h hlines (hlast d rfl)]
    rfl
  | d :: d' :: more, number, hlaid, hdecode, hlast => by
    have h := hlaid d List.mem_cons_self
    have hlines : lines (unlines d.renderedLines) = d.renderedLines := lines_unlines h.isLine
    obtain ⟨-, l, hl, t, ht⟩ := h.body
    have hblank : isBlankDocument (unlines d.renderedLines) = false :=
      isBlankDocument_eq_false (by rw [hlines]; exact List.mem_cons_of_mem _ hl) ht
    have hrest := parseTexts_documentTexts (d' :: more) (number + 1)
      (fun x hx => hlaid x (List.mem_cons_of_mem d hx))
      (fun x hx => hdecode x (List.mem_cons_of_mem d hx))
      (fun x hx => hlast x (by rw [List.getLast?_cons_cons]; exact hx))
    rw [List.map_cons, List.map_cons, documentTexts, ← List.map_cons, parseTexts,
      if_neg (by simp [hblank]), Document.parse_of_laid h hlines (hdecode d List.mem_cons_self),
      hrest]
    rfl

/-- **The rendered text is cut back into the documents' texts.** -/
theorem splitDocuments_rendered {ds : List Document} (hne : ds ≠ []) (hlaid : ∀ d ∈ ds, d.Laid) :
    splitDocuments (unlines (List.intercalate [""] (ds.map Document.renderedLines))) =
      documentTexts (ds.map Document.renderedLines) := by
  have hbodies : ∀ C ∈ ds.map fun d => List.intercalate [""] (d.entries.map Entry.renderedLines),
      hasContent C = true ∧ ∀ l ∈ C, inside l = true := by
    intro C hC
    obtain ⟨d, hd, rfl⟩ := List.mem_map.mp hC
    obtain ⟨hinside, l, hl, text, htext⟩ := (hlaid d hd).body
    exact ⟨hasContent_of_mem hl htext, hinside⟩
  have hmap : (ds.map fun d => List.intercalate [""] (d.entries.map Entry.renderedLines)).map
      ("---" :: ·) = ds.map Document.renderedLines := by
    rw [List.map_map]
    rfl
  have hlines : ∀ l ∈ List.intercalate [""] (ds.map Document.renderedLines), IsLine l := by
    intro l hl
    rcases mem_intercalate _ hl with rfl | ⟨L, hL, hl⟩
    · decide
    · obtain ⟨d, hd, rfl⟩ := List.mem_map.mp hL
      exact (hlaid d hd).isLine l hl
  have hsplit := splitDocuments_unlines (List.map_eq_nil_iff.not.mpr hne) hbodies (hmap ▸ hlines)
  rwa [hmap] at hsplit

/-! ### What a read template guarantees -/

/-- A block of comment lines above a line is made of lines of the text. -/
theorem mem_of_mem_blockAbove {lines : List String} {index : Nat} {l : String}
    (h : l ∈ blockAbove lines index) : l ∈ lines := by
  rw [blockAbove, List.mem_reverse] at h
  exact List.mem_of_mem_take (List.mem_reverse.mp ((List.takeWhile_sublist _).subset h))

/-- The docblock of a located entry is made of comment lines of the text. -/
theorem Located.docblock_lines {lines : List String} {cursor : Nat} {kvs : List (Value × Value)}
    {es : List Entry} (h : Located lines cursor kvs es) :
    ∀ e ∈ es, ∀ b, e.docblock = some b → ∀ l ∈ b, l ∈ lines ∧ isComment l = true := by
  induction h with
  | nil => intro e he; cases he
  | found _ _ ih =>
    intro e he b hb l hl
    rcases List.mem_cons.mp he with rfl | he
    · cases hb
      exact ⟨mem_of_mem_blockAbove hl, isComment_of_mem_blockAbove hl⟩
    · exact ih e he b hb l hl
  | missing _ _ ih =>
    intro e he b hb l hl
    rcases List.mem_cons.mp he with rfl | he
    · cases hb
    · exact ih e he b hb l hl

/-- The docblock lines of a read template are comment lines without a line
feed. -/
theorem docblock_lines_of_parseAll {t : String} {ds : List Document} {d : Document} {e : Entry}
    {b : List String} (h : Document.parseAll t = .ok ds) (hd : d ∈ ds) (he : e ∈ d.entries)
    (hb : e.docblock = some b) : ∀ l ∈ b, isComment l = true ∧ '\n' ∉ l.toList := by
  obtain ⟨x, -, kvs, -, hlocated⟩ := readsAs_of_parseAll h hd
  intro l hl
  obtain ⟨hmem, hcomment⟩ := hlocated.docblock_lines e he b hb l hl
  exact ⟨hcomment, not_mem_of_mem_lines hmem⟩

/-- A document whose rendered text reads as its entries has entries: with none
it is a bare `---` line, which reads as null. -/
theorem Document.entries_ne_nil_of_decode {d : Document}
    (h : ∀ text, d.render = .ok text → Value.decode text = .ok (.mapping d.pairs)) :
    d.entries ≠ [] := by
  intro hnil
  have hrender : d.render = .ok "---\n" := by
    rw [Document.render, hnil]
    rfl
  have hnull : Value.decode "---\n" = .ok .null := by decide +kernel
  have hmapping := h _ hrender
  rw [hnull] at hmapping
  cases hmapping

/-- A document of a read template whose entries pass their checks, whose YAML
the library writes as whole lines and whose docblock lines end in no carriage
return, is written as whole lines. -/
theorem Document.laid_of_parseAll {t : String} {ds : List Document} {d : Document}
    (hparse : Document.parseAll t = .ok ds) (hd : d ∈ ds)
    (hpass : ∀ e ∈ d.entries, e.check.verdict.passed = true)
    (hemit : ∀ e ∈ d.entries, ∃ yaml,
      (Value.mapping [(e.key, e.value)]).encode = .ok yaml ∧ EmitsKey e.key yaml)
    (hreturn : ∀ e ∈ d.entries, ∀ l ∈ e.docblock.getD [], l.toList.getLast? ≠ some '\r')
    (hnonempty : d.entries ≠ []) : d.Laid := by
  refine ⟨hnonempty, fun e he => ?_, fun e he => Entry.coherent_of_parseAll hparse hd he⟩
  -- a checked entry was located, so it has a docblock, read from the template
  obtain ⟨b, hb⟩ := Option.isSome_iff_exists.mp (Entry.docblock_isSome_of_check (hpass e he))
  obtain ⟨yaml, hyaml, hemits⟩ := hemit e he
  refine Entry.Laid.of_emitsKey hb (fun l hl => ?_) hyaml hemits
  obtain ⟨hcomment, hlf⟩ := docblock_lines_of_parseAll hparse hd he hb l hl
  have hcr := hreturn e he l (by rw [hb]; exact hl)
  exact ⟨hcomment, hlf, hcr⟩

/-! ### The round trip -/

/-- **Installing writes what the template reads as.** A template that reads as
documents passing their checks is rendered, and the text reads back as the
same documents: the same keys, values, docblocks and choice sections, in the
same order. This rests on what the YAML library is trusted to do: it writes
each entry's key and value as whole lines, the first declaring the key and
every other one continuing the entry; each document's rendered text reads as
its entries; and the last document's, read without its final line feed, does
too. It also needs docblock lines that end in no carriage return, since a
carriage return before a line feed is dropped when the text is read back. -/
theorem parseAll_renderAll {t : String} {ds : List Document}
    (hparse : Document.parseAll t = .ok ds)
    (hvalid : (Document.checkAll ds).verdict.passed = true)
    (hemit : ∀ d ∈ ds, ∀ e ∈ d.entries, ∃ yaml,
      (Value.mapping [(e.key, e.value)]).encode = .ok yaml ∧ EmitsKey e.key yaml)
    (hdecode : ∀ d ∈ ds, ∀ text, d.render = .ok text → Value.decode text = .ok (.mapping d.pairs))
    (hlast : ∀ d text, ds.getLast? = some d → d.render = .ok (text ++ "\n") →
      Value.decode text = .ok (.mapping d.pairs))
    (hreturn : ∀ d ∈ ds, ∀ e ∈ d.entries, ∀ l ∈ e.docblock.getD [],
      l.toList.getLast? ≠ some '\r') :
    ∃ text, Document.renderAll ds = .ok text ∧ Document.parseAll text = .ok ds := by
  have hpass : ∀ d ∈ ds, ∀ e ∈ d.entries, e.check.verdict.passed = true := by
    rw [Document.checkAll_passed] at hvalid
    intro d hd e he
    exact List.all_eq_true.mp (List.all_eq_true.mp hvalid d hd) e he
  have hlaid : ∀ d ∈ ds, d.Laid := fun d hd =>
    Document.laid_of_parseAll hparse hd (hpass d hd) (hemit d hd) (hreturn d hd)
      (Document.entries_ne_nil_of_decode (hdecode d hd))
  refine ⟨_, Document.renderAll_of_laid hlaid, ?_⟩
  by_cases hne : ds = []
  · subst hne
    decide +kernel
  rw [Document.parseAll, splitDocuments_rendered hne hlaid]
  -- each text reads as its document, the last without its final line feed
  refine parseTexts_documentTexts ds 1 hlaid (fun d hd => hdecode d hd _ (hlaid d hd).render) ?_
  intro d hd
  have hlaid_d := hlaid d (List.mem_of_getLast? hd)
  have hne_lines : d.renderedLines ≠ [] := List.cons_ne_nil _ _
  exact hlast d _ hd (by rw [hlaid_d.render, unlines_eq_joinLines_append hne_lines])

/-- A template of two documents, one entry with a choice section, installed
and read back. -/
theorem settings_template_parseAll_renderAll :
    let host := (Entry.new (.string "host") (.string "localhost")).withDocblock
      (some ["# Host name"])
    let level := (Entry.new (.string "level") (.string "info")).withDocblock
      (some ["# Log level", "# Choose: [debug, info]"])
    let debug := (Entry.new (.string "debug") (.bool false)).withDocblock (some ["# Debug"])
    let ds : List Document := [⟨[host, level]⟩, ⟨[debug]⟩]
    Document.parseAll ("# Host name\nhost: localhost\n\n# Log level\n# Choose: [debug, info]\n" ++
        "level: info\n---\n# Debug\ndebug: false\n") = .ok ds ∧
      (Document.checkAll ds).verdict.passed = true ∧
      (∀ d ∈ ds, ∀ e ∈ d.entries, ∃ yaml,
        (Value.mapping [(e.key, e.value)]).encode = .ok yaml ∧ EmitsKey e.key yaml) ∧
      (∀ d ∈ ds, ∀ text, d.render = .ok text → Value.decode text = .ok (.mapping d.pairs)) ∧
      (∀ d text, ds.getLast? = some d → d.render = .ok (text ++ "\n") →
        Value.decode text = .ok (.mapping d.pairs)) ∧
      (∀ d ∈ ds, ∀ e ∈ d.entries, ∀ l ∈ e.docblock.getD [], l.toList.getLast? ≠ some '\r') ∧
      ∃ text, Document.renderAll ds = .ok text ∧ Document.parseAll text = .ok ds := by
  intro host level debug ds
  have hparse : Document.parseAll ("# Host name\nhost: localhost\n\n# Log level\n" ++
      "# Choose: [debug, info]\nlevel: info\n---\n# Debug\ndebug: false\n") = .ok ds := by
    decide +kernel
  have hvalid : (Document.checkAll ds).verdict.passed = true := by decide +kernel
  -- each entry's YAML is its key line alone
  have hemit : ∀ d ∈ ds, ∀ e ∈ d.entries, ∃ yaml,
      (Value.mapping [(e.key, e.value)]).encode = .ok yaml ∧ EmitsKey e.key yaml := by
    intro d hd e he
    simp only [ds, List.mem_cons, List.mem_nil_iff, or_false] at hd
    rcases hd with rfl | rfl <;> simp only [List.mem_cons, List.mem_nil_iff, or_false] at he
    · rcases he with rfl | rfl
      · exact ⟨"host: localhost" ++ "\n", by decide +kernel,
          EmitsKey.of_line (by decide) (by decide +kernel)⟩
      · exact ⟨"level: info" ++ "\n", by decide +kernel,
          EmitsKey.of_line (by decide) (by decide +kernel)⟩
    · subst he
      exact ⟨"debug: false" ++ "\n", by decide +kernel,
        EmitsKey.of_line (by decide) (by decide +kernel)⟩
  have hdecode : ∀ d ∈ ds, ∀ text, d.render = .ok text →
      Value.decode text = .ok (.mapping d.pairs) := by
    intro d hd text hr
    simp only [ds, List.mem_cons, List.mem_nil_iff, or_false] at hd
    rcases hd with rfl | rfl
    · have hrender : Document.render ⟨[host, level]⟩ = .ok ("---\n# Host name\nhost: localhost\n\n" ++
          "# Log level\n# Choose: [debug, info]\nlevel: info\n") := by decide +kernel
      cases hrender.symm.trans hr
      decide +kernel
    · have hrender : Document.render ⟨[debug]⟩ = .ok "---\n# Debug\ndebug: false\n" := by
        decide +kernel
      cases hrender.symm.trans hr
      decide +kernel
  -- the last document also reads without its final line feed
  have hlast : ∀ d text, ds.getLast? = some d → d.render = .ok (text ++ "\n") →
      Value.decode text = .ok (.mapping d.pairs) := by
    intro d text hd hr
    cases hd
    have hrender : Document.render ⟨[debug]⟩ = .ok ("---\n# Debug\ndebug: false" ++ "\n") := by
      decide +kernel
    have htext := (String.append_left_inj "\n").mp (Except.ok.inj (hr.symm.trans hrender))
    subst htext
    decide +kernel
  have hreturn : ∀ d ∈ ds, ∀ e ∈ d.entries, ∀ l ∈ e.docblock.getD [],
      l.toList.getLast? ≠ some '\r' := by decide +kernel
  exact ⟨hparse, hvalid, hemit, hdecode, hlast, hreturn,
    parseAll_renderAll hparse hvalid hemit hdecode hlast hreturn⟩

/-- **A literal block loses its last line break.** A template whose one entry
holds `x` and a line feed reads, passes its checks, and is written with the
value as a literal block; the YAML library writes the entry as whole lines and
reads the rendered document as the entry. Read back, the document, being the
last, loses its final line feed, and with it the line feed of the value. -/
theorem literal_block_loses_final_line_feed :
    let e := (Entry.new (.string "k") (.string "x\n")).withDocblock (some ["# K"])
    Document.parseAll "# K\nk: |\n  x\n\n" = .ok [⟨[e]⟩] ∧
      (Document.checkAll [⟨[e]⟩]).verdict.passed = true ∧
      (Value.mapping [(e.key, e.value)]).encode = .ok "k: |\n  x\n" ∧
      EmitsKey e.key "k: |\n  x\n" ∧
      Document.renderAll [⟨[e]⟩] = .ok "---\n# K\nk: |\n  x\n" ∧
      Value.decode "---\n# K\nk: |\n  x\n" = .ok (.mapping [(e.key, e.value)]) ∧
      Document.parseAll "---\n# K\nk: |\n  x\n" = .ok [⟨[e.withValue (.string "x")]⟩] ∧
      Document.parseAll "---\n# K\nk: |\n  x\n" ≠ .ok [⟨[e]⟩] := by
  intro e
  have hemit : EmitsKey e.key "k: |\n  x\n" := by
    unfold EmitsKey
    exact ⟨"k: |", ["  x"], by decide +kernel, by decide, by decide +kernel, by decide +kernel⟩
  exact ⟨by decide +kernel, by decide +kernel, by decide +kernel, hemit, by decide +kernel,
    by decide +kernel, by decide +kernel, by decide +kernel⟩

/-- **A docblock line loses its carriage return.** A template whose comment
line ends in three carriage returns reads with one of them left on its
docblock line, since the text is cut into lines twice, once into documents and
once within the document. The template passes its checks, the YAML library
writes its one entry as the key line alone and reads the rendered document as
the entry. The rendered docblock line ends in that carriage return before its
line feed, and reading it back drops it. -/
theorem carriage_return_lost_from_docblock :
    let e := (Entry.new (.string "k") (.number (.integer 1))).withDocblock (some ["# a\r"])
    Document.parseAll "# a\r\r\r\nk: 1\n" = .ok [⟨[e]⟩] ∧
      (Document.checkAll [⟨[e]⟩]).verdict.passed = true ∧
      (Value.mapping [(e.key, e.value)]).encode = .ok "k: 1\n" ∧
      EmitsKey e.key "k: 1\n" ∧
      Document.renderAll [⟨[e]⟩] = .ok "---\n# a\r\nk: 1\n" ∧
      Value.decode "---\n# a\r\nk: 1\n" = .ok (.mapping [(e.key, e.value)]) ∧
      Document.parseAll "---\n# a\r\nk: 1\n" = .ok [⟨[e.withDocblock (some ["# a"])]⟩] ∧
      Document.parseAll "---\n# a\r\nk: 1\n" ≠ .ok [⟨[e]⟩] := by
  intro e
  -- the YAML library writes the entry as its key line alone
  have hemit : EmitsKey e.key ("k: 1" ++ "\n") := EmitsKey.of_line (by decide) (by decide +kernel)
  exact ⟨by decide +kernel, by decide +kernel, by decide +kernel, hemit, by decide +kernel,
    by decide +kernel, by decide +kernel, by decide +kernel⟩

end DocBlocks

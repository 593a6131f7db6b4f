import DocBlocks.Proofs.Layout

/-!
# Cutting a text into documents loses nothing

`splitDocuments` walks the lines of a text once, collecting them into the
document being read and handing it over at each marker. This module says what
the walk gives, for every text, as a list of blocks of lines, one block per
document text:

* the blocks, one after the other, are the lines of the text with some lines
  left out, and a line left out is blank or a bare `---` once trimmed
  (`DropsOnly`): no line with content is lost or repeated, and the order is
  kept;
* within a block only the first line may open a document and only the last
  may close one (`MarkedOnlyAtEnds`);
* two blocks are cut apart only at a marker (`CutBetween`): the first ends
  with a closing line, or it has content and the second opens with a `---`
  line.

The walk is followed by `splitLines_blocks`, one case per kind of line, from
any document being collected; `splitDocuments_blocks` puts it together for a
whole text, with the case of a text without markers, which is one document.
-/

namespace DocBlocks.Source

open DocBlocks.Text

variable {α : Type}

/-! ### Leaving out elements -/

/-- `m` is `l` with some of its elements left out, each of which satisfies `P`. -/
inductive DropsOnly (P : α → Prop) : List α → List α → Prop
  | nil : DropsOnly P [] []
  | keep (a : α) {l m : List α} : DropsOnly P l m → DropsOnly P (a :: l) (a :: m)
  | drop {a : α} {l m : List α} : P a → DropsOnly P l m → DropsOnly P (a :: l) m

namespace DropsOnly

variable {P : α → Prop}

theorem refl : ∀ l : List α, DropsOnly P l l
  | [] => .nil
  | a :: l => .keep a (refl l)

/-- Elements kept in front stay in front. -/
theorem append_left {l m : List α} (h : DropsOnly P l m) : ∀ c : List α, DropsOnly P (c ++ l) (c ++ m)
  | [] => h
  | a :: c => .keep a (append_left h c)

/-- Elements in front that all satisfy `P` may be left out. -/
theorem drop_all {l m : List α} (h : DropsOnly P l m) :
    ∀ c : List α, (∀ a ∈ c, P a) → DropsOnly P (c ++ l) m
  | [], _ => h
  | a :: c, hc =>
    .drop (hc a List.mem_cons_self) (drop_all h c fun b hb => hc b (List.mem_cons_of_mem a hb))

end DropsOnly

/-! ### Lines and blocks -/

/-- A line that may be left out between documents: blank, or a bare `---`,
once trimmed. -/
def Bare (l : String) : Prop := trim l = "" ∨ trim l = "---"

/-- Collected lines have content exactly when one of them is not bare. -/
theorem hasContent_eq_true_iff (ls : List String) : hasContent ls = true ↔ ∃ l ∈ ls, ¬ Bare l := by
  simp [hasContent, Bare]

theorem bare_of_hasContent_eq_false {ls : List String} (h : hasContent ls = false) :
    ∀ l ∈ ls, Bare l := by
  intro l hl
  by_contra hbare
  have : hasContent ls = true := (hasContent_eq_true_iff ls).mpr ⟨l, hl, hbare⟩
  simp_all

/-- A line that opens a document does not close one. -/
theorem isDocumentEnd_of_isDocumentStart {l : String} (h : isDocumentStart l = true) :
    isDocumentEnd l = false :=
  isDocumentEnd_eq_false (by
    rw [head_of_startsWith "---" (by simp : "---".toList = ['-', '-', '-']) h]
    decide)

/-- Lines of one document: only the first may open a document, and only the
last may close one. -/
def MarkedOnlyAtEnds (B : List String) : Prop :=
  (∀ l ∈ B.tail, isDocumentStart l = false) ∧ ∀ l ∈ B.dropLast, isDocumentEnd l = false

/-- Where one document ends and the next begins: the first ends with a line
that closes it, or it has a line with content and the second opens with a
`---` line. -/
def CutBetween (B B' : List String) : Prop :=
  (∃ l, B.getLast? = some l ∧ isDocumentEnd l = true) ∨
    ((∃ l ∈ B, ¬ Bare l) ∧ ∃ l, B'.head? = some l ∧ isDocumentStart l = true)

/-- The lines of the document being collected: only the first may open a
document, and none closes one, since a closing line hands the document over. -/
def Collecting (C : List String) : Prop :=
  (∀ l ∈ C.tail, isDocumentStart l = false) ∧ ∀ l ∈ C, isDocumentEnd l = false

theorem Collecting.nil : Collecting [] := by simp [Collecting]

theorem Collecting.opening {l : String} (hend : isDocumentEnd l = false) : Collecting [l] := by
  simp [Collecting, hend]

/-- A line that neither opens nor closes a document extends the document
being collected. -/
theorem Collecting.push {C : List String} (hC : Collecting C) {l : String}
    (hstart : isDocumentStart l = false) (hend : isDocumentEnd l = false) : Collecting (C ++ [l]) := by
  obtain ⟨hs, he⟩ := hC
  constructor
  · intro m hm
    cases C with
    | nil => simp_all
    | cons c C =>
      rw [List.cons_append, List.tail_cons, List.mem_append, List.mem_singleton] at hm
      rcases hm with hm | rfl
      · exact hs m hm
      · exact hstart
  · intro m hm
    rcases List.mem_append.mp hm with hm | hm
    · exact he m hm
    · rw [List.mem_singleton.mp hm]
      exact hend

/-- The document being collected, handed over as it is. -/
theorem Collecting.markedOnlyAtEnds {C : List String} (hC : Collecting C) : MarkedOnlyAtEnds C :=
  ⟨hC.1, fun l hl => hC.2 l (List.dropLast_subset C hl)⟩

/-- The document being collected, handed over with the line that closes it. -/
theorem Collecting.markedOnlyAtEnds_close {C : List String} (hC : Collecting C) {l : String}
    (hstart : isDocumentStart l = false) : MarkedOnlyAtEnds (C ++ [l]) := by
  have hpush : ∀ m ∈ (C ++ [l]).tail, isDocumentStart m = false := by
    cases C with
    | nil => simp
    | cons c C =>
      intro m hm
      rw [List.cons_append, List.tail_cons, List.mem_append, List.mem_singleton] at hm
      rcases hm with hm | rfl
      · exact hC.1 m hm
      · exact hstart
  refine ⟨hpush, ?_⟩
  rw [List.dropLast_concat]
  exact hC.2

/-! ### The walk -/

/-- **One walk over the lines.** From a document being collected (`current`,
last line first) and documents handed over so far (`docs`, last first), the
walk over `ls` hands over blocks `B :: Bs` after `docs`: together they are the
collected lines and `ls` with only bare lines left out; each is marked only at
its ends; two are cut apart only at a marker; and the first begins with the
collected lines, unless these were left out for a `---` line that opens it. -/
theorem splitLines_blocks (ls current docs : List String) (hC : Collecting current.reverse) :
    ∃ B Bs, splitLines ls current docs = docs.reverse ++ (B :: Bs).map joinLines ∧
      DropsOnly Bare (current.reverse ++ ls) (B :: Bs).flatten ∧
      (∀ B' ∈ B :: Bs, MarkedOnlyAtEnds B') ∧ List.IsChain CutBetween (B :: Bs) ∧
      (current.reverse <+: B ∨ ∃ l, B.head? = some l ∧ isDocumentStart l = true) := by
  fun_induction splitLines ls current docs with
  | case1 current docs =>
    -- the end of the text hands over what was collected
    refine ⟨current.reverse, [], by simp, ?_, ?_, .singleton _, .inl (List.prefix_refl _)⟩
    · rw [List.append_nil, List.flatten_singleton]
      exact DropsOnly.refl _
    · simpa using hC.markedOnlyAtEnds
  | case2 line rest current docs hstart docs' ih =>
    -- a `---` line: the collected lines are handed over when they have content
    have hend : isDocumentEnd line = false := isDocumentEnd_of_isDocumentStart hstart
    obtain ⟨B, Bs, hsplit, hdrop, hmarked, hchain, hhead⟩ := ih (Collecting.opening hend)
    have hopens : ∃ l, B.head? = some l ∧ isDocumentStart l = true := by
      rcases hhead with hpre | hopen
      · obtain ⟨t, rfl⟩ := hpre
        exact ⟨line, rfl, hstart⟩
      · exact hopen
    by_cases hcontent : hasContent current = true
    · simp only [docs', if_pos hcontent] at hsplit ⊢
      refine ⟨current.reverse, B :: Bs, ?_, ?_, ?_, ?_, .inl (List.prefix_refl _)⟩
      · simp [hsplit]
      · rw [List.flatten_cons]
        simpa using hdrop.append_left current.reverse
      · intro B' hB'
        rcases List.mem_cons.mp hB' with rfl | hB'
        · exact hC.markedOnlyAtEnds
        · exact hmarked B' hB'
      · refine .cons_cons (.inr ⟨?_, hopens⟩) hchain
        obtain ⟨l, hl, hbare⟩ := (hasContent_eq_true_iff current).mp hcontent
        exact ⟨l, List.mem_reverse.mpr hl, hbare⟩
    · have hbare := bare_of_hasContent_eq_false (Bool.eq_false_iff.mpr hcontent)
      simp only [docs', if_neg hcontent] at hsplit ⊢
      refine ⟨B, Bs, hsplit, ?_, hmarked, hchain, .inr hopens⟩
      · have hleft := hdrop.drop_all current.reverse fun l hl => hbare l (List.mem_reverse.mp hl)
        simpa using hleft
  | case3 line rest current docs hstart hend ih =>
    -- a `...` line closes the collected lines and is handed over with them
    obtain ⟨B, Bs, hsplit, hdrop, hmarked, hchain, -⟩ := ih Collecting.nil
    rw [List.reverse_cons] at hsplit
    refine ⟨current.reverse ++ [line], B :: Bs, ?_, ?_, ?_, ?_, .inl (List.prefix_append _ _)⟩
    · simp [hsplit]
    · rw [List.flatten_cons, List.append_assoc]
      simpa using hdrop.append_left (current.reverse ++ [line])
    · intro B' hB'
      rcases List.mem_cons.mp hB' with rfl | hB'
      · exact hC.markedOnlyAtEnds_close (by simpa using hstart)
      · exact hmarked B' hB'
    · exact .cons_cons (.inl ⟨line, by simp, hend⟩) hchain
  | case4 line rest current docs hstart hend ih =>
    -- any other line joins the collected lines
    have hC' : Collecting (line :: current).reverse := by
      rw [List.reverse_cons]
      exact hC.push (by simpa using hstart) (by simpa using hend)
    obtain ⟨B, Bs, hsplit, hdrop, hmarked, hchain, hhead⟩ := ih hC'
    refine ⟨B, Bs, hsplit, ?_, hmarked, hchain, ?_⟩
    · simpa using hdrop
    · rcases hhead with hpre | hopen
      · exact .inl (List.IsPrefix.trans (by simp) hpre)
      · exact .inr hopen

/-- A text without markers is one document: its lines, joined. -/
theorem splitDocuments_of_no_markers {text : String}
    (h : ∀ l ∈ lines text, isDocumentStart l = false ∧ isDocumentEnd l = false) :
    splitDocuments text = [joinLines (lines text)] := by
  have hinside : ∀ l ∈ lines text, inside l = true := by
    intro l hl
    simp [inside, (h l hl).1, (h l hl).2]
  rw [splitDocuments, ← List.append_nil (lines text), splitLines_append hinside, splitLines.eq_1]
  simp

/-- **Cutting a text into documents loses and repeats nothing.** The document
texts of every text are the blocks `Bs`, at least one, each joined with line
feeds, where the blocks one after the other are the lines of the text with
only lines left out that are blank or a bare `---` once trimmed; within a
block only the first line opens a document and only the last closes one; and
two blocks are cut apart only where the first ends with a closing line, or
where it has content and the second opens with a `---` line. A text with no
marker line is a single document. -/
theorem splitDocuments_blocks (text : String) :
    ∃ Bs : List (List String), splitDocuments text = Bs.map joinLines ∧ Bs ≠ [] ∧
      DropsOnly Bare (lines text) Bs.flatten ∧ (∀ B ∈ Bs, MarkedOnlyAtEnds B) ∧
      List.IsChain CutBetween Bs ∧
      ((∀ l ∈ lines text, isDocumentStart l = false ∧ isDocumentEnd l = false) →
        splitDocuments text = [joinLines (lines text)]) := by
  obtain ⟨B, Bs, hsplit, hdrop, hmarked, hchain, -⟩ := splitLines_blocks (lines text) [] [] Collecting.nil
  refine ⟨B :: Bs, by simpa [splitDocuments] using hsplit, List.cons_ne_nil B Bs, by simpa using hdrop, hmarked, hchain,
    splitDocuments_of_no_markers⟩

example : splitDocuments "foo: 1\n...\n---\nbar: 2\n..." = ["foo: 1\n...", "---\nbar: 2\n...", ""] := by
  decide +kernel

end DocBlocks.Source

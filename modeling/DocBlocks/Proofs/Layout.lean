import DocBlocks.Source.Documents
import DocBlocks.Source.KeyLine
import Mathlib.Data.List.DropRight

/-!
# Texts made of whole lines

A text made of lines, each ended by a line feed (`unlines`), is cut back into
exactly those lines when none of them holds a line feed or ends in a carriage
return (`lines_unlines`): cutting drops one carriage return before each line
feed and nothing else. Lines joined with line feeds between them
(`joinLines`) lack only the last line feed, and are cut back the same way
when the last line is not empty (`lines_joinLines`).

What a line can be is told by its first character. A line starting with a
blank, `#` or `-` declares no key; one starting with neither `-` nor `.`
neither opens nor closes a document; a comment starts with a blank or `#`;
a line that declares a key has content, and is no comment.

The headline theorem, `splitDocuments_unlines`, cuts a text made of
documents, each a `---` line and then lines with content that neither open
nor close a document, written with a blank line between two of them, into
its document texts: each but the last keeps its blank line, so it ends in a
line feed, and the last loses its final line feed.
-/

namespace DocBlocks.Text

/-- Lines, each ended by a line feed. -/
def unlines (ls : List String) : String :=
  String.join (ls.map (· ++ "\n"))

/-- A text that cutting gives back whole: it holds no line feed and does not
end in a carriage return. -/
def IsLine (l : String) : Prop :=
  '\n' ∉ l.toList ∧ l.toList.getLast? ≠ some '\r'

instance : DecidablePred IsLine := fun l =>
  inferInstanceAs (Decidable ('\n' ∉ l.toList ∧ l.toList.getLast? ≠ some '\r'))

@[simp] theorem unlines_nil : unlines [] = "" := rfl

theorem unlines_cons (l : String) (ls : List String) :
    unlines (l :: ls) = l ++ "\n" ++ unlines ls := by
  rw [unlines, List.map_cons, String.join_cons, ← unlines]

theorem unlines_append (ls ms : List String) : unlines (ls ++ ms) = unlines ls ++ unlines ms := by
  rw [unlines, List.map_append, String.join_append, ← unlines, ← unlines]

/-! ### Cutting at line feeds -/

/-- A piece without a line feed, then a line feed, is cut off as it is. -/
theorem splitLineFeeds_append_lineFeed {cs : List Char} (h : '\n' ∉ cs) (rest : List Char) :
    splitLineFeeds (cs ++ '\n' :: rest) = cs :: splitLineFeeds rest := by
  induction cs with
  | nil => rfl
  | cons c cs ih =>
    have hc : c ≠ '\n' := fun hc => h (hc ▸ List.mem_cons_self)
    rw [List.cons_append, splitLineFeeds.eq_3 _ _ hc, ih (fun hm => h (List.mem_cons_of_mem c hm))]

/-- A text without a line feed is one piece. -/
theorem splitLineFeeds_of_not_mem {cs : List Char} (h : '\n' ∉ cs) : splitLineFeeds cs = [cs] := by
  induction cs with
  | nil => rfl
  | cons c cs ih =>
    have hc : c ≠ '\n' := fun hc => h (hc ▸ List.mem_cons_self)
    rw [splitLineFeeds.eq_3 _ _ hc, ih (fun hm => h (List.mem_cons_of_mem c hm))]

/-- Lines each ended by a line feed are cut off one by one. -/
theorem splitLineFeeds_unlines_append {ls : List String} (h : ∀ l ∈ ls, '\n' ∉ l.toList)
    (rest : List Char) :
    splitLineFeeds ((unlines ls).toList ++ rest) = ls.map String.toList ++ splitLineFeeds rest := by
  induction ls with
  | nil => rfl
  | cons l ls ih =>
    have hrest : (unlines (l :: ls)).toList ++ rest = l.toList ++ '\n' :: ((unlines ls).toList ++ rest) := by
      simp [unlines_cons]
    rw [hrest, splitLineFeeds_append_lineFeed (h l List.mem_cons_self),
      ih fun m hm => h m (List.mem_cons_of_mem l hm), List.map_cons, List.cons_append]

theorem dropCarriageReturn_of_isLine {l : String} (h : IsLine l) :
    dropCarriageReturn l.toList = l.toList := by
  unfold dropCarriageReturn
  split
  · rename_i hcr
    exact absurd hcr h.2
  · rfl

/-- Pieces that were lines come back as those lines, whatever follows them. -/
theorem linesOfPieces_map_append {ls : List String} (h : ∀ l ∈ ls, IsLine l)
    {last : List (List Char)} (hlast : last ≠ []) :
    linesOfPieces (ls.map String.toList ++ last) = ls ++ linesOfPieces last := by
  induction ls with
  | nil => rfl
  | cons l ls ih =>
    rw [List.map_cons, List.cons_append, linesOfPieces.eq_3 _ _ (by simp [hlast]),
      dropCarriageReturn_of_isLine (h l List.mem_cons_self), String.ofList_toList,
      ih fun m hm => h m (List.mem_cons_of_mem l hm), List.cons_append]

/-- **Whole lines are cut back into themselves.** -/
theorem lines_unlines {ls : List String} (h : ∀ l ∈ ls, IsLine l) : lines (unlines ls) = ls := by
  have hsplit := splitLineFeeds_unlines_append (fun l hl => (h l hl).1) []
  rw [List.append_nil] at hsplit
  rw [lines, hsplit, splitLineFeeds, linesOfPieces_map_append h (by simp)]
  simp [linesOfPieces]

/-- Joining lines lacks only the line feed after the last. -/
theorem joinLines_append_singleton (ls : List String) (x : String) :
    joinLines (ls ++ [x]) = unlines ls ++ x := by
  induction ls with
  | nil => simp [joinLines]
  | cons l ls ih =>
    rw [List.cons_append, joinLines, String.intercalate_cons_of_ne_nil (by simp), ← joinLines, ih,
      unlines_cons]
    simp only [String.append_assoc]

/-- Joined lines are cut back into themselves when the last is not empty. -/
theorem lines_joinLines {ls : List String} (h : ∀ l ∈ ls, IsLine l)
    (hlast : ls.getLast? ≠ some "") : lines (joinLines ls) = ls := by
  cases hls : ls.getLast? with
  | none =>
    rw [List.getLast?_eq_none_iff.mp hls]
    rfl
  | some x =>
    -- the last line is cut off on its own, as the last piece
    obtain ⟨init, rfl⟩ := List.getLast?_eq_some_iff.mp hls
    have hinit : ∀ l ∈ init, IsLine l := fun l hl => h l (List.mem_append_left _ hl)
    have hx : '\n' ∉ x.toList := (h x (List.mem_append_right _ List.mem_cons_self)).1
    have hsplit := splitLineFeeds_unlines_append (fun l hl => (hinit l hl).1) x.toList
    rw [lines, joinLines_append_singleton, String.toList_append, hsplit,
      splitLineFeeds_of_not_mem hx, linesOfPieces_map_append hinit (by simp)]
    have hne : x.toList.isEmpty = false := by
      cases hxs : x.toList with
      | nil => exact absurd (by rw [hls, String.toList_inj.mp (hxs.trans String.toList_empty.symm)]) hlast
      | cons c cs => rfl
    simp [linesOfPieces, hne]

/-- Every piece cut at line feeds is free of them. -/
theorem not_mem_of_mem_splitLineFeeds {cs p : List Char} (h : p ∈ splitLineFeeds cs) : '\n' ∉ p := by
  induction cs generalizing p with
  | nil =>
    rw [List.mem_singleton.mp h]
    exact List.not_mem_nil
  | cons c cs ih =>
    by_cases hc : c = '\n'
    · subst hc
      rw [splitLineFeeds.eq_2] at h
      rcases List.mem_cons.mp h with rfl | h
      · exact List.not_mem_nil
      · exact ih h
    · rw [splitLineFeeds.eq_3 _ _ hc] at h
      split at h
      · rw [List.mem_singleton.mp h, List.mem_singleton]
        exact Ne.symm hc
      · rename_i q qs hpieces
        rcases List.mem_cons.mp h with rfl | h
        · exact fun hm => (List.mem_cons.mp hm).elim (fun e => hc e.symm)
            (ih (hpieces ▸ List.mem_cons_self))
        · exact ih (hpieces ▸ List.mem_cons_of_mem q h)

/-- **A line holds no line feed.** -/
theorem not_mem_of_mem_lines {s l : String} (h : l ∈ lines s) : '\n' ∉ l.toList := by
  suffices hpieces : ∀ ps : List (List Char), (∀ p ∈ ps, '\n' ∉ p) →
      ∀ l ∈ linesOfPieces ps, '\n' ∉ l.toList from
    hpieces _ (fun _ hp => not_mem_of_mem_splitLineFeeds hp) l h
  intro ps hps l hl
  induction ps with
  | nil => cases hl
  | cons p ps ih =>
    cases ps with
    | nil =>
      unfold linesOfPieces at hl
      split at hl
      · cases hl
      · rw [List.mem_singleton.mp hl, String.toList_ofList]
        exact hps p List.mem_cons_self
    | cons q qs =>
      rw [linesOfPieces.eq_3 _ _ (by simp)] at hl
      rcases List.mem_cons.mp hl with rfl | hl
      · -- dropping a carriage return only shortens the piece
        rw [String.toList_ofList]
        intro hm
        apply hps p List.mem_cons_self
        unfold dropCarriageReturn at hm
        split at hm
        · exact List.dropLast_subset _ hm
        · exact hm
      · exact ih (fun r hr => hps r (List.mem_cons_of_mem p hr)) hl

/-- Lines with an empty line between two lists, none of them empty and none
holding an empty line, do not end in an empty line. -/
theorem getLast?_intercalate_ne : ∀ Ls : List (List String),
    (∀ L ∈ Ls, L ≠ [] ∧ "" ∉ L) → (List.intercalate [""] Ls).getLast? ≠ some ""
  | [], _ => by simp
  | [L], h => by
    rw [List.intercalate_singleton]
    exact fun hl => (h L List.mem_cons_self).2 (List.mem_of_getLast? hl)
  | L :: L' :: more, h => by
    have hne : List.intercalate [""] (L' :: more) ≠ [] := by
      cases more <;> simp [List.intercalate_cons_cons, (h L' (by simp)).1]
    rw [List.intercalate_cons_cons, List.getLast?_append_of_ne_nil _ hne]
    exact getLast?_intercalate_ne (L' :: more) fun M hM => h M (List.mem_cons_of_mem L hM)

/-- Lines each ended by a line feed are their join and one more line feed. -/
theorem unlines_eq_joinLines_append {ls : List String} (h : ls ≠ []) :
    unlines ls = joinLines ls ++ "\n" := by
  obtain ⟨init, x, rfl⟩ := List.eq_nil_or_concat ls |>.resolve_left h
  rw [List.concat_eq_append, joinLines_append_singleton, unlines_append, unlines_cons, unlines_nil, String.append_empty,
    String.append_assoc]

/-- A line of lists written with an empty line between two is the empty line
or a line of one of them. -/
theorem mem_intercalate : ∀ (Ls : List (List String)) {l : String},
    l ∈ List.intercalate [""] Ls → l = "" ∨ ∃ L ∈ Ls, l ∈ L
  | [], _, h => by simp at h
  | [L], _, h => .inr ⟨L, List.mem_singleton_self L, by simpa using h⟩
  | L :: L' :: more, _, h => by
    rw [List.intercalate_cons_cons] at h
    rcases List.mem_append.mp h with h | h
    · rcases List.mem_append.mp h with h | h
      · exact .inr ⟨L, List.mem_cons_self, h⟩
      · exact .inl (List.mem_singleton.mp h)
    · rcases mem_intercalate (L' :: more) h with h | ⟨M, hM, hl⟩
      · exact .inl h
      · exact .inr ⟨M, List.mem_cons_of_mem L hM, hl⟩

/-- The lines of the first list are among those of lists written with an empty
line between two. -/
theorem mem_intercalate_cons {L : List String} {l : String} (h : l ∈ L) (Ls : List (List String)) :
    l ∈ List.intercalate [""] (L :: Ls) := by
  cases Ls with
  | nil => simpa using h
  | cons L' more => simp [List.intercalate_cons_cons, h]

/-- Texts of whole lines joined with a line feed between two are the lines
with an empty line between two texts. -/
theorem intercalate_unlines : ∀ xs : List (List String),
    "\n".intercalate (xs.map unlines) = unlines (List.intercalate [""] xs)
  | [] => rfl
  | [x] => by simp
  | x :: y :: rest => by
    rw [List.map_cons, List.map_cons, String.intercalate_cons_cons, ← List.map_cons,
      intercalate_unlines (y :: rest), List.intercalate_cons_cons, unlines_append, unlines_append]
    rfl

/-! ### Lines by their first character -/

/-- Trimming a line that starts with a character other than a blank keeps that
character first, and gives a prefix of the line. -/
theorem trim_of_head {l : String} {c : Char} {cs : List Char} (hl : l.toList = c :: cs)
    (hc : isBlank c = false) : ∃ ds, (trim l).toList = c :: ds ∧ c :: ds <+: l.toList := by
  have hstart : (trimStart l).toList = c :: cs := by
    rw [trimStart, String.toList_ofList, hl, List.dropWhile_cons_of_neg (by simp [hc])]
  have hend : (trim l).toList = (c :: cs).rdropWhile isBlank := by
    rw [trim, trimEnd, String.toList_ofList, hstart]
    rfl
  have hprefix : (c :: cs).rdropWhile isBlank <+: c :: cs := List.rdropWhile_prefix _ _
  cases hd : (c :: cs).rdropWhile isBlank with
  | nil =>
    have := List.rdropWhile_eq_nil_iff.mp hd c List.mem_cons_self
    rw [hc] at this
    cases this
  | cons d ds =>
    rw [hd, List.cons_prefix_cons] at hprefix
    obtain ⟨rfl, hds⟩ := hprefix
    exact ⟨ds, hend.trans hd, by rw [hl]; exact (List.prefix_cons_inj _).mpr hds⟩

/-- A text that starts with a character other than a blank is its own
trimmed start. -/
theorem trimStart_of_head {l : String} {c : Char} {cs : List Char} (hl : l.toList = c :: cs)
    (hc : isBlank c = false) : trimStart l = l := by
  rw [← String.toList_inj, trimStart, String.toList_ofList, hl,
    List.dropWhile_cons_of_neg (by simp [hc])]

theorem ne_empty_of_toList_eq_cons {l : String} {c : Char} {cs : List Char}
    (hl : l.toList = c :: cs) : l ≠ "" := by
  rintro rfl
  cases hl

/-- Starting with a text means starting with its first character. -/
theorem head_of_startsWith {l : String} (pat : String) {c : Char} {cs : List Char}
    (hpat : pat.toList = c :: cs) (h : l.startsWith pat = true) : l.toList.head? = some c := by
  rw [String.startsWith_string_iff, hpat] at h
  obtain ⟨t, ht⟩ := h
  rw [← ht]
  rfl

/-- A comment starts with a blank or `#`. -/
theorem head_of_isComment {l : String} (h : isComment l = true) :
    ∃ c cs, l.toList = c :: cs ∧ (isBlank c || c == '#') = true := by
  cases hl : l.toList with
  | nil =>
    have hempty : trimStart l = "" := by
      rw [← String.toList_inj, trimStart, String.toList_ofList, hl]
      rfl
    rw [isComment, hempty] at h
    cases h
  | cons c cs =>
    refine ⟨c, cs, rfl, ?_⟩
    cases hc : isBlank c with
    | true => rfl
    | false =>
      rw [isComment, trimStart_of_head hl hc] at h
      have hhead := head_of_startsWith "#" (by simp : "#".toList = ['#']) h
      rw [hl, List.head?_cons, Option.some.injEq] at hhead
      simp [hhead]

end DocBlocks.Text

namespace DocBlocks.Source

open DocBlocks.Text DocBlocks.Yaml

/-- A line opens a document only if it starts with `-`. -/
theorem isDocumentStart_eq_false {l : String} (h : l.toList.head? ≠ some '-') :
    isDocumentStart l = false := by
  cases hs : isDocumentStart l with
  | false => rfl
  | true => exact absurd (head_of_startsWith "---" (by simp : "---".toList = ['-', '-', '-']) hs) h

/-- A line closes a document only if it starts with `.`. -/
theorem isDocumentEnd_eq_false {l : String} (h : l.toList.head? ≠ some '.') :
    isDocumentEnd l = false := by
  cases he : isDocumentEnd l with
  | false => rfl
  | true => exact absurd (head_of_startsWith "..." (by simp : "...".toList = ['.', '.', '.']) he) h

/-- A line starting with a blank, `#` or `-` declares no key. -/
theorem declaredKey_eq_none {l : String} {c : Char} {cs : List Char} (hl : l.toList = c :: cs)
    (hc : (isBlank c || c == '#' || c == '-') = true) : declaredKey l = none := by
  unfold declaredKey
  split
  · rfl
  · rename_i c' cs' hl'
    rw [hl, List.cons.injEq] at hl'
    obtain ⟨rfl, -⟩ := hl'
    rw [if_pos (by simp only [hc, Bool.true_or])]

/-- A line that starts with neither a blank nor `#`, the empty one included, is
no comment. -/
theorem isComment_eq_false {l : String}
    (h : ∀ c cs, l.toList = c :: cs → (isBlank c || c == '#') = false) : isComment l = false := by
  cases hcomment : isComment l with
  | false => rfl
  | true =>
    obtain ⟨c, cs, hl, hc⟩ := head_of_isComment hcomment
    rw [h c cs hl] at hc
    cases hc

theorem declaredKey_of_isComment {l : String} (h : isComment l = true) : declaredKey l = none := by
  obtain ⟨c, cs, hl, hc⟩ := head_of_isComment h
  exact declaredKey_eq_none hl (by simp [hc])

theorem declares_eq_false {key : Value} {l : String} (h : declaredKey l = none) :
    declares key l = false := by
  unfold declares
  rw [h]

/-- A line declaring a key starts with a character that is no blank, `#` or
`-`, and neither opens nor closes a document. -/
theorem head_of_declaredKey {l text : String} (h : declaredKey l = some text) :
    ∃ c cs, l.toList = c :: cs ∧ isBlank c = false ∧ c ≠ '#' ∧ c ≠ '-' ∧
      isDocumentStart l = false ∧ isDocumentEnd l = false := by
  unfold declaredKey at h
  split at h
  · cases h
  · rename_i c cs hl
    split at h
    · cases h
    · rename_i hnot
      simp only [Bool.or_eq_true, beq_iff_eq, not_or] at hnot
      obtain ⟨⟨⟨⟨⟨hblank, hhash⟩, hdash⟩, -⟩, hstart⟩, hend⟩ := hnot
      exact ⟨c, cs, hl, by simpa using hblank, hhash, hdash, by simpa [isDocumentStart] using hstart,
        by simpa [isDocumentEnd] using hend⟩

/-- A line declaring a key has content: trimmed, it is not empty, not a
document marker and not a comment. -/
theorem trim_of_declaredKey {l text : String} (h : declaredKey l = some text) :
    (trim l).isEmpty = false ∧ trim l ≠ "---" ∧ trim l ≠ "..." ∧ isComment (trim l) = false := by
  obtain ⟨c, cs, hl, hblank, hhash, hdash, -, hend⟩ := head_of_declaredKey h
  obtain ⟨ds, htrim, hprefix⟩ := trim_of_head hl hblank
  have hne : ∀ s : String, trim l = s → s.toList.head? = some c := fun s hs => by
    rw [← hs, htrim]
    rfl
  refine ⟨?_, fun hs => hdash ?_, fun hdots => ?_, ?_⟩
  · cases he : (trim l).isEmpty with
    | false => rfl
    | true =>
      have := hne "" (String.isEmpty_iff.mp he)
      cases this
  · have := hne "---" hs
    simpa using this.symm
  · -- a line trimmed to `...` starts with `...`
    have hstarts : isDocumentEnd l = true := by
      rw [isDocumentEnd, String.startsWith_string_iff, ← hdots, htrim]
      exact hprefix
    rw [hend] at hstarts
    cases hstarts
  · cases hc : isComment (trim l) with
    | false => rfl
    | true =>
      have := head_of_isComment hc
      rw [htrim] at this
      simp [hblank, hhash] at this

/-- A document text with a line that declares a key is not blank. -/
theorem isBlankDocument_eq_false {x l text : String} (hl : l ∈ lines x)
    (h : declaredKey l = some text) : isBlankDocument x = false := by
  obtain ⟨hempty, hdash, hdots, hcomment⟩ := trim_of_declaredKey h
  rw [isBlankDocument, List.all_eq_false]
  exact ⟨l, hl, by simp [hempty, hdash, hdots, hcomment]⟩

/-- Collected lines with a line that declares a key have content. -/
theorem hasContent_of_mem {ls : List String} {l text : String} (hl : l ∈ ls)
    (h : declaredKey l = some text) : hasContent ls = true := by
  obtain ⟨hempty, hdash, -, -⟩ := trim_of_declaredKey h
  rw [hasContent, List.any_eq_true]
  exact ⟨l, hl, by simp [hempty, hdash]⟩

/-! ### Cutting a text into documents -/

/-- Whether a line neither opens nor closes a document. -/
def inside (l : String) : Bool :=
  !isDocumentStart l && !isDocumentEnd l

/-- Lines inside a document are collected in order. -/
theorem splitLines_append {C : List String} (hC : ∀ l ∈ C, inside l = true)
    (rest current docs : List String) :
    splitLines (C ++ rest) current docs = splitLines rest (C.reverse ++ current) docs := by
  induction C generalizing current with
  | nil => rfl
  | cons l C ih =>
    have hl := hC l List.mem_cons_self
    simp only [inside, Bool.and_eq_true, Bool.not_eq_true'] at hl
    rw [List.cons_append, splitLines.eq_2, if_neg (by simp [hl.1]), if_neg (by simp [hl.2]),
      ih (fun m hm => hC m (List.mem_cons_of_mem l hm)), List.reverse_cons, List.append_assoc]
    rfl

/-- A line starting with neither `-` nor `.` is inside a document. -/
theorem inside_of_head {l : String} {c : Char} {cs : List Char} (hl : l.toList = c :: cs)
    (hdash : c ≠ '-') (hdot : c ≠ '.') : inside l = true := by
  rw [inside, isDocumentStart_eq_false (by simp [hl, hdash]),
    isDocumentEnd_eq_false (by simp [hl, hdot])]
  rfl

theorem inside_of_isComment {l : String} (h : isComment l = true) : inside l = true := by
  obtain ⟨c, cs, hl, hc⟩ := head_of_isComment h
  refine inside_of_head hl ?_ ?_ <;> rintro rfl <;> exact absurd hc (by decide)

theorem inside_empty : inside "" = true := by
  rw [inside, isDocumentStart_eq_false (by simp), isDocumentEnd_eq_false (by simp)]
  rfl

theorem isDocumentStart_marker : isDocumentStart "---" = true :=
  String.startsWith_string_iff.mpr (List.prefix_refl _)

/-- The texts a list of documents is cut into when written one after the
other with a blank line between two: every document but the last keeps the
line feed of its blank line, and the last has no final line feed. -/
def documentTexts : List (List String) → List String
  | [] => []
  | [L] => [joinLines L]
  | L :: L' :: more => unlines L :: documentTexts (L' :: more)

/-- Cutting documents, each a `---` line and then lines with content inside
it, written with a blank line between two, after lines collected so far. -/
theorem splitLines_documents : ∀ (Cs : List (List String)), Cs ≠ [] →
    (∀ C ∈ Cs, hasContent C = true ∧ ∀ l ∈ C, inside l = true) → ∀ current docs,
    splitLines (List.intercalate [""] (Cs.map ("---" :: ·))) current docs =
      (if hasContent current then joinLines current.reverse :: docs else docs).reverse ++
        documentTexts (Cs.map ("---" :: ·))
  | [], hne, _, _, _ => absurd rfl hne
  | [C], _, hC, current, docs => by
    have hcollect := splitLines_append (hC C List.mem_cons_self).2 [] ["---"]
      (if hasContent current then joinLines current.reverse :: docs else docs)
    rw [List.append_nil] at hcollect
    rw [List.map_cons, List.map_nil, List.intercalate_singleton, splitLines.eq_2,
      if_pos isDocumentStart_marker]
    dsimp only
    rw [hcollect, splitLines.eq_1, documentTexts, List.reverse_cons]
    simp
  | C :: C' :: more, _, hC, current, docs => by
    have hinside : ∀ l ∈ C ++ [""], inside l = true := by
      intro l hl
      rcases List.mem_append.mp hl with hl | hl
      · exact (hC C List.mem_cons_self).2 l hl
      · rw [List.mem_singleton.mp hl]
        exact inside_empty
    have hcontent : hasContent ((C ++ [""]).reverse ++ ["---"]) = true := by
      have := (hC C List.mem_cons_self).1
      simp only [hasContent, List.any_append, List.any_reverse] at this ⊢
      simp [this]
    have hrest := splitLines_documents (C' :: more) (by simp)
      (fun D hD => hC D (List.mem_cons_of_mem C hD))
    rw [List.map_cons, List.map_cons, List.intercalate_cons_cons, ← List.map_cons,
      List.cons_append, List.cons_append, splitLines.eq_2, if_pos isDocumentStart_marker]
    dsimp only
    have hfirst : ((C ++ [""]).reverse ++ ["---"]).reverse = ("---" :: C) ++ [""] := by simp
    rw [splitLines_append hinside, hrest, if_pos hcontent, hfirst, joinLines_append_singleton,
      String.append_empty, List.reverse_cons, List.append_assoc]
    simp only [List.map_cons, documentTexts]
    rfl

/-- **Cutting a text of documents.** A text whose lines are documents, each a
`---` line and then lines with content inside it, with an empty line between
two, is cut into the documents' texts: each but the last with the line feed
of the empty line after it, the last without its final line feed. -/
theorem splitDocuments_unlines {Cs : List (List String)} (hne : Cs ≠ [])
    (hC : ∀ C ∈ Cs, hasContent C = true ∧ ∀ l ∈ C, inside l = true)
    (hlines : ∀ l ∈ List.intercalate [""] (Cs.map ("---" :: ·)), IsLine l) :
    splitDocuments (unlines (List.intercalate [""] (Cs.map ("---" :: ·)))) =
      documentTexts (Cs.map ("---" :: ·)) := by
  rw [splitDocuments, lines_unlines hlines, splitLines_documents Cs hne hC]
  rfl

end DocBlocks.Source

import DocBlocks.Text.Blank

/-!
# Comment lines and comment blocks

A comment line is a line whose first character after leading blanks is `#`.
Its text is what follows the `#`, less one space right after it. The comment
block above a line is the run of comment lines directly above it, in text
order; a line of any other kind, a blank one included, ends the block.

The block is found by walking up from the line while lines are comments.
The last theorem below says what that walk gives: a stretch of the lines
that ends right above the line, holds comments only, and cannot be
lengthened upwards; it is empty exactly when the line right above is not a
comment, and every index past the end gives the block above the end.
-/

namespace DocBlocks.Text

/-- Whether a line is a comment line. -/
def isComment (line : String) : Bool :=
  (trimStart line).startsWith "#"

/-- The text of a comment line: after the `#`, less one space. Any other line
is its own text. -/
def uncomment (line : String) : String :=
  match (trimStart line).toList with
  | '#' :: ' ' :: rest => String.ofList rest
  | '#' :: rest => String.ofList rest
  | _ => line

/-- The comment lines directly above line `index` (counted from zero) of
`lines`, in order; an index past the end stands for the end. -/
def blockAbove (lines : List String) (index : Nat) : List String :=
  ((lines.take index).reverse.takeWhile isComment).reverse

/-- Taking the block above never yields a line that is not a comment. -/
theorem isComment_of_mem_blockAbove {lines : List String} {index : Nat} {l : String}
    (h : l ∈ blockAbove lines index) : isComment l = true := by
  simp only [blockAbove, List.mem_reverse] at h
  exact List.all_eq_true.mp List.all_takeWhile l h

/-- The longest prefix whose members pass a test is a prefix, and the member
after it fails the test. -/
theorem takeWhile_eq_take_stop {α : Type} (p : α → Bool) (ys : List α) :
    ∃ n, n ≤ ys.length ∧ ys.takeWhile p = ys.take n ∧
      ∀ (h : n < ys.length), p ys[n] = false := by
  induction ys with
  | nil => exact ⟨0, Nat.le_refl _, rfl, fun h => absurd h (by simp)⟩
  | cons y ys ih =>
    obtain ⟨n, hn, heq, hstop⟩ := ih
    cases hy : p y with
    | true =>
      refine ⟨n + 1, by simp only [List.length_cons]; omega, by simp [hy, heq], ?_⟩
      intro h
      simpa using hstop (by simp at h; omega)
    | false => exact ⟨0, by simp, by simp [hy], fun _ => by simpa using hy⟩

/-- The longest suffix whose members pass a test is a suffix, and the member
before it fails the test. -/
theorem reverse_takeWhile_reverse {α : Type} (p : α → Bool) (xs : List α) :
    ∃ j, j ≤ xs.length ∧ (xs.reverse.takeWhile p).reverse = xs.drop j ∧
      ∀ k (hk : k < xs.length), k + 1 = j → p xs[k] = false := by
  obtain ⟨n, hn, heq, hstop⟩ := takeWhile_eq_take_stop p xs.reverse
  simp only [List.length_reverse] at hn hstop
  refine ⟨xs.length - n, by omega, by rw [heq, List.take_reverse, List.reverse_reverse], ?_⟩
  intro k hk hkj
  have h := hstop (by omega)
  rw [List.getElem_reverse] at h
  have hk' : xs.length - 1 - n = k := by omega
  simpa [hk'] using h

/-- The block above line `index` is the stretch of lines from some `j` up to
the line (or the end), all comments, with no comment right before it. -/
theorem blockAbove_eq_drop_take (lines : List String) (index : Nat) :
    ∃ j, j ≤ min index lines.length ∧
      blockAbove lines index = (lines.take (min index lines.length)).drop j ∧
      (∀ l ∈ blockAbove lines index, isComment l = true) ∧
      (∀ k (hk : k < lines.length), k + 1 = j → isComment lines[k] = false) ∧
      (blockAbove lines index = [] ↔
        ∀ k (hk : k < lines.length), k + 1 = min index lines.length → isComment lines[k] = false) ∧
      ∀ i, lines.length ≤ i → blockAbove lines i = blockAbove lines lines.length := by
  have htake : lines.take (min index lines.length) = lines.take index := by
    simp
  obtain ⟨j, hj, heq, hstop⟩ := reverse_takeWhile_reverse isComment (lines.take index)
  have hlen : (lines.take index).length = min index lines.length := by simp
  have hall : ∀ l ∈ blockAbove lines index, isComment l = true :=
    fun l hl => isComment_of_mem_blockAbove hl
  have hblock : blockAbove lines index = (lines.take index).drop j := heq
  refine ⟨j, by omega, by rw [htake, hblock], hall, ?_, ⟨?_, ?_⟩, ?_⟩
  · intro k hk hkj
    have hk' : k < (lines.take index).length := by omega
    have := hstop k hk' hkj
    simpa using this
  · intro hnil k hk hke
    have hk' : k < (lines.take index).length := by omega
    rw [hblock, List.drop_eq_nil_iff] at hnil
    have := hstop k hk' (by omega)
    simpa using this
  · intro hend
    rw [hblock, List.drop_eq_nil_iff]
    refine Decidable.byContradiction fun hlt => ?_
    have hlt : j < min index lines.length := by omega
    have hk : min index lines.length - 1 < lines.length := by omega
    have hmem : lines[min index lines.length - 1] ∈ blockAbove lines index := by
      rw [hblock, List.mem_iff_getElem]
      refine ⟨min index lines.length - 1 - j,
        by simp only [List.length_drop, List.length_take]; omega, ?_⟩
      simp only [List.getElem_drop, List.getElem_take]
      congr 1
      omega
    have := hend _ hk (by omega)
    rw [hall _ hmem] at this
    exact Bool.noConfusion this
  · intro i hi
    simp [blockAbove, List.take_of_length_le hi]

end DocBlocks.Text

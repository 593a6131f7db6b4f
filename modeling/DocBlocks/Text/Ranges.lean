/-!
# Sets of code points as lists of ranges

A Unicode class is kept as a list of inclusive code point ranges, ascending and
disjoint, as the Unicode Character Database lists its properties. Membership
walks the list and stops at the first range that starts past the code point.
-/

namespace DocBlocks.Text

/-- Whether `n` lies in one of the ranges, given in ascending order. -/
def inRanges (n : Nat) : List (Nat × Nat) → Bool
  | [] => false
  | (lo, hi) :: rest => if n < lo then false else n ≤ hi || inRanges n rest

/-- A code point that is found lies in one of the ranges. -/
theorem exists_mem_of_inRanges {n : Nat} :
    ∀ {rs : List (Nat × Nat)}, inRanges n rs = true → ∃ r ∈ rs, r.1 ≤ n ∧ n ≤ r.2
  | [], h => absurd h (by simp [inRanges])
  | (lo, hi) :: rest, h => by
    simp only [inRanges] at h
    by_cases hlt : n < lo
    · simp [hlt] at h
    · simp only [hlt, if_false, Bool.or_eq_true, decide_eq_true_eq] at h
      rcases h with hle | hrest
      · exact ⟨(lo, hi), List.mem_cons_self, Nat.le_of_not_lt hlt, hle⟩
      · obtain ⟨r, hr, hr1, hr2⟩ := exists_mem_of_inRanges hrest
        exact ⟨r, List.mem_cons_of_mem _ hr, hr1, hr2⟩

end DocBlocks.Text

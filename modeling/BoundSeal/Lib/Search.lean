import Mathlib

/-!
# The first occurrence of a pattern

Where a pattern first occurs in a list, and what becomes of the answer when the
list grows at its end: an occurrence that was found stays the first, and one that
appears only now reaches into the new part.
-/

namespace BoundSeal.Lib

variable {α : Type} [BEq α] [LawfulBEq α]

/-- The position of the first occurrence. -/
def firstOccurrence {α : Type} [BEq α] (pattern : List α) : List α → Option ℕ
  | [] => if pattern.isEmpty then some 0 else none
  | a :: l => if pattern.isPrefixOf (a :: l) then some 0 else (firstOccurrence pattern l).map (· + 1)

section

variable {pattern l : List α} {i : ℕ} (h : firstOccurrence pattern l = some i)

include h

theorem firstOccurrence_eq_some : i + pattern.length ≤ l.length := by
  induction l generalizing i with
  | nil =>
    unfold firstOccurrence at h
    split_ifs at h with hempty
    cases h
    simp [List.isEmpty_iff.mp hempty]
  | cons a l ih =>
    unfold firstOccurrence at h
    split_ifs at h with hprefix
    · cases h
      have hlength := (List.isPrefixOf_iff_prefix.mp hprefix).length_le
      omega
    · obtain ⟨j, hj, rfl⟩ := Option.map_eq_some_iff.mp h
      have hle := ih hj
      rw [List.length_cons]
      omega

/-- What was found is found in the longer list. -/
theorem firstOccurrence_append (e : List α) : firstOccurrence pattern (l ++ e) = some i := by
  induction l generalizing i with
  | nil =>
    unfold firstOccurrence at h
    split_ifs at h with hempty
    cases h
    rw [List.isEmpty_iff.mp hempty]
    cases e <;> rfl
  | cons a l ih =>
    unfold firstOccurrence at h
    rw [List.cons_append, firstOccurrence]
    by_cases hprefix : pattern.isPrefixOf (a :: l) = true
    · rw [if_pos hprefix] at h
      have hlong : pattern <+: a :: (l ++ e) :=
        (List.isPrefixOf_iff_prefix.mp hprefix).trans (List.prefix_append (a :: l) e)
      rw [if_pos (List.isPrefixOf_iff_prefix.mpr hlong)]
      exact h
    · rw [if_neg hprefix] at h
      obtain ⟨j, hj, rfl⟩ := Option.map_eq_some_iff.mp h
      -- an occurrence at the front of the longer list alone would end behind `l`
      have hnot : ¬ pattern.isPrefixOf (a :: (l ++ e)) = true := by
        intro hlong
        have hfits := firstOccurrence_eq_some hj
        refine hprefix (List.isPrefixOf_iff_prefix.mpr ?_)
        refine List.prefix_of_prefix_length_le (List.isPrefixOf_iff_prefix.mp hlong)
          (List.prefix_append (a :: l) e) ?_
        rw [List.length_cons]
        omega
      rw [if_neg hnot, ih hj]
      rfl

end

/-- What is found only in the longer list ends in its new part. -/
theorem length_lt_of_firstOccurrence_append {pattern l e : List α} {i : ℕ}
    (hnone : firstOccurrence pattern l = none) (h : firstOccurrence pattern (l ++ e) = some i) :
    l.length < i + pattern.length := by
  induction l generalizing i with
  | nil =>
    unfold firstOccurrence at hnone
    split_ifs at hnone with hempty
    cases pattern with
    | nil => exact absurd rfl hempty
    | cons b pattern => simp
  | cons a l ih =>
    unfold firstOccurrence at hnone
    split_ifs at hnone with hprefix
    rw [List.cons_append, firstOccurrence] at h
    split_ifs at h with hlong
    · cases h
      by_contra hshort
      refine hprefix (List.isPrefixOf_iff_prefix.mpr ?_)
      exact List.prefix_of_prefix_length_le (List.isPrefixOf_iff_prefix.mp hlong)
        (List.prefix_append (a :: l) e) (by omega)
    · obtain ⟨j, hj, rfl⟩ := Option.map_eq_some_iff.mp h
      have hlt := ih (Option.map_eq_none_iff.mp hnone) hj
      rw [List.length_cons]
      omega

end BoundSeal.Lib

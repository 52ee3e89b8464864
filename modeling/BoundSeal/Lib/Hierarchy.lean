import Mathlib

/-!
# Names under a name

In a hierarchy of dotted names, written with the most significant part last, a
name stands *under* another when it is that name or ends in a separator followed
by it. The relation is a preorder on lists over any alphabet; `isUnder_iff` is
the test by length, suffix and the character before the suffix.
-/

namespace BoundSeal.Lib

variable {α : Type} {sep : α} {a b c : List α}

/-- `b` is `a`, or a longer name that ends in `sep :: a`. -/
def IsUnder (sep : α) (a b : List α) : Prop := b = a ∨ sep :: a <:+ b

theorem IsUnder.trans (hab : IsUnder sep a b) (hbc : IsUnder sep b c) : IsUnder sep a c := by
  rcases hbc with rfl | hbc
  · exact hab
  · rcases hab with rfl | hab
    · exact .inr hbc
    · exact .inr ((hab.trans (List.suffix_cons sep b)).trans hbc)

/-- A proper suffix behind a separator, tested by position. -/
theorem cons_suffix_iff : sep :: a <:+ b ↔
    a.length < b.length ∧ a <:+ b ∧ b[b.length - a.length - 1]? = some sep := by
  constructor
  · rintro ⟨p, rfl⟩
    refine ⟨by simp; omega, ⟨p ++ [sep], by simp⟩, ?_⟩
    rw [show (p ++ sep :: a).length - a.length - 1 = p.length by simp; omega]
    simp
  · rintro ⟨hlt, ⟨p, rfl⟩, hsep⟩
    -- the part before the suffix is not empty, and its last element is the separator
    have hp : 0 < p.length := by simpa using hlt
    rw [List.length_append, Nat.add_sub_cancel,
      List.getElem?_append_left (Nat.sub_lt hp Nat.one_pos), ← List.getLast?_eq_getElem?] at hsep
    obtain ⟨q, rfl⟩ := List.getLast?_eq_some_iff.mp hsep
    exact ⟨q, by simp⟩

/-- The relation as a program tests it. -/
theorem isUnder_iff : IsUnder sep a b ↔
    b = a ∨ (a.length < b.length ∧ a <:+ b ∧ b[b.length - a.length - 1]? = some sep) := by
  rw [IsUnder, cons_suffix_iff]

end BoundSeal.Lib

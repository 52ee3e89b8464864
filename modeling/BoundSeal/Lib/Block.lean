import Mathlib

/-!
# Blocks of words with a common leading part

The words of `w` bits that agree with `network` in their first `length` bits form
a *block*. A program tests membership by masking both words and comparing;
arithmetically the block is an interval of numbers with one quotient by
`2 ^ (w - length)`, which is the form linear arithmetic decides.
-/

namespace BoundSeal.Lib

variable {w : ℕ}

/-- `x` and `network` agree in their first `length` bits. -/
def InBlock (network : BitVec w) (length : ℕ) (x : BitVec w) : Prop :=
  x.toNat / 2 ^ (w - length) = network.toNat / 2 ^ (w - length)

instance (network : BitVec w) (length : ℕ) (x : BitVec w) : Decidable (InBlock network length x) :=
  inferInstanceAs (Decidable (_ = _))

/-- Masking off the low `k` bits compares the quotients by `2 ^ k`. -/
theorem and_mask_eq_iff (x y : BitVec w) (k : ℕ) :
    x &&& (BitVec.allOnes w <<< k) = y &&& (BitVec.allOnes w <<< k) ↔
      x.toNat / 2 ^ k = y.toNat / 2 ^ k := by
  have hshift : x >>> k = y >>> k ↔ x.toNat / 2 ^ k = y.toNat / 2 ^ k := by
    rw [← BitVec.toNat_inj, BitVec.toNat_ushiftRight, BitVec.toNat_ushiftRight,
      Nat.shiftRight_eq_div_pow, Nat.shiftRight_eq_div_pow]
  rw [← hshift]
  constructor
  · intro h
    apply BitVec.eq_of_getLsbD_eq
    intro i hi
    have hbit := congrArg (fun b => b.getLsbD (k + i)) h
    rw [BitVec.getLsbD_ushiftRight, BitVec.getLsbD_ushiftRight]
    by_cases hki : k + i < w
    · have hiw : i < w := by omega
      simpa [hki, hiw] using hbit
    · rw [BitVec.getLsbD_of_ge x _ (by omega), BitVec.getLsbD_of_ge y _ (by omega)]
  · intro h
    apply BitVec.eq_of_getLsbD_eq
    intro i hi
    simp only [BitVec.getLsbD_and, BitVec.getLsbD_shiftLeft, BitVec.getLsbD_allOnes]
    by_cases hik : i < k
    · simp [hik]
    · have hbit := congrArg (fun b => b.getLsbD (i - k)) h
      simp only [BitVec.getLsbD_ushiftRight, Nat.add_sub_cancel' (not_lt.mp hik)] at hbit
      rw [hbit]

/-- The mask test of a program decides the block. -/
theorem and_mask_eq_iff_inBlock (network x : BitVec w) (length : ℕ) :
    x &&& (BitVec.allOnes w <<< (w - length)) = network &&& (BitVec.allOnes w <<< (w - length)) ↔
      InBlock network length x :=
  and_mask_eq_iff x network (w - length)

end BoundSeal.Lib

import Mathlib

/-!
# The order of `f64`

Rust's `f64` and Lean's `Float` are both binary64. Their order is not total: a
comparison with NaN is false. On the other values it is the order of a
lexicographic key (class, exponent, significand), from which the few facts a
program's guards rely on follow.
-/

namespace BoundSeal.Rust

open Float.Model

/-- The position of a value that is not NaN in the order of binary64. -/
def orderKey : UnpackedFloat → ℤ ×ₗ ℤ ×ₗ ℤ
  | .infinity .negative => toLex (-2, toLex (0, 0))
  | .finite .negative m e _ => toLex (-1, toLex (-e, -(m : ℤ)))
  | .zero _ => toLex (0, toLex (0, 0))
  | .notANumber => toLex (0, toLex (0, 0))
  | .finite .positive m e _ => toLex (1, toLex (e, (m : ℤ)))
  | .infinity .positive => toLex (2, toLex (0, 0))

/-- The value is not NaN. -/
def isNumber : UnpackedFloat → Bool
  | .notANumber => false
  | _ => true

section

variable (e₁ e₂ : ℤ) (m₁ m₂ : ℕ)

theorem magnitude_isLE_iff :
    ((compare e₁ e₂).then (compare m₁ m₂)).isLE = true ↔ e₁ < e₂ ∨ e₁ = e₂ ∧ m₁ ≤ m₂ := by
  rcases lt_trichotomy e₁ e₂ with h | h | h
  · simp [compare_lt_iff_lt.mpr h, h]
  · simp [h, Nat.isLE_compare]
  · simp [compare_gt_iff_gt.mpr h, h.not_gt, h.ne']

theorem magnitude_isGE_iff :
    ((compare e₁ e₂).then (compare m₁ m₂)).isGE = true ↔ e₂ < e₁ ∨ e₁ = e₂ ∧ m₂ ≤ m₁ := by
  rcases lt_trichotomy e₁ e₂ with h | h | h
  · simp [compare_lt_iff_lt.mpr h, h.not_gt, h.ne]
  · simp [h, Nat.isGE_compare]
  · simp [compare_gt_iff_gt.mpr h, h]

theorem magnitude_eq_lt_iff :
    (compare e₁ e₂).then (compare m₁ m₂) = .lt ↔ e₁ < e₂ ∨ e₁ = e₂ ∧ m₁ < m₂ := by
  rcases lt_trichotomy e₁ e₂ with h | h | h
  · simp [compare_lt_iff_lt.mpr h, h]
  · simp [h, compare_lt_iff_lt]
  · simp [compare_gt_iff_gt.mpr h, h.not_gt, h.ne']

theorem magnitude_eq_gt_iff :
    (compare e₁ e₂).then (compare m₁ m₂) = .gt ↔ e₂ < e₁ ∨ e₁ = e₂ ∧ m₂ < m₁ := by
  rcases lt_trichotomy e₁ e₂ with h | h | h
  · simp [compare_lt_iff_lt.mpr h, h.not_gt, h.ne]
  · simp [h, compare_gt_iff_gt]
  · simp [compare_gt_iff_gt.mpr h, h]

end

theorem le_iff_orderKey (a b : UnpackedFloat) :
    a.le b = true ↔ isNumber a = true ∧ isNumber b = true ∧ orderKey a ≤ orderKey b := by
  rcases a with (_ | _) | _ | _ | ⟨(_ | _), m, e, hm⟩ <;>
    rcases b with (_ | _) | _ | _ | ⟨(_ | _), m', e', hm'⟩ <;>
    simp [UnpackedFloat.le, UnpackedFloat.compare, isNumber, orderKey, Prod.Lex.toLex_le_toLex,
      magnitude_isLE_iff, magnitude_isGE_iff] <;> rfl

theorem lt_iff_orderKey (a b : UnpackedFloat) :
    a.lt b = true ↔ isNumber a = true ∧ isNumber b = true ∧ orderKey a < orderKey b := by
  rcases a with (_ | _) | _ | _ | ⟨(_ | _), m, e, hm⟩ <;>
    rcases b with (_ | _) | _ | _ | ⟨(_ | _), m', e', hm'⟩ <;>
    simp [UnpackedFloat.lt, UnpackedFloat.compare, isNumber, orderKey, Prod.Lex.toLex_lt_toLex,
      magnitude_eq_lt_iff, magnitude_eq_gt_iff]
  rfl

theorem isNumber_of_isFinite {a : UnpackedFloat} (h : a.isFinite = true) : isNumber a = true := by
  cases a with
  | notANumber => cases h
  | _ => rfl

theorem float_le_iff (a b : Float) : a ≤ b ↔ a.toModel.unpack.le b.toModel.unpack = true := by
  show Float.le a b = true ↔ _
  rw [Float.le, decide_eq_true_iff]
  rfl

theorem float_lt_iff (a b : Float) : a < b ↔ a.toModel.unpack.lt b.toModel.unpack = true := by
  show Float.lt a b = true ↔ _
  rw [Float.lt, decide_eq_true_iff]
  rfl

/-- A finite value is at most itself. -/
theorem float_le_refl {a : Float} (h : a.isFinite = true) : a ≤ a := by
  rw [float_le_iff, le_iff_orderKey]
  exact ⟨isNumber_of_isFinite h, isNumber_of_isFinite h, le_rfl⟩

/-- The order is transitive. -/
theorem float_le_trans {a b c : Float} (hab : a ≤ b) (hbc : b ≤ c) : a ≤ c := by
  rw [float_le_iff, le_iff_orderKey] at *
  exact ⟨hab.1, hbc.2.1, hab.2.2.trans hbc.2.2⟩

/-- For finite values, a failed `b < a` is `a ≤ b`. -/
theorem float_le_of_not_lt {a b : Float} (ha : a.isFinite = true) (hb : b.isFinite = true)
    (h : ¬ b < a) : a ≤ b := by
  rw [float_lt_iff, lt_iff_orderKey] at h
  rw [float_le_iff, le_iff_orderKey]
  refine ⟨isNumber_of_isFinite ha, isNumber_of_isFinite hb, not_lt.mp fun hlt => h ?_⟩
  exact ⟨isNumber_of_isFinite hb, isNumber_of_isFinite ha, hlt⟩

end BoundSeal.Rust

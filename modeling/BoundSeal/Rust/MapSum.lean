import BoundSeal.Rust.Collections
import BoundSeal.Rust.Time

/-!
# Sums over the values of a map, and saturating arithmetic

A saturating counter holds its exact total cut off at the top.
-/

namespace BoundSeal.Rust

open Std

/-! ## Sums -/

section

variable {κ ν : Type} {M : Type} [Ord κ] [TransOrd κ] [AddCommMonoid M]

/-- The sum of a weight over `map.values()`. -/
def sumValues (w : ν → M) (m : BTreeMap κ ν) : M := (m.toList.map fun e => w e.2).sum

@[simp] theorem sumValues_empty (w : ν → M) : sumValues w (∅ : BTreeMap κ ν) = 0 := rfl

theorem sumValues_one (m : BTreeMap κ ν) : sumValues (fun _ => 1) m = m.size := by
  rw [sumValues, ← ExtTreeMap.length_toList]
  simp

variable [LawfulEqOrd κ]

theorem nodup_toList (m : BTreeMap κ ν) : m.toList.Nodup := (nodup_keys_toList m).of_map

variable {m : BTreeMap κ ν} {k : κ}

/-- The entries of a map after a new one. -/
theorem toList_insert_perm (v : ν) (h : m[k]? = none) : (m.insert k v).toList.Perm ((k, v) :: m.toList) := by
  have hfresh : (k, v) ∉ m.toList := by
    rw [ExtTreeMap.mem_toList_iff_getElem?_eq_some, h]
    exact fun hc => nomatch hc
  refine (List.perm_ext_iff_of_nodup (nodup_toList _) (List.nodup_cons.mpr ⟨hfresh, nodup_toList m⟩)).mpr ?_
  rintro ⟨a, w⟩
  rw [List.mem_cons, ExtTreeMap.mem_toList_iff_getElem?_eq_some, ExtTreeMap.mem_toList_iff_getElem?_eq_some]
  by_cases hka : k = a
  · subst hka
    rw [getElem?_insert_self, h]
    simp [eq_comm]
  · rw [getElem?_insert_of_ne m v hka]
    simp [Ne.symm hka]

theorem sumValues_insert_new (w : ν → M) (v : ν) (h : m[k]? = none) :
    sumValues w (m.insert k v) = w v + sumValues w m := by
  rw [sumValues, ((toList_insert_perm v h).map _).sum_eq, List.map_cons, List.sum_cons, sumValues]

variable {v : ν}

theorem insert_erase_of_getElem? (h : m[k]? = some v) : (m.erase k).insert k v = m := by
  refine ExtTreeMap.ext_getElem? fun a => ?_
  rw [ExtTreeMap.getElem?_insert, ExtTreeMap.getElem?_erase]
  split
  · next hc => rw [← LawfulEqOrd.eq_of_compare hc, h]
  · rfl

theorem insert_erase_eq_insert (m : BTreeMap κ ν) (k : κ) (v : ν) : (m.erase k).insert k v = m.insert k v := by
  refine ExtTreeMap.ext_getElem? fun a => ?_
  rw [ExtTreeMap.getElem?_insert, ExtTreeMap.getElem?_erase, ExtTreeMap.getElem?_insert]
  split <;> rfl

theorem sumValues_erase (w : ν → M) (h : m[k]? = some v) :
    w v + sumValues w (m.erase k) = sumValues w m := by
  rw [← sumValues_insert_new w v (getElem?_erase_self m k), insert_erase_of_getElem? h]

theorem sumValues_insert_replace (w : ν → M) {old : ν} (v : ν) (h : m[k]? = some old) :
    w old + sumValues w (m.insert k v) = w v + sumValues w m := by
  rw [← insert_erase_eq_insert, sumValues_insert_new w v (getElem?_erase_self m k),
    ← sumValues_erase w h, add_left_comm]

theorem eq_sumValues_insert {G : Type} [AddCancelCommMonoid G] {f : ν → G} {old v : ν}
    {total total' : G} (htotal : total = sumValues f m) (hk : m[k]? = some old)
    (hchange : total' + f old = total + f v) : total' = sumValues f (m.insert k v) := by
  refine add_right_cancel (b := f old) ?_
  rw [hchange, htotal, add_comm, ← sumValues_insert_replace f v hk, add_comm]

theorem size_insert_new (v : ν) (h : m[k]? = none) : (m.insert k v).size = m.size + 1 := by
  rw [← sumValues_one, ← sumValues_one, sumValues_insert_new _ v h, Nat.add_comm]

theorem size_erase_of_getElem? (h : m[k]? = some v) : (m.erase k).size + 1 = m.size := by
  rw [← sumValues_one, ← sumValues_one, ← sumValues_erase _ h, Nat.add_comm]

omit [LawfulEqOrd κ] in
theorem size_insert_new_set {s : BTreeSet κ} (h : k ∉ s) : (s.insert k).size = s.size + 1 := by
  rw [ExtTreeSet.size_insert, if_neg]
  rwa [← ExtTreeSet.mem_iff_contains]

theorem sumValues_congr {w w' : ν → M} (h : ∀ (k : κ) v, m[k]? = some v → w v = w' v) :
    sumValues w m = sumValues w' m := by
  refine congrArg List.sum (List.map_congr_left ?_)
  rintro ⟨k, v⟩ hmem
  exact h k v (ExtTreeMap.mem_toList_iff_getElem?_eq_some.mp hmem)

theorem sumValues_eq_zero {w : ν → M} (h : ∀ (k : κ) v, m[k]? = some v → w v = 0) : sumValues w m = 0 := by
  rw [sumValues_congr h]
  simp [sumValues]

theorem sumValues_le_mul {w : ν → ℕ} {b : ℕ} (h : ∀ (k : κ) v, m[k]? = some v → w v ≤ b) :
    sumValues w m ≤ m.size * b := by
  have hle := List.sum_le_card_nsmul (m.toList.map fun e => w e.2) b fun x hx => by
    obtain ⟨⟨k, v⟩, hmem, rfl⟩ := List.mem_map.mp hx
    exact h k v (ExtTreeMap.mem_toList_iff_getElem?_eq_some.mp hmem)
  rwa [List.length_map, ExtTreeMap.length_toList, smul_eq_mul] at hle

theorem le_sumValues [PartialOrder M] [CanonicallyOrderedAdd M] (w : ν → M) (h : m[k]? = some v) :
    w v ≤ sumValues w m := by
  rw [← sumValues_erase w h]
  exact le_self_add

/-- One or nothing. -/
def here (p : Prop) [Decidable p] : ℕ := if p then 1 else 0

omit [Ord κ] [TransOrd κ] [LawfulEqOrd κ] in
theorem here_of {p : Prop} [Decidable p] (h : p) : here p = 1 := if_pos h

omit [Ord κ] [TransOrd κ] [LawfulEqOrd κ] in
theorem here_of_not {p : Prop} [Decidable p] (h : ¬ p) : here p = 0 := if_neg h

omit [Ord κ] [TransOrd κ] [LawfulEqOrd κ] in
theorem here_le_one (p : Prop) [Decidable p] : here p ≤ 1 := by
  unfold here
  split <;> omega

omit [Ord κ] [TransOrd κ] [LawfulEqOrd κ] in
theorem not_of_here_eq_zero {p : Prop} [Decidable p] (h : here p = 0) : ¬ p := by
  intro hp
  rw [here_of hp] at h
  cases h

variable [DecidableEq κ]

theorem here_mem_insert_new (v : ν) (h : m[k]? = none) (a : κ) :
    here (a ∈ m.insert k v) = here (a ∈ m) + here (k = a) := by
  have hk : k ∉ m := fun hmem => by simp [ExtTreeMap.mem_iff_isSome_getElem?, h] at hmem
  by_cases hka : k = a
  · subst hka
    rw [here_of (ExtTreeMap.mem_insert_self), here_of_not hk, here_of rfl]
  · rw [here_of_not hka, here, here]
    refine if_congr ?_ rfl rfl
    rw [ExtTreeMap.mem_insert, LawfulEqOrd.compare_eq_iff_eq, or_iff_right hka]

theorem here_mem_erase (h : m[k]? = some v) (a : κ) :
    here (a ∈ m) = here (a ∈ m.erase k) + here (k = a) := by
  rw [← here_mem_insert_new v (getElem?_erase_self m k), insert_erase_of_getElem? h]

theorem here_mem_insert_new_set {s : BTreeSet κ} (h : k ∉ s) (a : κ) :
    here (a ∈ s.insert k) = here (a ∈ s) + here (k = a) := by
  by_cases hka : k = a
  · subst hka
    rw [here_of ExtTreeSet.mem_insert_self, here_of_not h, here_of rfl]
  · rw [here_of_not hka, here, here]
    refine if_congr ?_ rfl rfl
    rw [ExtTreeSet.mem_insert, LawfulEqOrd.compare_eq_iff_eq, or_iff_right hka]

end

/-! ## Saturating arithmetic -/

/-- `u128::MAX`. -/
def u128Max : ℕ := 2 ^ 128 - 1

/-- `u64::saturating_mul`. -/
def saturatingMul (a b : ℕ) : ℕ := min (a * b) u64Max

/-- `u128::saturating_mul`. -/
def saturatingMulU128 (a b : ℕ) : ℕ := min (a * b) u128Max

theorem saturatingAdd_eq_add {a b : ℕ} (h : a + b ≤ u64Max) : saturatingAdd a b = a + b := min_eq_left h

theorem foldl_saturatingAdd {α : Type} (w : α → ℕ) {l : List α} {start : ℕ} (h : start + (l.map w).sum ≤ u64Max) :
    l.foldl (fun sum a => saturatingAdd sum (w a)) start = start + (l.map w).sum := by
  induction l generalizing start with
  | nil => simp
  | cons a l ih =>
    rw [List.map_cons, List.sum_cons] at h ⊢
    rw [List.foldl_cons, saturatingAdd_eq_add (by omega), ih (by omega), Nat.add_assoc]

theorem saturatingAdd_min (a b : ℕ) : saturatingAdd (min a u64Max) b = min (a + b) u64Max := by
  unfold saturatingAdd
  omega

end BoundSeal.Rust

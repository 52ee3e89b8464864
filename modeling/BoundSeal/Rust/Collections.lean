import Mathlib

/-!
# Rust collections: `BTreeMap` and `BTreeSet`

The ordered map and set of Rust's standard library are the ordered extensional
map and set of Lean's: equal exactly when they hold the same entries, iterated
in key order. What the standard library of Lean does not have is how many
*values* of a map satisfy a predicate (`countValues`, Rust's
`map.values().filter(p).count()`) and how the map's updates move that number.
-/

namespace BoundSeal.Rust

open Std

/-- Rust's `BTreeMap`. -/
abbrev BTreeMap (κ ν : Type) [Ord κ] := ExtTreeMap κ ν compare

/-- Rust's `BTreeSet`. -/
abbrev BTreeSet (κ : Type) [Ord κ] := ExtTreeSet κ compare

instance instLawfulEqOrdLex {α β : Type} [Ord α] [Ord β] [LawfulEqOrd α] [LawfulEqOrd β] :
    LawfulEqOrd (Lex (α × β)) where
  compare_self {a} := by
    show compareLex _ _ a a = .eq
    exact compareLex_eq_eq.mpr ⟨ReflOrd.compare_self, ReflOrd.compare_self⟩
  eq_of_compare {a b} h := by
    obtain ⟨h₁, h₂⟩ := compareLex_eq_eq.mp (show compareLex _ _ a b = .eq from h)
    exact Prod.ext (LawfulEqOrd.eq_of_compare h₁) (LawfulEqOrd.eq_of_compare h₂)

variable {κ ν μ : Type} [Ord κ] [TransOrd κ]

/-- `map.values().filter(p).count()`. -/
def countValues (p : ν → Bool) (m : BTreeMap κ ν) : ℕ := m.toList.countP fun e => p e.2

theorem countValues_eq_size_filter (p : ν → Bool) (m : BTreeMap κ ν) :
    countValues p m = (m.filter fun _ v => p v).size := by
  rw [countValues, ← ExtTreeMap.length_toList, ExtTreeMap.toList_filter, List.countP_eq_length_filter]

@[simp] theorem countValues_empty (p : ν → Bool) : countValues p (∅ : BTreeMap κ ν) = 0 := by
  simp [countValues]

/-- Every value rewritten (`values_mut`). -/
theorem countValues_map (p : μ → Bool) (f : ν → μ) (m : BTreeMap κ ν) :
    countValues p (m.map fun _ v => f v) = countValues (fun v => p (f v)) m := by
  rw [countValues, ExtTreeMap.toList_map, List.countP_map]
  rfl

/-- A count is the sum over a case distinction. -/
theorem countValues_split (p q : ν → Bool) (m : BTreeMap κ ν) :
    countValues p m = countValues (fun v => p v && q v) m + countValues (fun v => p v && !q v) m := by
  simp only [countValues]
  induction m.toList with
  | nil => rfl
  | cons e l ih =>
    simp only [List.countP_cons, ih]
    cases p e.2 <;> cases q e.2 <;> simp <;> omega

/-- `map.values()`, in the order of the keys. -/
def values (m : BTreeMap κ ν) : List ν := m.toList.map (·.2)

variable {m : BTreeMap κ ν} {k : κ}

theorem mem_of_getElem? {v : ν} (h : m[k]? = some v) : k ∈ m := by
  rw [ExtTreeMap.mem_iff_isSome_getElem?, h]
  rfl

theorem exists_getElem?_of_mem (h : k ∈ m) : ∃ v, m[k]? = some v :=
  Option.isSome_iff_exists.mp (ExtTreeMap.mem_iff_isSome_getElem?.mp h)

variable [LawfulEqOrd κ]

theorem mem_values {v : ν} : v ∈ values m ↔ ∃ k : κ, m[k]? = some v := by
  simp only [values, List.mem_map, Prod.exists, exists_eq_right, ExtTreeMap.mem_toList_iff_getElem?_eq_some]

theorem nodup_keys_toList (m : BTreeMap κ ν) : (m.toList.map (·.1)).Nodup := by
  refine List.pairwise_map.mpr (m.distinct_keys_toList.imp ?_)
  intro a b hne heq
  exact hne (by rw [heq]; exact ReflOrd.compare_self)

/-- Two maps with the same chosen keys have equally many chosen entries. -/
theorem countP_toList_congr {m' : BTreeMap κ μ} {p : κ × ν → Bool} {q : κ × μ → Bool}
    (h : ∀ k : κ, (∃ v, m[k]? = some v ∧ p (k, v) = true) ↔ ∃ w, m'[k]? = some w ∧
    q (k, w) = true) : m.toList.countP p = m'.toList.countP q := by
  have hkeys : ∀ {ξ : Type} (n : BTreeMap κ ξ) (r : κ × ξ → Bool) (k : κ),
      k ∈ (n.toList.filter r).map (·.1) ↔ ∃ v, n[k]? = some v ∧ r (k, v) = true := by
    intro ξ n r k
    simp [ExtTreeMap.mem_toList_iff_getElem?_eq_some]
  have hnodup : ∀ {ξ : Type} (n : BTreeMap κ ξ) (r : κ × ξ → Bool), ((n.toList.filter r).map (·.1)).Nodup :=
    fun n r => (nodup_keys_toList n).sublist (List.filter_sublist.map _)
  have hperm : ((m.toList.filter p).map (·.1)).Perm ((m'.toList.filter q).map (·.1)) := by
    refine (List.perm_ext_iff_of_nodup (hnodup m p) (hnodup m' q)).mpr fun k => ?_
    rw [hkeys, hkeys, h]
  have hlength := hperm.length_eq
  rwa [List.length_map, List.length_map, ← List.countP_eq_length_filter, ← List.countP_eq_length_filter] at hlength

theorem getElem?_erase_self (m : BTreeMap κ ν) (k : κ) : (m.erase k)[k]? = none := by
  simp

variable {a : κ}

section

variable (m : BTreeMap κ ν)

theorem getElem?_erase_of_ne (h : k ≠ a) : (m.erase k)[a]? = m[a]? := by
  rw [ExtTreeMap.getElem?_erase, if_neg fun hc => h (LawfulEqOrd.eq_of_compare hc)]

theorem getElem?_insert_self (k : κ) (v : ν) : (m.insert k v)[k]? = some v := by
  simp

theorem getElem?_insert_of_ne (v : ν) (h : k ≠ a) : (m.insert k v)[a]? = m[a]? := by
  rw [ExtTreeMap.getElem?_insert, if_neg fun hc => h (LawfulEqOrd.eq_of_compare hc)]

end

theorem getElem?_insert_eq_some {v w : ν} :
    (m.insert k v)[a]? = some w ↔ (k = a ∧ v = w) ∨ (k ≠ a ∧ m[a]? = some w) := by
  by_cases h : k = a
  · subst h
    simp
  · simp [getElem?_insert_of_ne m v h, h]

theorem getElem?_insert_ne_none {v : ν} (h : k = a ∨ m[a]? ≠ none) : (m.insert k v)[a]? ≠ none := by
  by_cases hka : k = a
  · simp [hka]
  · rw [getElem?_insert_of_ne _ _ hka]
    exact h.resolve_left hka

/-- An entry after an erasure was there before. -/
theorem getElem?_erase_eq_some {w : ν} : (m.erase k)[a]? = some w ↔ k ≠ a ∧ m[a]? = some w := by
  by_cases h : k = a
  · subst h
    simp
  · simp [getElem?_erase_of_ne m h, h]

section

variable (m : BTreeMap κ ν)

theorem ofList_toList : ExtTreeMap.ofList m.toList compare = m := by
  classical
  refine ExtTreeMap.ext_getElem? fun k => ?_
  cases h : m[k]? with
  | some v =>
    exact ExtTreeMap.getElem?_ofList_of_mem ReflOrd.compare_self ExtTreeMap.distinct_keys_toList
      (ExtTreeMap.mem_toList_iff_getElem?_eq_some.mpr h)
  | none =>
    refine ExtTreeMap.getElem?_ofList_of_contains_eq_false ?_
    rw [Bool.eq_false_iff, ne_eq, List.contains_iff_mem, List.mem_map]
    rintro ⟨⟨_, v⟩, hmem, rfl⟩
    rw [ExtTreeMap.mem_toList_iff_getElem?_eq_some, h] at hmem
    cases hmem

theorem insert_insert_self (k : κ) (v w : ν) : (m.insert k v).insert k w = m.insert k w := by
  refine ExtTreeMap.ext_getElem? fun a => ?_
  by_cases hne : k = a
  · rw [← hne, getElem?_insert_self, getElem?_insert_self]
  · rw [getElem?_insert_of_ne _ _ hne, getElem?_insert_of_ne _ _ hne, getElem?_insert_of_ne _ _ hne]

theorem insert_comm_of_ne (h : k ≠ a) (v w : ν) :
    (m.insert k v).insert a w = (m.insert a w).insert k v := by
  refine ExtTreeMap.ext_getElem? fun j => ?_
  by_cases hk : k = j
  · subst hk
    rw [getElem?_insert_of_ne _ _ h.symm, getElem?_insert_self, getElem?_insert_self]
  · by_cases ha : a = j
    · subst ha
      rw [getElem?_insert_self, getElem?_insert_of_ne _ _ hk, getElem?_insert_self]
    · rw [getElem?_insert_of_ne _ _ ha, getElem?_insert_of_ne _ _ hk, getElem?_insert_of_ne _ _ hk,
        getElem?_insert_of_ne _ _ ha]

end

theorem filter_insert_new {p : ν → Bool} {v : ν} (h : m[k]? = none) : (m.insert k v).filter (fun _ w => p w) =
      if p v then (m.filter fun _ w => p w).insert k v else m.filter fun _ w => p w := by
  refine ExtTreeMap.ext_getElem? fun a => ?_
  rw [ExtTreeMap.getElem?_filter']
  by_cases hka : k = a
  · subst hka
    cases hp : p v with
    | true => simp [hp]
    | false => simp [hp, h]
  · rw [getElem?_insert_of_ne m v hka]
    cases p v with
    | true => rw [if_pos rfl, getElem?_insert_of_ne _ v hka, ExtTreeMap.getElem?_filter']
    | false => rw [if_neg Bool.false_ne_true, ExtTreeMap.getElem?_filter']

/-- One entry more. -/
theorem countValues_insert_new (p : ν → Bool) (v : ν) (h : m[k]? = none) :
    countValues p (m.insert k v) = countValues p m + if p v then 1 else 0 := by
  rw [countValues_eq_size_filter, countValues_eq_size_filter, filter_insert_new h]
  cases p v with
  | true =>
    have hk : (m.filter fun _ w => p w).contains k = false := by
      rw [← Bool.not_eq_true, ← ExtTreeMap.mem_iff_contains, ExtTreeMap.mem_iff_isSome_getElem?,
        ExtTreeMap.getElem?_filter', h]
      simp
    simp [ExtTreeMap.size_insert, hk]
  | false => simp

/-- One entry overwritten. -/
theorem countValues_insert_replace (p : ν → Bool) {old : ν} (v : ν) (h : m[k]? = some old) :
    countValues p (m.insert k v) + (if p old then 1 else 0) =
      countValues p m + if p v then 1 else 0 := by
  have hnone : (m.erase k)[k]? = none := by simp
  have hm : (m.erase k).insert k old = m := by
    refine ExtTreeMap.ext_getElem? fun a => ?_
    rw [ExtTreeMap.getElem?_insert, ExtTreeMap.getElem?_erase]
    split
    · next hc => rw [← LawfulEqOrd.eq_of_compare hc, h]
    · rfl
  have hv : (m.erase k).insert k v = m.insert k v := by
    refine ExtTreeMap.ext_getElem? fun a => ?_
    rw [ExtTreeMap.getElem?_insert, ExtTreeMap.getElem?_erase, ExtTreeMap.getElem?_insert]
    split <;> rfl
  have h₁ := countValues_insert_new p old hnone
  have h₂ := countValues_insert_new p v hnone
  rw [hm] at h₁
  rw [hv] at h₂
  omega

end BoundSeal.Rust

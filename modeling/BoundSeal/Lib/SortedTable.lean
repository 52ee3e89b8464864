import BoundSeal.Lib.Loop

/-!
# Sorted tables with rows of one width

A table is written as its rows one after the other, each of `w` entries. A reader
finds row `i` at offset `i * w` (`row_eq`), and looks a key up by binary search:
`binarySearch probe n` narrows the interval from `0` to `n` by asking how row
`i` compares with the key, where a probe may fail.
-/

namespace BoundSeal.Lib

/-! ## Rows -/

section

variable {α β : Type} {f : α → List β} {w : ℕ}

variable {l : List α} (h : ∀ a ∈ l, (f a).length = w)

include h

theorem length_flatMap_width : (l.flatMap f).length = l.length * w := by
  induction l with
  | nil => simp
  | cons a l ih =>
    rw [List.flatMap_cons, List.length_append, h a List.mem_cons_self,
      ih fun b hb => h b (List.mem_cons_of_mem a hb), List.length_cons, Nat.succ_mul, Nat.add_comm]

theorem drop_flatMap_width (i : ℕ) : (l.flatMap f).drop (i * w) = (l.drop i).flatMap f := by
  induction i generalizing l with
  | zero => simp
  | succ i ih =>
    cases l with
    | nil => simp
    | cons a l =>
      rw [List.flatMap_cons, List.drop_succ_cons, Nat.succ_mul, Nat.add_comm, ← List.drop_drop,
        List.drop_left' (h a List.mem_cons_self)]
      exact ih fun b hb => h b (List.mem_cons_of_mem a hb)

/-- Row `i` of a table. -/
theorem row_eq {i : ℕ} {a : α} (hi : l[i]? = some a) :
    ((l.flatMap f).drop (i * w)).take w = f a := by
  obtain ⟨hlt, rfl⟩ := List.getElem?_eq_some_iff.mp hi
  rw [drop_flatMap_width h, List.drop_eq_getElem_cons hlt, List.flatMap_cons,
    List.take_left' (h _ (List.getElem_mem hlt))]

end

/-! ## Binary search -/

variable {ε : Type}

/-- One probe: in the middle of the interval. -/
def probeOnce (probe : ℕ → Except ε Ordering) (interval : ℕ × ℕ) : ℕ × ℕ ⊕ Except ε Bool :=
  if interval.1 < interval.2 then
    let midpoint := interval.1 + (interval.2 - interval.1) / 2
    match probe midpoint with
    | .error e => .inr (.error e)
    | .ok .lt => .inl (midpoint + 1, interval.2)
    | .ok .gt => .inl (interval.1, midpoint)
    | .ok .eq => .inr (.ok true)
  else .inr (.ok false)

/-- The interval gets shorter. -/
def searchLoop (probe : ℕ → Except ε Ordering) : Loop (ℕ × ℕ) (Except ε Bool) where
  body := probeOnce probe
  measure interval := interval.2 - interval.1
  decreasing := by
    rintro ⟨low, high⟩ interval h
    unfold probeOnce at h
    dsimp only at h
    split at h
    · split at h
      all_goals
        cases h
        try dsimp only
        try omega
    · cases h

/-- Is a row found for which the probe says `eq`? -/
def binarySearch (probe : ℕ → Except ε Ordering) (n : ℕ) : Except ε Bool := (searchLoop probe).exec (0, n)

theorem binarySearch_sorted {α : Type} [LinearOrder α] {keys : List α} {key : α} {probe : ℕ → Except ε Ordering}
    (hsorted : keys.Pairwise (· < ·)) (hprobe : ∀ (i : ℕ) a, keys[i]? = some a → probe i = .ok (compare a key)) :
    binarySearch probe keys.length = .ok (decide (key ∈ keys)) := by
  have hlt : ∀ {i j : ℕ} {a b : α}, keys[i]? = some a → keys[j]? = some b → i < j → a < b := by
    intro i j a b hi hj hij
    obtain ⟨hi, rfl⟩ := List.getElem?_eq_some_iff.mp hi
    obtain ⟨hj, rfl⟩ := List.getElem?_eq_some_iff.mp hj
    exact List.pairwise_iff_getElem.mp hsorted _ _ _ _ hij
  -- the key can only be in the interval that is left
  have hloop : ∀ interval : ℕ × ℕ, interval.2 ≤ keys.length →
      (∀ i, keys[i]? = some key → interval.1 ≤ i ∧ i < interval.2) →
      (searchLoop probe).exec interval = .ok (decide (key ∈ keys)) := by
    intro interval
    induction hm : interval.2 - interval.1 using Nat.strong_induction_on generalizing interval with
    | _ m ih =>
      intro hhigh hinside
      obtain ⟨low, high⟩ := interval
      dsimp only at hm hhigh hinside
      by_cases hopen : low < high
      · have hmid : low + (high - low) / 2 < keys.length := by omega
        obtain ⟨a, ha⟩ : ∃ a, keys[low + (high - low) / 2]? = some a := ⟨_, List.getElem?_eq_getElem hmid⟩
        have hbody : (searchLoop probe).body (low, high) = match compare a key with
            | .lt => .inl (low + (high - low) / 2 + 1, high)
            | .gt => .inl (low, low + (high - low) / 2)
            | .eq => .inr (.ok true) := by
          show probeOnce probe (low, high) = _
          rw [probeOnce, if_pos hopen]
          dsimp only
          rw [hprobe _ _ ha]
          cases compare a key <;> rfl
        cases hcompare : compare a key with
        | lt =>
          rw [hcompare] at hbody
          rw [Loop.exec_of_inl _ hbody]
          refine ih _ (by omega) _ rfl hhigh fun i hi => ⟨?_, (hinside i hi).2⟩
          by_contra hle
          rcases Nat.lt_or_ge i (low + (high - low) / 2) with hi' | hi'
          · exact lt_asymm (compare_lt_iff_lt.mp hcompare) (hlt hi ha hi')
          · obtain rfl : i = low + (high - low) / 2 := by omega
            rw [hi] at ha
            exact lt_irrefl _ ((Option.some.inj ha) ▸ compare_lt_iff_lt.mp hcompare)
        | gt =>
          rw [hcompare] at hbody
          rw [Loop.exec_of_inl _ hbody]
          refine ih _ (by omega) _ rfl (by omega) fun i hi => ⟨(hinside i hi).1, ?_⟩
          by_contra hle
          rcases Nat.lt_or_ge (low + (high - low) / 2) i with hi' | hi'
          · exact lt_asymm (compare_gt_iff_gt.mp hcompare) (hlt ha hi hi')
          · obtain rfl : i = low + (high - low) / 2 := by omega
            rw [hi] at ha
            exact lt_irrefl _ ((Option.some.inj ha) ▸ compare_gt_iff_gt.mp hcompare)
        | eq =>
          rw [hcompare] at hbody
          rw [Loop.exec_of_inr _ hbody]
          have hmem : key ∈ keys := by
            rw [← compare_eq_iff_eq.mp hcompare]
            exact List.mem_of_getElem? ha
          rw [decide_eq_true hmem]
      · have hbody : (searchLoop probe).body (low, high) = .inr (.ok false) := by
          show probeOnce probe (low, high) = _
          rw [probeOnce, if_neg hopen]
        rw [Loop.exec_of_inr _ hbody]
        have hnot : key ∉ keys := by
          intro hmem
          obtain ⟨i, hi⟩ := List.mem_iff_getElem?.mp hmem
          have := hinside i hi
          omega
        rw [decide_eq_false hnot]
  refine hloop (0, keys.length) (Nat.le_refl _) fun i hi => ⟨Nat.zero_le _, ?_⟩
  exact (List.getElem?_eq_some_iff.mp hi).1

end BoundSeal.Lib

import Mathlib

/-!
# Loops that return

A loop of an imperative program is a function `body : σ → σ ⊕ α`: with the loop's
variables `s`, one round of the body either goes on with new variables (`.inl`)
or leaves the loop with a value (`.inr`). When a measure of the variables falls
in every round that goes on, the loop leaves: `Loop.exec` is its value. It runs
on a counter taken from the measure, so it computes.
-/

namespace BoundSeal.Lib

/-- A loop body with the measure that makes the loop leave. -/
structure Loop (σ α : Type) where
  body : σ → σ ⊕ α
  measure : σ → ℕ
  decreasing : ∀ s s', body s = .inl s' → measure s' < measure s

namespace Loop

variable {σ α : Type} (L : Loop σ α)

/-- Run with a counter above the measure. -/
def go : (n : ℕ) → (s : σ) → L.measure s < n → α
  | 0, _, h => absurd h (Nat.not_lt_zero _)
  | n + 1, s, h =>
    match hb : L.body s with
    | .inr a => a
    | .inl s' => go n s' (Nat.lt_of_lt_of_le (L.decreasing s s' hb) (Nat.le_of_lt_succ h))

/-- The value the loop leaves with. -/
def exec (s : σ) : α := L.go (L.measure s + 1) s (Nat.lt_succ_self _)

/-- The counter does not matter once it is above the measure. -/
theorem go_eq : ∀ (n m : ℕ) (s : σ) (hn : L.measure s < n) (hm : L.measure s < m),
    L.go n s hn = L.go m s hm
  | 0, _, _, hn, _ => absurd hn (Nat.not_lt_zero _)
  | _ + 1, 0, _, _, hm => absurd hm (Nat.not_lt_zero _)
  | n + 1, m + 1, s, hn, hm => by
    unfold go
    split
    · rfl
    · exact go_eq n m _ _ _

/-- One round, unrolled. -/
theorem exec_eq (s : σ) : L.exec s = match L.body s with
      | .inr a => a
      | .inl s' => L.exec s' := by
  unfold exec
  rw [go]
  split
  · next a ha => simp only [ha]
  · next s' hs => simp only [hs]; exact L.go_eq _ _ _ _ _

theorem exec_of_inr {s : σ} {a : α} (h : L.body s = .inr a) : L.exec s = a := by
  rw [exec_eq, h]

theorem exec_of_inl {s s' : σ} (h : L.body s = .inl s') : L.exec s = L.exec s' := by
  rw [exec_eq, h]

/-- **Loop rule**: `P` links the loop's variables to the value it leaves with, if
it holds of a round that leaves and passes back over a round that goes on. -/
theorem exec_rule (P : σ → α → Prop) (hret : ∀ s a, L.body s = .inr a → P s a)
    (hcont : ∀ s s' a, L.body s = .inl s' → P s' a → P s a) (s : σ) : P s (L.exec s) := by
  induction hn : L.measure s using Nat.strong_induction_on generalizing s with
  | _ n ih =>
    cases hb : L.body s with
    | inr a =>
      rw [L.exec_of_inr hb]
      exact hret s a hb
    | inl s' =>
      rw [L.exec_of_inl hb]
      exact hcont s s' _ hb (ih _ (hn ▸ L.decreasing s s' hb) s' rfl)

/-- **Two loops in step**: when the second makes, through `f`, every round of the
first that goes on, and `R` links the value of a round that leaves to what the
second loop makes of it, then `R` links the values of the loops. -/
theorem exec_rel {τ β : Type} (M : Loop τ β) (f : σ → τ) (R : α → β → Prop)
    (hret : ∀ s a, L.body s = .inr a → R a (M.exec (f s)))
    (hcont : ∀ s s', L.body s = .inl s' → M.body (f s) = .inl (f s')) (s : σ) : R (L.exec s) (M.exec (f s)) := by
  refine L.exec_rule (fun s a => R a (M.exec (f s))) hret ?_ s
  intro s s' a hs h
  rwa [M.exec_of_inl (hcont s s' hs)]

end Loop

/-- Two measures in one: the first falls, or it stays and the second falls. -/
theorem lex_measure_lt {n a a' b b' : ℕ} (hb : b' < n) (h : a' < a ∨ a' = a ∧ b' < b) : a' * n + b' < a * n + b := by
  rcases h with hlt | ⟨rfl, hlt⟩
  · calc
      a' * n + b' < a' * n + n := by omega
      _ = (a' + 1) * n := by ring
      _ ≤ a * n := Nat.mul_le_mul_right n hlt
      _ ≤ a * n + b := Nat.le_add_right _ _
  · omega

end BoundSeal.Lib

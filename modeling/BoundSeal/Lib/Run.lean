import Mathlib

/-!
# Runs of a state machine

A component is a type of states `σ`, calls `ι`, results `ω`, and a step function
`step : σ → ι → Option (ω × σ)`, where `none` says that the call does not return
(the thread panics) and no state follows it. A *run* is the list of its calls,
each with the state before it, its result and the state after it.
-/

namespace BoundSeal.Lib

variable {σ ι ω σ' ι' ω' : Type}

/-- One call of a run. -/
structure Event (σ ι ω : Type) where
  pre : σ
  input : ι
  output : ω
  post : σ

/-- An entry of a history with one more event is an old entry or that event. -/
theorem getElem?_concat_cases {α : Type} {es : List α} {e f : α} {k : ℕ}
    (h : (es ++ [e])[k]? = some f) : (k < es.length ∧ es[k]? = some f) ∨ (k = es.length ∧ e = f) := by
  rcases Nat.lt_trichotomy k es.length with hlt | rfl | hgt
  · exact .inl ⟨hlt, by rwa [List.getElem?_append_left hlt] at h⟩
  · rw [List.getElem?_concat_length, Option.some.injEq] at h
    exact .inr ⟨rfl, h⟩
  · rw [List.getElem?_eq_none (by simp; omega)] at h
    cases h

/-- `Run step s es t`: the calls `es` lead from `s` to `t`. -/
inductive Run (step : σ → ι → Option (ω × σ)) (s : σ) : List (Event σ ι ω) → σ → Prop
  | nil : Run step s [] s
  | snoc {es : List (Event σ ι ω)} {t u : σ} {i : ι} {o : ω} :
      Run step s es t → step t i = some (o, u) → Run step s (es ++ [⟨t, i, o, u⟩]) u

namespace Run

variable {step : σ → ι → Option (ω × σ)} {s t : σ} {es : List (Event σ ι ω)}

/-- **Invariance**: a property of the history and the state that holds at the
start and survives every call from a reached state holds of every run. -/
theorem invariant (P : List (Event σ ι ω) → σ → Prop) (hstart : P [] s)
    (hstep : ∀ es t i o u, Run step s es t → P es t → step t i = some (o, u) →
      P (es ++ [⟨t, i, o, u⟩]) u)
    (hrun : Run step s es t) : P es t := by
  induction hrun with
  | nil => exact hstart
  | snoc hes hs ih => exact hstep _ _ _ _ _ hes ih hs

variable {e : Event σ ι ω}

/-- Every call of a run is a step of the machine. -/
theorem step_of_getElem? (hrun : Run step s es t) {k : ℕ}
    (hk : es[k]? = some e) : step e.pre e.input = some (e.output, e.post) := by
  induction hrun generalizing k with
  | nil => simp at hk
  | @snoc es t u i o hes hs ih =>
    rcases getElem?_concat_cases hk with ⟨-, hold⟩ | ⟨-, rfl⟩
    · exact ih hold
    · exact hs

/-- The state before a call is reached by the calls before it. -/
theorem before (hrun : Run step s es t) {k : ℕ} (hk : es[k]? = some e) :
    Run step s (es.take k) e.pre := by
  induction hrun generalizing k with
  | nil => simp at hk
  | @snoc es t u i o hes hs ih =>
    rcases getElem?_concat_cases hk with ⟨hlt, hold⟩ | ⟨rfl, rfl⟩
    · rw [List.take_append_of_le_length hlt.le]
      exact ih hold
    · simpa using hes

/-- A run can be extended at its front. -/
theorem cons {u : σ} {i : ι} {o : ω} (hs : step s i = some (o, u)) (hrun : Run step u es t) :
    Run step s (⟨s, i, o, u⟩ :: es) t := by
  induction hrun with
  | nil => exact .snoc .nil hs
  | snoc _ hlast ih => exact .snoc ih hlast

/-- Runs compose. -/
theorem append {u : σ} {fs : List (Event σ ι ω)} (hrun : Run step s es t)
    (hrest : Run step t fs u) : Run step s (es ++ fs) u := by
  induction hrest with
  | nil => rwa [List.append_nil]
  | snoc _ hlast ih =>
    rw [← List.append_assoc]
    exact .snoc ih hlast

/-- The last call of a run. -/
theorem concat_inv (hrun : Run step s (es ++ [e]) t) :
    Run step s es e.pre ∧ step e.pre e.input = some (e.output, e.post) ∧ t = e.post := by
  generalize hall : es ++ [e] = all at hrun
  cases hrun with
  | nil => exact absurd hall (by simp)
  | snoc hes hs =>
    obtain ⟨rfl, hlast⟩ := List.append_inj' hall rfl
    obtain rfl := List.cons.inj hlast |>.1
    exact ⟨hes, hs, rfl⟩

/-- A run falls apart at each of its calls. -/
theorem split {fs : List (Event σ ι ω)} (hrun : Run step s (es ++ e :: fs) t) :
    Run step s es e.pre ∧ step e.pre e.input = some (e.output, e.post) ∧ Run step e.post fs t := by
  induction fs using List.reverseRecOn generalizing t with
  | nil =>
    obtain ⟨hes, hs, rfl⟩ := hrun.concat_inv
    exact ⟨hes, hs, .nil⟩
  | append_singleton fs f ih =>
    rw [← List.cons_append, ← List.append_assoc] at hrun
    obtain ⟨hfs, hs, rfl⟩ := hrun.concat_inv
    obtain ⟨hes, he, hrest⟩ := ih hfs
    exact ⟨hes, he, .snoc hrest hs⟩

end Run

/-- Make a list of calls: the run and the state it ends in, unless a call does
not return. -/
def runCalls (step : σ → ι → Option (ω × σ)) : σ → List ι → Option (List (Event σ ι ω) × σ)
  | s, [] => some ([], s)
  | s, i :: calls =>
    match step s i with
    | none => none
    | some (o, u) => (runCalls step u calls).map fun (es, t) => (⟨s, i, o, u⟩ :: es, t)

variable {step : σ → ι → Option (ω × σ)}

theorem run_of_runCalls {s t : σ} {calls : List ι}
    {es : List (Event σ ι ω)} (h : runCalls step s calls = some (es, t)) : Run step s es t := by
  induction calls generalizing s es with
  | nil =>
    cases h
    exact .nil
  | cons i calls ih =>
    unfold runCalls at h
    split at h
    · cases h
    · next o u hs =>
      obtain ⟨⟨es', t'⟩, hrest, heq⟩ := Option.map_eq_some_iff.mp h
      cases heq
      exact (ih hrest).cons hs

/-- What is computed about the run of a list of calls holds of a run. -/
theorem exists_run_of_map_runCalls {s : σ} {calls : List ι} {β : Type}
    {f : List (Event σ ι ω) × σ → β} {b : β} (h : (runCalls step s calls).map f = some b) :
    ∃ es t, Run step s es t ∧ f (es, t) = b := by
  obtain ⟨⟨es, t⟩, hcalls, hf⟩ := Option.map_eq_some_iff.mp h
  exact ⟨es, t, run_of_runCalls hcalls, hf⟩

end BoundSeal.Lib

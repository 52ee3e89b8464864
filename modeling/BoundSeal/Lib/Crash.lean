import Mathlib

/-!
# Procedures that can be cut off

A procedure works on a state `σ` part of which outlives the process that runs it
(files, mainly). It is a function from the state to its `Outcome`: the result,
the state it leaves, and the states it *passed through*, one after each of its
atomic operations. A crash during the procedure leaves one of the states passed.

`Proc ε σ` is a monad in which an error ends the procedure (Rust's `?`). The equations
`wp_pure`, `wp_bind`, `wp_op` and so on execute a procedure step by step.
-/

namespace BoundSeal.Lib

/-- What a procedure does from one state. -/
structure Outcome (ε σ α : Type) where
  result : Except ε α
  final : σ
  passed : List σ

/-- A procedure over the states `σ`. -/
def Proc (ε σ α : Type) : Type := σ → Outcome ε σ α

namespace Proc

variable {ε ε' σ τ α β : Type}

instance : Monad (Proc ε σ) where
  pure a := fun s => ⟨.ok a, s, []⟩
  bind p f := fun s =>
    match (p s).result with
    | .ok a => ⟨(f a (p s).final).result, (f a (p s).final).final, (p s).passed ++ (f a (p s).final).passed⟩
    | .error e => ⟨.error e, (p s).final, (p s).passed⟩

/-- A check that does not touch the state. -/
def ofExcept (x : Except ε α) : Proc ε σ α := fun s => ⟨x, s, []⟩

/-- An error ends the procedure. -/
def fail (e : ε) : Proc ε σ α := ofExcept (.error e)

/-- A value read off the state. -/
def get (f : σ → α) : Proc ε σ α := fun s => ⟨.ok (f s), s, []⟩

/-- One atomic operation. -/
def op (f : σ → Except ε α × σ) : Proc ε σ α := fun s => ⟨(f s).1, (f s).2, [(f s).2]⟩

/-- An operation that does not fail. -/
def modify (f : σ → σ) : Proc ε σ Unit := op fun s => (.ok (), f s)

/-- Go on with the result of a procedure, error or not. -/
def attempt (p : Proc ε σ α) : Proc ε' σ (Except ε α) := fun s => ⟨.ok (p s).result, (p s).final, (p s).passed⟩

/-- `Result::map_err`. -/
def mapError (f : ε → ε') (p : Proc ε σ α) : Proc ε' σ α := fun s =>
  ⟨(p s).result.mapError f, (p s).final, (p s).passed⟩

/-- A procedure on one component of the state. -/
def onPart (part : σ → τ) (put : τ → σ → σ) (p : Proc ε τ α) : Proc ε σ α := fun s =>
  ⟨(p (part s)).result, put (p (part s)).final s, (p (part s)).passed.map (put · s)⟩

/-- The states passed satisfy `crash`; the result and the state left satisfy `post`. -/
def wp (p : Proc ε σ α) (crash : σ → Prop) (post : Except ε α → σ → Prop) (s : σ) : Prop :=
  (∀ t ∈ (p s).passed, crash t) ∧ post (p s).result (p s).final

variable {p : Proc ε σ α} {crash crash' : σ → Prop} {post post' : Except ε α → σ → Prop} {s : σ}

theorem wp_mono (h : wp p crash post s) (hcrash : ∀ t, crash t → crash' t)
    (hpost : ∀ r t, post r t → post' r t) : wp p crash' post' s :=
  ⟨fun t ht => hcrash t (h.1 t ht), hpost _ _ h.2⟩

/-- A procedure without atomic operations passes through no state. -/
theorem wp_of_passed (h : (p s).passed = []) : wp p crash post s ↔ post (p s).result (p s).final :=
  and_iff_right (h ▸ List.forall_mem_nil _)

theorem wp_pure {a : α} : wp (pure a : Proc ε σ α) crash post s ↔ post (.ok a) s := wp_of_passed rfl

theorem wp_ofExcept {x : Except ε α} : wp (ofExcept x) crash post s ↔ post x s := wp_of_passed rfl

theorem wp_fail {e : ε} : wp (fail e : Proc ε σ α) crash post s ↔ post (.error e) s := wp_ofExcept

theorem wp_get {f : σ → α} : wp (get f : Proc ε σ α) crash post s ↔ post (.ok (f s)) s := wp_of_passed rfl

theorem wp_op {f : σ → Except ε α × σ} :
    wp (op f) crash post s ↔ crash (f s).2 ∧ post (f s).1 (f s).2 := by
  simp [wp, op]

theorem wp_modify {f : σ → σ} {post : Except ε Unit → σ → Prop} :
    wp (modify f) crash post s ↔ crash (f s) ∧ post (.ok ()) (f s) := wp_op

theorem wp_attempt {post : Except ε' (Except ε α) → σ → Prop} :
    wp (attempt p) crash post s ↔ wp p crash (fun r t => post (.ok r) t) s := Iff.rfl

theorem wp_mapError {f : ε → ε'} {post : Except ε' α → σ → Prop} :
    wp (mapError f p) crash post s ↔ wp p crash (fun r t => post (r.mapError f) t) s := Iff.rfl

/-- What the rest of a procedure has to do after its first part. -/
def after (f : α → Proc ε σ β) (crash : σ → Prop) (post : Except ε β → σ → Prop) (r : Except ε α) (t : σ) : Prop :=
  match r with
  | .ok a => wp (f a) crash post t
  | .error e => post (.error e) t

variable {f : α → Proc ε σ β}

/-- A sequence whose first part succeeds passes through the states of both. -/
theorem bind_of_ok {a : α} (h : (p s).result = .ok a) :
    (p >>= f) s = ⟨(f a (p s).final).result, (f a (p s).final).final,
      (p s).passed ++ (f a (p s).final).passed⟩ := by
  have hbind : (p >>= f) s = (match (p s).result with
    | .ok a => ⟨(f a (p s).final).result, (f a (p s).final).final, (p s).passed ++ (f a (p s).final).passed⟩
    | .error e => ⟨.error e, (p s).final, (p s).passed⟩) := rfl
  rw [hbind, h]

theorem bind_of_error {e : ε} (h : (p s).result = .error e) :
    (p >>= f) s = ⟨.error e, (p s).final, (p s).passed⟩ := by
  have hbind : (p >>= f) s = (match (p s).result with
    | .ok a => ⟨(f a (p s).final).result, (f a (p s).final).final, (p s).passed ++ (f a (p s).final).passed⟩
    | .error e => ⟨.error e, (p s).final, (p s).passed⟩) := rfl
  rw [hbind, h]

theorem passed_bind_ne_nil (h : (p s).passed ≠ []) : ((p >>= f) s).passed ≠ [] := by
  cases hresult : (p s).result with
  | error e => rwa [bind_of_error hresult]
  | ok a =>
    rw [bind_of_ok hresult]
    exact List.append_ne_nil_of_left_ne_nil h _

theorem wp_bind {post : Except ε β → σ → Prop} :
    wp (p >>= f) crash post s ↔ wp p crash (after f crash post) s := by
  unfold wp after
  cases hresult : (p s).result with
  | error e => rw [bind_of_error hresult]
  | ok a =>
    rw [bind_of_ok hresult]
    simp only [wp, List.forall_mem_append, and_assoc]

theorem get_bind {g : σ → α} : (get g >>= f) s = f (g s) s := rfl

theorem wp_get_bind {g : σ → α} {post : Except ε β → σ → Prop} :
    wp (get g >>= f) crash post s ↔ wp (f (g s)) crash post s := by
  rw [wp_bind, wp_get, after]

/-- The rule for a procedure whose result is put into another. -/
theorem wp_map {f : α → β} {post : Except ε β → σ → Prop} (h : wp p crash (fun r t => post (r.map f) t) s) :
    wp (do let a ← p; pure (f a)) crash post s := by
  rw [wp_bind]
  refine wp_mono h (fun _ ht => ht) fun r t ht => ?_
  cases r with
  | error e => exact ht
  | ok a => exact wp_pure.mpr ht

theorem wp_onPart {part : τ → σ} {put : σ → τ → τ} {crash : τ → Prop} {post : Except ε α → τ → Prop}
    {s : τ} : wp (onPart part put p) crash post s ↔
      wp p (fun t => crash (put t s)) (fun r t => post r (put t s)) (part s) := by
  simp [wp, onPart]

/-! ## Results -/

@[simp] theorem result_pure {a : α} {s : σ} : ((pure a : Proc ε σ α) s).result = .ok a := rfl

/-- A sequence succeeds when both parts do. -/
theorem result_bind_eq_ok {b : β} :
    ((p >>= f) s).result = .ok b ↔ ∃ a, (p s).result = .ok a ∧ (f a (p s).final).result = .ok b := by
  cases hresult : (p s).result with
  | error e => simp [bind_of_error hresult]
  | ok a => simp [bind_of_ok hresult]

/-- Putting the result into another touches no state. -/
theorem map_final_passed (g : α → β) : ((do let a ← p; pure (g a)) s).final = (p s).final ∧
    ((do let a ← p; pure (g a)) s).passed = (p s).passed := by
  cases hresult : (p s).result with
  | error e =>
    rw [bind_of_error hresult]
    exact ⟨rfl, rfl⟩
  | ok a =>
    rw [bind_of_ok hresult]
    exact ⟨rfl, List.append_nil _⟩

/-! ## Relations that a procedure keeps -/

/-- The start is related to every state passed and to the state left. -/
def Keeps (Q : σ → σ → Prop) (p : Proc ε σ α) : Prop := ∀ s, wp p (Q s) (fun _ t => Q s t) s

section Keeps

variable {Q : σ → σ → Prop}

theorem Keeps.op {f : σ → Except ε α × σ} (h : ∀ s, Q s (f s).2) : Keeps Q (op f) := fun s => wp_op.mpr ⟨h s, h s⟩

theorem Keeps.modify {f : σ → σ} (h : ∀ s, Q s (f s)) : Keeps Q (modify f : Proc ε σ Unit) := .op h

theorem Keeps.attempt (h : Keeps Q p) : Keeps Q (attempt p : Proc ε' σ (Except ε α)) := h

theorem Keeps.mapError {f : ε → ε'} (h : Keeps Q p) : Keeps Q (mapError f p) := h

theorem Keeps.true : Keeps (fun _ _ => True) p := fun _ => ⟨fun _ _ => trivial, trivial⟩

theorem Keeps.onPart {part : τ → σ} {put : σ → τ → τ} {P : τ → τ → Prop} (hp : Keeps Q p)
    (h : ∀ s t, Q (part s) t → P s (put t s)) : Keeps P (onPart part put p) := fun s =>
  wp_onPart.mpr (wp_mono (hp (part s)) (fun t ht => h s t ht) fun _ t ht => h s t ht)

theorem Keeps.bind [IsTrans σ Q] (hp : Keeps Q p) (hf : ∀ a, Keeps Q (f a)) :
    Keeps Q (p >>= f) := by
  intro s
  rw [wp_bind]
  refine wp_mono (hp s) (fun _ ht => ht) fun r t ht => ?_
  cases r with
  | error e => exact ht
  | ok a => exact wp_mono (hf a t) (fun _ hu => IsTrans.trans _ _ _ ht hu) fun _ _ hu => IsTrans.trans _ _ _ ht hu

variable [Std.Refl Q]

theorem Keeps.pure (a : α) : Keeps Q (Pure.pure a : Proc ε σ α) := fun s => wp_pure.mpr (refl s)

theorem Keeps.ofExcept (x : Except ε α) : Keeps Q (ofExcept x) := fun s => wp_ofExcept.mpr (refl s)

theorem Keeps.get (f : σ → α) : Keeps Q (get f : Proc ε σ α) := fun s => wp_get.mpr (refl s)

end Keeps

end Proc

end BoundSeal.Lib

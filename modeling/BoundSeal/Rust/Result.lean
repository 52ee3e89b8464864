import BoundSeal.Rust.Collections

/-!
# Rust results: early return with `Result`

A Rust function that leaves early with `Err` is an `Except` computation. Its
guards `if c { return Err(e) }` are `failIf c e`, `Option::ok_or` is `okOr`, and
the simp lemmas below turn "the function returned `Ok`" into the conjunction of
what its guards let through, in order.
-/

namespace BoundSeal.Rust

variable {ε α β : Type}

/-- `if c { return Err(e) }`. -/
def failIf (c : Prop) [Decidable c] (e : ε) : Except ε Unit := if c then .error e else .ok ()

/-- `Option::ok_or`. -/
def okOr (o : Option α) (e : ε) : Except ε α :=
  match o with
  | some a => .ok a
  | none => .error e

/-- `iter().map(f).collect::<Result<BTreeSet<_>, _>>()`: the first error in
order, or the set of the values. -/
def collectSet {κ : Type} [Ord κ] [Std.TransOrd κ] (f : κ → Except ε κ) (s : BTreeSet κ) :
    Except ε (BTreeSet κ) :=
  (s.toList.mapM f).map fun l => Std.ExtTreeSet.ofList l compare

/-- `Result::unwrap`, of a result known to be `Ok`. -/
def unwrap : (x : Except ε α) → x.isOk = true → α
  | .ok a, _ => a

theorem eq_ok_unwrap : ∀ (x : Except ε α) (h : x.isOk = true), x = .ok (unwrap x h)
  | .ok _, _ => rfl

variable {f : α → Except ε β} {x : Except ε α}

@[simp] theorem bind_eq_ok {b : β} : (x >>= f) = .ok b ↔ ∃ a, x = .ok a ∧ f a = .ok b := by
  cases x with
  | error e =>
    constructor
    · intro h
      cases h
    · rintro ⟨a, h, -⟩
      cases h
  | ok a =>
    constructor
    · intro h
      exact ⟨a, rfl, h⟩
    · rintro ⟨a', h, hf⟩
      cases h
      exact hf

theorem bind_eq_error {e : ε} :
    (x >>= f) = .error e ↔ x = .error e ∨ ∃ a, x = .ok a ∧ f a = .error e := by
  cases x with
  | error e' =>
    show Except.error e' = .error e ↔ _
    simp
  | ok a =>
    show f a = .error e ↔ _
    simp

/-- The value of a statement is not a choice. -/
@[simp] theorem exists_unit {p : Unit → Prop} : (∃ u, p u) ↔ p () :=
  ⟨fun ⟨(), h⟩ => h, fun h => ⟨(), h⟩⟩

@[simp] theorem failIf_eq_ok {c : Prop} [Decidable c] {e : ε} {u : Unit} :
    failIf c e = .ok u ↔ ¬ c := by
  unfold failIf
  split <;> simp [*]

theorem failIf_eq_error {c : Prop} [Decidable c] {e e' : ε} : failIf c e = .error e' ↔ c ∧ e = e' := by
  unfold failIf
  split <;> simp [*]

@[simp] theorem okOr_eq_ok {o : Option α} {e : ε} {a : α} : okOr o e = .ok a ↔ o = some a := by
  cases o <;> simp [okOr]

@[simp] theorem pure_eq_ok {a b : α} : (pure a : Except ε α) = .ok b ↔ a = b := by
  show Except.ok a = .ok b ↔ a = b
  simp

@[simp] theorem map_eq_ok {f : α → β} {b : β} : x.map f = .ok b ↔ ∃ a, x = .ok a ∧ f a = b := by
  cases x <;> simp [Except.map]

theorem mapError_eq_ok {ε' : Type} {f : ε → ε'} {a : α} : x.mapError f = .ok a ↔ x = .ok a := by
  cases x <;> simp [Except.mapError]

variable {l : List α}

/-- A loop of checks passes when every check does. -/
theorem forM_eq_ok {f : α → Except ε Unit} : l.forM f = .ok () ↔ ∀ a ∈ l, f a = .ok () := by
  induction l with
  | nil => simp
  | cons a l ih =>
    simp only [List.mem_cons, forall_eq_or_imp, ← ih]
    show (f a >>= fun _ => l.forM f) = .ok () ↔ _
    rw [bind_eq_ok, exists_unit]

theorem foldlM_keeps {f : β → α → Except ε β} {I : β → Prop} (hstep : ∀ {b a b'}, f b a = .ok b' →
    I b → I b') {b b' : β} (h : l.foldlM f b = .ok b') (hb : I b) : I b' := by
  induction l generalizing b with
  | nil => exact pure_eq_ok.mp h ▸ hb
  | cons a l ih =>
    rw [List.foldlM_cons, bind_eq_ok] at h
    obtain ⟨mid, hmid, hrest⟩ := h
    exact ih hrest (hstep hmid hb)

theorem do_eq_ok : (∀ {ε α β : Type} {x : Except ε α} {f : α → Except ε β} {b : β},
      (x >>= f) = .ok b ↔ ∃ a, x = .ok a ∧ f a = .ok b) ∧
    (∀ {p : Unit → Prop}, (∃ u, p u) ↔ p ()) ∧
    (∀ {ε : Type} {c : Prop} [Decidable c] {e : ε} {u : Unit}, failIf c e = .ok u ↔ ¬ c) ∧
    (∀ {ε α : Type} {o : Option α} {e : ε} {a : α}, okOr o e = .ok a ↔ o = some a) ∧
    ∀ {ε α : Type} {a b : α}, (pure a : Except ε α) = .ok b ↔ a = b :=
  ⟨bind_eq_ok, exists_unit, failIf_eq_ok, okOr_eq_ok, pure_eq_ok⟩

/-- A successful `mapM` yields exactly the values of the elements. -/
theorem mem_mapM {l' : List β} (h : l.mapM f = .ok l') {b : β} : b ∈ l' ↔ ∃ a ∈ l, f a = .ok b := by
  induction l generalizing l' with
  | nil =>
    rw [List.mapM_nil, pure_eq_ok] at h
    simp [← h]
  | cons a l ih =>
    rw [List.mapM_cons] at h
    simp only [bind_eq_ok, pure_eq_ok] at h
    obtain ⟨c, hc, cs, hcs, rfl⟩ := h
    rw [List.mem_cons, ih hcs, List.exists_mem_cons_iff, hc, Except.ok.injEq, eq_comm]

/-- A successful `mapM` met no error. -/
theorem mapM_defined {l' : List β} (h : l.mapM f = .ok l') {a : α}
    (ha : a ∈ l) : ∃ b, f a = .ok b := by
  induction l generalizing l' with
  | nil => cases ha
  | cons c l ih =>
    rw [List.mapM_cons] at h
    simp only [bind_eq_ok, pure_eq_ok] at h
    obtain ⟨b, hb, bs, hbs, -⟩ := h
    rcases List.mem_cons.mp ha with rfl | hmem
    · exact ⟨b, hb⟩
    · exact ih hbs hmem

variable {κ : Type} [Ord κ] [Std.TransOrd κ] [BEq κ] [LawfulBEq κ] [Std.LawfulBEqOrd κ]
  {f : κ → Except ε κ} {s t : BTreeSet κ}

theorem mem_collectSet (h : collectSet f s = .ok t) {b : κ} : b ∈ t ↔ ∃ a ∈ s, f a = .ok b := by
  obtain ⟨l, hl, rfl⟩ := map_eq_ok.mp h
  rw [Std.ExtTreeSet.mem_ofList, List.contains_iff_mem, mem_mapM hl]
  simp only [Std.ExtTreeSet.mem_toList]

theorem collectSet_defined (h : collectSet f s = .ok t) {a : κ} (ha : a ∈ s) : ∃ b, f a = .ok b := by
  obtain ⟨l, hl, -⟩ := map_eq_ok.mp h
  exact mapM_defined hl (Std.ExtTreeSet.mem_toList.mpr ha)

end BoundSeal.Rust

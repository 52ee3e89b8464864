import Mathlib

/-!
# Methods that change the state and may fail

A method of a state `σ` takes the state and gives a value or an error together
with the state it leaves. An error ends the method where it stands: what it has
changed so far stays changed (Rust's `&mut self` with `?`).
-/

namespace BoundSeal.Lib

/-- A method over the states `σ`. -/
def Method (ε σ α : Type) : Type := σ → Except ε α × σ

namespace Method

variable {ε σ τ α β : Type}

instance : Monad (Method ε σ) where
  pure a := fun s => (.ok a, s)
  bind p f := fun s =>
    match p s with
    | (.ok a, t) => f a t
    | (.error e, t) => (.error e, t)

instance : LawfulMonad (Method ε σ) := by
  refine LawfulMonad.mk' _ (fun p => ?_) (fun _ _ => rfl) (fun p f g => ?_)
  · funext s
    show (match p s with
      | (.ok a, t) => (Except.ok a, t)
      | (.error e, t) => (.error e, t)) = p s
    rcases p s with ⟨_ | _, _⟩ <;> rfl
  · funext s
    show (match (match p s with
        | (.ok a, t) => f a t
        | (.error e, t) => (.error e, t)) with
      | (.ok b, t) => g b t
      | (.error e, t) => (.error e, t)) = match p s with
        | (.ok a, t) => (f a >>= g) t
        | (.error e, t) => (.error e, t)
    rcases p s with ⟨_ | _, _⟩ <;> rfl

/-- A value read off the state, or an error. -/
def check (f : σ → Except ε α) : Method ε σ α := fun s => (f s, s)

/-- A check that does not look at the state. -/
def ofExcept (x : Except ε α) : Method ε σ α := check fun _ => x

/-- An error ends the method. -/
def fail (e : ε) : Method ε σ α := ofExcept (.error e)

/-- A value read off the state. -/
def get (f : σ → α) : Method ε σ α := check fun s => .ok (f s)

/-- A change of the state. -/
def modify (f : σ → σ) : Method ε σ Unit := fun s => (.ok (), f s)

/-- A method on one component of the state. -/
def onPart (part : σ → τ) (put : τ → σ → σ) (p : Method ε τ α) : Method ε σ α := fun s =>
  ((p (part s)).1, put (p (part s)).2 s)

/-- The result and the state left satisfy `post`. -/
def wp (p : Method ε σ α) (post : Except ε α → σ → Prop) (s : σ) : Prop := post (p s).1 (p s).2

variable {p : Method ε σ α} {post post' : Except ε α → σ → Prop} {s : σ}

theorem wp_mono (h : wp p post s) (hpost : ∀ r t, post r t → post' r t) : wp p post' s := hpost _ _ h

variable {a : α}

variable {f : σ → Except ε α}

theorem wp_check : wp (check f) post s ↔ post (f s) s := Iff.rfl

theorem wp_ofExcept {x : Except ε α} : wp (ofExcept x) post s ↔ post x s := Iff.rfl

theorem wp_get {f : σ → α} : wp (get f : Method ε σ α) post s ↔ post (.ok (f s)) s := Iff.rfl

theorem wp_modify {f : σ → σ} {post : Except ε Unit → σ → Prop} :
    wp (modify f) post s ↔ post (.ok ()) (f s) := Iff.rfl

/-- What the rest of a method has to do after its first part. -/
def after (f : α → Method ε σ β) (post : Except ε β → σ → Prop) (r : Except ε α) (t : σ) : Prop :=
  match r with
  | .ok a => wp (f a) post t
  | .error e => post (.error e) t

theorem wp_bind {f : α → Method ε σ β} {post : Except ε β → σ → Prop} :
    wp (p >>= f) post s ↔ wp p (after f post) s := by
  have hbind : (p >>= f) s = (match p s with
    | (.ok a, t) => f a t
    | (.error e, t) => (.error e, t)) := rfl
  unfold wp after
  rw [hbind]
  rcases p s with ⟨_ | a, t⟩
  · exact Iff.rfl
  · exact Iff.rfl

variable {g : α → Method ε σ β}

/-- The rule for a check: it fails and nothing has changed, or the method goes on. -/
theorem wp_check_bind {post : Except ε β → σ → Prop}
    (herror : ∀ e, f s = .error e → post (.error e) s) (hok : ∀ a, f s = .ok a → wp (g a) post s) :
    wp (check f >>= g) post s := by
  rw [wp_bind, wp_check]
  cases h : f s with
  | error e => exact herror e h
  | ok a => exact hok a h

theorem bind_of_error {t : σ} {e : ε} (h : p s = (.error e, t)) : (p >>= g) s = (.error e, t) := by
  show (match p s with
    | (.ok a, t) => g a t
    | (.error e, t) => (.error e, t)) = (.error e, t)
  rw [h]

theorem check_bind (h : f s = .ok a) : (check f >>= g) s = g a s := by
  show (match (f s, s) with
    | (.ok a, t) => g a t
    | (.error e, t) => (.error e, t)) = g a s
  rw [h]

theorem check_bind_error {e : ε} (h : f s = .error e) :
    (check f >>= g) s = (.error e, s) := bind_of_error (by rw [check, h])

variable {γ : Type}

/-- What every step keeps, whether it fails or not, the loop keeps. -/
theorem wp_foldlM_keeps {f : β → γ → Method ε σ β} {I : σ → Prop}
    (hstep : ∀ c b s, I s → wp (f b c) (fun _ t => I t) s) {l : List γ} {b : β} {s : σ} (h : I s) :
    wp (l.foldlM f b) (fun _ t => I t) s := by
  induction l generalizing b s with
  | nil => exact h
  | cons c l ih =>
    rw [List.foldlM_cons, wp_bind]
    refine wp_mono (hstep c b s h) ?_
    rintro (e | b') t hI
    · exact hI
    · exact ih hI

/-- A loop that does not fail: an invariant over the elements still to come. -/
theorem wp_forM {f : γ → Method ε σ Unit} {I : List γ → σ → Prop}
    (hstep : ∀ c l s, I (c :: l) s → wp (f c) (fun r t => r = .ok () ∧ I l t) s)
    {l : List γ} {s : σ} (h : I l s) :
    wp (l.forM f) (fun r t => r = .ok () ∧ I [] t) s := by
  induction l generalizing s with
  | nil => exact ⟨rfl, h⟩
  | cons c l ih =>
    show wp (f c >>= fun _ => l.forM f) _ s
    rw [wp_bind]
    refine wp_mono (hstep c l s h) ?_
    rintro r t ⟨rfl, hI⟩
    exact ih hI

/-! ## Methods that return `Ok` -/

variable {s t : σ}

theorem bind_eq_ok {f : α → Method ε σ β} {b : β} :
    (p >>= f) s = (.ok b, t) ↔ ∃ a u, p s = (.ok a, u) ∧ f a u = (.ok b, t) := by
  have hbind : (p >>= f) s = (match p s with
    | (.ok a, t) => f a t
    | (.error e, t) => (.error e, t)) := rfl
  rw [hbind]
  rcases p s with ⟨_ | a, u⟩
  · simp
  · constructor
    · exact fun h => ⟨a, u, rfl, h⟩
    · rintro ⟨a', u', heq, h⟩
      cases heq
      exact h

theorem check_eq_ok : check f s = (.ok a, t) ↔ f s = .ok a ∧ t = s := by
  rw [check, Prod.mk.injEq, eq_comm (a := s)]

theorem get_eq_ok {f : σ → α} : (get f : Method ε σ α) s = (.ok a, t) ↔ f s = a ∧ t = s := by
  rw [get, check_eq_ok, Except.ok.injEq]

theorem ofExcept_eq_ok {x : Except ε α} : (ofExcept x : Method ε σ α) s = (.ok a, t) ↔ x = .ok a ∧ t = s :=
  check_eq_ok

theorem pure_eq_ok {a b : α} : (pure a : Method ε σ α) s = (.ok b, t) ↔ a = b ∧ t = s := by
  show (Except.ok a, s) = (Except.ok b, t) ↔ _
  rw [Prod.mk.injEq, Except.ok.injEq, eq_comm (a := s)]

theorem map_eq_ok {f : α → β} {b : β} : (f <$> p) s = (.ok b, t) ↔ ∃ a, p s = (.ok a, t) ∧ f a = b := by
  rw [map_eq_pure_bind, bind_eq_ok]
  constructor
  · rintro ⟨a, u, hp, hpure⟩
    obtain ⟨rfl, rfl⟩ := pure_eq_ok.mp hpure
    exact ⟨a, hp, rfl⟩
  · rintro ⟨a, hp, rfl⟩
    exact ⟨a, t, hp, rfl⟩

theorem modify_eq_ok {f : σ → σ} {u : Unit} : (modify f : Method ε σ Unit) s = (.ok u, t) ↔ t = f s := by
  show (Except.ok (), f s) = (Except.ok u, t) ↔ _
  rw [Prod.mk.injEq, eq_comm (a := f s)]
  simp

theorem onPart_eq_ok {part : σ → τ} {put : τ → σ → σ} {p : Method ε τ α} :
    onPart part put p s = (.ok a, t) ↔ ∃ u, p (part s) = (.ok a, u) ∧ t = put u s := by
  rw [onPart]
  rcases p (part s) with ⟨r, u⟩
  rw [Prod.mk.injEq]
  constructor
  · rintro ⟨rfl, rfl⟩
    exact ⟨u, rfl, rfl⟩
  · rintro ⟨u', heq, rfl⟩
    cases heq
    exact ⟨rfl, rfl⟩

variable {f : γ → Method ε σ β}

theorem mapM_cons_eq_ok {c : γ} {l : List γ} {bs : List β} : (c :: l).mapM f s = (.ok bs, t) ↔
      ∃ b u bs', f c s = (.ok b, u) ∧ l.mapM f u = (.ok bs', t) ∧ bs = b :: bs' := by
  rw [List.mapM_cons, bind_eq_ok]
  constructor
  · rintro ⟨b, u, hb, hrest⟩
    obtain ⟨bs', v, hbs, hpure⟩ := bind_eq_ok.mp hrest
    obtain ⟨rfl, rfl⟩ := pure_eq_ok.mp hpure
    exact ⟨b, u, bs', hb, hbs, rfl⟩
  · rintro ⟨b, u, bs', hb, hbs, rfl⟩
    exact ⟨b, u, hb, bind_eq_ok.mpr ⟨bs', t, hbs, rfl⟩⟩

/-- **Order-independence**: when two calls that return `Ok` one after the other in a state with `I`
can be swapped, with the same replies and the same state afterwards, then so can any permutation of
a list of calls. -/
theorem mapM_perm {I : σ → Prop} (hkeeps : ∀ {a s t x}, I s → f a s = (.ok x, t) → I t)
    (hswap : ∀ {a b s t u x y}, I s → f a s = (.ok x, t) → f b t = (.ok y, u) →
      ∃ t', f b s = (.ok y, t') ∧ f a t' = (.ok x, u))
    {l l' : List γ} (hperm : l.Perm l') {bs : List β} (hs : I s) (h : l.mapM f s = (.ok bs, t)) :
    ∃ bs', l'.mapM f s = (.ok bs', t) ∧ (l.zip bs).Perm (l'.zip bs') := by
  induction hperm generalizing bs s with
  | nil => exact ⟨bs, h, .refl _⟩
  | cons c _ ih =>
    obtain ⟨b, u, bs', hb, hbs, rfl⟩ := mapM_cons_eq_ok.mp h
    obtain ⟨bs'', hbs'', hzip⟩ := ih (hkeeps hs hb) hbs
    exact ⟨b :: bs'', mapM_cons_eq_ok.mpr ⟨b, u, bs'', hb, hbs'', rfl⟩, hzip.cons _⟩
  | swap c d l =>
    obtain ⟨y, u, ys, hy, hrest, rfl⟩ := mapM_cons_eq_ok.mp h
    obtain ⟨x, v, xs, hx, hxs, rfl⟩ := mapM_cons_eq_ok.mp hrest
    obtain ⟨u', hx', hy'⟩ := hswap hs hy hx
    refine ⟨x :: y :: xs, ?_, .swap _ _ _⟩
    exact mapM_cons_eq_ok.mpr ⟨x, u', y :: xs, hx', mapM_cons_eq_ok.mpr ⟨y, v, xs, hy', hxs, rfl⟩, rfl⟩
  | trans _ _ ih ih' =>
    obtain ⟨bs', hbs', hzip⟩ := ih hs h
    obtain ⟨bs'', hbs'', hzip'⟩ := ih' hs hbs'
    exact ⟨bs'', hbs'', hzip.trans hzip'⟩

end Method

end BoundSeal.Lib

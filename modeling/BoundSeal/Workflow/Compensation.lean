import BoundSeal.Workflow.Runs

/-!
# Compensation of failed workflows

A step that did something which has to be undone declares a compensation step. `cancel`
starts the compensation of every step that has succeeded; `fail` starts that of the
failed step alone, and without one it ends the workflow at once. So a workflow can be
`Failed` although a succeeded step was never compensated.
-/

namespace BoundSeal.Workflow

open Rust Lib Audit WorkflowEngine

def WorkflowDefinition.Declares (d : WorkflowDefinition) (id c : String) : Prop :=
  ∃ step : WorkflowStep, d.steps[id]? = some step ∧ step.compensationStepId = some c

/-- A step that is no compensation target has been leased. -/
def Touched (d : WorkflowDefinition) (e : WorkflowEngine) (id : String) : Prop :=
  id ∉ d.compensationTargets ∧
    (e.stateOf id = some .leased ∨ e.stateOf id = some .succeeded ∨ e.stateOf id = some .failed)

/-- A compensation is to be done or done. -/
def UnderWay (e : WorkflowEngine) (c : String) : Prop :=
  e.stateOf c = some .compensating ∨ e.stateOf c = some .leased ∨ e.stateOf c = some .compensated

/-- The failure of a step leaves no other step behind: each has a compensation that is done, or that
the failure starts or finds under way. -/
def Covered (d : WorkflowDefinition) (e : WorkflowEngine) (failing : String) : Prop :=
  ∀ id c, id ≠ failing → Touched d e id → d.Declares id c →
    d.Declares failing c ∨ e.stateOf c = some .compensated ∨ ((∃ own, d.Declares failing own) ∧ UnderWay e c)

/-- The call reports a lease as failed, and the report is accepted. -/
def ReportsFailed (event : WorkflowEvent) (lease : WorkflowLease) : Prop :=
  ∃ index now evidence receipt, event.input = .fail index now evidence ∧
    event.output = .ok (.receipt receipt) ∧ event.pre.leases[index]? = some lease

variable {d : WorkflowDefinition} {id c : String}

variable {e e' : WorkflowEngine}

theorem Touched.congr (h : Touched d e' id) (hsame : e'.stateOf id = e.stateOf id) :
    Touched d e id := by
  unfold Touched at h ⊢
  rwa [hsame] at h

theorem UnderWay.congr (h : UnderWay e c) (hsame : e'.stateOf c = e.stateOf c) : UnderWay e' c := by
  unfold UnderWay at h ⊢
  rwa [hsame]

theorem WorkflowDefinition.Declares.mem (h : d.Declares id c) : c ∈ d.compensationTargets := by
  obtain ⟨step, hget, hstep⟩ := h
  exact WorkflowDefinition.mem_compensationTargets.mpr ⟨id, step, hget, hstep⟩

theorem EngineInv.compensationOf_eq_some (h : EngineInv d e) :
    e.compensationOf id = some c ↔ d.Declares id c := by
  rw [compensationOf, h.definition]
  exact Option.bind_eq_some_iff

theorem WorkflowDefinition.Declares.unique {c' : String} (h : d.Declares id c)
    (h' : d.Declares id c') : c = c' := by
  obtain ⟨step, hget, hstep⟩ := h
  obtain ⟨step', hget', hstep'⟩ := h'
  rw [hget] at hget'
  cases hget'
  rwa [hstep, Option.some.injEq] at hstep'

theorem EngineInv.exists_stateOf (h : EngineInv d e) (hd : d.Accepted)
    (hc : d.Declares id c) : ∃ x, e.stateOf c = some x := by
  obtain ⟨step, hget, hstep⟩ := hc
  obtain ⟨runtime, hruntime⟩ := exists_getElem?_of_mem ((h.keys c).mpr (hd.compensation id step c hget hstep))
  exact ⟨runtime.state, stateOf_eq_some.mpr ⟨runtime, hruntime, rfl⟩⟩

/-! ## The invariant -/

/-- What holds as long as no compensation was reported failed. -/
structure OnTrack (d : WorkflowDefinition) (e : WorkflowEngine) : Prop where
  targets : ∀ c ∈ d.compensationTargets, e.stateOf c ≠ some .succeeded ∧ e.stateOf c ≠ some .failed
  normal : e.state.isNormal = true → ∀ id, id ∉ d.compensationTargets → e.stateOf id ≠ some .failed
  cancelling : e.state = .cancelling → ∀ id c, Touched d e id → d.Declares id c → UnderWay e c
  failed : e.state = .failed → ∀ id c, Touched d e id → d.Declares id c → e.stateOf c = some .compensated

namespace OnTrack

variable {d : WorkflowDefinition} {e e' : WorkflowEngine}

theorem withNormal (h : OnTrack d e) (hsteps : e'.steps = e.steps)
    (hnormal : e.state.isNormal = true) (hnormal' : e'.state.isNormal = true) : OnTrack d e' := by
  have hstate : ∀ id, e'.stateOf id = e.stateOf id := fun id => by rw [stateOf, hsteps, stateOf]
  exact {
    targets := fun c hc => by rw [hstate]; exact h.targets c hc
    normal := fun _ id hid => by rw [hstate]; exact h.normal hnormal id hid
    cancelling := fun hs => by rw [hs] at hnormal'; cases hnormal'
    failed := fun hs => by rw [hs] at hnormal'; cases hnormal' }

theorem recorded (h : OnTrack d e) (action subjectId outcome : String)
    (metadata : List (String × String)) : OnTrack d (record action subjectId outcome metadata e) :=
  ⟨h.targets, h.normal, h.cancelling, h.failed⟩

theorem advance (hinv : EngineInv d e) (h : OnTrack d e) : OnTrack d (advanceTerminalState e) := by
  obtain heq | ⟨hrunning, -, heq⟩ | ⟨hcancelling, hout, heq⟩ := advanceTerminalState_cases (e := e)
  · rwa [heq]
  · rw [heq]
    exact h.withNormal rfl (by rw [hrunning]; rfl) rfl
  · rw [heq]
    -- A compensation under way that is not outstanding is done.
    refine ⟨h.targets, fun hn => (nomatch hn), fun hs => (nomatch hs), fun _ id c hid hc => ?_⟩
    have hnot := List.any_eq_false.mp hout c (Std.ExtTreeSet.mem_toList.mpr (hinv.targets ▸ hc.mem))
    simp only [Bool.or_eq_true, beq_iff_eq, not_or] at hnot
    rcases h.cancelling hcancelling id c hid hc with hx | hx | hx
    · exact absurd hx hnot.1
    · exact absurd hx hnot.2
    · exact hx

theorem new {genesis : String} (hnew : WorkflowEngine.new d genesis = .ok e) : OnTrack d e := by
  simp only [WorkflowEngine.new, do_eq_ok] at hnew
  obtain ⟨-, rfl⟩ := hnew
  have hpending : ∀ (id : String) (x : WorkflowStepState),
      ((d.steps.map fun id _ => freshRuntime id)[id]?).map (·.state) = some x → x = .pending := by
    intro id x hx
    rw [Std.ExtTreeMap.getElem?_map, Option.map_map] at hx
    obtain ⟨_, -, rfl⟩ := Option.map_eq_some_iff.mp hx
    rfl
  exact {
    targets := fun c _ => ⟨fun hx => (by cases hpending c _ hx), fun hx => (by cases hpending c _ hx)⟩
    normal := fun _ id _ hx => by cases hpending id _ hx
    cancelling := fun hs => by cases hs
    failed := fun hs => by cases hs }

section

variable (hinv : EngineInv d e)

include hinv

theorem marked (h : OnTrack d e) (hselected : e.selected = some id) :
    OnTrack d (markLeased id e) := by
  have hcases := hinv.selected_cases hselected
  have hne : ∀ {k x}, x ≠ .leased → (markLeased id e).stateOf k = some x → e.stateOf k = some x := by
    intro k x hx hk
    rw [stateOf_markLeased] at hk
    split_ifs at hk
    · obtain ⟨_, -, heq⟩ := Option.map_eq_some_iff.mp hk
      exact absurd heq.symm hx
    · exact hk
  exact {
    targets := fun c hc => ⟨fun hx => (h.targets c hc).1 (hne (by decide) hx), fun hx =>
      (h.targets c hc).2 (hne (by decide) hx)⟩
    normal := fun hn k hk hx => h.normal hn k hk (hne (by decide) hx)
    cancelling := fun hs k c hk hc => by
      have hs : e.state = .cancelling := hs
      rcases hcases with ⟨hrunning, -⟩ | ⟨-, hmem, -⟩
      · rw [hrunning] at hs
        cases hs
      · have hkid : k ≠ id := fun heq => hk.1 (heq ▸ hmem)
        have hunder := h.cancelling hs k c (hk.congr (stateOf_markLeased.trans (if_neg hkid))) hc
        by_cases heq : c = id
        · refine .inr (.inl ?_)
          rw [stateOf_markLeased, if_pos heq]
          rcases hunder with hx | hx | hx <;> rw [hx] <;> rfl
        · exact hunder.congr (stateOf_markLeased.trans (if_neg heq))
    failed := fun hs => by
      have hs : e.state = .failed := hs
      rcases hcases with ⟨hrunning, -⟩ | ⟨hcancelling, -⟩
      · rw [hrunning] at hs; cases hs
      · rw [hcancelling] at hs; cases hs }

variable {lease : WorkflowLease}

theorem consumed (h : OnTrack d e) {now : ℕ} {x : WorkflowStepState}
    {evidence : String} (hvalid : e.validateLease lease now = .ok ())
    (htarget : lease.stepId ∈ d.compensationTargets → x = .compensated)
    (hother : lease.stepId ∉ d.compensationTargets → x = .succeeded) : OnTrack d (consume lease x evidence e) := by
  obtain ⟨hactive, -, -, -⟩ := hinv.of_validateLease hvalid
  have hself : ∀ {k}, k = lease.stepId → (consume lease x evidence e).stateOf k = some x := by
    rintro k rfl
    rw [stateOf_consume, if_pos rfl]
    rcases hactive with hx | hx <;> rw [hx] <;> rfl
  have hsame : ∀ {k}, k ≠ lease.stepId → (consume lease x evidence e).stateOf k = e.stateOf k := by
    intro k hk
    rw [stateOf_consume, if_neg hk]
  have htouched : ∀ {k}, Touched d (consume lease x evidence e) k → Touched d e k := by
    intro k hk
    by_cases heq : k = lease.stepId
    · subst heq
      exact ⟨hk.1, .inl (hactive.resolve_right fun hx => hk.1 (hinv.compensating _ hx))⟩
    · exact hk.congr (hsame heq)
  exact {
    targets := fun c hc => by
      by_cases heq : c = lease.stepId
      · rw [hself heq, htarget (heq ▸ hc)]
        decide
      · rw [hsame heq]
        exact h.targets c hc
    normal := fun hn k hk => by
      by_cases heq : k = lease.stepId
      · rw [hself heq, hother (heq ▸ hk)]
        decide
      · rw [hsame heq]
        exact h.normal hn k hk
    cancelling := fun hs k c hk hc => by
      by_cases heq : c = lease.stepId
      · exact .inr (.inr ((hself heq).trans (congrArg some (htarget (heq ▸ hc.mem)))))
      · exact (h.cancelling hs k c (htouched hk) hc).congr (hsame heq)
    failed := fun hs k c hk hc => by
      by_cases heq : c = lease.stepId
      · exact (hself heq).trans (congrArg some (htarget (heq ▸ hc.mem)))
      · rw [hsame heq]
        exact h.failed hs k c (htouched hk) hc }

theorem failure (hd : d.Accepted) (h : OnTrack d e) {now : ℕ}
    {evidence : String} (hvalid : e.validateLease lease now = .ok ())
    (hnot : lease.stepId ∉ d.compensationTargets) (hcompensation : lease.compensation = false)
    (hcovered : Covered d e lease.stepId) : OnTrack d (afterFailure lease (consume lease .failed evidence e)) := by
  have hconsumed : EngineInv d (consume lease .failed evidence e) := hinv.consumed hvalid (by decide)
  have hsame : ∀ {k}, k ≠ lease.stepId → (consume lease .failed evidence e).stateOf k = e.stateOf k := by
    intro k hk
    rw [stateOf_consume, if_neg hk]
  have hcsame : ∀ {c}, c ∈ d.compensationTargets → (consume lease .failed evidence e).stateOf c = e.stateOf c :=
    fun hc => hsame fun heq => hnot (heq ▸ hc)
  rw [afterFailure, hcompensation, if_neg Bool.false_ne_true]
  cases hown : (consume lease .failed evidence e).compensationOf lease.stepId with
  | none =>
    have hnone : ∀ c, ¬ d.Declares lease.stepId c := by
      intro c hc
      rw [hconsumed.compensationOf_eq_some.mpr hc] at hown
      cases hown
    refine ⟨fun c hc => ?_, fun hn => (nomatch hn), fun hs => (nomatch hs), fun _ k c hk hc => ?_⟩
    · show (consume lease .failed evidence e).stateOf c ≠ _ ∧ (consume lease .failed evidence e).stateOf c ≠ _
      rw [hcsame hc]
      exact h.targets c hc
    · by_cases heq : k = lease.stepId
      · exact absurd (heq ▸ hc) (hnone c)
      · refine (hcsame hc.mem).trans ?_
        rcases hcovered k c heq (hk.congr (hsame heq)) hc with hdeclared | hdone | ⟨⟨own, hdeclared⟩, -⟩
        · exact absurd hdeclared (hnone c)
        · exact hdone
        · exact absurd hdeclared (hnone own)
  | some own =>
    have hdeclares := hconsumed.compensationOf_eq_some.mp hown
    have hstateOf : ∀ {k}, (compensate own { consume lease .failed evidence e with state := .cancelling }).stateOf k =
        if k = own then ((consume lease .failed evidence e).stateOf k).map fun _ => .compensating
        else (consume lease .failed evidence e).stateOf k := stateOf_compensate
    refine ⟨fun c hc => ?_, fun hn => (nomatch hn), fun _ k c hk hc => ?_, fun hs => (nomatch hs)⟩
    · rw [hstateOf, hcsame hc]
      by_cases heq : c = own
      · rw [if_pos heq]
        cases e.stateOf c <;> simp
      · rw [if_neg heq]
        exact h.targets c hc
    · by_cases hcown : c = own
      · obtain ⟨x, hx⟩ := hinv.exists_stateOf hd hc
        refine .inl ?_
        rw [hstateOf, if_pos hcown, hcsame hc.mem, hx]
        rfl
      · have hkne : k ≠ lease.stepId := fun heq => hcown ((heq ▸ hc).unique hdeclares)
        have hkown : k ≠ own := fun heq => hk.1 (heq ▸ hdeclares.mem)
        have hk' : Touched d e k := hk.congr (hstateOf.trans ((if_neg hkown).trans (hsame hkne)))
        have hunder : UnderWay e c := by
          rcases hcovered k c hkne hk' hc with hdeclared | hdone | ⟨-, hunder⟩
          · exact absurd (hdeclared.unique hdeclares) hcown
          · exact .inr (.inr hdone)
          · exact hunder
        exact hunder.congr (hstateOf.trans ((if_neg hcown).trans (hcsame hc.mem)))

theorem cancelled (hd : d.Accepted) (h : OnTrack d e) (hnormal : e.state.isNormal = true)
    (hleased : e.anyLeased = false) : OnTrack d e.cancelled := by
  have hids : ∀ {c}, c ∈ compensationToStart { e with state := .cancelling } → c ∈ d.compensationTargets :=
    fun hc => EngineInv.compensationToStart_mem (e := { e with state := .cancelling })
      (hinv.withState rfl rfl rfl (fun hn => nomatch hn) (fun hc => nomatch hc) fun hs => nomatch hs) hc
  have hstateOf : ∀ {k}, e.cancelled.stateOf k =
      if k ∈ compensationToStart { e with state := .cancelling } then
        ((skipPending { e with state := .cancelling }).stateOf k).map fun _ => .compensating
      else (skipPending { e with state := .cancelling }).stateOf k := stateOf_foldl_compensate
  have hskip : ∀ {k}, k ∉ d.compensationTargets → (skipPending { e with state := .cancelling }).stateOf k =
      (e.stateOf k).map fun x => if x = .pending then .skipped else x := by
    intro k hk
    rw [stateOf_skipPending]
    simp only [hinv.targets, if_neg hk]
    rfl
  have hkeep : ∀ {c}, c ∈ d.compensationTargets →
      (skipPending { e with state := .cancelling }).stateOf c = e.stateOf c := by
    intro c hc
    rw [stateOf_skipPending]
    simp only [hinv.targets, if_pos hc, Option.map_id']
    rfl
  -- The only steps that were leased and are no targets have succeeded.
  have hsucceeded : ∀ {k}, Touched d e.cancelled k → e.stateOf k = some .succeeded := by
    intro k ⟨hk, hstate⟩
    rw [hstateOf, if_neg fun hmem => hk (hids hmem), hskip hk] at hstate
    cases hx : e.stateOf k with
    | none => simp [hx] at hstate
    | some x =>
      cases x with
      | succeeded => rfl
      | failed => exact absurd hx (h.normal hnormal k hk)
      | leased =>
        obtain ⟨runtime, hget, hleasedState⟩ := stateOf_eq_some.mp hx
        have hfalse := List.any_eq_false.mp hleased runtime (mem_values.mpr ⟨k, hget⟩)
        simp [hleasedState] at hfalse
      | _ => simp [hx] at hstate
  exact {
    targets := fun c hc => by
      rw [hstateOf, hkeep hc]
      split_ifs
      · cases e.stateOf c <;> simp
      · exact h.targets c hc
    normal := fun hn => by rw [state_cancelled] at hn; cases hn
    cancelling := fun _ k c hk hc => by
      obtain ⟨runtime, hget, hx⟩ := stateOf_eq_some.mp (hsucceeded hk)
      have hmem : c ∈ compensationToStart { e with state := .cancelling } := by
        refine List.mem_filterMap.mpr ⟨(k, runtime), Std.ExtTreeMap.mem_toList_iff_getElem?_eq_some.mpr hget, ?_⟩
        have hnot : e.compensationTargets.contains k = false := by
          rw [hinv.targets]
          exact Bool.eq_false_iff.mpr fun hmem => hk.1 (Std.ExtTreeSet.mem_iff_contains.mpr hmem)
        show (if e.compensationTargets.contains k = true then none
          else if runtime.state = .succeeded then e.compensationOf k else none) = some c
        rw [hnot, if_neg Bool.false_ne_true, if_pos hx]
        exact hinv.compensationOf_eq_some.mpr hc
      obtain ⟨x, hx⟩ := hinv.exists_stateOf hd hc
      refine .inl ?_
      rw [hstateOf, if_pos hmem, hkeep hc.mem, hx]
      rfl
    failed := fun hs => by rw [state_cancelled] at hs; cases hs }

end

theorem stopped (h : OnTrack d e) : OnTrack d
    { e with state := .emergencyStopped, steps := e.steps.map fun _ r => stopStep r } where
  targets := fun c hc => by
    have hold := h.targets c hc
    rw [stateOf_stop]
    rw [stateOf] at hold
    cases hget : e.steps[c]? with
    | none => simp
    | some runtime =>
      rw [hget] at hold
      simp only [Option.map_some, ne_eq, Option.some.injEq] at hold ⊢
      unfold stopStep
      split_ifs
      · simp
      · exact hold
  normal := fun hn => nomatch hn
  cancelling := fun hs => nomatch hs
  failed := fun hs => nomatch hs

/-- **Every call keeps the workflow on track**, unless it reports a compensation as failed. -/
theorem effect (hd : d.Accepted) {h h' : Held} (hinv : h.Inv d) {call : WorkflowCall}
    {r : Except WorkflowError WorkflowReply} (htrack : OnTrack d h.engine) (heffect : Effect h call r h')
    (hcovered : ∀ lease, ReportsFailed ⟨h, call, r, h'⟩ lease → lease.compensation = false →
      Covered d h.engine lease.stepId)
    (hcompensation : ∀ lease, ReportsFailed ⟨h, call, r, h'⟩ lease → lease.compensation = false) :
    OnTrack d h'.engine := by
  have he := hinv.engine
  cases heffect with
  | refused => exact htrack
  | started hs | paused hs | resumed hs => exact htrack.withNormal rfl (by rw [hs]; rfl) rfl
  | cancelled hs hleased =>
    have hnormal : h.engine.state.isNormal = true := by rcases hs with hs | hs <;> rw [hs] <;> rfl
    exact (htrack.cancelled he hd hnormal hleased).advance he.cancelled
  | stopped => exact htrack.stopped.recorded _ _ _ _
  | noneReady => exact htrack.advance he
  | leaseLost _ _ _ _ hselected => exact htrack.marked he hselected
  | leased _ _ _ _ _ hselected => exact (htrack.marked he hselected).recorded _ _ _ _
  | completed _ _ evidence lease _ hlease hvalid =>
    have hiff := hinv.leases lease (List.mem_of_getElem? hlease)
    have hdone : doneState lease ≠ .compensating := by
      unfold doneState
      split_ifs <;> decide
    refine OnTrack.advance ((he.consumed hvalid hdone).recorded _ _ _ _) (OnTrack.recorded ?_ _ _ _ _)
    refine htrack.consumed he hvalid (fun hmem => ?_) fun hmem => ?_
    · rw [doneState, if_pos (hiff.mpr hmem)]
    · rw [doneState, if_neg fun hc => hmem (hiff.mp hc)]
  | failed index now evidence lease receipt hlease hvalid =>
    have hreports : ∀ post, ReportsFailed ⟨h, .fail index now evidence, .ok (.receipt receipt), post⟩ lease :=
      fun _ => ⟨index, now, evidence, receipt, rfl, rfl, hlease⟩
    have hfalse := hcompensation lease (hreports _)
    have hnot : lease.stepId ∉ d.compensationTargets := fun hmem => by
      rw [(hinv.leases lease (List.mem_of_getElem? hlease)).mpr hmem] at hfalse
      cases hfalse
    exact (htrack.failure he hd hvalid hnot hfalse (hcovered lease (hreports _) hfalse)).recorded _ _ _ _

end OnTrack

/-- **Compensation**: in every run of an accepted definition whose failures leave no step behind, a
workflow that is `Failed` has compensated every step that has succeeded or failed and declares a
compensation, unless a compensation lease was reported failed. -/
theorem compensated_of_failed {workflowId runId policy genesis : String} {steps : List WorkflowStep}
    {d : WorkflowDefinition} {e : WorkflowEngine} {es : List WorkflowEvent} {h : Held}
    (hdefinition : WorkflowDefinition.new workflowId runId policy steps = .ok d)
    (hnew : WorkflowEngine.new d genesis = .ok e) (hrun : Run Held.step ⟨e, []⟩ es h)
    (hcovered : ∀ event ∈ es, ∀ lease, ReportsFailed event lease → lease.compensation = false →
      Covered d event.pre.engine lease.stepId)
    (hfailed : h.engine.state = .failed) :
    (∃ event ∈ es, ∃ lease, ReportsFailed event lease ∧ lease.compensation = true) ∨
      ∀ id c, d.Declares id c → h.engine.stateOf id = some .succeeded ∨
        h.engine.stateOf id = some .failed → h.engine.stateOf c = some .compensated := by
  have hd := WorkflowDefinition.accepted_of_new hdefinition
  by_cases hreported : ∃ event ∈ es, ∃ lease, ReportsFailed event lease ∧ lease.compensation = true
  · exact .inl hreported
  · right
    have htrack : OnTrack d h.engine := by
      refine hrun.invariant (fun es h => (∀ event ∈ es, ∀ lease, ReportsFailed event lease →
        lease.compensation = false ∧ Covered d event.pre.engine lease.stepId) → OnTrack d h.engine)
        (fun _ => .new hnew) ?_ ?_
      · intro es t call r u hes ih hs hall
        have hlast := hall ⟨t, call, r, u⟩ (List.mem_append_right _ (List.mem_singleton_self _))
        have ht := ih fun event hevent => hall event (List.mem_append_left _ hevent)
        exact ht.effect hd (.run hnew hes) (effect_of_step hs)
          (fun lease hl _ => (hlast lease hl).2) fun lease hl => (hlast lease hl).1
      · intro event hevent lease hl
        have hfalse : lease.compensation = false :=
          Bool.eq_false_iff.mpr fun htrue => hreported ⟨event, hevent, lease, hl, htrue⟩
        exact ⟨hfalse, hcovered event hevent lease hl hfalse⟩
    intro id c hc hstate
    -- A target is neither succeeded nor failed, so the step is another one.
    have hid : id ∉ d.compensationTargets := fun hmem =>
      hstate.elim (htrack.targets id hmem).1 (htrack.targets id hmem).2
    exact htrack.failed hfailed id c ⟨hid, .inr hstate⟩ hc

/-- A step without compensation fails after an object was registered: the workflow is `Failed`, and
the cleanup step was never started. -/
theorem failed_without_compensation : ∃ d e es h,
    WorkflowDefinition.new "w" "r" zeroDigest ownedObjectSteps = .ok d ∧ WorkflowEngine.new d zeroDigest = .ok e ∧
    Run Held.step ⟨e, []⟩ es h ∧ (∀ event ∈ es, event.input ≠ .emergencyStop) ∧
    (∀ event ∈ es, ∀ lease, ReportsFailed event lease → lease.compensation = false) ∧ h.engine.state = .failed ∧
    d.Declares "a" "c" ∧ h.engine.stateOf "a" = some .succeeded ∧ h.engine.stateOf "c" = some .pending := by
  obtain ⟨es, h, hrun, heq⟩ := exists_run_of_map_runCalls failingCalls_run
  simp only [Prod.mk.injEq, List.map_cons, List.cons.injEq] at heq
  obtain ⟨⟨hreports, hfailed, ha, hc, -⟩, -⟩ := heq
  have hdeclares : ownedObjects.Declares "a" "c" := by
    have hget : (ownedObjects.steps["a"]?.bind WorkflowStep.compensationStepId) = some "c" := by decide +kernel
    exact Option.bind_eq_some_iff.mp hget
  refine ⟨ownedObjects, ownedObjectsEngine, es, h, eq_ok_unwrap _ _, eq_ok_unwrap _ _, hrun,
    fun event hevent hstop => ?_,
    ?_, hfailed, hdeclares, ha, hc⟩
  · have hcheck := List.all_eq_true.mp hreports event hevent
    rw [hstop] at hcheck
    cases hcheck
  · rintro event hevent lease ⟨index, now, evidence, receipt, hinput, -, hlease⟩
    have hcheck := List.all_eq_true.mp hreports event hevent
    rw [hinput] at hcheck
    simpa [hlease] using hcheck

/-- Two steps succeed, the second registration fails, and the cleanup is done. -/
def cleanedUpCalls : List WorkflowCall :=
  [.start, .leaseNext "x" 0 10, .complete 0 1 zeroDigest, .leaseNext "x" 0 10, .complete 1 1 zeroDigest,
    .leaseNext "x" 0 10, .fail 2 1 zeroDigest, .leaseNext "x" 0 10, .complete 3 1 zeroDigest]

/-- A failure report of the event is one of `d`. -/
def onlyFailsD (event : WorkflowEvent) : Bool :=
  match event.input with
  | .fail index _ _ => event.pre.leases[index]?.all fun lease => lease.stepId == "d" && !lease.compensation
  | _ => true

def failsLeased (event : WorkflowEvent) : Bool :=
  match event.input, event.output with
  | .fail index _ _, .ok (.receipt _) => event.pre.leases[index]?.isSome
  | _, _ => false

/-- The registration that fails shares its compensation with the one that succeeded, so nothing is
left behind. -/
theorem compensated_of_failed_example : ∃ d e es h,
    WorkflowDefinition.new "w" "r" zeroDigest ownedObjectSteps = .ok d ∧ WorkflowEngine.new d zeroDigest = .ok e ∧
    Run Held.step ⟨e, []⟩ es h ∧ (∃ event ∈ es, ∃ lease, ReportsFailed event lease) ∧
    h.engine.state = .failed ∧ d.Declares "a" "c" ∧ h.engine.stateOf "a" = some .succeeded ∧
    h.engine.stateOf "d" = some .failed ∧ h.engine.stateOf "c" = some .compensated := by
  have hcalls : (runCalls Held.step ⟨ownedObjectsEngine, []⟩ cleanedUpCalls).map (fun run =>
      (run.1.all onlyFailsD, run.1[6]?.map failsLeased, run.2.engine.state, ["a", "d"].map run.2.engine.stateOf)) =
        some (true, some true, .failed, [some .succeeded, some .failed]) := by
    decide +kernel
  obtain ⟨es, h, hrun, heq⟩ := exists_run_of_map_runCalls hcalls
  simp only [Prod.mk.injEq, List.map_cons, List.cons.injEq] at heq
  obtain ⟨hfails, hreported, hfailed, ha, hd, -⟩ := heq
  have hdefinition : WorkflowDefinition.new "w" "r" zeroDigest ownedObjectSteps = .ok ownedObjects := eq_ok_unwrap _ _
  have hnew : WorkflowEngine.new ownedObjects zeroDigest = .ok ownedObjectsEngine := eq_ok_unwrap _ _
  have hdeclares : ∀ id ∈ ["a", "d"], ownedObjects.Declares id "c" := by
    have hget : ∀ id ∈ ["a", "d"], (ownedObjects.steps[id]?.bind WorkflowStep.compensationStepId) = some "c" := by
      decide +kernel
    exact fun id hid => Option.bind_eq_some_iff.mp (hget id hid)
  -- every failure is that of "d", which declares the one compensation there is
  have hlease : ∀ event ∈ es, ∀ lease, ReportsFailed event lease →
      lease.stepId = "d" ∧ lease.compensation = false := by
    rintro event hevent lease ⟨index, now, evidence, receipt, hinput, -, hlease⟩
    have hcheck := List.all_eq_true.mp hfails event hevent
    rw [onlyFailsD, hinput] at hcheck
    simpa [hlease] using hcheck
  have hcovered : ∀ event ∈ es, ∀ lease, ReportsFailed event lease → lease.compensation = false →
      Covered ownedObjects event.pre.engine lease.stepId := by
    intro event hevent lease hreports _ id c _ _ hc
    have honly : ∀ c ∈ ownedObjects.compensationTargets.toList, c = "c" := by decide +kernel
    rw [(hlease event hevent lease hreports).1, honly c (Std.ExtTreeSet.mem_toList.mpr hc.mem)]
    exact .inl (hdeclares "d" (by simp))
  refine ⟨ownedObjects, ownedObjectsEngine, es, h, hdefinition, hnew, hrun, ?_, hfailed,
    hdeclares "a" (by simp), ha, hd, ?_⟩
  · obtain ⟨event, hevent, hreports⟩ := Option.map_eq_some_iff.mp hreported
    rw [failsLeased] at hreports
    split at hreports
    · next index now evidence receipt hinput houtput =>
      obtain ⟨lease, hget⟩ := Option.isSome_iff_exists.mp hreports
      exact ⟨event, List.mem_of_getElem? hevent, lease, index, now, evidence, receipt, hinput, houtput, hget⟩
    · cases hreports
  · rcases compensated_of_failed hdefinition hnew hrun hcovered hfailed with ⟨event, hevent, lease, hreports, htrue⟩ | h
    · rw [(hlease event hevent lease hreports).2] at htrue
      cases htrue
    · exact h "a" "c" (hdeclares "a" (by simp)) (.inl ha)

end BoundSeal.Workflow

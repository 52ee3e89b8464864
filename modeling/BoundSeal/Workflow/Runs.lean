import BoundSeal.Workflow.Engine

/-!
# Runs of the workflow engine

`Effect` says once what a call can do to the engine and to the leases handed out, and
`effect_of_step` that it does nothing else. Every invariant is then kept effect by
effect:

- a step with an active lease is leased or is being compensated;
- a step that is being compensated is a compensation target, and so is the step of a
  compensation lease;
- before a cancellation or a failure the targets are pending;
- a completed workflow has its other steps succeeded, and a stopped one has no lease.
-/

namespace BoundSeal.Workflow

open Rust Lib Audit Std
open Method (after check_bind check_bind_error check_eq_ok ofExcept_eq_ok wp_bind wp_check_bind)

variable {x : WorkflowStepState}

namespace WorkflowEngine

variable {e : WorkflowEngine} {id k : String}

def leaseOf (e : WorkflowEngine) (id : String) : Option String := e.steps[id]?.bind (·.activeLeaseId)

/-! ## What the updates do to the steps -/

theorem stateOf_eq_some :
    e.stateOf id = some x ↔ ∃ runtime : WorkflowStepRuntime, e.steps[id]? = some runtime ∧ runtime.state = x :=
  Option.map_eq_some_iff

theorem leaseOf_eq_some {l : String} :
    e.leaseOf id = some l ↔ ∃ runtime : WorkflowStepRuntime, e.steps[id]? = some runtime ∧
      runtime.activeLeaseId = some l :=
  Option.bind_eq_some_iff

variable {f : WorkflowStepRuntime → WorkflowStepRuntime}

theorem getElem?_updateStep :
    (updateStep id f e).steps[k]? = (e.steps[k]?).map fun runtime => if k = id then f runtime else runtime := by
  simp only [updateStep, ExtTreeMap.getElem?_map]

theorem stateOf_updateStep (hf : ∀ runtime, (f runtime).state = x) :
    (updateStep id f e).stateOf k = if k = id then (e.stateOf k).map fun _ => x else e.stateOf k := by
  rw [stateOf, getElem?_updateStep, stateOf]
  by_cases hk : k = id <;> cases e.steps[k]? <;> simp [hk, hf]

theorem leaseOf_updateStep : (updateStep id f e).leaseOf k =
      if k = id then (e.steps[k]?).bind fun runtime => (f runtime).activeLeaseId else e.leaseOf k := by
  rw [leaseOf, getElem?_updateStep, leaseOf]
  by_cases hk : k = id <;> cases e.steps[k]? <;> simp [hk]

theorem mem_steps_updateStep : k ∈ (updateStep id f e).steps ↔ k ∈ e.steps := ExtTreeMap.mem_map

theorem stateOf_compensate :
    (compensate id e).stateOf k = if k = id then (e.stateOf k).map fun _ => .compensating else e.stateOf k :=
  stateOf_updateStep fun _ => rfl

theorem leaseOf_compensate : (compensate id e).leaseOf k = e.leaseOf k := by
  rw [compensate, leaseOf_updateStep]
  by_cases hk : k = id
  · rw [if_pos hk, leaseOf]
  · rw [if_neg hk]

theorem stateOf_markLeased :
    (markLeased id e).stateOf k = if k = id then (e.stateOf k).map fun _ => .leased else e.stateOf k :=
  stateOf_updateStep (f := fun runtime => { runtime with
    attempts := saturatingAdd runtime.attempts 1, state := .leased, activeLeaseId := some e.nextLeaseId })
    fun _ => rfl

theorem leaseOf_markLeased_of_ne (h : k ≠ id) : (markLeased id e).leaseOf k = e.leaseOf k := by
  show (updateStep id _ e).leaseOf k = e.leaseOf k
  rw [leaseOf_updateStep, if_neg h]

section Consume

variable {lease : WorkflowLease} {x : WorkflowStepState} {evidence : String}

theorem stateOf_consume : (consume lease x evidence e).stateOf k =
    if k = lease.stepId then (e.stateOf k).map fun _ => x else e.stateOf k :=
  stateOf_updateStep (f := fun runtime => { runtime with
    state := x, activeLeaseId := none, evidenceSha256 := some evidence }) fun _ => rfl

theorem leaseOf_consume : (consume lease x evidence e).leaseOf k = if k = lease.stepId then none else e.leaseOf k := by
  show (updateStep lease.stepId _ e).leaseOf k = _
  rw [leaseOf_updateStep]
  simp

end Consume

theorem stateOf_stop : ({ e with state := .emergencyStopped, steps := e.steps.map fun _ r => stopStep r } :
    WorkflowEngine).stateOf k = (e.steps[k]?).map fun r => (stopStep r).state := by
  simp [stateOf, ExtTreeMap.getElem?_map, Function.comp_def]

theorem stateOf_skipPending : (skipPending e).stateOf k = (e.stateOf k).map fun x =>
    if k ∈ e.compensationTargets then x else if x = .pending then .skipped else x := by
  rw [stateOf, stateOf, skipPending, ExtTreeMap.getElem?_map]
  cases e.steps[k]? with
  | none => rfl
  | some runtime =>
    simp only [Option.map_some, ExtTreeSet.mem_iff_contains]
    split_ifs <;> rfl

theorem leaseOf_skipPending : (skipPending e).leaseOf k = e.leaseOf k := by
  rw [leaseOf, leaseOf, skipPending, ExtTreeMap.getElem?_map]
  cases e.steps[k]? with
  | none => rfl
  | some runtime =>
    simp only [Option.map_some, Option.bind_some]
    split_ifs <;> rfl

theorem stateOf_foldl_compensate {ids : List String} :
    (ids.foldl (fun e id => compensate id e) e).stateOf k =
      if k ∈ ids then (e.stateOf k).map fun _ => .compensating else e.stateOf k := by
  induction ids generalizing e with
  | nil => rfl
  | cons c ids ih =>
    rw [List.foldl_cons, ih, stateOf_compensate]
    by_cases hc : k = c <;> by_cases hmem : k ∈ ids <;> simp [hc, hmem, Function.comp_def]

theorem advanceTerminalState_cases : advanceTerminalState e = e ∨
    (e.state = .running ∧ e.allNormalSucceeded = true ∧
      advanceTerminalState e = moveTo .completed "workflow_completed" "completed" e) ∨
    (e.state = .cancelling ∧ e.compensationOutstanding = false ∧
      advanceTerminalState e = moveTo .failed "workflow_cancelled" "compensated_and_stopped" e) := by
  unfold advanceTerminalState
  split_ifs with hrunning hall hcancelling hout
  · exact .inr (.inl ⟨hrunning, hall, rfl⟩)
  · exact .inl rfl
  · exact .inl rfl
  · exact .inr (.inr ⟨hcancelling, by simpa using hout, rfl⟩)
  · exact .inl rfl

@[simp] theorem steps_advanceTerminalState : (advanceTerminalState e).steps = e.steps := by
  obtain heq | ⟨-, -, heq⟩ | ⟨-, -, heq⟩ := advanceTerminalState_cases (e := e) <;> rw [heq] <;> rfl

theorem stateOf_advanceTerminalState : (advanceTerminalState e).stateOf k = e.stateOf k := by
  rw [stateOf, steps_advanceTerminalState, stateOf]

/-- The engine that `cancel` leaves before `advance_terminal_state`. -/
def cancelled (e : WorkflowEngine) : WorkflowEngine :=
  recordState "workflow_cancel_requested" "cancelling"
    ((compensationToStart { e with state := .cancelling }).foldl (fun e id => compensate id e)
      (skipPending { e with state := .cancelling }))

theorem state_cancelled (e : WorkflowEngine) : e.cancelled.state = .cancelling := by
  have hfold : ∀ (ids : List String) (e : WorkflowEngine),
      (ids.foldl (fun e id => compensate id e) e).state = e.state := by
    intro ids
    induction ids with
    | nil => exact fun _ => rfl
    | cons c ids ih => exact fun e => ih (compensate c e)
  exact hfold _ _

end WorkflowEngine

/-! ## What a call can do -/

open WorkflowEngine

/-- The checks of `lease_next`. -/
def leaseChecks (workerId : String) (duration : ℕ) (e : WorkflowEngine) : Except WorkflowError Unit := do
  failIf ((e.state ≠ .running ∧ e.state ≠ .cancelling) ∨ duration = 0 ∨ duration > 60000) .invalidWorkflowState
  validateIdentifier workerId "worker_id"

def leaseFor (id workerId : String) (now duration : ℕ) (e : WorkflowEngine) : WorkflowLease where
  leaseId := e.nextLeaseId
  workflowId := e.definition.workflowId
  definitionSha256 := e.definition.definitionSha256
  stepId := id
  workerId := workerId
  attempt := (markLeased id e).attemptsOf id
  issuedAtMilliseconds := now
  expiresAtMilliseconds := now + duration
  compensation := e.compensationCandidate id

def leasedEngine (id : String) (e : WorkflowEngine) : WorkflowEngine :=
  record "workflow_step_leased" id (if e.compensationCandidate id then "compensation_leased" else "leased")
    [("lease_id", e.nextLeaseId)] (markLeased id e)

/-- What `lease_next` does with the step it has selected. -/
def leaseSelected (id workerId : String) (now duration : ℕ) (e : WorkflowEngine) :
    Except WorkflowError (Option WorkflowLease) × WorkflowEngine :=
  if maxStepAttempts ≤ e.attemptsOf id then (.error .stepNotReady, e)
  else if now + duration ≤ u64Max then (.ok (some (leaseFor id workerId now duration e)), leasedEngine id e)
  else (.error .invalidLease, markLeased id e)

/-- **What `lease_next` does.** -/
theorem leaseNext_eq (workerId : String) (now duration : ℕ) (e : WorkflowEngine) :
    leaseNext workerId now duration e = match leaseChecks workerId duration e, e.selected with
      | .error error, _ => (.error error, e)
      | .ok _, none => (.ok none, advanceTerminalState e)
      | .ok _, some id => leaseSelected id workerId now duration e := by
  rw [leaseChecks]
  cases hstate : failIf ((e.state ≠ .running ∧ e.state ≠ .cancelling) ∨ duration = 0 ∨
      duration > 60000) WorkflowError.invalidWorkflowState with
  | error _ => exact check_bind_error (s := e) hstate
  | ok _ =>
    refine (check_bind (s := e) hstate).trans ?_
    cases validateIdentifier workerId "worker_id" with
    | error _ => exact check_bind_error (s := e) rfl
    | ok _ =>
      refine (check_bind (s := e) (by rfl)).trans ((check_bind (s := e) (by rfl)).trans ?_)
      dsimp only
      cases e.selected with
      | none => rfl
      | some id =>
        by_cases hattempts : maxStepAttempts ≤ e.attemptsOf id
        · have hlimit : failIf (e.attemptsOf id ≥ maxStepAttempts) WorkflowError.stepNotReady = .error .stepNotReady :=
            failIf_eq_error.mpr ⟨hattempts, rfl⟩
          exact (check_bind_error (s := e) hlimit).trans (if_pos hattempts).symm
        · have hlimit : failIf (e.attemptsOf id ≥ maxStepAttempts) WorkflowError.stepNotReady = .ok () :=
            failIf_eq_ok.mpr hattempts
          refine ((check_bind (s := e) hlimit).trans ?_).trans (if_neg hattempts).symm
          -- from here on the step is leased, whether the caller gets the lease or not
          by_cases hrange : now + duration ≤ u64Max
          · have hexpiry : okOr (checkedAdd now duration) WorkflowError.invalidLease = .ok (now + duration) :=
              okOr_eq_ok.mpr (checkedAdd_eq_some.mpr ⟨hrange, rfl⟩)
            exact (check_bind (s := markLeased id e) hexpiry).trans (if_pos hrange).symm
          · have hexpiry : okOr (checkedAdd now duration) WorkflowError.invalidLease = .error .invalidLease := by
              rw [checkedAdd, if_neg hrange]
              rfl
            exact (check_bind_error (s := markLeased id e) hexpiry).trans (if_neg hrange).symm

inductive Effect (h : Held) : WorkflowCall → Except WorkflowError WorkflowReply → Held → Prop
  | refused (call : WorkflowCall) (error : WorkflowError) : Effect h call (.error error) h
  | started : h.engine.state = .created →
      Effect h .start (.ok .done) ⟨moveTo .running "workflow_started" "running" h.engine, h.leases⟩
  | paused : h.engine.state = .running → h.engine.anyLeased = false →
      Effect h .pause (.ok .done) ⟨moveTo .paused "workflow_paused" "paused" h.engine, h.leases⟩
  | resumed : h.engine.state = .paused →
      Effect h .resume (.ok .done) ⟨moveTo .running "workflow_resumed" "running" h.engine, h.leases⟩
  | cancelled : h.engine.state = .running ∨ h.engine.state = .paused → h.engine.anyLeased = false →
      Effect h .cancel (.ok .done) ⟨advanceTerminalState h.engine.cancelled, h.leases⟩
  | stopped : h.engine.state.isTerminal = false →
      Effect h .emergencyStop (.ok .done) ⟨recordState "workflow_emergency_stopped" "emergency_stopped"
        { h.engine with state := .emergencyStopped, steps := h.engine.steps.map fun _ r => stopStep r }, h.leases⟩
  | noneReady (workerId : String) (now duration : ℕ) : h.engine.state = .running ∨
      h.engine.state = .cancelling → h.engine.selected = none →
      Effect h (.leaseNext workerId now duration) (.ok (.leased none)) ⟨advanceTerminalState h.engine, h.leases⟩
  /-- The step is leased, but the time at which the lease expires is out of range. -/
  | leaseLost (workerId : String) (now duration : ℕ) (stepId : String) : h.engine.selected = some stepId →
      Effect h (.leaseNext workerId now duration) (.error .invalidLease) ⟨markLeased stepId h.engine, h.leases⟩
  | leased (workerId : String) (now duration : ℕ) (lease : WorkflowLease) (outcome : String) :
      h.engine.selected = some lease.stepId →
      lease.compensation = h.engine.compensationCandidate lease.stepId →
      Effect h (.leaseNext workerId now duration) (.ok (.leased (some lease)))
        ⟨record "workflow_step_leased" lease.stepId outcome [("lease_id", h.engine.nextLeaseId)]
          (markLeased lease.stepId h.engine), h.leases ++ [lease]⟩
  | completed (index now : ℕ) (evidence : String) (lease : WorkflowLease) (receipt : WorkflowStepReceipt) :
      h.leases[index]? = some lease → h.engine.validateLease lease now = .ok () →
      Effect h (.complete index now evidence) (.ok (.receipt receipt))
        ⟨advanceTerminalState (record "workflow_step_completed" lease.stepId (doneState lease).debugName
          [("evidence_sha256", evidence)] (consume lease (doneState lease) evidence h.engine)), h.leases⟩
  | failed (index now : ℕ) (evidence : String) (lease : WorkflowLease) (receipt : WorkflowStepReceipt) :
      h.leases[index]? = some lease → h.engine.validateLease lease now = .ok () →
      Effect h (.fail index now evidence) (.ok (.receipt receipt))
        ⟨record "workflow_step_failed" lease.stepId "failed" [("evidence_sha256", evidence)]
          (afterFailure lease (consume lease .failed evidence h.engine)), h.leases⟩

private theorem Effect.of_plain {h : Held} {call : WorkflowCall} {r : Except WorkflowError WorkflowReply}
    {e : WorkflowEngine} (heffect : Effect h call r ⟨e, h.leases⟩) (hnone : newLease r = []) :
    Effect h call r ⟨e, h.leases ++ newLease r⟩ := by
  rwa [hnone, List.append_nil]

variable {call : WorkflowCall}

theorem effect_of_method {h : Held} {method : Method WorkflowError WorkflowEngine WorkflowReply}
    (hmethod : call.method h.leases = some method) :
    method.wp (fun r e => Effect h call r ⟨e, h.leases ++ newLease r⟩) h.engine := by
  cases call with
  | start =>
    cases hmethod
    rw [map_eq_pure_bind, wp_bind, start]
    refine wp_check_bind (fun e _ => .of_plain (.refused _ e) rfl) fun _ hok => ?_
    rw [failIf_eq_ok, not_not] at hok
    exact .of_plain (.started hok) rfl
  | pause =>
    cases hmethod
    rw [map_eq_pure_bind, wp_bind, pause]
    refine wp_check_bind (fun e _ => .of_plain (.refused _ e) rfl) fun _ hok => ?_
    rw [failIf_eq_ok, not_or, not_not, Bool.not_eq_true] at hok
    exact .of_plain (.paused hok.1 hok.2) rfl
  | resume =>
    cases hmethod
    rw [map_eq_pure_bind, wp_bind, resume]
    refine wp_check_bind (fun e _ => .of_plain (.refused _ e) rfl) fun _ hok => ?_
    rw [failIf_eq_ok, not_not] at hok
    exact .of_plain (.resumed hok) rfl
  | cancel =>
    cases hmethod
    rw [map_eq_pure_bind, wp_bind, cancel]
    refine wp_check_bind (fun e _ => .of_plain (.refused _ e) rfl) fun _ hstate => ?_
    refine wp_check_bind (fun e _ => .of_plain (.refused _ e) rfl) fun _ hleased => ?_
    rw [failIf_eq_ok, not_and_or, not_not, not_not] at hstate
    rw [failIf_eq_ok, Bool.not_eq_true] at hleased
    exact .of_plain (.cancelled hstate hleased) rfl
  | emergencyStop =>
    cases hmethod
    rw [map_eq_pure_bind, wp_bind, emergencyStop]
    refine wp_check_bind (fun e _ => .of_plain (.refused _ e) rfl) fun _ hok => ?_
    rw [failIf_eq_ok, Bool.not_eq_true] at hok
    exact .of_plain (.stopped hok) rfl
  | leaseNext workerId now duration =>
    cases hmethod
    rw [map_eq_pure_bind, wp_bind, Method.wp, leaseNext_eq]
    cases hchecks : leaseChecks workerId duration h.engine with
    | error e => exact .of_plain (.refused _ e) rfl
    | ok _ =>
      simp only [leaseChecks, do_eq_ok, not_or, not_and_or, not_not] at hchecks
      cases hselected : h.engine.selected with
      | none => exact .of_plain (.noneReady workerId now duration hchecks.1.1 hselected) rfl
      | some stepId =>
        dsimp only [leaseSelected]
        split_ifs
        · exact .of_plain (.refused _ _) rfl
        · exact .leased workerId now duration _ _ hselected rfl
        · exact .of_plain (.leaseLost workerId now duration stepId hselected) rfl
  | complete index now evidence =>
    obtain ⟨lease, hlease, rfl⟩ := Option.map_eq_some_iff.mp hmethod
    rw [map_eq_pure_bind, wp_bind, complete]
    refine wp_check_bind (fun e _ => .of_plain (.refused _ e) rfl) fun _ _ => ?_
    refine wp_check_bind (fun e _ => .of_plain (.refused _ e) rfl) fun _ hvalid => ?_
    exact .of_plain (.completed index now evidence lease _ hlease hvalid) rfl
  | fail index now evidence =>
    obtain ⟨lease, hlease, rfl⟩ := Option.map_eq_some_iff.mp hmethod
    rw [map_eq_pure_bind, wp_bind, fail]
    refine wp_check_bind (fun e _ => .of_plain (.refused _ e) rfl) fun _ _ => ?_
    refine wp_check_bind (fun e _ => .of_plain (.refused _ e) rfl) fun _ hvalid => ?_
    exact .of_plain (.failed index now evidence lease _ hlease hvalid) rfl

variable {r : Except WorkflowError WorkflowReply}

/-- **A call does nothing else.** -/
theorem effect_of_step {h h' : Held} (hs : h.step call = some (r, h')) : Effect h call r h' := by
  obtain ⟨method, hmethod, heq⟩ := Option.map_eq_some_iff.mp hs
  cases heq
  exact effect_of_method hmethod

/-! ## The invariant -/

/-- No step was cancelled and none has failed. -/
def WorkflowState.isNormal : WorkflowState → Bool
  | created | running | paused | completed => true
  | _ => false

structure EngineInv (d : WorkflowDefinition) (e : WorkflowEngine) : Prop where
  definition : e.definition = d
  targets : e.compensationTargets = d.compensationTargets
  keys : ∀ id, id ∈ e.steps ↔ id ∈ d.steps
  active : ∀ id l, e.leaseOf id = some l → e.stateOf id = some .leased ∨ e.stateOf id = some .compensating
  compensating : ∀ id, e.stateOf id = some .compensating → id ∈ d.compensationTargets
  normal : e.state.isNormal = true → ∀ id ∈ d.compensationTargets, ∀ x, e.stateOf id = some x → x = .pending
  completed : e.state = .completed → ∀ id, id ∉ d.compensationTargets → ∀ x, e.stateOf id = some x → x = .succeeded
  stopped : e.state = .emergencyStopped → ∀ id, e.leaseOf id = none

variable {lease : WorkflowLease} {evidence : String} {now : ℕ}

namespace EngineInv

variable {d : WorkflowDefinition} {e e' : WorkflowEngine}

section

variable (h : EngineInv d e)

include h

theorem withState (hsteps : e'.steps = e.steps) (hdefinition : e'.definition = e.definition)
    (htargets : e'.compensationTargets = e.compensationTargets)
    (hnormal : e'.state.isNormal = true → e.state.isNormal = true)
    (hcompleted : e'.state = .completed →
      ∀ id, id ∉ d.compensationTargets → ∀ x, e.stateOf id = some x → x = .succeeded)
    (hstopped : e'.state = .emergencyStopped → e.state = .emergencyStopped) : EngineInv d e' := by
  have hstate : ∀ id, e'.stateOf id = e.stateOf id := fun id => by rw [stateOf, hsteps, stateOf]
  have hlease : ∀ id, e'.leaseOf id = e.leaseOf id := fun id => by rw [leaseOf, hsteps, leaseOf]
  exact {
    definition := hdefinition.trans h.definition
    targets := htargets.trans h.targets
    keys := fun id => by rw [hsteps, h.keys]
    active := fun id l => by rw [hlease, hstate]; exact h.active id l
    compensating := fun id => by rw [hstate]; exact h.compensating id
    normal := fun hstate' id hid x => by rw [hstate]; exact h.normal (hnormal hstate') id hid x
    completed := fun hstate' id hid x => by rw [hstate]; exact hcompleted hstate' id hid x
    stopped := fun hstate' id => by rw [hlease]; exact h.stopped (hstopped hstate') id }

theorem recorded (action subjectId outcome : String) (metadata : List (String × String)) :
    EngineInv d (record action subjectId outcome metadata e) :=
  h.withState rfl rfl rfl (fun hn => hn) (fun hc => h.completed hc) fun hs => hs

theorem movedTo {state : WorkflowState} {action outcome : String} (hnormal : e.state.isNormal = true)
    (hstate : state = .running ∨ state = .paused) : EngineInv d (moveTo state action outcome e) := by
  refine h.withState rfl rfl rfl (fun _ => hnormal) (fun hc => ?_) fun hs => ?_
  · rcases hstate with rfl | rfl <;> cases hc
  · rcases hstate with rfl | rfl <;> cases hs

theorem advance : EngineInv d (advanceTerminalState e) := by
  obtain heq | ⟨hrunning, hall, heq⟩ | ⟨hcancelling, -, heq⟩ := advanceTerminalState_cases (e := e)
  · rwa [heq]
  · rw [heq]
    refine h.withState rfl rfl rfl (fun _ => by rw [hrunning]; rfl) (fun _ id hid x hx => ?_) fun hs => nomatch hs
    obtain ⟨runtime, hget, rfl⟩ := stateOf_eq_some.mp hx
    have hentry := List.all_eq_true.mp hall (id, runtime) (ExtTreeMap.mem_toList_iff_getElem?_eq_some.mpr hget)
    have hnot : e.compensationTargets.contains id = false := by
      rw [h.targets]
      exact Bool.eq_false_iff.mpr fun hmem => hid (ExtTreeSet.mem_iff_contains.mpr hmem)
    simpa [hnot] using hentry
  · rw [heq]
    exact h.withState rfl rfl rfl (fun hn => nomatch hn) (fun hc => nomatch hc) fun hs => nomatch hs

/-- Only a workflow that can go on has a step to lease. -/
theorem selected_cases {id : String} (hselected : e.selected = some id) :
    (e.state = .running ∧ id ∉ d.compensationTargets ∧ e.compensationCandidate id = false ∧
        e.normalCandidate id = true) ∨
      (e.state = .cancelling ∧ id ∈ d.compensationTargets ∧ e.compensationCandidate id = true) := by
  have hcandidate := List.find?_some hselected
  rw [Bool.or_eq_true] at hcandidate
  rcases hcandidate with hnormal | hcompensation
  · have hnot : e.compensationTargets.contains id = false ∧ e.state = .running := by
      simp only [normalCandidate, Bool.and_eq_true, beq_iff_eq, Bool.not_eq_true'] at hnormal
      exact ⟨hnormal.1.2, hnormal.1.1.1⟩
    refine .inl ⟨hnot.2, ?_, ?_, hnormal⟩
    · rw [← h.targets, ExtTreeSet.mem_iff_contains, hnot.1]
      exact Bool.false_ne_true
    · rw [compensationCandidate, hnot.2]
      rfl
  · have hstate : e.state = .cancelling ∧ e.stateOf id = some .compensating := by
      simpa [compensationCandidate] using hcompensation
    exact .inr ⟨hstate.1, h.compensating id hstate.2, hcompensation⟩

theorem marked {id : String} (hselected : e.selected = some id) : EngineInv d (markLeased id e) := by
  have hcases := h.selected_cases hselected
  exact {
    definition := h.definition
    targets := h.targets
    keys := fun k => mem_steps_updateStep.trans (h.keys k)
    active := fun k l hl => by
      rw [stateOf_markLeased]
      by_cases hk : k = id
      · obtain ⟨runtime, hget, -⟩ := leaseOf_eq_some.mp hl
        have hmem : k ∈ e.steps := mem_steps_updateStep.mp (mem_of_getElem? hget)
        obtain ⟨runtime', hget'⟩ := exists_getElem?_of_mem hmem
        rw [if_pos hk, stateOf, hget']
        exact .inl rfl
      · rw [if_neg hk]
        exact h.active k l (by rwa [leaseOf_markLeased_of_ne hk] at hl)
    compensating := fun k hk => by
      rw [stateOf_markLeased] at hk
      split_ifs at hk
      · simp at hk
      · exact h.compensating k hk
    normal := fun hnormal k hk x hx => by
      rw [stateOf_markLeased] at hx
      have hrunning : e.state.isNormal = true := hnormal
      rcases hcases with ⟨-, hid, -⟩ | ⟨hcancelling, -⟩
      · rw [if_neg fun heq : k = id => hid (heq ▸ hk)] at hx
        exact h.normal hrunning k hk x hx
      · rw [hcancelling] at hrunning
        cases hrunning
    completed := fun hcompleted => by
      have hstate : e.state = .completed := hcompleted
      rcases hcases with ⟨hrunning, -⟩ | ⟨hcancelling, -⟩
      · rw [hrunning] at hstate; cases hstate
      · rw [hcancelling] at hstate; cases hstate
    stopped := fun hstopped => by
      have hstate : e.state = .emergencyStopped := hstopped
      rcases hcases with ⟨hrunning, -⟩ | ⟨hcancelling, -⟩
      · rw [hrunning] at hstate; cases hstate
      · rw [hcancelling] at hstate; cases hstate }

theorem of_validateLease (hvalid : e.validateLease lease now = .ok ()) :
    (e.stateOf lease.stepId = some .leased ∨ e.stateOf lease.stepId = some .compensating) ∧
      e.state ≠ .completed ∧ e.state ≠ .emergencyStopped ∧
      (e.state.isNormal = true → lease.stepId ∉ d.compensationTargets) := by
  simp only [validateLease, failIf_eq_ok, not_or, not_not] at hvalid
  have hlease : e.leaseOf lease.stepId = some lease.leaseId := hvalid.2.2.2.2
  have hactive := h.active _ _ hlease
  have hnormal : e.state.isNormal = true → lease.stepId ∉ d.compensationTargets := by
    intro hn hmem
    rcases hactive with hx | hx <;> exact nomatch h.normal hn _ hmem _ hx
  refine ⟨hactive, fun hcompleted => ?_, fun hstopped => ?_, hnormal⟩
  · have hnot := hnormal (by rw [hcompleted]; rfl)
    rcases hactive with hx | hx <;> exact nomatch h.completed hcompleted _ hnot _ hx
  · rw [h.stopped hstopped] at hlease
    cases hlease

theorem consumed (hvalid : e.validateLease lease now = .ok ()) (hx : x ≠ .compensating) :
    EngineInv d (consume lease x evidence e) := by
  obtain ⟨-, hcompleted, hstopped, hnormal⟩ := h.of_validateLease hvalid
  exact {
    definition := h.definition
    targets := h.targets
    keys := fun k => mem_steps_updateStep.trans (h.keys k)
    active := fun k l hl => by
      rw [leaseOf_consume] at hl
      rw [stateOf_consume]
      split_ifs at hl ⊢
      exact h.active k l hl
    compensating := fun k hk => by
      rw [stateOf_consume] at hk
      split_ifs at hk
      · obtain ⟨_, -, heq⟩ := Option.map_eq_some_iff.mp hk
        exact absurd heq hx
      · exact h.compensating k hk
    normal := fun hn k hk y hy => by
      rw [stateOf_consume, if_neg fun heq : k = lease.stepId => hnormal hn (heq ▸ hk)] at hy
      exact h.normal hn k hk y hy
    completed := fun hc => absurd hc hcompleted
    stopped := fun hs => absurd hs hstopped }

theorem compensated {c : String} (hc : c ∈ d.compensationTargets)
    (hstate : e.state = .cancelling) : EngineInv d (compensate c e) where
  definition := h.definition
  targets := h.targets
  keys := fun k => mem_steps_updateStep.trans (h.keys k)
  active := fun k l hl => by
    rw [leaseOf_compensate] at hl
    rw [stateOf_compensate]
    split_ifs
    · rcases h.active k l hl with hx | hx <;> rw [hx] <;> exact .inr rfl
    · exact h.active k l hl
  compensating := fun k hk => by
    rw [stateOf_compensate] at hk
    split_ifs at hk with heq
    · exact heq ▸ hc
    · exact h.compensating k hk
  normal := fun hn => by
    rw [show (compensate c e).state = e.state from rfl, hstate] at hn
    cases hn
  completed := fun hcompleted => by
    rw [show (compensate c e).state = e.state from rfl, hstate] at hcompleted
    cases hcompleted
  stopped := fun hstopped => by
    rw [show (compensate c e).state = e.state from rfl, hstate] at hstopped
    cases hstopped

theorem compensationOf_mem {id c : String} (hc : e.compensationOf id = some c) :
    c ∈ d.compensationTargets := by
  rw [compensationOf, h.definition] at hc
  obtain ⟨step, hget, hstep⟩ := Option.bind_eq_some_iff.mp hc
  exact WorkflowDefinition.mem_compensationTargets.mpr ⟨id, step, hget, hstep⟩

theorem skipped : EngineInv d (skipPending { e with state := .cancelling }) where
  definition := h.definition
  targets := h.targets
  keys := fun k => ExtTreeMap.mem_map.trans (h.keys k)
  active := fun k l hl => by
    rw [leaseOf_skipPending] at hl
    rw [stateOf_skipPending]
    show Option.map _ (e.stateOf k) = _ ∨ Option.map _ (e.stateOf k) = _
    rcases h.active k l hl with hx | hx <;> rw [hx] <;> simp
  compensating := fun k hk => by
    rw [stateOf_skipPending] at hk
    obtain ⟨x, hx, heq⟩ := Option.map_eq_some_iff.mp hk
    split_ifs at heq <;> exact h.compensating k (heq ▸ hx)
  normal := fun hn => nomatch hn
  completed := fun hc => nomatch hc
  stopped := fun hs => nomatch hs

end

theorem compensated_all {ids : List String} (h : EngineInv d e) (hids : ∀ c ∈ ids, c ∈ d.compensationTargets)
    (hstate : e.state = .cancelling) : EngineInv d (ids.foldl (fun e id => compensate id e) e) := by
  induction ids generalizing e with
  | nil => exact h
  | cons c ids ih =>
    obtain ⟨hc, hids⟩ := List.forall_mem_cons.mp hids
    exact ih (h.compensated hc hstate) hids hstate

section

variable (h : EngineInv d e)

include h

theorem compensationToStart_mem {c : String} (hc : c ∈ compensationToStart e) :
    c ∈ d.compensationTargets := by
  obtain ⟨⟨id, runtime⟩, -, hsome⟩ := List.mem_filterMap.mp hc
  simp only [] at hsome
  split_ifs at hsome
  exact h.compensationOf_mem hsome

theorem cancelled : EngineInv d e.cancelled := by
  have hids : ∀ c ∈ compensationToStart { e with state := .cancelling }, c ∈ d.compensationTargets :=
    fun c hc => h.compensationToStart_mem hc
  exact (h.skipped.compensated_all hids rfl).recorded _ _ _ _

theorem failed (hvalid : e.validateLease lease now = .ok ()) :
    EngineInv d (afterFailure lease (consume lease .failed evidence e)) := by
  have hconsumed : EngineInv d (consume lease .failed evidence e) := h.consumed hvalid (by decide)
  have hto : ∀ {state : WorkflowState}, state = .failed ∨ state = .cancelling →
      EngineInv d { consume lease .failed evidence e with state } := by
    rintro state (rfl | rfl)
    all_goals
      exact hconsumed.withState rfl rfl rfl (fun hn => nomatch hn) (fun hc => nomatch hc) fun hs => nomatch hs
  unfold afterFailure
  split
  · exact hto (.inl rfl)
  · split
    · next c hc => exact (hto (.inr rfl)).compensated (hconsumed.compensationOf_mem hc) rfl
    · exact hto (.inl rfl)

theorem stopped_all : EngineInv d
    { e with state := .emergencyStopped, steps := e.steps.map fun _ r => stopStep r } := by
  -- A step with a lease is leased or compensating, so the stop clears its lease.
  have hlease : ∀ id, ({ e with state := .emergencyStopped, steps := e.steps.map fun _ r => stopStep r } :
      WorkflowEngine).leaseOf id = none := by
    intro id
    rw [leaseOf, ExtTreeMap.getElem?_map]
    cases hget : e.steps[id]? with
    | none => rfl
    | some runtime =>
      show (stopStep runtime).activeLeaseId = none
      unfold stopStep
      split_ifs with hstate
      · rfl
      · cases hl : runtime.activeLeaseId with
        | none => rfl
        | some l =>
          have hx := h.active id l (leaseOf_eq_some.mpr ⟨runtime, hget, hl⟩)
          simp only [stateOf, hget, Option.map_some, Option.some.injEq] at hx
          exact absurd (hx.elim (fun h => .inr (.inl h)) fun h => .inr (.inr h)) hstate
  exact {
    definition := h.definition
    targets := h.targets
    keys := fun k => ExtTreeMap.mem_map.trans (h.keys k)
    active := fun k l hl => by
      rw [hlease] at hl
      cases hl
    compensating := fun k hk => by
      rw [stateOf_stop] at hk
      obtain ⟨runtime, -, hx⟩ := Option.map_eq_some_iff.mp hk
      unfold stopStep at hx
      split_ifs at hx with hstate
      exact absurd (.inr (.inr hx)) hstate
    normal := fun hn => nomatch hn
    completed := fun hc => nomatch hc
    stopped := fun _ => hlease }

end

theorem new {genesis : String} (hnew : WorkflowEngine.new d genesis = .ok e) : EngineInv d e := by
  simp only [WorkflowEngine.new, do_eq_ok] at hnew
  obtain ⟨-, rfl⟩ := hnew
  have hget : ∀ (id : String) (runtime : WorkflowStepRuntime),
    (d.steps.map fun id _ => freshRuntime id)[id]? = some runtime →
      runtime = freshRuntime id := by
    intro id runtime h
    rw [ExtTreeMap.getElem?_map] at h
    obtain ⟨_, -, rfl⟩ := Option.map_eq_some_iff.mp h
    rfl
  exact {
    definition := rfl
    targets := rfl
    keys := fun id => ExtTreeMap.mem_map
    active := fun id l hl => by
      obtain ⟨runtime, h, hnone⟩ := leaseOf_eq_some.mp hl
      rw [hget id runtime h] at hnone
      cases hnone
    compensating := fun id hx => by
      obtain ⟨runtime, h, hstate⟩ := stateOf_eq_some.mp hx
      rw [hget id runtime h] at hstate
      cases hstate
    normal := fun _ id _ x hx => by
      obtain ⟨runtime, h, rfl⟩ := stateOf_eq_some.mp hx
      rw [hget id runtime h]
      rfl
    completed := fun hc => by cases hc
    stopped := fun hs => by cases hs }

end EngineInv

/-- One call of a run. -/
abbrev WorkflowEvent := Event Held WorkflowCall (Except WorkflowError WorkflowReply)

/-- The invariant of a run: a compensation lease is one on a compensation target. -/
structure Held.Inv (d : WorkflowDefinition) (h : Held) : Prop where
  engine : EngineInv d h.engine
  leases : ∀ lease ∈ h.leases, (lease.compensation = true ↔ lease.stepId ∈ d.compensationTargets)

namespace Held.Inv

variable {d : WorkflowDefinition} {h h' : Held} {call : WorkflowCall} {r : Except WorkflowError WorkflowReply}

/-- **Every call keeps the invariant.** -/
theorem effect (hinv : h.Inv d) (heffect : Effect h call r h') : h'.Inv d := by
  have he := hinv.engine
  cases heffect with
  | refused => exact hinv
  | started hs | resumed hs => exact ⟨he.movedTo (by rw [hs]; rfl) (.inl rfl), hinv.leases⟩
  | paused hs => exact ⟨he.movedTo (by rw [hs]; rfl) (.inr rfl), hinv.leases⟩
  | cancelled => exact ⟨he.cancelled.advance, hinv.leases⟩
  | stopped => exact ⟨he.stopped_all.recorded _ _ _ _, hinv.leases⟩
  | noneReady => exact ⟨he.advance, hinv.leases⟩
  | leaseLost _ _ _ _ hselected => exact ⟨he.marked hselected, hinv.leases⟩
  | leased _ _ _ lease _ hselected hcompensation =>
    refine ⟨(he.marked hselected).recorded _ _ _ _, fun l hl => ?_⟩
    rcases List.mem_append.mp hl with hold | hnew
    · exact hinv.leases l hold
    · obtain rfl := List.mem_singleton.mp hnew
      rw [hcompensation]
      rcases he.selected_cases hselected with ⟨-, hnot, hfalse, -⟩ | ⟨-, hmem, htrue⟩
      · rw [hfalse]
        exact iff_of_false Bool.false_ne_true hnot
      · exact ⟨fun _ => hmem, fun _ => htrue⟩
  | completed _ _ evidence lease _ _ hvalid =>
    have hdone : doneState lease ≠ .compensating := by
      unfold doneState
      split_ifs <;> decide
    exact ⟨((he.consumed hvalid hdone).recorded _ _ _ _).advance, hinv.leases⟩
  | failed _ _ _ _ _ _ hvalid => exact ⟨(he.failed hvalid).recorded _ _ _ _, hinv.leases⟩

/-- **Every reachable state has the invariant.** -/
theorem run {e : WorkflowEngine} {genesis : String} {es : List WorkflowEvent}
    (hnew : WorkflowEngine.new d genesis = .ok e) (hrun : Run Held.step ⟨e, []⟩ es h) : h.Inv d :=
  hrun.invariant (fun _ h => h.Inv d) ⟨.new hnew, fun _ hl => nomatch hl⟩
    fun _ _ _ _ _ _ hinv hs => hinv.effect (effect_of_step hs)

end Held.Inv

/-! ## Terminal states -/

theorem complete_eq_ok {e : WorkflowEngine}
    (hevidence : isLowerHexSha256 evidence = true) (hvalid : e.validateLease lease now = .ok ()) :
    ∃ receipt, complete lease now evidence e = (.ok receipt,
      advanceTerminalState (record "workflow_step_completed" lease.stepId (doneState lease).debugName
        [("evidence_sha256", evidence)] (consume lease (doneState lease) evidence e))) := by
  refine ⟨_, Method.bind_eq_ok.mpr ⟨(), e, ?_, Method.bind_eq_ok.mpr ⟨(), e, ?_, rfl⟩⟩⟩
  · exact ofExcept_eq_ok.mpr ⟨failIf_eq_ok.mpr (by simp [hevidence]), rfl⟩
  · exact check_eq_ok.mpr ⟨hvalid, rfl⟩

theorem step_complete {h : Held} {index now : ℕ}
    (hlease : h.leases[index]? = some lease) (hevidence : isLowerHexSha256 evidence = true)
    (hvalid : h.engine.validateLease lease now = .ok ()) :
    ∃ receipt, h.step (.complete index now evidence) = some (.ok (.receipt receipt),
      ⟨advanceTerminalState (record "workflow_step_completed" lease.stepId (doneState lease).debugName
        [("evidence_sha256", evidence)] (consume lease (doneState lease) evidence h.engine)), h.leases⟩) := by
  obtain ⟨receipt, hcomplete⟩ := complete_eq_ok hevidence hvalid
  have hmap : (WorkflowReply.receipt <$> complete lease now evidence) h.engine = _ :=
    Method.map_eq_ok.mpr ⟨receipt, hcomplete, rfl⟩
  refine ⟨receipt, ?_⟩
  simp only [Held.step, WorkflowCall.method, hlease, Option.map_some, hmap, newLease, List.append_nil]

theorem Effect.eq_of_terminal {d : WorkflowDefinition} {h h' : Held} (hinv : h.Inv d)
    (hterminal : h.engine.state.isTerminal = true)
    (hleases : ∀ lease ∈ h.leases, ∀ now, h.engine.validateLease lease now ≠ .ok ())
    (heffect : Effect h call r h') : h' = h := by
  have hnot : ∀ {state}, h.engine.state = state → state.isTerminal = false → h' = h := by
    intro state hstate hfalse
    rw [hstate, hfalse] at hterminal
    cases hterminal
  have hselected : ∀ {id}, h.engine.selected = some id → h' = h := by
    intro id hid
    rcases hinv.engine.selected_cases hid with ⟨hstate, -⟩ | ⟨hstate, -⟩ <;> exact hnot hstate rfl
  cases heffect with
  | refused => rfl
  | started hs | paused hs | resumed hs => exact hnot hs rfl
  | cancelled hs | noneReady _ _ _ hs => exact hs.elim (fun hs => hnot hs rfl) fun hs => hnot hs rfl
  | stopped hs => exact hnot rfl hs
  | leaseLost _ _ _ _ hid | leased _ _ _ _ _ hid => exact hselected hid
  | completed _ now _ lease _ hlease hvalid | failed _ now _ lease _ hlease hvalid =>
    exact absurd hvalid (hleases lease (List.mem_of_getElem? hlease) now)

/-- **Terminal states**: once a run has reached a terminal state, no later call changes the state of
the workflow or of a step exactly when no lease that is out is still valid in the state `Failed`.
`Completed` and `EmergencyStopped` are always final. -/
theorem terminal_final {d : WorkflowDefinition} {genesis : String} {e : WorkflowEngine} {h : Held}
    {es : List WorkflowEvent} (hnew : WorkflowEngine.new d genesis = .ok e)
    (hrun : Run Held.step ⟨e, []⟩ es h) (hterminal : h.engine.state.isTerminal = true) :
    (∀ es' h', Run Held.step h es' h' →
        h'.engine.state = h.engine.state ∧ ∀ id, h'.engine.stateOf id = h.engine.stateOf id) ↔
      (h.engine.state = .failed → ∀ lease ∈ h.leases, ∀ now, h.engine.validateLease lease now ≠ .ok ()) := by
  have hinv := Held.Inv.run hnew hrun
  constructor
  · intro hfinal _ lease hlease now hvalid
    -- Completing the lease would change the state of its step.
    obtain ⟨index, hindex⟩ := List.getElem?_of_mem hlease
    have hdigest : isLowerHexSha256 (String.ofList (List.replicate 64 '0')) = true := by decide
    obtain ⟨receipt, hstep⟩ := step_complete hindex hdigest hvalid
    obtain ⟨-, hsame⟩ := hfinal _ _ (.snoc .nil hstep)
    have hstep := hsame lease.stepId
    obtain ⟨hactive, -⟩ := hinv.engine.of_validateLease hvalid
    rw [stateOf_advanceTerminalState] at hstep
    change (consume lease _ _ h.engine).stateOf _ = _ at hstep
    rw [stateOf_consume, if_pos rfl] at hstep
    unfold doneState at hstep
    rcases hactive with hx | hx <;> rw [hx] at hstep <;> split_ifs at hstep <;> cases hstep
  · intro hleases es' h' hlater
    have hvalid : ∀ lease ∈ h.leases, ∀ now, h.engine.validateLease lease now ≠ .ok () := by
      intro lease hlease now hok
      obtain ⟨-, hcompleted, hstopped, -⟩ := hinv.engine.of_validateLease hok
      refine hleases ?_ lease hlease now hok
      cases hstate : h.engine.state <;> simp_all [WorkflowState.isTerminal]
    have hsame : h' = h := by
      refine hlater.invariant (fun _ h' => h' = h) rfl ?_
      rintro _ _ call r u _ rfl hs
      exact (effect_of_step hs).eq_of_terminal hinv hterminal hvalid
    rw [hsame]
    exact ⟨rfl, fun _ => rfl⟩

/-! ### A workflow with two owned objects -/

def zeroDigest : String := String.ofList (List.replicate 64 '0')

/-- Two steps that register an object, each with the same cleanup step, and one that only observes.
-/
def ownedObjectSteps : List WorkflowStep :=
  [⟨"a", .registerOwnedObject, ∅, some "x", 0, 0, true, some "c"⟩, ⟨"b", .observe, ∅, none, 0, 0,
    false, none⟩, ⟨"c", .cleanupOwnedObject, ∅, some "x", 0, 0, false, none⟩,
    ⟨"d", .registerOwnedObject, ∅, some "x", 0, 0, true, some "c"⟩]

def ownedObjects : WorkflowDefinition :=
  unwrap (WorkflowDefinition.new "w" "r" zeroDigest ownedObjectSteps) (by decide +kernel)

def ownedObjectsEngine : WorkflowEngine := unwrap (WorkflowEngine.new ownedObjects zeroDigest) (by decide +kernel)

/-- The first object is registered; then the step that only observes fails while the second
registration is out. -/
def failingCalls : List WorkflowCall :=
  [.start, .leaseNext "x" 0 10, .complete 0 1 zeroDigest, .leaseNext "x" 0 10, .leaseNext "x" 0 10,
    .fail 1 1 zeroDigest]

/-- No call is an emergency stop or reports a compensation lease. -/
def reportsNoCompensation (es : List WorkflowEvent) : Bool :=
  es.all fun event => match event.input with
    | .emergencyStop => false
    | .fail index _ _ => event.pre.leases[index]?.all fun lease => !lease.compensation
    | _ => true

theorem failingCalls_run : (runCalls Held.step ⟨ownedObjectsEngine, []⟩ failingCalls).map (fun run =>
    ((reportsNoCompensation run.1, run.2.engine.state, ["a", "c", "d"].map run.2.engine.stateOf),
      (run.2.step (.fail 2 1 zeroDigest)).map fun next => (next.2.engine.state, next.2.engine.stateOf "d"))) =
    some ((true, .failed, [some .succeeded, some .pending, some .leased]), some (.cancelling, some .failed)) := by
  decide +kernel

/-- A lease that is out when a workflow fails can still be reported: the failed workflow is
cancelling again. -/
theorem failed_not_final : ∃ d e es h es' h', WorkflowDefinition.new "w" "r" zeroDigest ownedObjectSteps = .ok d ∧
    WorkflowEngine.new d zeroDigest = .ok e ∧ Run Held.step ⟨e, []⟩ es h ∧ h.engine.state = .failed ∧
    h.engine.stateOf "d" = some .leased ∧ Run Held.step h es' h' ∧ h'.engine.state = .cancelling ∧
    h'.engine.stateOf "d" = some .failed := by
  obtain ⟨es, h, hrun, heq⟩ := exists_run_of_map_runCalls failingCalls_run
  simp only [Prod.mk.injEq, List.map_cons, List.cons.injEq] at heq
  obtain ⟨⟨-, hfailed, -, -, hd, -⟩, hnext⟩ := heq
  obtain ⟨⟨r, h'⟩, hstep, hstates⟩ := Option.map_eq_some_iff.mp hnext
  rw [Prod.mk.injEq] at hstates
  exact ⟨ownedObjects, ownedObjectsEngine, es, h, _, h', eq_ok_unwrap _ _, eq_ok_unwrap _ _, hrun,
    hfailed, hd, .snoc .nil hstep, hstates.1, hstates.2⟩

/-- A workflow that is stopped at once. -/
theorem terminal_final_example : ∃ e es h, WorkflowEngine.new ownedObjects zeroDigest = .ok e ∧
    Run Held.step ⟨e, []⟩ es h ∧ h.engine.state = .emergencyStopped ∧
    ((∀ es' h', Run Held.step h es' h' →
        h'.engine.state = h.engine.state ∧ ∀ id, h'.engine.stateOf id = h.engine.stateOf id) ↔
      (h.engine.state = .failed → ∀ lease ∈ h.leases, ∀ now, h.engine.validateLease lease now ≠ .ok ())) := by
  have hcalls : (runCalls Held.step ⟨ownedObjectsEngine, []⟩ [.start, .leaseNext "x" 0 10, .emergencyStop]).map
      (fun run => run.2.engine.state) = some .emergencyStopped := by decide +kernel
  obtain ⟨es, h, hrun, hstate⟩ := exists_run_of_map_runCalls hcalls
  have hnew : WorkflowEngine.new ownedObjects zeroDigest = .ok ownedObjectsEngine := eq_ok_unwrap _ _
  exact ⟨ownedObjectsEngine, es, h, hnew, hrun, hstate, terminal_final hnew hrun (by rw [hstate]; rfl)⟩

end BoundSeal.Workflow

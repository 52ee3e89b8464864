import BoundSeal.Workflow.Runs

/-!
# Leases that are lost

A worker that takes a lease and is not heard of again leaves its step `Leased`.
`lease_next` looks for pending steps, and for compensating ones once the workflow is
cancelling; the time at which a lease expires is looked at when the lease is used, by
`validate_lease`. So a step whose lease has expired is offered again only if the failure
of another step has put it back, which happens when both name one compensation step.
An error of `lease_next` may change a step: the step is marked before the expiry is computed.
-/

namespace BoundSeal.Workflow

open Rust Lib Audit WorkflowEngine

/-- The first step in an order that has a property. -/
def First (P : String → Prop) (order : List String) (id : String) : Prop :=
  ∃ before after, order = before ++ id :: after ∧ P id ∧ ∀ other ∈ before, ¬ P other

namespace WorkflowEngine

/-- A pending step whose dependencies have succeeded and that compensates no other. -/
def Ready (e : WorkflowEngine) (id : String) : Prop :=
  e.stateOf id = some .pending ∧ id ∉ e.compensationTargets ∧
    ∀ step, e.definition.steps[id]? = some step → ∀ dependency ∈ step.dependencies,
      e.stateOf dependency = some .succeeded

/-- A step that has to be compensated. -/
def Compensating (e : WorkflowEngine) (id : String) : Prop := e.stateOf id = some .compensating

end WorkflowEngine

namespace Held

/-- The active lease of a step was handed out and has expired. -/
def Lost (h : Held) (now : ℕ) (id : String) : Prop :=
  ∃ lease ∈ h.leases, lease.stepId = id ∧ h.engine.leaseOf id = some lease.leaseId ∧ lease.expiresAtMilliseconds ≤ now

/-- A step whose lease is lost may be leased once more. -/
def LostWithAttempt (h : Held) (now : ℕ) (id : String) : Prop :=
  h.Lost now id ∧ h.engine.attemptsOf id < maxStepAttempts

/-- Every lease that is out has expired. -/
def AllLost (h : Held) (now : ℕ) : Prop :=
  ∀ lease ∈ h.leases, h.engine.leaseOf lease.stepId = some lease.leaseId → lease.expiresAtMilliseconds ≤ now

/-- Lost leases do not block the workflow, and an error of `lease_next` changes no step. -/
structure Recovers (h : Held) (now : ℕ) : Prop where
  offers : h.AllLost now → ∀ workerId duration, leaseChecks workerId duration h.engine = .ok () →
    (∃ id, h.LostWithAttempt now id) →
      ∃ lease e, leaseNext workerId now duration h.engine = (.ok (some lease), e) ∧ h.Lost now lease.stepId
  clean : ∀ workerId duration error e, leaseNext workerId now duration h.engine =
    (.error error, e) → ∀ id, e.stateOf id = h.engine.stateOf id

/-- No lost lease has an attempt left, or the first step to be compensated is one of those; and the
lease of the first step that is ready or to be compensated expires in range. -/
structure Recoverable (h : Held) (now : ℕ) : Prop where
  lost : h.AllLost now → (h.engine.state = .running ∨ h.engine.state = .cancelling) →
    (∀ id, ¬ h.LostWithAttempt now id) ∨ (h.engine.state = .cancelling ∧
      ∃ id, First h.engine.Compensating h.engine.definition.topologicalOrder id ∧ h.LostWithAttempt now id)
  range : ∀ id, (h.engine.state = .running ∧ First h.engine.Ready h.engine.definition.topologicalOrder id) ∨
      (h.engine.state = .cancelling ∧ First h.engine.Compensating h.engine.definition.topologicalOrder id) →
    h.engine.attemptsOf id < maxStepAttempts → now + 60000 ≤ u64Max

end Held

variable {id : String} {e : WorkflowEngine}

theorem find?_eq_some_iff_first {p : String → Bool} {P : String → Prop} (hp : ∀ id, p id = true ↔
    P id) {order : List String} : order.find? p = some id ↔ First P order id := by
  simp only [List.find?_eq_some_iff_append, First, hp, Bool.not_eq_true', Bool.eq_false_iff, ne_eq]
  constructor
  · rintro ⟨hid, before, after, horder, hbefore⟩
    exact ⟨before, after, horder, hid, hbefore⟩
  · rintro ⟨before, after, horder, hid, hbefore⟩
    exact ⟨hid, before, after, horder, hbefore⟩

/-- What `lease_next` selects, read off the states of the steps. -/
theorem selected_eq_some_iff : e.selected = some id ↔
    (e.state = .running ∧ First e.Ready e.definition.topologicalOrder id) ∨
      (e.state = .cancelling ∧ First e.Compensating e.definition.topologicalOrder id) := by
  unfold selected
  by_cases hrunning : e.state = .running
  · rw [find?_eq_some_iff_first (P := e.Ready)]
    · simp [hrunning]
    · intro id
      have htarget : e.compensationTargets.contains id = false ↔ id ∉ e.compensationTargets := by
        rw [Std.ExtTreeSet.mem_iff_contains, Bool.not_eq_true]
      cases hstep : e.definition.steps[id]? <;>
        simp [normalCandidate, compensationCandidate, WorkflowEngine.Ready, hrunning, hstep, htarget, and_assoc]
  · rw [find?_eq_some_iff_first (P := fun id => e.state = .cancelling ∧ e.Compensating id)]
    · simp only [hrunning, false_and, false_or, First]
      constructor
      · rintro ⟨before, after, horder, ⟨hstate, hid⟩, hbefore⟩
        exact ⟨hstate, before, after, horder, hid, fun other hother h => hbefore other hother ⟨hstate, h⟩⟩
      · rintro ⟨hstate, before, after, horder, hid, hbefore⟩
        exact ⟨before, after, horder, ⟨hstate, hid⟩, fun other hother h => hbefore other hother h.2⟩
    · intro id
      simp [normalCandidate, compensationCandidate, Compensating, hrunning]

theorem stateOf_of_selected (h : e.selected = some id) :
    (e.state = .running ∧ e.stateOf id = some .pending) ∨
      (e.state = .cancelling ∧ e.stateOf id = some .compensating) := by
  rcases selected_eq_some_iff.mp h with ⟨hstate, _, _, -, hready, -⟩ | ⟨hstate, _, _, -, hcompensating, -⟩
  · exact .inl ⟨hstate, hready.1⟩
  · exact .inr ⟨hstate, hcompensating⟩

theorem leaseChecks_eq_ok {workerId : String} {duration : ℕ} :
    leaseChecks workerId duration e = .ok () ↔ (e.state = .running ∨ e.state = .cancelling) ∧
      0 < duration ∧ duration ≤ 60000 ∧ validateIdentifier workerId "worker_id" = .ok () := by
  simp only [leaseChecks, do_eq_ok, not_or, not_and_or, not_not, not_lt, Nat.pos_iff_ne_zero, and_assoc, ne_eq]

/-- **Lost leases**: in every reachable state, lost leases do not block the workflow and errors
change no step exactly when the state is `Recoverable`. -/
theorem recovers_iff {d : WorkflowDefinition} {genesis : String} {e : WorkflowEngine} {h : Held}
    {es : List WorkflowEvent} (hnew : WorkflowEngine.new d genesis = .ok e)
    (hrun : Run Held.step ⟨e, []⟩ es h) (now : ℕ) : h.Recovers now ↔ h.Recoverable now := by
  have hinv := (Held.Inv.run hnew hrun).engine
  have hx : validateIdentifier "x" "worker_id" = .ok () := by decide +kernel
  constructor
  · intro hrecovers
    refine ⟨fun hall hstate => ?_, fun id hfirst hattempts => ?_⟩
    · by_cases hlost : ∃ id, h.LostWithAttempt now id
      · have hchecks := leaseChecks_eq_ok.mpr ⟨hstate, Nat.one_pos, by decide, hx⟩
        obtain ⟨lease, e', hlease, hagain⟩ := hrecovers.offers hall "x" 1 hchecks hlost
        rw [leaseNext_eq, hchecks] at hlease
        cases hselected : h.engine.selected with
        | none =>
          rw [hselected] at hlease
          cases hlease
        | some id =>
          simp only [hselected, leaseSelected] at hlease
          split_ifs at hlease with hattempts
          · cases hlease
          · cases hlease
            -- a pending step has no active lease
            rcases stateOf_of_selected hselected with ⟨-, hpending⟩ | ⟨hcancelling, -⟩
            · obtain ⟨_, -, -, hactive, -⟩ := hagain
              rcases hinv.active _ _ hactive with hstate | hstate <;> cases hpending.symm.trans hstate
            · have hfirst := (selected_eq_some_iff.mp hselected).resolve_left
                fun hrunning => by cases hcancelling.symm.trans hrunning.1
              exact .inr ⟨hcancelling, id, hfirst.2, hagain, not_le.mp hattempts⟩
          · cases hlease
      · exact .inl fun id hid => hlost ⟨id, hid⟩
    · by_contra hrange
      have hselected := selected_eq_some_iff.mpr hfirst
      have hstates := stateOf_of_selected hselected
      have hchecks := leaseChecks_eq_ok.mpr ⟨hstates.imp And.left And.left, Nat.succ_pos 59999, Nat.le_refl _, hx⟩
      have herror := leaseNext_eq "x" now 60000 h.engine
      rw [hchecks, hselected] at herror
      simp only [leaseSelected, if_neg (not_le.mpr hattempts), if_neg hrange] at herror
      have hsame := hrecovers.clean _ _ _ _ herror id
      rw [stateOf_markLeased, if_pos rfl] at hsame
      rcases hstates with ⟨-, hstate⟩ | ⟨-, hstate⟩ <;> rw [hstate] at hsame <;> cases hsame
  · intro hrecoverable
    refine ⟨fun hall workerId duration hchecks hlost => ?_, fun workerId duration error e' herror k => ?_⟩
    · obtain ⟨hstate, -, hshort, -⟩ := leaseChecks_eq_ok.mp hchecks
      rcases hrecoverable.lost hall hstate with hnone | ⟨hcancelling, id, hfirst, hid, hattempts⟩
      · obtain ⟨id, hid⟩ := hlost
        exact absurd hid (hnone id)
      · have hrange := hrecoverable.range id (.inr ⟨hcancelling, hfirst⟩) hattempts
        have hselected := selected_eq_some_iff.mpr (.inr ⟨hcancelling, hfirst⟩)
        have hlease := leaseNext_eq workerId now duration h.engine
        rw [hchecks, hselected] at hlease
        simp only [leaseSelected, if_neg (not_le.mpr hattempts),
          if_pos (show now + duration ≤ u64Max by omega)] at hlease
        exact ⟨_, _, hlease, hid⟩
    · rw [leaseNext_eq] at herror
      cases hchecks : leaseChecks workerId duration h.engine with
      | error _ =>
        rw [hchecks] at herror
        cases herror
        rfl
      | ok _ =>
        rw [hchecks] at herror
        cases hselected : h.engine.selected with
        | none =>
          rw [hselected] at herror
          cases herror
        | some id =>
          simp only [hselected, leaseSelected] at herror
          obtain ⟨-, -, hshort, -⟩ := leaseChecks_eq_ok.mp hchecks
          split_ifs at herror with hattempts
          · cases herror
            rfl
          · cases herror
          · have hrange := hrecoverable.range id (selected_eq_some_iff.mp hselected) (not_le.mp hattempts)
            omega

/-! ### Three leases, and no more -/

/-- All leases have expired, and the step has one of them and an attempt left. -/
def Held.lostCheck (h : Held) (now : ℕ) (id : String) : Bool :=
  h.leases.all (·.expiresAtMilliseconds ≤ now) && h.engine.attemptsOf id < maxStepAttempts &&
    h.leases.any fun lease => lease.stepId == id && h.engine.leaseOf id == some lease.leaseId

theorem Held.lost_of_check {h : Held} {now : ℕ} (hcheck : h.lostCheck now id = true) :
    h.AllLost now ∧ h.LostWithAttempt now id := by
  simp only [Held.lostCheck, Bool.and_eq_true, List.all_eq_true, List.any_eq_true,
    decide_eq_true_eq, beq_iff_eq] at hcheck
  obtain ⟨⟨hexpired, hattempts⟩, lease, hlease, hid, hactive⟩ := hcheck
  exact ⟨fun lease hlease _ => hexpired lease hlease, ⟨lease, hlease, hid, hactive, hexpired lease hlease⟩, hattempts⟩

/-- Every step that can be leased is leased. -/
def lostCalls : List WorkflowCall := .start :: List.replicate 3 (.leaseNext "x" 0 10)

theorem lostCalls_run : (runCalls Held.step ⟨ownedObjectsEngine, []⟩ lostCalls).map (fun run =>
    (run.2.engine.state, run.2.engine.selected, run.2.lostCheck 10 "a")) = some (.running, none, true) := by
  decide +kernel

/-- When all three leases have expired there is nothing to lease, and the workflow waits for ever.
An expiry that is out of range is an error, and marks a step. -/
theorem lost_leases_block : ∃ d e, WorkflowDefinition.new "w" "r" zeroDigest ownedObjectSteps = .ok d ∧
    WorkflowEngine.new d zeroDigest = .ok e ∧
    (∃ es h, Run Held.step ⟨e, []⟩ es h ∧ h.engine.state = .running ∧ h.AllLost 10 ∧ h.LostWithAttempt 10 "a" ∧
      ∀ workerId duration lease e', leaseNext workerId 10 duration h.engine ≠ (.ok (some lease), e')) ∧
    ∃ es h e', Run Held.step ⟨e, []⟩ es h ∧ leaseNext "x" u64Max 1 h.engine = (.error .invalidLease, e') ∧
      h.engine.stateOf "a" = some .pending ∧ e'.stateOf "a" = some .leased := by
  have hlate : (runCalls Held.step ⟨ownedObjectsEngine, []⟩ [.start]).map
      (fun run => (run.2.engine.stateOf "a", match leaseNext "x" u64Max 1 run.2.engine with
      | (.error .invalidLease, e') => e'.stateOf "a"
      | _ => none)) = some (some .pending, some .leased) := by decide +kernel
  obtain ⟨es, h, hrun, heq⟩ := exists_run_of_map_runCalls lostCalls_run
  obtain ⟨es', h', hrun', heq'⟩ := exists_run_of_map_runCalls hlate
  simp only [Prod.mk.injEq] at heq heq'
  obtain ⟨hstate, hselected, hcheck⟩ := heq
  obtain ⟨hall, hlost⟩ := Held.lost_of_check hcheck
  refine ⟨ownedObjects, ownedObjectsEngine, eq_ok_unwrap _ _, eq_ok_unwrap _ _,
    ⟨es, h, hrun, hstate, hall, hlost, fun workerId duration lease e' heq => ?_⟩, ?_⟩
  · rw [leaseNext_eq, hselected] at heq
    cases hchecks : leaseChecks workerId duration h.engine <;> rw [hchecks] at heq <;> cases heq
  · obtain ⟨hpending, hmarked⟩ := heq'
    split at hmarked
    · next e' herror => exact ⟨es', h', e', hrun', herror, hpending, hmarked⟩
    · cases hmarked

/-- The cleanup is leased after one failure and put back by a second one. -/
def putBackCalls : List WorkflowCall :=
  .start :: List.replicate 3 (.leaseNext "x" 0 10) ++
    [.fail 0 1 zeroDigest, .leaseNext "x" 2 5, .fail 2 3 zeroDigest]

/-- A lost lease that does not block: the cleanup step is to be compensated again, and is offered.
-/
theorem recovers_iff_example : ∃ e es h, WorkflowEngine.new ownedObjects zeroDigest = .ok e ∧
    Run Held.step ⟨e, []⟩ es h ∧ h.AllLost 10 ∧ h.LostWithAttempt 10 "c" ∧
    First h.engine.Compensating h.engine.definition.topologicalOrder "c" ∧
    leaseChecks "x" 1 h.engine = .ok () ∧ h.Recovers 10 := by
  have hcalls : (runCalls Held.step ⟨ownedObjectsEngine, []⟩ putBackCalls).map (fun run =>
      (run.2.engine.state, run.2.engine.selected, run.2.lostCheck 10 "c")) = some (.cancelling, some "c", true) := by
    decide +kernel
  obtain ⟨es, h, hrun, heq⟩ := exists_run_of_map_runCalls hcalls
  simp only [Prod.mk.injEq] at heq
  obtain ⟨hstate, hselected, hcheck⟩ := heq
  obtain ⟨hall, hlost⟩ := Held.lost_of_check hcheck
  have hfirst : First h.engine.Compensating h.engine.definition.topologicalOrder "c" := by
    rcases selected_eq_some_iff.mp hselected with ⟨hrunning, -⟩ | ⟨-, hfirst⟩
    · cases hstate.symm.trans hrunning
    · exact hfirst
  have hnew : WorkflowEngine.new ownedObjects zeroDigest = .ok ownedObjectsEngine := eq_ok_unwrap _ _
  refine ⟨ownedObjectsEngine, es, h, hnew, hrun, hall, hlost, hfirst, ?_,
    (recovers_iff hnew hrun 10).mpr ⟨fun _ _ => .inr ⟨hstate, "c", hfirst, hlost⟩, fun _ _ _ => by decide⟩⟩
  exact leaseChecks_eq_ok.mpr ⟨.inr hstate, Nat.one_pos, by decide, by decide +kernel⟩

end BoundSeal.Workflow

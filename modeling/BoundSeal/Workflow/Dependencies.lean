import BoundSeal.Workflow.Runs

/-!
# Dependencies are respected

Leases may be handed out, reported, lost and cancelled in any order. Whatever happens,
a single step only makes a few transitions, and the order of the steps follows from them.
-/

namespace BoundSeal.Workflow

open Rust Lib Std WorkflowEngine

variable {d : WorkflowDefinition} {h h' : Held} {call : WorkflowCall} {r : Except WorkflowError WorkflowReply}

/-- The dependencies of a step have succeeded. -/
def Ready (d : WorkflowDefinition) (e : WorkflowEngine) (id : String) : Prop :=
  ∀ step, d.steps[id]? = some step → ∀ dependency ∈ step.dependencies, e.stateOf dependency = some .succeeded

/-- The transitions of a step of the engine `e`; a compensation target never succeeds. -/
inductive Moves (d : WorkflowDefinition) (e : WorkflowEngine) (id : String) :
    WorkflowStepState → WorkflowStepState → Prop
  | stays (x : WorkflowStepState) : Moves d e id x x
  | leased : Ready d e id → Moves d e id .pending .leased
  | succeeded : id ∉ d.compensationTargets → Moves d e id .leased .succeeded
  | failed : Moves d e id .leased .failed
  | skipped {x : WorkflowStepState} : x ≠ .succeeded → Moves d e id x .skipped
  | target {x y : WorkflowStepState} : id ∈ d.compensationTargets → y ≠ .succeeded → Moves d e id x y

/-- Every step of the later engine has made one of the transitions. -/
def AllMove (d : WorkflowDefinition) (e e' : WorkflowEngine) : Prop :=
  ∀ id y, e'.stateOf id = some y → ∃ x, e.stateOf id = some x ∧ Moves d e id x y

section

variable {e e' : WorkflowEngine} {id : String} {y : WorkflowStepState}

theorem allMove_of_steps (hsteps : e'.steps = e.steps) : AllMove d e e' := by
  intro id y hy
  rw [stateOf, hsteps] at hy
  exact ⟨y, hy, .stays y⟩

theorem AllMove.of_steps {e'' : WorkflowEngine} (hmove : AllMove d e e')
    (hsteps : e''.steps = e'.steps) : AllMove d e e'' := by
  intro id y hy
  rw [stateOf, hsteps] at hy
  exact hmove id y hy

/-- One step is given a new state. -/
theorem allMove_of_update (hstate : ∀ k, e'.stateOf k = if k = id then (e.stateOf k).map fun _ => y else e.stateOf k)
    (hmove : ∀ x, e.stateOf id = some x → Moves d e id x y) : AllMove d e e' := by
  intro k z hz
  rw [hstate] at hz
  split_ifs at hz with hk
  · obtain ⟨x, hx, rfl⟩ := Option.map_eq_some_iff.mp hz
    exact ⟨x, hx, hk ▸ hmove x (hk ▸ hx)⟩
  · exact ⟨z, hz, .stays z⟩

/-- Starting compensations after other transitions. -/
theorem AllMove.compensate_all {ids : List String} (hmove : AllMove d e e')
    (hids : ∀ c ∈ ids, c ∈ d.compensationTargets) :
    AllMove d e (ids.foldl (fun e id => compensate id e) e') := by
  intro k z hz
  rw [stateOf_foldl_compensate] at hz
  split_ifs at hz with hk
  · obtain ⟨y, hy, rfl⟩ := Option.map_eq_some_iff.mp hz
    obtain ⟨x, hx, -⟩ := hmove k y hy
    exact ⟨x, hx, .target (hids k hk) (by decide)⟩
  · exact hmove k z hz

variable (hinv : EngineInv d e)

include hinv

theorem EngineInv.allMove_marked (hselected : e.selected = some id) : AllMove d e (markLeased id e) := by
  refine allMove_of_update (fun k => stateOf_markLeased) fun x hx => ?_
  rcases hinv.selected_cases hselected with ⟨-, -, -, hnormal⟩ | ⟨-, hmem, -⟩
  · -- `lease_next` takes a pending step only when it finds every dependency succeeded
    simp only [normalCandidate, Bool.and_eq_true, beq_iff_eq, hx, hinv.definition, List.all_eq_true] at hnormal
    obtain rfl : x = .pending := Option.some.inj hnormal.1.1.2
    refine .leased fun step hstep dependency hdependency => hnormal.2 dependency ?_
    rw [hstep]
    exact ExtTreeSet.mem_toList.mpr hdependency
  · exact .target hmem (by decide)

theorem EngineInv.allMove_consumed {lease : WorkflowLease} {now : ℕ} {evidence : String}
    (hvalid : e.validateLease lease now = .ok ())
    (hordinary : Moves d e lease.stepId .leased y)
    (htarget : lease.stepId ∈ d.compensationTargets → y ≠ .succeeded) :
    AllMove d e (consume lease y evidence e) := by
  refine allMove_of_update (fun k => stateOf_consume) fun x hx => ?_
  rcases (hinv.of_validateLease hvalid).1 with hstate | hstate <;> cases hx.symm.trans hstate
  · exact hordinary
  · exact .target (hinv.compensating _ hstate) (htarget (hinv.compensating _ hstate))

theorem EngineInv.allMove_cancelled : AllMove d e e.cancelled := by
  refine (AllMove.compensate_all ?_ fun c hc => hinv.compensationToStart_mem hc).of_steps rfl
  intro k y hy
  rw [stateOf_skipPending] at hy
  obtain ⟨x, hx, rfl⟩ := Option.map_eq_some_iff.mp hy
  refine ⟨x, hx, ?_⟩
  split_ifs with hk hpending
  · exact .stays x
  · exact .skipped (by rw [hpending]; decide)
  · exact .stays x

theorem EngineInv.allMove_failed {lease : WorkflowLease} {now : ℕ} {evidence : String}
    (hvalid : e.validateLease lease now = .ok ()) :
    AllMove d e (afterFailure lease (consume lease .failed evidence e)) := by
  have hfailed : AllMove d e (consume lease .failed evidence e) :=
    hinv.allMove_consumed hvalid .failed fun _ => by decide
  unfold afterFailure
  split
  · exact hfailed.of_steps rfl
  · split
    · next c hc =>
      have hmem : c ∈ d.compensationTargets := (hinv.consumed hvalid (by decide)).compensationOf_mem hc
      exact (hfailed.of_steps rfl).compensate_all (List.forall_mem_singleton.mpr hmem)
    · exact hfailed.of_steps rfl

end

theorem allMove_stopped (e : WorkflowEngine) : AllMove d e
    { e with state := .emergencyStopped, steps := e.steps.map fun _ r => stopStep r } := by
  intro k y hy
  rw [stateOf_stop] at hy
  obtain ⟨runtime, hget, rfl⟩ := Option.map_eq_some_iff.mp hy
  refine ⟨runtime.state, stateOf_eq_some.mpr ⟨runtime, hget, rfl⟩, ?_⟩
  unfold stopStep
  split_ifs with hstate
  · exact .skipped fun hsucceeded => by simp [hsucceeded] at hstate
  · exact .stays _

/-- **A call makes no other transitions.** -/
theorem moves_of_effect (hinv : h.Inv d) (heffect : Effect h call r h') : AllMove d h.engine h'.engine := by
  have he := hinv.engine
  cases heffect with
  | refused | started | paused | resumed => exact allMove_of_steps rfl
  | noneReady => exact allMove_of_steps steps_advanceTerminalState
  | cancelled => exact he.allMove_cancelled.of_steps steps_advanceTerminalState
  | stopped => exact (allMove_stopped _).of_steps rfl
  | leaseLost _ _ _ _ hselected => exact he.allMove_marked hselected
  | leased _ _ _ _ _ hselected => exact (he.allMove_marked hselected).of_steps rfl
  | failed _ _ _ _ _ _ hvalid => exact (he.allMove_failed hvalid).of_steps rfl
  | completed _ _ _ lease _ hlease hvalid =>
    have hkind := hinv.leases lease (List.mem_of_getElem? hlease)
    refine ((he.allMove_consumed hvalid ?_ ?_).of_steps rfl).of_steps steps_advanceTerminalState
    · unfold doneState
      split_ifs with hcompensation
      · exact .target (hkind.mp hcompensation) (by decide)
      · exact .succeeded (hcompensation ∘ hkind.mpr)
    · intro hmem
      rw [doneState, if_pos (hkind.mpr hmem)]
      decide

theorem Held.Inv.keys_kept (hinv : h.Inv d) (heffect : Effect h call r h') :
    ∀ id ∈ h.engine.steps, id ∈ h'.engine.steps :=
  fun id hid => ((hinv.effect heffect).engine.keys id).mpr ((hinv.engine.keys id).mp hid)

/-- The steps that were started, and their dependencies. -/
structure Ordered (d : WorkflowDefinition) (e : WorkflowEngine) : Prop where
  targets : ∀ id ∈ d.compensationTargets, e.stateOf id ≠ some .succeeded
  started : ∀ id, id ∉ d.compensationTargets →
    ∀ x ∈ [WorkflowStepState.leased, .succeeded, .failed], e.stateOf id = some x → Ready d e id

/-- A success is not taken back. -/
theorem AllMove.succeeded {e e' : WorkflowEngine} (hmove : AllMove d e e') (hsteps : ∀ id ∈ e.steps, id ∈ e'.steps)
    (htargets : ∀ id ∈ d.compensationTargets, e.stateOf id ≠ some .succeeded) {id : String}
    (hid : e.stateOf id = some .succeeded) : e'.stateOf id = some .succeeded := by
  obtain ⟨runtime, hget, -⟩ := stateOf_eq_some.mp hid
  obtain ⟨runtime', hget'⟩ := exists_getElem?_of_mem (hsteps id (mem_of_getElem? hget))
  have hstate' : e'.stateOf id = some runtime'.state := stateOf_eq_some.mpr ⟨runtime', hget', rfl⟩
  obtain ⟨x, hx, hmoves⟩ := hmove id _ hstate'
  obtain rfl : x = .succeeded := Option.some.inj (hx.symm.trans hid)
  rw [hstate']
  -- of the transitions from a success only the one of a target would end it
  generalize runtime'.state = y at hmoves
  cases hmoves with
  | stays => rfl
  | target hmem => exact absurd hid (htargets id hmem)
  | skipped hne => exact absurd rfl hne

theorem Ordered.move {e e' : WorkflowEngine} (horder : Ordered d e) (hmove : AllMove d e e')
    (hsteps : ∀ id ∈ e.steps, id ∈ e'.steps) : Ordered d e' := by
  have hready : ∀ {id}, Ready d e id → Ready d e' id := fun hready step hstep dependency hdependency =>
    hmove.succeeded hsteps horder.targets (hready step hstep dependency hdependency)
  refine ⟨fun id hid hsucceeded => ?_, fun id hid y hy hstate => ?_⟩
  · obtain ⟨x, hx, hmoves⟩ := hmove id _ hsucceeded
    cases hmoves with
    | stays => exact horder.targets id hid hx
    | succeeded hnot => exact hnot hid
    | target _ hne => exact hne rfl
  · obtain ⟨x, hx, hmoves⟩ := hmove id y hstate
    cases hmoves with
    | stays => exact hready (horder.started id hid y hy hx)
    | leased hnow => exact hready hnow
    | succeeded | failed => exact hready (horder.started id hid .leased (by decide) hx)
    | target hmem => exact absurd hmem hid
    | skipped => simp at hy

theorem ordered_new {genesis : String} {e : WorkflowEngine}
    (hnew : WorkflowEngine.new d genesis = .ok e) : Ordered d e := by
  simp only [WorkflowEngine.new, do_eq_ok] at hnew
  obtain ⟨-, rfl⟩ := hnew
  have hpending : ∀ (id : String) (x : WorkflowStepState),
      (d.steps.map fun id _ => freshRuntime id)[id]?.map (·.state) = some x → x = .pending := by
    intro id x hx
    rw [ExtTreeMap.getElem?_map, Option.map_map] at hx
    obtain ⟨_, -, rfl⟩ := Option.map_eq_some_iff.mp hx
    rfl
  refine ⟨fun id _ hid => ?_, fun id _ x hx hid => ?_⟩
  · cases hpending id _ hid
  · rw [hpending id x hid] at hx
    simp at hx

section

variable {genesis : String} {e : WorkflowEngine} {es : List WorkflowEvent}

theorem Ordered.run (hnew : WorkflowEngine.new d genesis = .ok e)
    (hrun : Run Held.step ⟨e, []⟩ es h) : Ordered d h.engine := by
  refine hrun.invariant (fun _ h => Ordered d h.engine) (ordered_new hnew) ?_
  intro _ _ _ _ _ hes horder hs
  have hinv := Held.Inv.run hnew hes
  exact horder.move (moves_of_effect hinv (effect_of_step hs)) (hinv.keys_kept (effect_of_step hs))

/-- **Dependencies**: whatever calls are made, a step that is no compensation target is leased,
succeeded or failed only when all its dependencies have succeeded, and what has succeeded stays so.
-/
theorem dependencies_respected (hnew : WorkflowEngine.new d genesis = .ok e)
    (hrun : Run Held.step ⟨e, []⟩ es h) :
    (∀ id, id ∉ d.compensationTargets → ∀ x ∈ [WorkflowStepState.leased, .succeeded, .failed],
      h.engine.stateOf id = some x → Ready d h.engine id) ∧
    ∀ id, h.engine.stateOf id = some .succeeded → ∀ es' h', Run Held.step h es' h' →
      h'.engine.stateOf id = some .succeeded := by
  refine ⟨(Ordered.run hnew hrun).started, fun id hid es' h' hlater => ?_⟩
  refine hlater.invariant (fun _ h' => h'.engine.stateOf id = some .succeeded) hid ?_
  intro fs t call r u hfs ht hs
  have hreached := hrun.append hfs
  have hinv := Held.Inv.run hnew hreached
  exact (moves_of_effect hinv (effect_of_step hs)).succeeded (hinv.keys_kept (effect_of_step hs))
    (Ordered.run hnew hreached).targets ht

end

/-- A step that depends on another one. -/
def twoSteps : WorkflowDefinition :=
  unwrap (WorkflowDefinition.new "w" "r" zeroDigest [⟨"a", .observe, ∅, none, 0, 0, false, none⟩,
    ⟨"b", .observe, {"a"}, none, 0, 0, false, none⟩]) (by decide +kernel)

def twoStepsEngine : WorkflowEngine := unwrap (WorkflowEngine.new twoSteps zeroDigest) (by decide +kernel)

/-- The second step is leased when the first is done. -/
theorem dependencies_respected_example : ∃ es h, Run Held.step ⟨twoStepsEngine, []⟩ es h ∧
    h.engine.stateOf "b" = some .leased ∧ h.engine.stateOf "a" = some .succeeded ∧ Ready twoSteps h.engine "b" ∧
    ∀ es' h', Run Held.step h es' h' → h'.engine.stateOf "a" = some .succeeded := by
  have hcalls : (runCalls Held.step ⟨twoStepsEngine, []⟩ [.start, .leaseNext "x" 0 10, .complete 0 1 zeroDigest,
      .leaseNext "x" 0 10]).map (fun run => (run.2.engine.stateOf "b", run.2.engine.stateOf "a")) =
      some (some .leased, some .succeeded) := by decide +kernel
  obtain ⟨es, h, hrun, hstates⟩ := exists_run_of_map_runCalls hcalls
  obtain ⟨hb, ha⟩ := Prod.mk.inj hstates
  obtain ⟨hready, hstays⟩ := dependencies_respected (eq_ok_unwrap (WorkflowEngine.new twoSteps zeroDigest) _) hrun
  exact ⟨es, h, hrun, hb, ha, hready "b" (by decide +kernel) .leased (by decide) hb, hstays "a" ha⟩

end BoundSeal.Workflow

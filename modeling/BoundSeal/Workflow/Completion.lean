import BoundSeal.Workflow.Runs

/-!
# Workflows that finish

A driver leases one step after the other and completes each lease before it expires.
While it runs, the steps it has done have succeeded and all others are untouched
(`Driven`), so what `lease_next` finds next is a step whose dependencies are done.

A compensation target is never leased by a running workflow, so a step that depends on
one is never ready. Nothing else is in the way.
-/

namespace BoundSeal.Workflow

open Rust Lib Audit WorkflowEngine

/-- The arguments of one `lease_next` and of the `complete` that follows it. -/
structure Round where
  workerId : String
  now : ℕ
  duration : ℕ
  doneAt : ℕ
  evidence : String

/-- The lease is in range, and it is completed before it expires. -/
structure Round.Valid (r : Round) : Prop where
  worker : isBoundedIdentifier r.workerId = true
  positive : 0 < r.duration
  short : r.duration ≤ 60000
  range : r.now + r.duration ≤ u64Max
  inTime : r.doneAt < r.now + r.duration
  evidence : isLowerHexSha256 r.evidence = true

/-- As long as the workflow is running, a step is leased and completed. -/
def drive : List Round → Method WorkflowError WorkflowEngine (List WorkflowLease)
  | [] => pure []
  | r :: rounds => do
    let state ← Method.get WorkflowEngine.state
    if state ≠ .running then pure []
    else do
      match ← leaseNext r.workerId r.now r.duration with
      | none => drive rounds
      | some lease => do
        let _ ← complete lease r.doneAt r.evidence
        let rest ← drive rounds
        pure (lease :: rest)

variable {id : String}

namespace WorkflowDefinition

/-- The steps that are no compensation targets, in order. -/
def ordinarySteps (d : WorkflowDefinition) : List String := d.topologicalOrder.filter (· ∉ d.compensationTargets)

/-- No ordinary step depends on a compensation target. -/
def TargetsUnneeded (d : WorkflowDefinition) : Prop :=
  ∀ id dependency, d.DependsOn id dependency → id ∉ d.compensationTargets → dependency ∉ d.compensationTargets

/-- Ordinary steps, each once and after the steps it depends on. -/
structure Scheduled (d : WorkflowDefinition) (done : List String) : Prop where
  nodup : done.Nodup
  ordinary : ∀ id ∈ done, id ∈ d.steps ∧ id ∉ d.compensationTargets
  before : ∀ l id l', done = l ++ id :: l' → ∀ dependency, d.DependsOn id dependency → dependency ∈ l

variable {d : WorkflowDefinition}

theorem mem_ordinarySteps (hd : d.Accepted) :
    id ∈ d.ordinarySteps ↔ id ∈ d.steps ∧ id ∉ d.compensationTargets := by
  rw [ordinarySteps, List.mem_filter, hd.order, decide_eq_true_iff]

theorem nodup_ordinarySteps (hd : d.Accepted) : d.ordinarySteps.Nodup := hd.nodup.filter _

variable {done : List String}

theorem Scheduled.concat (h : d.Scheduled done) (hnew : id ∉ done)
    (hmem : id ∈ d.steps) (hid : id ∉ d.compensationTargets)
    (hdependencies : ∀ dependency, d.DependsOn id dependency → dependency ∈ done) : d.Scheduled (done ++ [id]) where
  nodup := by
    rw [← List.concat_eq_append]
    exact h.nodup.concat hnew
  ordinary := by
    intro k hk
    rcases List.mem_append.mp hk with hk | hk
    · exact h.ordinary k hk
    · obtain rfl := List.mem_singleton.mp hk
      exact ⟨hmem, hid⟩
  before := by
    intro l k l' hsplit dependency hdependency
    rcases List.eq_nil_or_concat l' with rfl | ⟨front, last, rfl⟩
    · obtain ⟨rfl, hlast⟩ := List.append_inj' hsplit rfl
      obtain rfl := (List.cons.inj hlast).1
      exact hdependencies dependency hdependency
    · rw [List.concat_eq_append, ← List.cons_append, ← List.append_assoc] at hsplit
      obtain ⟨hfront, -⟩ := List.append_inj' hsplit rfl
      exact h.before l k front hfront dependency hdependency

theorem Scheduled.unneeded (h : d.Scheduled done) {id dependency : String} (hid : id ∈ done)
    (hon : d.DependsOn id dependency) : dependency ∉ d.compensationTargets := by
  obtain ⟨l, l', hsplit⟩ := List.append_of_mem hid
  refine (h.ordinary dependency ?_).2
  rw [hsplit]
  exact List.mem_append_left _ (h.before l id l' hsplit dependency hon)

theorem Scheduled.length_le (hd : d.Accepted) (h : d.Scheduled done) :
    done.length ≤ maxWorkflowSteps := by
  have hsub : done.length ≤ d.steps.size := length_le_size h.nodup fun id hid => (h.ordinary id hid).1
  exact hsub.trans hd.size

end WorkflowDefinition

/-! ## The driver's invariant -/

/-- The steps of `done` have succeeded, and every other step is untouched. -/
structure Driven (d : WorkflowDefinition) (done : List String) (e : WorkflowEngine) : Prop where
  inv : EngineInv d e
  scheduled : d.Scheduled done
  succeeded : ∀ id ∈ done, e.stateOf id = some .succeeded
  fresh : ∀ id ∈ d.steps, id ∉ done → e.steps[id]? = some (freshRuntime id)
  sequence : e.nextLeaseSequence = done.length + 1
  unused : ∀ n, e.nextLeaseSequence ≤ n → numberedName "workflow-lease-" "" n ∉ e.consumedLeases

namespace Driven

variable {d : WorkflowDefinition} {done : List String} {e : WorkflowEngine}

theorem stateOf_eq_succeeded (h : Driven d done e) (hid : id ∈ d.steps) :
    e.stateOf id = some .succeeded ↔ id ∈ done := by
  by_cases hdone : id ∈ done
  · exact iff_of_true (h.succeeded id hdone) hdone
  · rw [stateOf, h.fresh id hid hdone]
    exact iff_of_false (by simp [freshRuntime]) hdone

theorem stateOf_eq_pending (h : Driven d done e) (hid : id ∈ d.steps) :
    e.stateOf id = some .pending ↔ id ∉ done := by
  by_cases hdone : id ∈ done
  · rw [h.succeeded id hdone]
    exact iff_of_false (by simp) (not_not.mpr hdone)
  · rw [stateOf, h.fresh id hid hdone]
    exact iff_of_true rfl hdone

section

variable (hd : d.Accepted) (h : Driven d done e) (hstate : e.state = .running)

include hd h hstate

theorem normalCandidate_iff (hid : id ∈ d.steps) : e.normalCandidate id = true ↔
      id ∉ done ∧ id ∉ d.compensationTargets ∧ ∀ dependency, d.DependsOn id dependency → dependency ∈ done := by
  obtain ⟨step, hstep⟩ := exists_getElem?_of_mem hid
  have hcontains : d.compensationTargets.contains id = false ↔ id ∉ d.compensationTargets := by
    rw [Std.ExtTreeSet.mem_iff_contains, Bool.not_eq_true]
  simp only [normalCandidate, hstate, BEq.rfl, Bool.true_and, Bool.and_eq_true, beq_iff_eq, h.inv.targets,
    Bool.not_eq_true', h.inv.definition, hstep, Option.elim_some, List.all_eq_true, Std.ExtTreeSet.mem_toList,
    h.stateOf_eq_pending hid, hcontains, and_assoc]
  refine and_congr_right fun _ => and_congr_right fun _ => ?_
  constructor
  · rintro hall dependency ⟨step', hstep', hdependency⟩
    obtain rfl := Option.some.inj (hstep.symm.trans hstep')
    exact (h.stateOf_eq_succeeded (hd.known id dependency ⟨step, hstep, hdependency⟩)).mp (hall dependency hdependency)
  · intro hall dependency hdependency
    have hon : d.DependsOn id dependency := ⟨step, hstep, hdependency⟩
    exact (h.stateOf_eq_succeeded (hd.known id dependency hon)).mpr (hall dependency hon)

/-- **No deadlock**: when no target is needed, some step can be leased until all ordinary steps are
done. -/
theorem selected_isSome
    (hunneeded : d.TargetsUnneeded) (hleft : (d.ordinarySteps.filter (· ∉ done)) ≠ []) : e.selected.isSome = true := by
  -- The first step in the order that is not done has its dependencies before it.
  have hfirst : ∃ l id l', d.topologicalOrder = l ++ id :: l' ∧
      (id ∉ d.compensationTargets ∧ id ∉ done) ∧ ∀ k ∈ l, k ∈ d.compensationTargets ∨ k ∈ done := by
    obtain ⟨id, hid⟩ := List.exists_mem_of_ne_nil _ hleft
    rw [List.mem_filter, WorkflowDefinition.ordinarySteps, List.mem_filter, decide_eq_true_iff,
      decide_eq_true_iff] at hid
    have hfind : (d.topologicalOrder.find? fun k => decide (k ∉ d.compensationTargets ∧ k ∉ done)).isSome := by
      rw [List.find?_isSome]
      exact ⟨id, hid.1.1, decide_eq_true ⟨hid.1.2, hid.2⟩⟩
    obtain ⟨k, hk⟩ := Option.isSome_iff_exists.mp hfind
    obtain ⟨hp, l, l', hsplit, hbefore⟩ := List.find?_eq_some_iff_append.mp hk
    refine ⟨l, k, l', hsplit, by simpa using hp, fun j hj => ?_⟩
    have hnot := hbefore j hj
    by_contra hneither
    rw [not_or] at hneither
    simp [hneither.1, hneither.2] at hnot
  obtain ⟨l, id, l', hsplit, ⟨hid, hnew⟩, hbefore⟩ := hfirst
  have hmem : id ∈ d.topologicalOrder := by rw [hsplit]; simp
  rw [selected, List.find?_isSome]
  refine ⟨id, by rwa [h.inv.definition], ?_⟩
  rw [Bool.or_eq_true]
  refine .inl ((h.normalCandidate_iff hd hstate ((hd.order id).mp hmem)).mpr ⟨hnew, hid, fun dependency hon => ?_⟩)
  rcases hbefore dependency (hd.before l id l' hsplit dependency hon) with htarget | hdone
  · exact absurd htarget (hunneeded id dependency hon hid)
  · exact hdone

end

theorem allNormalSucceeded_iff (h : Driven d done e) :
    e.allNormalSucceeded = true ↔ ∀ id ∈ d.steps, id ∉ d.compensationTargets → id ∈ done := by
  simp only [allNormalSucceeded, List.all_eq_true, Bool.or_eq_true, beq_iff_eq, h.inv.targets,
    ← Std.ExtTreeSet.mem_iff_contains]
  constructor
  · intro hall id hid hnot
    obtain ⟨runtime, hget⟩ := exists_getElem?_of_mem ((h.inv.keys id).mpr hid)
    rcases hall (id, runtime) (Std.ExtTreeMap.mem_toList_iff_getElem?_eq_some.mpr hget) with htarget | hstate
    · exact absurd htarget hnot
    · exact (h.stateOf_eq_succeeded hid).mp (stateOf_eq_some.mpr ⟨runtime, hget, hstate⟩)
  · rintro hall ⟨id, runtime⟩ hentry
    have hget := Std.ExtTreeMap.mem_toList_iff_getElem?_eq_some.mp hentry
    by_cases htarget : id ∈ d.compensationTargets
    · exact .inl htarget
    · have hdone := hall id ((h.inv.keys id).mp (mem_of_getElem? hget)) htarget
      obtain ⟨runtime', hget', hstate⟩ := stateOf_eq_some.mp (h.succeeded id hdone)
      obtain rfl := Option.some.inj (hget.symm.trans hget')
      exact .inr hstate

theorem advance (h : Driven d done e) (hstate : e.state = .running) : Driven d done (advanceTerminalState e) ∧
    ((advanceTerminalState e).state = .running ∧ ¬ (∀ id ∈ d.steps, id ∉ d.compensationTargets → id ∈ done) ∨
      (advanceTerminalState e).state = .completed ∧ ∀ id ∈ d.steps, id ∉ d.compensationTargets → id ∈ done) := by
  have hinv := h.inv.advance
  by_cases hall : e.allNormalSucceeded = true
  · have heq : advanceTerminalState e = moveTo .completed "workflow_completed" "completed" e := by
      rw [advanceTerminalState, if_pos hstate, if_pos hall]
    rw [heq] at hinv ⊢
    exact ⟨⟨hinv, h.scheduled, h.succeeded, h.fresh, h.sequence, h.unused⟩,
      .inr ⟨rfl, h.allNormalSucceeded_iff.mp hall⟩⟩
  · have heq : advanceTerminalState e = e := by rw [advanceTerminalState, if_pos hstate, if_neg hall]
    rw [heq]
    exact ⟨h, .inl ⟨hstate, fun hdone => hall (h.allNormalSucceeded_iff.mpr hdone)⟩⟩

end Driven

/-! ## One round -/

theorem Round.Valid.leaseChecks {r : Round} (hr : r.Valid) {e : WorkflowEngine}
    (hstate : e.state = .running) : leaseChecks r.workerId r.duration e = .ok () := by
  have hpositive := hr.positive.ne'
  have hshort := hr.short
  simp [Workflow.leaseChecks, validateIdentifier, hstate, hr.worker, hpositive, hshort]

namespace Driven

variable {d : WorkflowDefinition} {done : List String} {e : WorkflowEngine}

theorem round (hd : d.Accepted) (h : Driven d done e) (hstate : e.state = .running) {r : Round}
    (hr : r.Valid) (hselected : e.selected = some id) :
    ∃ lease receipt e₁ e₂, leaseNext r.workerId r.now r.duration e = (.ok (some lease), e₁) ∧
      complete lease r.doneAt r.evidence e₁ = (.ok receipt, advanceTerminalState e₂) ∧
      lease.stepId = id ∧ e₂.state = .running ∧ Driven d (done ++ [id]) e₂ := by
  have hmem : id ∈ d.steps := by
    have horder := List.mem_of_find?_eq_some hselected
    rwa [h.inv.definition, hd.order] at horder
  rcases h.inv.selected_cases hselected with ⟨-, hid, hcompensation, hcandidate⟩ | ⟨hcancelling, -⟩
  · obtain ⟨hnew, -, hdependencies⟩ := (h.normalCandidate_iff hd hstate hmem).mp hcandidate
    have hfresh := h.fresh id hmem hnew
    have hattempts : e.attemptsOf id < maxStepAttempts := by
      rw [attemptsOf, hfresh]
      exact Nat.zero_lt_succ _
    have hlease : leaseNext r.workerId r.now r.duration e = _ := leaseNext_eq _ _ _ _
    rw [hr.leaseChecks hstate, hselected] at hlease
    simp only [leaseSelected, if_neg (not_le.mpr hattempts), if_pos hr.range] at hlease
    set lease := leaseFor id r.workerId r.now r.duration e with hdef
    set e₁ := leasedEngine id e with he₁
    have hvalid : e₁.validateLease lease r.doneAt = .ok () := by
      refine failIf_eq_ok.mpr ?_
      rintro (hne | hne | hlate | hused | hactive)
      · exact hne rfl
      · exact hne rfl
      · exact absurd hr.inTime (not_lt.mpr hlate)
      · exact h.unused _ (Nat.le_refl _) (Std.ExtTreeSet.mem_iff_contains.mpr hused)
      · refine hactive ?_
        show (updateStep id _ e).leaseOf id = _
        rw [leaseOf_updateStep, if_pos rfl, hfresh]
        rfl
    have hinv₁ : EngineInv d e₁ := (h.inv.marked hselected).recorded _ _ _ _
    obtain ⟨receipt, hcomplete⟩ := complete_eq_ok hr.evidence hvalid
    have hdone : doneState lease = .succeeded := by
      rw [doneState, if_neg]
      exact Bool.eq_false_iff.mp hcompensation
    rw [hdone] at hcomplete
    refine ⟨lease, receipt, e₁, _, hlease, hcomplete, rfl, hstate, ?_⟩
    -- Outside the step nothing has changed.
    have hsteps : ∀ {k : String}, k ≠ id → (consume lease .succeeded r.evidence e₁).steps[k]? = e.steps[k]? := by
      intro k hk
      show (updateStep id _ e₁).steps[k]? = _
      rw [getElem?_updateStep]
      show Option.map _ (updateStep id _ e).steps[k]? = _
      rw [getElem?_updateStep]
      simp [hk]
    have hlength := h.scheduled.length_le hd
    have hsequence : saturatingAdd e.nextLeaseSequence 1 = done.length + 2 := by
      rw [h.sequence, saturatingAdd]
      have : maxWorkflowSteps + 2 ≤ u64Max := by decide
      omega
    exact {
      inv := (hinv₁.consumed hvalid (by decide)).recorded _ _ _ _
      scheduled := h.scheduled.concat hnew hmem hid hdependencies
      succeeded := by
        intro k hk
        show (consume lease .succeeded r.evidence e₁).stateOf k = _
        by_cases heq : k = id
        · subst heq
          rw [stateOf_consume, if_pos (show k = lease.stepId from rfl)]
          show Option.map _ ((markLeased k e).stateOf k) = _
          rw [stateOf_markLeased, if_pos rfl, stateOf, hfresh]
          rfl
        · rw [stateOf, hsteps heq]
          rcases List.mem_append.mp hk with hk | hk
          · exact h.succeeded k hk
          · exact absurd (List.mem_singleton.mp hk) heq
      fresh := by
        intro k hk hnot
        rw [List.mem_append, not_or, List.mem_singleton] at hnot
        exact (hsteps hnot.2).trans (h.fresh k hk hnot.1)
      sequence := by
        rw [List.length_append, List.length_singleton]
        exact hsequence
      unused := by
        intro n hn
        have hn : done.length + 2 ≤ n := hsequence ▸ hn
        show numberedName _ _ n ∉ e.consumedLeases.insert e.nextLeaseId
        rw [Std.ExtTreeSet.mem_insert, Std.LawfulEqOrd.compare_eq_iff_eq]
        rintro (heq | hused)
        · have := numberedName_injective _ _ heq
          rw [h.sequence] at this
          omega
        · exact h.unused n (by rw [h.sequence]; omega) hused }
  · rw [hstate] at hcancelling
    cases hcancelling

def AllDone (d : WorkflowDefinition) (done : List String) : Prop :=
  ∀ id ∈ d.steps, id ∉ d.compensationTargets → id ∈ done

/-- **Progress**: the driver's calls succeed, and enough rounds complete a workflow that needs no
target. -/
theorem drive (hd : d.Accepted) {rounds : List Round} (hrounds : ∀ r ∈ rounds, r.Valid)
    (h : Driven d done e) (hstate : e.state = .running ∨ e.state = .completed ∧ AllDone d done) :
    ∃ leases e', Workflow.drive rounds e = (.ok leases, e') ∧ Driven d (done ++ leases.map (·.stepId)) e' ∧
      (e'.state = .running ∨ e'.state = .completed ∧ AllDone d (done ++ leases.map (·.stepId))) ∧
      (d.TargetsUnneeded → (d.ordinarySteps.filter (· ∉ done)).length < rounds.length ∨
        e.state = .completed → e'.state = .completed) := by
  induction rounds generalizing e done with
  | nil =>
    refine ⟨[], e, rfl, ?_⟩
    rw [List.map_nil, List.append_nil]
    refine ⟨h, hstate, ?_⟩
    rintro - (hfew | hcompleted)
    · exact absurd hfew (Nat.not_lt_zero _)
    · exact hcompleted
  | cons r rounds ih =>
    obtain ⟨hr, hrounds⟩ := List.forall_mem_cons.mp hrounds
    rcases hstate with hrunning | ⟨hcompleted, hall⟩
    · cases hselected : e.selected with
      | none =>
        obtain ⟨hadvance, hafter⟩ := h.advance hrunning
        obtain ⟨leases, e', heq, hdriven, hend, hfinish⟩ := ih hrounds hadvance (hafter.imp (·.1) id)
        refine ⟨leases, e', ?_, hdriven, hend, fun hunneeded _ => hfinish hunneeded (.inr ?_)⟩
        · refine Method.bind_eq_ok.mpr ⟨.running, e, Method.get_eq_ok.mpr ⟨hrunning, rfl⟩, ?_⟩
          rw [if_neg (not_not.mpr rfl)]
          have hlease : leaseNext r.workerId r.now r.duration e = _ := leaseNext_eq _ _ _ _
          rw [hr.leaseChecks hrunning, hselected] at hlease
          exact Method.bind_eq_ok.mpr ⟨none, _, hlease, heq⟩
        -- With nothing to lease, all ordinary steps are done.
        · refine (hafter.resolve_left fun hleft => hleft.2 fun id hid hnot => ?_).1
          by_contra hnew
          have hmem : id ∈ d.ordinarySteps.filter (· ∉ done) :=
            List.mem_filter.mpr ⟨(WorkflowDefinition.mem_ordinarySteps hd).mpr ⟨hid, hnot⟩, decide_eq_true hnew⟩
          have hsome := h.selected_isSome hd hrunning hunneeded (List.ne_nil_of_mem hmem)
          rw [hselected] at hsome
          cases hsome
      | some id =>
        obtain ⟨lease, receipt, e₁, e₂, hlease, hcomplete, rfl, hrunning₂, h₂⟩ := h.round hd hrunning hr hselected
        obtain ⟨hadvance, hafter⟩ := h₂.advance hrunning₂
        obtain ⟨leases, e', heq, hdriven, hend, hfinish⟩ := ih hrounds hadvance (hafter.imp (·.1) (fun hdone => hdone))
        rw [List.append_assoc] at hdriven hend
        refine ⟨lease :: leases, e', ?_, hdriven, hend, fun hunneeded hfew => hfinish hunneeded (.inl ?_)⟩
        · refine Method.bind_eq_ok.mpr ⟨.running, e, Method.get_eq_ok.mpr ⟨hrunning, rfl⟩, ?_⟩
          rw [if_neg (not_not.mpr rfl)]
          exact Method.bind_eq_ok.mpr ⟨some lease, e₁, hlease, Method.bind_eq_ok.mpr ⟨receipt, _,
            hcomplete, Method.bind_eq_ok.mpr ⟨leases, e', heq, rfl⟩⟩⟩
        · have hlast := h₂.scheduled.ordinary lease.stepId (by simp)
          have hnew : lease.stepId ∉ done := by
            have hnodup := h₂.scheduled.nodup
            rw [← List.concat_eq_append, List.nodup_concat] at hnodup
            exact hnodup.1
          have hmem := (WorkflowDefinition.mem_ordinarySteps hd).mpr hlast
          have hleft : 0 < (d.ordinarySteps.filter (· ∉ done)).length :=
            List.length_pos_of_mem (List.mem_filter.mpr ⟨hmem, decide_eq_true hnew⟩)
          rw [length_filter_concat (WorkflowDefinition.nodup_ordinarySteps hd) hnew, if_pos hmem]
          rcases hfew with hfew | hcompleted
          · rw [List.length_cons] at hfew
            omega
          · rw [hrunning] at hcompleted
            cases hcompleted
    · refine ⟨[], e, ?_, ?_⟩
      · refine Method.bind_eq_ok.mpr ⟨.completed, e, Method.get_eq_ok.mpr ⟨hcompleted, rfl⟩, ?_⟩
        rw [if_pos (by decide)]
        rfl
      · rw [List.map_nil, List.append_nil]
        exact ⟨h, .inr ⟨hcompleted, hall⟩, fun _ _ => hcompleted⟩

theorem start {genesis : String} (hnew : WorkflowEngine.new d genesis = .ok e) :
    ∃ e', WorkflowEngine.start e = (.ok (), e') ∧ e'.state = .running ∧ Driven d [] e' := by
  have hinv := EngineInv.new hnew
  simp only [WorkflowEngine.new, do_eq_ok] at hnew
  obtain ⟨-, rfl⟩ := hnew
  refine ⟨_, rfl, rfl, ?_⟩
  exact {
    inv := hinv.movedTo rfl (.inl rfl)
    scheduled := ⟨List.nodup_nil, fun _ h => absurd h List.not_mem_nil, fun l id l' h => by simp at h⟩
    succeeded := fun _ h => absurd h List.not_mem_nil
    fresh := fun id hid _ => by
      obtain ⟨step, hstep⟩ := exists_getElem?_of_mem hid
      show (d.steps.map fun id _ => freshRuntime id)[id]? = _
      rw [Std.ExtTreeMap.getElem?_map, hstep]
      rfl
    sequence := rfl
    unused := fun _ _ h => absurd h Std.ExtTreeSet.not_mem_empty }

theorem targetsUnneeded (h : Driven d done e) (hall : AllDone d done) : d.TargetsUnneeded := by
  intro id dependency hon hid
  have ⟨step, hstep, _⟩ := hon
  exact h.scheduled.unneeded (hall id (mem_of_getElem? hstep) hid) hon

theorem run {genesis : String} (hd : d.Accepted) (hnew : WorkflowEngine.new d genesis = .ok e)
    {rounds : List Round} (hrounds : ∀ r ∈ rounds, r.Valid) :
    ∃ leases e', (WorkflowEngine.start >>= fun _ => Workflow.drive rounds) e = (.ok leases, e') ∧
      Driven d (leases.map (·.stepId)) e' ∧
      (e'.state = .running ∨ e'.state = .completed ∧ AllDone d (leases.map (·.stepId))) ∧
      (d.TargetsUnneeded → d.ordinarySteps.length < rounds.length → e'.state = .completed) := by
  obtain ⟨e₁, hstart, hrunning, h₁⟩ := Driven.start hnew
  obtain ⟨leases, e', heq, hdriven, hend, hfinish⟩ := h₁.drive hd hrounds (.inl hrunning)
  refine ⟨leases, e', Method.bind_eq_ok.mpr ⟨(), e₁, hstart, heq⟩, hdriven, hend, fun hunneeded hmany => ?_⟩
  refine hfinish hunneeded (.inl ?_)
  simpa using hmany

end Driven

/-! ## When an accepted workflow finishes -/

/-- A started engine is driven to `Completed`, with every step that is no compensation target leased
once and after its dependencies, **exactly when no such step depends on a compensation target**. -/
theorem drive_completes {workflowId runId fingerprint genesis : String} {steps : List WorkflowStep}
    {d : WorkflowDefinition} {e : WorkflowEngine}
    (hd : WorkflowDefinition.new workflowId runId fingerprint steps = .ok d)
    (hnew : WorkflowEngine.new d genesis = .ok e) {rounds : List Round}
    (hrounds : ∀ r ∈ rounds, r.Valid) (hmany : d.ordinarySteps.length < rounds.length) :
    ∃ leases e', (WorkflowEngine.start >>= fun _ => drive rounds) e = (.ok leases, e') ∧
      ((e'.state = .completed ∧ d.Scheduled (leases.map (·.stepId)) ∧
          ∀ id ∈ d.steps, id ∉ d.compensationTargets → id ∈ leases.map (·.stepId)) ↔ d.TargetsUnneeded) := by
  obtain ⟨leases, e', heq, hdriven, hend, hfinish⟩ := Driven.run (WorkflowDefinition.accepted_of_new hd) hnew hrounds
  refine ⟨leases, e', heq, ?_⟩
  constructor
  · rintro ⟨-, -, hall⟩
    exact hdriven.targetsUnneeded hall
  · intro hunneeded
    have hcompleted := hfinish hunneeded hmany
    refine ⟨hcompleted, hdriven.scheduled, ?_⟩
    rcases hend with hrunning | ⟨-, hall⟩
    · rw [hrunning] at hcompleted
      cases hcompleted
    · exact hall

/-- A step that depends on the cleanup step of another. -/
def starvedSteps : List WorkflowStep :=
  [⟨"a", .registerOwnedObject, ∅, some "x", 0, 0, true, some "c"⟩, ⟨"b", .observe, {"c"}, none, 0,
    0, false, none⟩, ⟨"c", .cleanupOwnedObject, ∅, some "x", 0, 0, false, none⟩]

def starved : WorkflowDefinition := unwrap (WorkflowDefinition.new "w" "r" zeroDigest starvedSteps) (by decide +kernel)

def starvedEngine : WorkflowEngine := unwrap (WorkflowEngine.new starved zeroDigest) (by decide +kernel)

/-- An accepted workflow that is never completed, however often it is asked for the next step. -/
theorem drive_starved : ∃ d e, WorkflowDefinition.new "w" "r" zeroDigest starvedSteps = .ok d ∧
    WorkflowEngine.new d zeroDigest = .ok e ∧ "b" ∈ d.steps ∧ "b" ∉ d.compensationTargets ∧
    ∀ rounds : List Round, (∀ r ∈ rounds, r.Valid) →
      ∃ leases e', (WorkflowEngine.start >>= fun _ => drive rounds) e = (.ok leases, e') ∧
        e'.state = .running ∧ "b" ∉ leases.map (·.stepId) := by
  have hd : WorkflowDefinition.new "w" "r" zeroDigest starvedSteps = .ok starved := eq_ok_unwrap _ _
  have he : WorkflowEngine.new starved zeroDigest = .ok starvedEngine := eq_ok_unwrap _ _
  have hb : (starved.steps["b"]?.map fun step => step.dependencies.contains "c") = some true := by decide +kernel
  obtain ⟨step, hstep, hdependency⟩ := Option.map_eq_some_iff.mp hb
  have hon : starved.DependsOn "b" "c" := ⟨step, hstep, Std.ExtTreeSet.mem_iff_contains.mpr hdependency⟩
  have hc : "c" ∈ starved.compensationTargets := by decide +kernel
  have hordinary : "b" ∉ starved.compensationTargets := by decide +kernel
  refine ⟨starved, starvedEngine, hd, he, mem_of_getElem? hstep, hordinary, fun rounds hrounds => ?_⟩
  obtain ⟨leases, e', heq, hdriven, hend, -⟩ := Driven.run (WorkflowDefinition.accepted_of_new hd) he hrounds
  have hnot : "b" ∉ leases.map (·.stepId) := fun hmem =>
    hdriven.scheduled.unneeded hmem hon hc
  refine ⟨leases, e', heq, hend.resolve_right fun hdone => hnot ?_, hnot⟩
  exact hdone.2 "b" (mem_of_getElem? hstep) hordinary

/-- Four rounds for three steps. -/
theorem drive_completes_example : ∃ leases e', (WorkflowEngine.start >>= fun _ =>
      drive (List.replicate 4 ⟨"x", 0, 10, 1, zeroDigest⟩)) ownedObjectsEngine = (.ok leases, e') ∧
    ((e'.state = .completed ∧ ownedObjects.Scheduled (leases.map (·.stepId)) ∧
        ∀ id ∈ ownedObjects.steps, id ∉ ownedObjects.compensationTargets → id ∈ leases.map (·.stepId)) ↔
      ownedObjects.TargetsUnneeded) := by
  refine drive_completes (eq_ok_unwrap (WorkflowDefinition.new "w" "r" zeroDigest ownedObjectSteps) _)
    (eq_ok_unwrap (WorkflowEngine.new ownedObjects zeroDigest) _) (fun r hr => ?_) ?_
  · rw [List.eq_of_mem_replicate hr]
    exact ⟨by decide +kernel, by decide, by decide, by decide, by decide, by decide +kernel⟩
  · decide +kernel

end BoundSeal.Workflow

import BoundSeal.Operator.Completion

/-!
# What a run executes

The counters are compared with the request budget only after the executor has returned.
-/

namespace BoundSeal.Operator

open Rust Lib

namespace RuntimeSystem

/-! ## A run of three calls -/

/-- Empty directories with the activation marker. -/
def exampleSystem : RuntimeSystem := ⟨⟨⟨∅, true⟩, ∅, false⟩, [], none⟩

theorem exampleSystem_fresh : exampleSystem.Fresh := ⟨rfl, rfl, rfl, rfl⟩

def exampleExecutor (second : ℕ) (_ : RuntimeRequestSpec) : Except String RuntimeExecutionReceipt :=
  .ok (exampleReceipt ⟨second, second * 1000⟩)

def exampleCall (second : ℕ) : RuntimeCall :=
  .execute exampleSpec ⟨second, second * 1000⟩ 0 (exampleExecutor second)

/-- The latest checkpoint has used up the requests of the plan. -/
def AtBudget (plan : UnifiedOperatorPlan) (s : RuntimeSystem) : Prop :=
  ∃ runtime state time, s.process = some runtime ∧ runtime.stateStore.recover s.disk.state time = .ok state ∧
    state.latest.counters.requestsCompleted = plan.binding.maximumRequests

variable {s : RuntimeSystem}

theorem exists_step_opening (call : RuntimeCall)
    {p : Proc RuntimeError RuntimeDisk (CheckpointBoundRuntime × RuntimeRecovery)}
    (hp : call.opening = some p) {post : CheckpointBoundRuntime → RuntimeDisk → Prop}
    (hwp : Proc.wp p (fun _ => True)
      (fun r t => ∃ runtime recovery, r = .ok (runtime, recovery) ∧ post runtime t) s.disk) :
    ∃ runtime recovery disk, step s (call, none) = some
      (.opened recovery, ⟨disk, s.invoked, some runtime⟩) ∧ post runtime disk := by
  obtain ⟨-, runtime, recovery, hresult, hpost⟩ := hwp
  refine ⟨runtime, recovery, (p s.disk).final, ?_, hpost⟩
  simp only [step, hp, endOpening, hresult]

variable {runtime : CheckpointBoundRuntime}

theorem exists_step_serving (call : RuntimeCall)
    {p : RuntimeProc RuntimeReply} (hopening : call.opening = none) (hp : call.serving = some p)
    (hprocess : s.process = some runtime) {post : Except RuntimeError RuntimeReply → RuntimeWorld → Prop}
    (hwp : Proc.wp p (fun _ => True) post ⟨s.disk, runtime, s.invoked⟩) :
    ∃ r t, step s (call, none) = some (.ofResult r, ⟨t.disk, t.invoked, some t.runtime⟩) ∧ post r t := by
  refine ⟨_, _, ?_, hwp.2⟩
  simp only [step, hopening, hp, hprocess, endServing]

/-- A call that reaches the executor can return, and it can be cut off right behind it. -/
theorem exists_steps_of_invokes (call : RuntimeCall) {p : RuntimeProc RuntimeReply} {x : Invocation}
    (hopening : call.opening = none) (hp : call.serving = some p) (hprocess : s.process = some runtime)
    (h : RuntimeWorld.Invokes (p ⟨s.disk, runtime, s.invoked⟩) ⟨s.disk, runtime, s.invoked⟩ x) :
    (∃ o u, step s (call, none) = some (o, u) ∧ u.invoked = s.invoked ++ [x]) ∧
      ∃ u, step s (call, some operationsBeforeExecutor) = some (.crashed, u) ∧ u.invoked = s.invoked ++ [x] := by
  obtain ⟨before, since, hpassed, hlength, hne, -, hsince, hfinal⟩ := h
  obtain ⟨t, rest, rfl⟩ := List.exists_cons_of_ne_nil hne
  simp only [step, hopening, hp, hprocess, endServing, hpassed, ← hlength]
  refine ⟨⟨_, _, rfl, hfinal⟩, crash t.disk t.invoked, ?_, hsince t List.mem_cons_self⟩
  rw [List.getElem?_append_right le_rfl, Nat.sub_self]
  rfl

theorem step_exampleCall {n second : ℕ} (hn : n = 1) (hsecond : second = 2)
    (hprocess : s.process = some runtime)
    (hready : Ready n 0 ⟨s.disk, runtime, s.invoked⟩) (hstate : s.disk.state = exampleDisk n) :
    ∃ receipt state u after, step s (exampleCall second, none) = some (.executed receipt state, u) ∧
      u.process = some after ∧ Ready n 1 ⟨u.disk, after, u.invoked⟩ ∧
      (∃ chain latest, Going n 1 u.disk.state chain latest) ∧ u.invoked = s.invoked ++ [⟨0, exampleSpec⟩] := by
  have hserved : Proc.wp (RuntimeWorld.executeWithReservedWorkspace exampleSpec ⟨second, second * 1000⟩ 0
        (exampleExecutor second) >>= fun reply => pure (RuntimeReply.executed reply.1 reply.2)) (fun _ => True)
      (fun r t => ∃ receipt state, r = .ok (.executed receipt state) ∧ Ready n 1 t ∧
        (∃ chain latest, Going n 1 t.disk.state chain latest) ∧ t.invoked = s.invoked ++ [⟨0, exampleSpec⟩])
      ⟨s.disk, runtime, s.invoked⟩ := by
    refine Proc.wp_map (Proc.wp_mono (hready.execute hn hsecond hstate rfl) (fun _ h => h) ?_)
    rintro r t ⟨⟨state, rfl⟩, hready', hgoing, hinvoked⟩
    exact ⟨_, state, rfl, hready', hgoing, hinvoked⟩
  obtain ⟨r, t, hstep, receipt, state, rfl, hready', hgoing, hinvoked⟩ :=
    exists_step_serving (exampleCall second) rfl rfl hprocess hserved
  exact ⟨receipt, state, _, t.runtime, hstep, rfl, hready', hgoing, hinvoked⟩

theorem step_exampleCall_atBudget {n second : ℕ} (hn : n = 1) (hsecond : second = 3)
    {chain : List OperatorCheckpoint} {latest : OperatorCheckpoint}
    (hprocess : s.process = some runtime) (hready : Ready n 1 ⟨s.disk, runtime, s.invoked⟩)
    (hgoing : Going n 1 s.disk.state chain latest) :
    AtBudget (examplePlan n) s ∧
      (∃ o u, step s (exampleCall second, none) = some (o, u) ∧ u.invoked = s.invoked ++ [⟨1, exampleSpec⟩]) ∧
      ∃ u, step s (exampleCall second, some operationsBeforeExecutor) = some (.crashed, u) ∧
        u.invoked = s.invoked ++ [⟨1, exampleSpec⟩] := by
  obtain ⟨prepared, hprepare, -⟩ := hready.prepareRequest hn hgoing (Nat.le_refl 1) hsecond
  have hnext : runtime.nextRequestIndex = 1 := hready.next
  have hfree : preparedFileName runtime.nextRequestIndex ∉ s.disk.journal := by
    intro hmem
    have hlt := hready.records .prepared _ hmem
    omega
  have hinvokes : RuntimeWorld.Invokes (RuntimeWorld.executeWithReservedWorkspace exampleSpec
      ⟨second, second * 1000⟩ 0 (exampleExecutor second) ⟨s.disk, runtime, s.invoked⟩)
      ⟨s.disk, runtime, s.invoked⟩ ⟨1, exampleSpec⟩ :=
    hnext ▸ RuntimeWorld.invokes_of_prepareRequest hprepare ⟨temporaryName_not_mem hready.finished _ _, hfree⟩
  refine ⟨⟨runtime, (exampleStore n).recovered chain latest 1, 1, hprocess, ?_, hgoing.completed.trans hn.symm⟩, ?_⟩
  · rw [show runtime.stateStore = exampleStore n from hready.store]
    exact hgoing.recover hn 1
  · exact exists_steps_of_invokes (exampleCall second) rfl rfl hprocess (hinvokes.map _)

/-- **A run beyond the budget.** The plan allows one request; the first is committed,
and the second calls the executor once more. The process may crash right then. -/
theorem exampleRun : ∃ recovery receipt state o a b t u, Run step exampleSystem
        [⟨exampleSystem, (.start (examplePlan 1) (exampleActivation 1) 1 ⟨1, 1000⟩, none), .opened recovery, a⟩,
          ⟨a, (exampleCall 2, none), .executed receipt state, b⟩, ⟨b, (exampleCall 3, none), o, t⟩] t ∧
      AtBudget (examplePlan 1) b ∧ b.invoked.length = 1 ∧ t.invoked.length = 2 ∧
      Run step exampleSystem
        [⟨exampleSystem, (.start (examplePlan 1) (exampleActivation 1) 1 ⟨1, 1000⟩, none),
          .opened recovery, a⟩, ⟨a, (exampleCall 2, none), .executed receipt state, b⟩,
          ⟨b, (exampleCall 3, some operationsBeforeExecutor), .crashed, u⟩] u ∧ u.invoked.length = 2 := by
  obtain ⟨runtime, recovery, disk, hstep₁, hstate₁, hready₁⟩ :=
    exists_step_opening (s := exampleSystem)
      (.start (examplePlan 1) (exampleActivation 1) 1 ⟨1, 1000⟩) rfl (wp_start_example (n := 1) rfl)
  obtain ⟨receipt, state, b, after, hstep₂, hprocess₂, hready₂, ⟨chain, latest, hgoing₂⟩, hinvoked₂⟩ :=
    step_exampleCall (s := ⟨disk, [], some runtime⟩) rfl rfl rfl (hready₁ []) hstate₁
  obtain ⟨hbudget, ⟨o, t, hstep₃, hinvoked₃⟩, u, hcrash, hinvoked⟩ :=
    step_exampleCall_atBudget rfl rfl hprocess₂ hready₂ hgoing₂
  have hlength : b.invoked.length = 1 := congrArg List.length hinvoked₂
  refine ⟨recovery, receipt, state, o, _, b, t, u, .cons hstep₁ (.cons hstep₂ (.cons hstep₃ .nil)),
    hbudget, hlength, ?_, .cons hstep₁ (.cons hstep₂ (.cons hcrash .nil)), ?_⟩
  · rw [hinvoked₃, List.length_append, hlength, List.length_singleton]
  · rw [hinvoked, List.length_append, hlength, List.length_singleton]

/-! ## At most once -/

/-- **A journalled request is executed at most once**, in every run of calls, crashes
and reopenings: the invocations of the executor are numbered 0, 1, 2, …, each
number once, and after every opening that succeeds each number is committed in
the journal and in the checkpoint chain, or has no prepared record, or the run
may not continue and the runtime refuses every request. -/
theorem executed_once {s : RuntimeSystem}
    {es : List RuntimeEvent} {t : RuntimeSystem} (hs : s.Fresh) (hrun : Run step s es t) :
    t.invoked.map (·.index) = List.range t.invoked.length ∧
      ∀ e ∈ es, ∀ recovery, e.output = .opened recovery →
        ∃ runtime, e.post.process = some runtime ∧ CheckpointBoundRuntime.Decided e.post.disk runtime recovery := by
  refine ⟨(inv_of_run hs hrun).journal.indices, fun e he recovery hopened => ?_⟩
  obtain ⟨k, hk⟩ := List.getElem?_of_mem he
  have hpre := inv_of_run hs (hrun.before hk)
  exact (stepped_of_step hpre (hrun.step_of_getElem? hk)).opened recovery hopened

/-- The second request is executed, the process crashes, and the runtime is opened again: both
requests have been executed once. -/
theorem executed_once_exampleRun : ∃ es t, Run step exampleSystem es t ∧ t.invoked.length = 2 ∧
      t.invoked.map (·.index) = List.range t.invoked.length ∧
      (∃ e ∈ es, ∃ recovery runtime, e.output = .opened recovery ∧ e.post.process = some runtime ∧
        CheckpointBoundRuntime.Decided e.post.disk runtime recovery) ∧
      (∃ e ∈ es, e.output = .crashed ∧ e.post.invoked ≠ e.pre.invoked) ∧
      ∃ e, es.getLast? = some e ∧ e.input = (.reopen (examplePlan 1) exampleDigest 2 ⟨4, 4000⟩, none) := by
  obtain ⟨recovery, receipt, state, _, a, b, _, u, -, -, hfirst, -, hrun, hlength⟩ := exampleRun
  obtain ⟨o, t, hreopen, hinvoked⟩ : ∃ o t, step u (.reopen (examplePlan 1) exampleDigest 2 ⟨4,
      4000⟩, none) = some (o, t) ∧ t.invoked = u.invoked := by
    simp only [step, RuntimeCall.opening, endOpening]
    split
    · exact ⟨_, _, rfl, rfl⟩
    · exact ⟨_, _, rfl, rfl⟩
  have hall := hrun.snoc hreopen
  obtain ⟨hindices, hopened⟩ := executed_once exampleSystem_fresh hall
  obtain ⟨runtime, hprocess, hdecided⟩ := hopened _ List.mem_cons_self recovery rfl
  refine ⟨_, t, hall, by rw [hinvoked, hlength], hindices, ⟨_, List.mem_cons_self, recovery, runtime, rfl, hprocess,
    hdecided⟩, ⟨_, List.mem_append_left _ (List.mem_cons_of_mem _ (List.mem_cons_of_mem _ List.mem_cons_self)), rfl,
      fun heq => ?_⟩, _, List.getLast?_concat, rfl⟩
  rw [show u.invoked = b.invoked from heq, hfirst] at hlength
  cases hlength

/-! ## The request budget -/

/-- What `execute_live_authenticated` checks of its attempt. -/
def attemptChecks (runtime : CheckpointBoundRuntime) : RuntimeCall → Except RuntimeError Unit
  | .executeLive attempt _ depth _ _ => RuntimeWorld.validateLiveAttempt runtime.plan attempt depth
  | _ => .ok ()

/-- The call passes all checks, the names of its prepared record are free, and no crash
cuts it off before the executor. -/
def Admitted (s : RuntimeSystem) (input : RuntimeCall × Option ℕ) (recovered : RecoveredOperatorState) : Prop :=
  ∃ runtime spec clock reservedBytes prepared, s.process = some runtime ∧
    input.1.request = some (spec, clock, reservedBytes) ∧ attemptChecks runtime input.1 = .ok () ∧
    runtime.prepareRequest s.disk spec clock reservedBytes = .ok (recovered, prepared) ∧
    RuntimeWorld.NamesFree ⟨s.disk, runtime, s.invoked⟩ ∧
    ∀ n, input.2 = some n → operationsBeforeExecutor ≤ n

/-- A call that is admitted although the budget is used up. -/
def AdmittedAtBudget (plan : UnifiedOperatorPlan) (e : RuntimeEvent) : Prop :=
  ∃ recovered, Admitted e.pre e.input recovered ∧
    recovered.latest.counters.requestsCompleted = plan.binding.maximumRequests

section Admission

variable {p : RuntimeProc RuntimeReply} {w : RuntimeWorld} {x : Invocation}
  {crashAt : Option ℕ} {o : RuntimeReply} {u : RuntimeSystem}

theorem endServing_of_invokes (h : RuntimeWorld.Invokes (p w) w x) (hend : endServing (p w) crashAt = some (o, u)) :
    u.invoked ≠ w.invoked ↔ ∀ n, crashAt = some n → operationsBeforeExecutor ≤ n := by
  obtain ⟨before, since, hpassed, hlength, -, hbefore, hsince, hfinal⟩ := h
  have hlonger : w.invoked ++ [x] ≠ w.invoked := by simp
  cases crashAt with
  | none =>
    cases hend
    exact ⟨fun _ n hn => (by cases hn), fun _ => hfinal ▸ hlonger⟩
  | some n =>
    obtain ⟨t, ht, heq⟩ := Option.map_eq_some_iff.mp hend
    cases heq
    change t.invoked ≠ w.invoked ↔ _
    rw [hpassed] at ht
    simp only [Option.some.injEq, forall_eq']
    by_cases hn : n < before.length
    · rw [List.getElem?_append_left hn] at ht
      exact ⟨fun hne => absurd (hbefore t (List.mem_of_getElem? ht)) hne, fun hle => by omega⟩
    · rw [List.getElem?_append_right (Nat.not_lt.mp hn)] at ht
      rw [hsince t (List.mem_of_getElem? ht)]
      exact ⟨fun _ => by omega, fun _ => hlonger⟩

theorem endServing_of_silent (h : RuntimeWorld.Silent (p w) w)
    (hend : endServing (p w) crashAt = some (o, u)) : u.invoked = w.invoked := by
  cases crashAt with
  | none =>
    cases hend
    exact h.2
  | some n =>
    obtain ⟨t, ht, heq⟩ := Option.map_eq_some_iff.mp hend
    cases heq
    exact h.1 t (List.mem_of_getElem? ht)

variable {call : RuntimeCall} {spec : RuntimeRequestSpec} {clock : RuntimeClock} {reservedBytes : ℕ}

/-- A call with a request is an execution of it, unless its attempt is refused. -/
theorem serving_of_request (hp : call.serving = some p)
    (hrequest : call.request = some (spec, clock, reservedBytes)) :
    (attemptChecks w.runtime call = .ok () ∧ ∃ executor,
      (p w).final = (RuntimeWorld.executeWithReservedWorkspace spec clock reservedBytes executor w).final ∧
      (p w).passed = (RuntimeWorld.executeWithReservedWorkspace spec clock reservedBytes executor w).passed) ∨
    (attemptChecks w.runtime call ≠ .ok () ∧ RuntimeWorld.Silent (p w) w) := by
  cases call with
  | execute spec' clock' reserved' executor =>
    cases hp
    cases hrequest
    exact .inl ⟨rfl, executor, Proc.map_final_passed _⟩
  | executeLive attempt request depth clock' pipeline =>
    have hmap : (p w).final =
          (RuntimeWorld.executeLiveAuthenticated attempt request depth clock' pipeline w).final ∧
        (p w).passed = (RuntimeWorld.executeLiveAuthenticated attempt request depth clock' pipeline w).passed := by
      cases hp
      exact Proc.map_final_passed _
    cases hrequest
    rw [RuntimeWorld.executeLiveAuthenticated, Proc.get_bind] at hmap
    cases hchecks : RuntimeWorld.validateLiveAttempt w.runtime.plan attempt depth with
    | ok u =>
      rw [Proc.bind_of_ok hchecks] at hmap
      exact .inl ⟨hchecks, pipeline, hmap⟩
    | error e =>
      rw [Proc.bind_of_error hchecks] at hmap
      refine .inr ⟨fun h => (by cases hchecks.symm.trans h), fun t ht => ?_, congrArg RuntimeWorld.invoked hmap.1⟩
      rw [hmap.2] at ht
      cases ht
  | _ => cases hrequest

/-- **The executor is called** by the calls that are admitted, and by no others. -/
theorem invoked_ne_iff {s : RuntimeSystem} {input : RuntimeCall × Option ℕ} (hs : s.Inv)
    (hstep : step s input = some (o, u)) : u.invoked ≠ s.invoked ↔ ∃ recovered, Admitted s input recovered := by
  obtain ⟨call, crashAt⟩ := input
  cases hrequest : call.request with
  | none =>
    constructor
    · intro hne
      rcases (stepped_of_step hs hstep).calls with hsame | ⟨_, _, _, _, _, -, hsome, -⟩
      · exact absurd hsame hne
      · cases hrequest.symm.trans hsome
    · rintro ⟨_, _, _, _, _, _, -, hsome, -⟩
      cases hrequest.symm.trans hsome
  | some request =>
    obtain ⟨spec, clock, reserved⟩ := request
    obtain ⟨p, hopening, hp⟩ : ∃ p, call.opening = none ∧ call.serving = some p := by
      cases call <;> first | exact ⟨_, rfl, rfl⟩ | cases hrequest
    cases hprocess : s.process with
    | none => simp only [step, hopening, hp, hprocess, reduceCtorEq] at hstep
    | some runtime =>
      have hend : endServing (p ⟨s.disk, runtime, s.invoked⟩) crashAt = some (o, u) := by
        simpa only [step, hopening, hp, hprocess] using hstep
      -- what is known of an admitted call, with this process and this request
      have hadmitted : ∀ recovered, Admitted s (call, crashAt) recovered ↔
          attemptChecks runtime call = .ok () ∧
          (∃ prepared, runtime.prepareRequest s.disk spec clock reserved = .ok (recovered, prepared)) ∧
          RuntimeWorld.NamesFree ⟨s.disk, runtime, s.invoked⟩ ∧
          ∀ n, crashAt = some n → operationsBeforeExecutor ≤ n := by
        intro recovered
        constructor
        · rintro ⟨_, _, _, _, prepared, hsame, hrequest', hchecks, hprepare, hfree, hcrash⟩
          cases hprocess.symm.trans hsame
          cases hrequest.symm.trans hrequest'
          exact ⟨hchecks, ⟨prepared, hprepare⟩, hfree, hcrash⟩
        · rintro ⟨hchecks, ⟨prepared, hprepare⟩, hfree, hcrash⟩
          exact ⟨runtime, spec, clock, reserved, prepared, hprocess, hrequest, hchecks, hprepare, hfree, hcrash⟩
      simp only [hadmitted]
      rcases serving_of_request (w := ⟨s.disk, runtime, s.invoked⟩) hp hrequest with
        ⟨hchecks, executor, hfinal, hpassed⟩ | ⟨hchecks, hsilent⟩
      · by_cases hready : ∃ prepared, runtime.prepareRequest s.disk spec clock reserved = .ok prepared ∧
          RuntimeWorld.NamesFree ⟨s.disk, runtime, s.invoked⟩
        · obtain ⟨⟨recovered, prepared⟩, hprepare, hfree⟩ := hready
          have hinvokes : RuntimeWorld.Invokes (p ⟨s.disk, runtime, s.invoked⟩)
              ⟨s.disk, runtime, s.invoked⟩ ⟨runtime.nextRequestIndex, spec⟩ := by
            rw [RuntimeWorld.Invokes, hfinal, hpassed]
            exact RuntimeWorld.invokes_of_prepareRequest hprepare hfree
          rw [show u.invoked ≠ s.invoked ↔ _ from endServing_of_invokes hinvokes hend]
          constructor
          · intro hcrash
            exact ⟨recovered, hchecks, ⟨prepared, hprepare⟩, hfree, hcrash⟩
          · rintro ⟨-, -, -, -, hcrash⟩
            exact hcrash
        · have hsilent : RuntimeWorld.Silent (p ⟨s.disk, runtime, s.invoked⟩) ⟨s.disk, runtime, s.invoked⟩ := by
            rw [RuntimeWorld.Silent, hfinal, hpassed]
            exact RuntimeWorld.silent_of_not_free fun prepared hprepare hfree => hready ⟨prepared, hprepare, hfree⟩
          refine ⟨fun hne => absurd (endServing_of_silent hsilent hend) hne, ?_⟩
          rintro ⟨recovered, -, ⟨prepared, hprepare⟩, hfree, -⟩
          exact absurd ⟨_, hprepare, hfree⟩ hready
      · refine ⟨fun hne => absurd (endServing_of_silent hsilent hend) hne, ?_⟩
        rintro ⟨recovered, hok, -⟩
        exact absurd hok hchecks

end Admission

theorem prepareRequest_state {disk : RuntimeDisk} {spec : RuntimeRequestSpec}
    {clock : RuntimeClock} {reservedBytes : ℕ} {recovered : RecoveredOperatorState}
    {prepared : PreparedRequestRecord}
    (h : runtime.prepareRequest disk spec clock reservedBytes = .ok (recovered, prepared)) :
    runtime.stateStore.recover disk.state clock.epochSeconds = .ok recovered ∧
      recovered.latest.counters.requestsCompleted = runtime.nextRequestIndex := by
  simp only [CheckpointBoundRuntime.prepareRequest, do_eq_ok, mapError_eq_ok, Prod.mk.injEq, not_not] at h
  obtain ⟨-, -, -, state, hstate, -, hcount, -, record, -, -, -, -, rfl, rfl⟩ := h
  exact ⟨hstate, hcount⟩

variable {state : RecoveredOperatorState}

theorem requestsCompleted_le {store : OperatorStateStore} {disk : StateDisk} {time : ℤ}
    (h : store.recover disk time = .ok state) :
    state.latest.counters.requestsCompleted ≤ store.plan.binding.maximumRequests := by
  obtain ⟨-, -, chain, latest, -, haccepted, hlast, rfl⟩ := OperatorStateStore.recover_eq_ok.mp h
  have hstatic := (OperatorStateStore.last_of_accepted haccepted hlast).2.1
  have hcounters := (OperatorStateStore.validateStatic_eq_ok.mp hstatic).2.2.1
  simp only [OperatorCounters.validateAgainstPlan, do_eq_ok, not_lt] at hcounters
  exact hcounters.1

variable {o : RuntimeReply}

section Budget

variable {plan : UnifiedOperatorPlan} {s t : RuntimeSystem}
  {es : List RuntimeEvent}

theorem plan_of_run (hs : s.Fresh) (hrun : Run step s es t)
    (hplans : ∀ e ∈ es, ∀ p, e.input.1.plan = some p → p = plan) :
    ∀ runtime, t.process = some runtime → runtime.plan = plan ∧ runtime.stateStore.plan = plan := by
  induction hrun with
  | nil =>
    intro runtime hruntime
    rw [hs.process] at hruntime
    cases hruntime
  | @snoc es t u input o hes hstep ih =>
    intro runtime hruntime
    have hold := ih fun e he => hplans e (List.mem_append_left _ he)
    rcases (stepped_of_step (inv_of_run hs hes) hstep).plans runtime hruntime with ⟨old, hprocess, hplan, hstore⟩ |
      ⟨p, hcall, hplan, hstore⟩
    · rw [hplan, hstore]
      exact hold old hprocess
    · obtain rfl := hplans _ (List.mem_append_right _ List.mem_cons_self) p hcall
      exact ⟨hplan, hstore⟩

variable {input : RuntimeCall × Option ℕ}

theorem step_invoked (ht : t.Inv) (hplan : ∀ runtime, t.process = some runtime →
    runtime.stateStore.plan = plan) {u : RuntimeSystem} (hstep : step t input = some (o, u)) :
    u.invoked = t.invoked ∨
      (u.invoked.length = t.invoked.length + 1 ∧ t.invoked.length ≤ plan.binding.maximumRequests ∧
        (t.invoked.length = plan.binding.maximumRequests ↔ AtBudget plan t) ∧
        (t.invoked.length = plan.binding.maximumRequests → AdmittedAtBudget plan ⟨t, input, o, u⟩)) := by
  rcases (stepped_of_step ht hstep).calls with hsame |
    ⟨runtime, spec, clock, reserved, ⟨recovered, prepared⟩, hprocess, -, hinvoked, hlength, hprepare⟩
  · exact .inl hsame
  · obtain ⟨hrecover, hcount⟩ := prepareRequest_state hprepare
    have hle := requestsCompleted_le hrecover
    rw [hplan runtime hprocess, hcount, ← hlength] at hle
    refine .inr ⟨by rw [hinvoked, List.length_append, List.length_singleton], hle, ⟨fun h => ?_, ?_⟩, fun h => ?_⟩
    · exact ⟨runtime, recovered, _, hprocess, hrecover, by rw [hcount, ← hlength, h]⟩
    · rintro ⟨runtime', state, time, hprocess', hstate, hbudget⟩
      obtain rfl : runtime = runtime' := Option.some.inj (hprocess.symm.trans hprocess')
      rw [OperatorStateStore.recover_at hrecover, Except.ok.injEq] at hstate
      rw [← hbudget, ← hstate, hlength]
      exact hcount.symm
    · have hne : u.invoked ≠ t.invoked := by simp [hinvoked]
      obtain ⟨state, hadmitted⟩ := (invoked_ne_iff ht hstep).mp hne
      refine ⟨state, hadmitted, ?_⟩
      obtain ⟨runtime', _, _, _, _, hprocess', -, -, hprepare', -⟩ := hadmitted
      cases hprocess.symm.trans hprocess'
      rw [(prepareRequest_state hprepare').2, ← hlength, h]

theorem not_executed_atBudget (ht : t.Inv)
    (hplan : ∀ runtime, t.process = some runtime → runtime.plan = plan) {u : RuntimeSystem}
    (hstep : step t input = some (o, u))
    (hbudget : AtBudget plan t) (receipt : RuntimeExecutionReceipt)
    (state : RecoveredOperatorState) : o ≠ .executed receipt state := by
  intro ho
  obtain ⟨runtime, spec, clock, reserved, recovered, prepared, outcome, hprocess, hprepare, hsettle⟩ :=
    (stepped_of_step ht hstep).executed receipt state ho
  obtain ⟨runtime', state', time, hprocess', hstate', hcount⟩ := hbudget
  obtain rfl : runtime = runtime' := Option.some.inj (hprocess.symm.trans hprocess')
  have hrecover := (prepareRequest_state hprepare).1
  rw [OperatorStateStore.recover_at hstate'] at hrecover
  cases hrecover
  simp only [CheckpointBoundRuntime.settleOutcome, CheckpointBoundRuntime.blocking, CheckpointBoundRuntime.passing,
    do_eq_ok, mapError_eq_ok, checkedAdd_eq_some, not_or, not_lt, hplan runtime hprocess] at hsettle
  obtain ⟨-, -, -, count, ⟨-, rfl⟩, _, -, ⟨hwithin, -⟩, -⟩ := hsettle
  omega

end Budget

/-- **The request budget** bounds the invocations of a run, and every call made at
the budget fails without one, exactly when no call is admitted at the budget. It is
exceeded by at most one invocation, and a call at the budget never succeeds. -/
theorem invoked_le_budget_iff {plan : UnifiedOperatorPlan} {s t : RuntimeSystem}
    {es : List RuntimeEvent} (hs : s.Fresh) (hrun : Run step s es t)
    (hplans : ∀ e ∈ es, ∀ p, e.input.1.plan = some p → p = plan) :
    ((t.invoked.length ≤ plan.binding.maximumRequests ∧
        ∀ e ∈ es, AtBudget plan e.pre → e.post.invoked = e.pre.invoked ∧
          ∀ receipt state, e.output ≠ .executed receipt state) ↔
      ∀ e ∈ es, ¬ AdmittedAtBudget plan e) ∧
    t.invoked.length ≤ plan.binding.maximumRequests + 1 ∧
    ∀ e ∈ es, AtBudget plan e.pre → ∀ receipt state, e.output ≠ .executed receipt state := by
  have hnever : ∀ e ∈ es, AtBudget plan e.pre → ∀ receipt state, e.output ≠ .executed receipt state := by
    intro e he hbudget
    obtain ⟨k, hk⟩ := List.getElem?_of_mem he
    have hbefore := hrun.before hk
    have hpre := plan_of_run hs hbefore fun e he => hplans e (List.mem_of_mem_take he)
    exact not_executed_atBudget (inv_of_run hs hbefore)
      (fun runtime hruntime => (hpre runtime hruntime).1) (hrun.step_of_getElem? hk) hbudget
  have hcount : (t.invoked.length ≤ plan.binding.maximumRequests ↔
        ∀ e ∈ es, AtBudget plan e.pre → e.post.invoked = e.pre.invoked) ∧
      (t.invoked.length ≤ plan.binding.maximumRequests ↔ ∀ e ∈ es, ¬ AdmittedAtBudget plan e) ∧
      t.invoked.length ≤ plan.binding.maximumRequests + 1 := by
    clear hnever
    induction hrun with
    | nil => simp [hs.invoked]
    | @snoc es t u input o hes hstep ih =>
      have hold := fun e he => hplans e (List.mem_append_left _ he)
      obtain ⟨hatBudget, hadmitted, hbound⟩ := ih hold
      have hplan := fun runtime hruntime => (plan_of_run hs hes hold runtime hruntime).2
      simp only [List.forall_mem_append, List.forall_mem_singleton, ← hatBudget, ← hadmitted]
      rcases step_invoked (inv_of_run hs hes) hplan hstep with hsame | ⟨hlonger, hle, hiff, hexhausted⟩
      · have hnot : ¬ AdmittedAtBudget plan ⟨t, input, o, u⟩ := fun ⟨state, hadmitted, _⟩ =>
          (invoked_ne_iff (inv_of_run hs hes) hstep).mpr ⟨state, hadmitted⟩ hsame
        simp only [hsame, hnot, not_false_eq_true, implies_true, and_true, iff_self, true_and]
        exact hbound
      · have hne : u.invoked ≠ t.invoked := by
          intro heq
          rw [heq] at hlonger
          omega
        by_cases hfull : t.invoked.length = plan.binding.maximumRequests
        · refine ⟨⟨fun h => by omega, fun h => absurd (h.2 (hiff.mp hfull)) hne⟩,
            ⟨fun h => by omega, fun h => absurd (hexhausted hfull) h.2⟩, by omega⟩
        · have hnot : ¬ AtBudget plan t := fun h => hfull (hiff.mpr h)
          have hnot' : ¬ AdmittedAtBudget plan ⟨t, input, o, u⟩ := by
            rintro ⟨recovered, ⟨runtime, _, _, _, _, hprocess, -, -, hprepare, -⟩, hbudget⟩
            exact hnot ⟨runtime, recovered, _, hprocess, (prepareRequest_state hprepare).1, hbudget⟩
          exact ⟨⟨fun _ => ⟨hle, fun h => absurd h hnot⟩, fun _ => by omega⟩,
            ⟨fun _ => ⟨hle, hnot'⟩, fun _ => by omega⟩, by omega⟩
  refine ⟨⟨fun h => hcount.2.1.mp h.1, fun h => ?_⟩, hcount.2.2, hnever⟩
  have hlength := hcount.2.1.mpr h
  exact ⟨hlength, fun e he hbudget => ⟨hcount.1.mp hlength e he hbudget, hnever e he hbudget⟩⟩

theorem plans_exampleRun {recovery : RuntimeRecovery} {receipt : RuntimeExecutionReceipt}
    {a b t : RuntimeSystem} :
    ∀ e ∈ ([⟨exampleSystem, (.start (examplePlan 1) (exampleActivation 1) 1 ⟨1, 1000⟩, none), .opened recovery, a⟩,
        ⟨a, (exampleCall 2, none), .executed receipt state, b⟩, ⟨b, (exampleCall 3, none), o, t⟩] :
        List RuntimeEvent),
      ∀ p, e.input.1.plan = some p → p = examplePlan 1 := by
  intro e he p hp
  simp only [List.mem_cons, List.not_mem_nil, or_false] at he
  rcases he with rfl | rfl | rfl
  · exact (Option.some.inj hp).symm
  · cases hp
  · cases hp

/-- A run with a call that is admitted at the budget: the bound is exceeded, by one. -/
theorem invoked_le_budget_iff_exampleRun :
    ∃ es t, Run step exampleSystem es t ∧ t.invoked.length = (examplePlan 1).binding.maximumRequests + 1 ∧
      ∃ e ∈ es, AdmittedAtBudget (examplePlan 1) e := by
  obtain ⟨recovery, receipt, state, o, a, b, t, _, hrun, -, -, hlength, -⟩ := exampleRun
  obtain ⟨hiff, -⟩ := invoked_le_budget_iff exampleSystem_fresh hrun plans_exampleRun
  refine ⟨_, t, hrun, hlength, ?_⟩
  by_contra hnone
  have hle : t.invoked.length ≤ 1 := (hiff.mpr fun e he hadmitted => hnone ⟨e, he, hadmitted⟩).1
  omega

/-- The executor is called twice under a budget of one request, the second time
with the counter at the budget. -/
theorem exampleRun_beyond_budget : ∃ es t, exampleSystem.Fresh ∧ Run step exampleSystem es t ∧
      (∀ e ∈ es, ∀ p, e.input.1.plan = some p → p = examplePlan 1) ∧
      ¬ t.invoked.length ≤ (examplePlan 1).binding.maximumRequests ∧
      ∃ e ∈ es, AtBudget (examplePlan 1) e.pre ∧ e.post.invoked ≠ e.pre.invoked := by
  obtain ⟨recovery, receipt, state, o, a, b, t, _, hrun, hbudget, hfirst, hlength, -⟩ := exampleRun
  refine ⟨_, t, exampleSystem_fresh, hrun, plans_exampleRun, ?_, ⟨b, (exampleCall 3, none), o, t⟩, by simp, hbudget, ?_⟩
  · show ¬ t.invoked.length ≤ 1
    omega
  · intro heq
    have hsame : t.invoked.length = b.invoked.length := congrArg List.length heq
    omega

end RuntimeSystem

end BoundSeal.Operator

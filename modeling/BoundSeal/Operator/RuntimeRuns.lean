import BoundSeal.Lib.Run
import BoundSeal.Operator.Once

/-!
# Runs of the runtime

A system is the disk, the invocations of the executor so far, and the runtime of
the process that holds the lock, if there is one. A step makes one call, to its
end or up to a crash after any of its file operations; the crash leaves the disk
and frees the lock, and the memory is gone.
-/

namespace BoundSeal.Operator

open Rust Lib Live Transport

/-! ## The system -/

inductive RuntimeCall where
  | start (plan : UnifiedOperatorPlan) (consumed : ConsumedUnifiedOperatorActivation)
      (processId : ℕ) (clock : RuntimeClock)
  | reopen (plan : UnifiedOperatorPlan) (activationCertificateSha256 : String) (processId : ℕ) (clock : RuntimeClock)
  | execute (spec : RuntimeRequestSpec) (clock : RuntimeClock) (reservedBytes : ℕ)
      (executor : RuntimeExecutor)
  | executeLive (attempt : ConnectionAttempt) (request : LivePassiveRequest) (depth : ℕ)
      (clock : RuntimeClock) (pipeline : RuntimeExecutor)
  | beginTeardown (reason : String) (clock : RuntimeClock)
  | completeTeardown (teardownReceiptSha256 : String) (clock : RuntimeClock)
  | abort (reason : String) (clock : RuntimeClock)
  | deprovision (teardown : RuntimeWorld.ExternalTeardown) (clock : RuntimeClock)
  | close

/-- What a call returns. -/
inductive RuntimeReply where
  | crashed
  | opened (recovery : RuntimeRecovery)
  | executed (receipt : RuntimeExecutionReceipt) (state : RecoveredOperatorState)
  | tornDown (state : RecoveredOperatorState)
  | failed (error : RuntimeError)
  | closed

/-- The reply to a call that ended with this result. -/
def RuntimeReply.ofResult : Except RuntimeError RuntimeReply → RuntimeReply
  | .ok reply => reply
  | .error e => .failed e

namespace RuntimeCall

def opening : RuntimeCall → Option (Proc RuntimeError RuntimeDisk (CheckpointBoundRuntime × RuntimeRecovery))
  | start plan consumed processId clock =>
    some (CheckpointBoundRuntime.initializeRuntime plan consumed processId clock)
  | reopen plan activationCertificateSha256 processId clock =>
    some (CheckpointBoundRuntime.openRuntime plan activationCertificateSha256 processId clock)
  | _ => none

def serving : RuntimeCall → Option (RuntimeProc RuntimeReply)
  | execute spec clock reservedBytes executor => some do
    let (receipt, state) ← RuntimeWorld.executeWithReservedWorkspace spec clock reservedBytes executor
    pure (.executed receipt state)
  | executeLive attempt request depth clock pipeline => some do
    let (receipt, state) ← RuntimeWorld.executeLiveAuthenticated attempt request depth clock pipeline
    pure (.executed receipt state)
  | beginTeardown reason clock => some do return .tornDown (← RuntimeWorld.beginTeardown reason clock)
  | completeTeardown receiptSha256 clock => some do
    return .tornDown (← RuntimeWorld.completeTeardown receiptSha256 clock)
  | abort reason clock => some do return .tornDown (← RuntimeWorld.abort reason clock)
  | deprovision teardown clock => some do
    return .tornDown (← RuntimeWorld.deprovisionExternalSession teardown clock)
  | _ => none

/-- The request of a call that executes one, with its clock and the bytes reserved. -/
def request : RuntimeCall → Option (RuntimeRequestSpec × RuntimeClock × ℕ)
  | execute spec clock reservedBytes _ => some (spec, clock, reservedBytes)
  | executeLive _ request depth clock _ => some (⟨.ofPassive request.method, request.target, depth⟩, clock, 0)
  | _ => none

def plan : RuntimeCall → Option UnifiedOperatorPlan
  | start plan _ _ _ => some plan
  | reopen plan _ _ _ => some plan
  | _ => none

end RuntimeCall

/-- The disk, the invocations of the executor, and the process that holds the lock. -/
structure RuntimeSystem where
  disk : RuntimeDisk
  invoked : List Invocation
  process : Option CheckpointBoundRuntime

variable {invoked : List Invocation} {disk : RuntimeDisk}

namespace RuntimeSystem

def crash (disk : RuntimeDisk) (invoked : List Invocation) : RuntimeSystem := ⟨disk.unlock, invoked, none⟩

/-- The end of a call that takes the lock: its result, or a crash after one of its operations. -/
def endOpening (s : RuntimeSystem)
    (outcome : Outcome RuntimeError RuntimeDisk (CheckpointBoundRuntime × RuntimeRecovery))
    (crashAt : Option ℕ) : Option (RuntimeReply × RuntimeSystem) :=
  match crashAt with
  | some n => (outcome.passed[n]?).map fun disk => (.crashed, crash disk s.invoked)
  | none =>
    match outcome.result with
    | .ok (runtime, recovery) => some (.opened recovery, ⟨outcome.final, s.invoked, some runtime⟩)
    | .error e => some (.failed e, ⟨outcome.final, s.invoked, s.process⟩)

def endServing (outcome : Outcome RuntimeError RuntimeWorld RuntimeReply) (crashAt : Option ℕ) :
    Option (RuntimeReply × RuntimeSystem) :=
  match crashAt with
  | some n => (outcome.passed[n]?).map fun w => (.crashed, crash w.disk w.invoked)
  | none =>
    some (.ofResult outcome.result, ⟨outcome.final.disk, outcome.final.invoked, some outcome.final.runtime⟩)

def step (s : RuntimeSystem) (input : RuntimeCall × Option ℕ) : Option (RuntimeReply × RuntimeSystem) :=
  match input.1.opening, input.1.serving, s.process with
  | some p, _, _ => s.endOpening (p s.disk) input.2
  | none, some p, some runtime => endServing (p ⟨s.disk, runtime, s.invoked⟩) input.2
  | none, none, some _ => some (.closed, crash s.disk s.invoked)
  | none, _, none => none

/-- A call, and the operation at which it crashed if it did. -/
abbrev RuntimeEvent := Event RuntimeSystem (RuntimeCall × Option ℕ) RuntimeReply

structure Fresh (s : RuntimeSystem) : Prop where
  journal : s.disk.journal = ∅
  unlocked : s.disk.locked = false
  invoked : s.invoked = []
  process : s.process = none

/-! ## The invariant of a system -/

/-- The journal and the invocations agree, and the process numbers its next request accordingly. -/
structure Inv (s : RuntimeSystem) : Prop where
  journal : JournalInv s.disk.journal s.invoked
  locked : s.disk.locked = s.process.isSome
  next : ∀ runtime, s.process = some runtime → runtime.nextRequestIndex ≤ s.invoked.length

theorem Fresh.inv {s : RuntimeSystem} (h : s.Fresh) : s.Inv where
  journal := by
    rw [h.journal, h.invoked]
    exact ⟨rfl, fun k hk => absurd hk (Nat.not_lt_zero k), fun k hk => by simp at hk, fun k hk => by simp at hk⟩
  locked := by rw [h.unlocked, h.process]; rfl
  next runtime hruntime := by
    rw [h.process] at hruntime
    cases hruntime

theorem inv_crash (h : JournalInv disk.journal invoked) : (crash disk invoked).Inv :=
  ⟨h, rfl, fun _ hruntime => nomatch hruntime⟩

end RuntimeSystem

/-! ## What a call does -/

namespace RuntimeWorld

/-- What holds of the disk and the invocations during a call of an open runtime. -/
structure Serving (w : RuntimeWorld) (call : RuntimeCall) (disk : RuntimeDisk) (invoked : List Invocation) : Prop where
  journal : JournalInv disk.journal invoked
  calls : invoked = w.invoked ∨ ∃ spec clock reservedBytes prepared,
    call.request = some (spec, clock, reservedBytes) ∧
      invoked = w.invoked ++ [⟨w.runtime.nextRequestIndex, spec⟩] ∧
      w.invoked.length = w.runtime.nextRequestIndex ∧
      w.runtime.prepareRequest w.disk spec clock reservedBytes = .ok prepared
  locked : disk.locked = w.disk.locked

structure Served (w : RuntimeWorld) (call : RuntimeCall) (r : Except RuntimeError RuntimeReply)
    (t : RuntimeWorld) : Prop where
  serving : Serving w call t.disk t.invoked
  plan : t.runtime.plan = w.runtime.plan
  store : t.runtime.stateStore = w.runtime.stateStore
  next : t.runtime.nextRequestIndex ≤ t.invoked.length
  replied : ∀ reply, r = .ok reply → (∃ state, reply = .tornDown state) ∨
    ∃ receipt state spec clock reservedBytes executor, reply = .executed receipt state ∧
      call.request = some (spec, clock, reservedBytes) ∧
      Performed w spec clock reservedBytes executor receipt state t

variable {w : RuntimeWorld} {call : RuntimeCall}

theorem wp_served_of_keeps {p : RuntimeProc RecoveredOperatorState}
    (hinv : JournalInv w.disk.journal w.invoked)
    (hnext : w.runtime.nextRequestIndex ≤ w.invoked.length) (h : Proc.Keeps SameJournal p) :
    Proc.wp (do return .tornDown (← p)) (durably (Serving w call)) (Served w call) w := by
  have hserved : ∀ {t} r, SameJournal w t → Served w call (Except.map RuntimeReply.tornDown r) t := by
    intro t r ht
    refine ⟨⟨by rw [ht.journal, ht.invoked]; exact hinv, .inl ht.invoked, ht.locked⟩, ht.plan, ht.store,
      by rw [ht.next, ht.invoked]; exact hnext, ?_⟩
    rintro reply hreply
    cases r with
    | error e => cases hreply
    | ok state =>
      cases hreply
      exact .inl ⟨state, rfl⟩
  exact Proc.wp_map (Proc.wp_mono (h w) (fun _ ht => (hserved (.error .io) ht).serving) fun r _ ht => hserved r ht)

variable (hinv : JournalInv w.disk.journal w.invoked) (hnext : w.runtime.nextRequestIndex ≤ w.invoked.length)

include hinv hnext

theorem wp_served_execute {spec : RuntimeRequestSpec} {clock : RuntimeClock}
    {reservedBytes : ℕ} {executor : RuntimeExecutor}
    (hrequest : call.request = some (spec, clock, reservedBytes)) :
    Proc.wp (executeWithReservedWorkspace spec clock reservedBytes executor) (durably (Serving w call))
      (fun r t => Served w call (r.map fun performed => .executed performed.1 performed.2) t) w := by
  have hserving : ∀ disk invoked, Executing w spec clock reservedBytes disk invoked →
      Serving w call disk invoked := by
    intro disk invoked h
    refine ⟨h.journal, h.calls.imp id ?_, h.locked⟩
    rintro ⟨hcalls, hlength, prepared, hprepared⟩
    exact ⟨spec, clock, reservedBytes, prepared, hrequest, hcalls, hlength, hprepared⟩
  refine Proc.wp_mono (wp_executeWithReservedWorkspace hinv hnext) (fun t ht => hserving _ _ ht) fun r t ht => ?_
  refine ⟨hserving _ _ ht.executing, ht.plan, ht.store, ?_, ?_⟩
  · cases r with
    | error e =>
      rw [ht.failed e rfl]
      rcases ht.executing.calls with hcalls | ⟨hcalls, -⟩
      · rw [hcalls]
        exact hnext
      · rw [hcalls, List.length_append]
        exact Nat.le_add_right_of_le hnext
    | ok value =>
      have hperformed := ht.performed value.1 value.2 rfl
      rw [hperformed.next, hperformed.invoked, List.length_append, List.length_singleton]
      exact Nat.add_le_add_right hnext 1
  · intro reply hreply
    cases r with
    | error e => cases hreply
    | ok value =>
      cases hreply
      exact .inr ⟨_, _, spec, clock, reservedBytes, executor, rfl, hrequest, ht.performed _ _ rfl⟩

/-- **A call of an open runtime**, at every point of it. -/
theorem wp_serving {p : RuntimeProc RuntimeReply}
    (hp : call.serving = some p) : Proc.wp p (durably (Serving w call)) (Served w call) w := by
  cases call with
  | start | reopen | close => cases hp
  | execute spec clock reservedBytes executor =>
    cases hp
    exact Proc.wp_map (wp_served_execute hinv hnext rfl)
  | executeLive attempt request depth clock pipeline =>
    cases hp
    refine Proc.wp_map ?_
    rw [executeLiveAuthenticated, Proc.wp_bind, Proc.wp_get, Proc.after, Proc.wp_bind, Proc.wp_ofExcept]
    cases validateLiveAttempt w.runtime.plan attempt depth with
    | error e => exact ⟨⟨hinv, .inl rfl, rfl⟩, rfl, rfl, hnext, fun reply hreply => by cases hreply⟩
    | ok _ => exact wp_served_execute hinv hnext rfl
  | beginTeardown reason clock =>
    cases hp
    exact wp_served_of_keeps hinv hnext (keeps_beginTeardown reason clock)
  | completeTeardown receiptSha256 clock =>
    cases hp
    exact wp_served_of_keeps hinv hnext (keeps_completeTeardown receiptSha256 clock)
  | abort reason clock =>
    cases hp
    exact wp_served_of_keeps hinv hnext (keeps_abort reason clock)
  | deprovision teardown clock =>
    cases hp
    exact wp_served_of_keeps hinv hnext (keeps_deprovisionExternalSession teardown clock)

end RuntimeWorld

variable {runtime : CheckpointBoundRuntime}

namespace CheckpointBoundRuntime

/-- What a reopening has found out about every number: it is committed, or it has
no prepared record, or the run may not continue and the runtime refuses every request. -/
def Decided (disk : RuntimeDisk) (runtime : CheckpointBoundRuntime) (recovery : RuntimeRecovery) : Prop :=
  ∀ k, CommittedRequest disk.journal disk.state.directory k ∨ preparedFileName k ∉ disk.journal ∨
    (recovery.continuationAllowed = false ∧
      ∀ spec clock reservedBytes, ∃ e, runtime.prepareRequest disk spec clock reservedBytes = .error e)

theorem prepareRequest_denied {time : ℤ}
    {state : RecoveredOperatorState} (hrecover : runtime.stateStore.recover disk.state time = .ok state)
    (hdenied : runtime.blocked = true ∨ state.latest.status.isTerminal = true)
    (spec : RuntimeRequestSpec) (clock : RuntimeClock) (reservedBytes : ℕ) :
    ∃ e, runtime.prepareRequest disk spec clock reservedBytes = .error e := by
  cases hprepare : runtime.prepareRequest disk spec clock reservedBytes with
  | error e => exact ⟨e, rfl⟩
  | ok prepared =>
    exfalso
    simp only [prepareRequest, do_eq_ok, mapError_eq_ok, not_or, not_not] at hprepare
    obtain ⟨-, hblocked, -, recovered, hrecovered, ⟨-, hstatus⟩, -⟩ := hprepare
    rcases hdenied with hdenied | hdenied
    · exact hblocked hdenied
    · rw [OperatorStateStore.recover_at hrecover] at hrecovered
      cases hrecovered
      rw [not_and_or, not_not, not_not] at hstatus
      rcases hstatus with hstatus | hstatus <;>
        · rw [hstatus] at hdenied
          cases hdenied

/-- **Every number is decided** when a runtime is opened. -/
theorem Opened.decided {plan : UnifiedOperatorPlan} {clock : RuntimeClock}
    {recovery : RuntimeRecovery} {t : RuntimeDisk}
    (h : Opened plan clock invoked runtime recovery t) : Decided t runtime recovery := by
  intro k
  by_cases hk : k < runtime.nextRequestIndex
  · exact .inl (h.committed k hk)
  · cases hallowed : recovery.continuationAllowed with
    | true => exact .inr (.inl fun hmem => hk (h.allowed hallowed .prepared k hmem))
    | false =>
      exact .inr (.inr ⟨rfl, fun spec clock reserved =>
        prepareRequest_denied h.recovered (h.denied hallowed) spec clock reserved⟩)

end CheckpointBoundRuntime

/-! ## What a step does -/

namespace RuntimeSystem

structure Stepped (s : RuntimeSystem) (call : RuntimeCall) (o : RuntimeReply) (u : RuntimeSystem) : Prop where
  inv : u.Inv
  calls : u.invoked = s.invoked ∨ ∃ runtime spec clock reservedBytes prepared,
    s.process = some runtime ∧ call.request = some (spec, clock, reservedBytes) ∧
    u.invoked = s.invoked ++ [⟨runtime.nextRequestIndex, spec⟩] ∧ s.invoked.length = runtime.nextRequestIndex ∧
    runtime.prepareRequest s.disk spec clock reservedBytes = .ok prepared
  plans : ∀ runtime, u.process = some runtime →
    (∃ old, s.process = some old ∧ runtime.plan = old.plan ∧ runtime.stateStore = old.stateStore) ∨
      ∃ plan, call.plan = some plan ∧ runtime.plan = plan ∧ runtime.stateStore.plan = plan
  opened : ∀ recovery, o = .opened recovery →
    ∃ runtime, u.process = some runtime ∧ CheckpointBoundRuntime.Decided u.disk runtime recovery
  executed : ∀ receipt state, o = .executed receipt state →
    ∃ runtime spec clock reservedBytes recovered prepared outcome, s.process = some runtime ∧
      runtime.prepareRequest s.disk spec clock reservedBytes = .ok (recovered, prepared) ∧
      CheckpointBoundRuntime.settleOutcome
        { runtime with journalBytes := runtime.journalBytes + (canonicalBytes prepared).length }
        recovered prepared spec clock reservedBytes receipt = .ok outcome

variable {s u : RuntimeSystem} {call : RuntimeCall} {crashAt : Option ℕ} {o : RuntimeReply}

theorem stepped_crash (hjournal : JournalInv disk.journal invoked)
    (hcalls : invoked = s.invoked ∨ ∃ runtime spec clock reservedBytes prepared, s.process = some runtime ∧
      call.request = some (spec, clock, reservedBytes) ∧
      invoked = s.invoked ++ [⟨runtime.nextRequestIndex, spec⟩] ∧ s.invoked.length = runtime.nextRequestIndex ∧
      runtime.prepareRequest s.disk spec clock reservedBytes = .ok prepared)
    (ho : o = .crashed ∨ o = .closed) : Stepped s call o (crash disk invoked) := by
  refine ⟨inv_crash hjournal, hcalls, (fun _ h => nomatch h), fun recovery h => ?_, fun receipt state h => ?_⟩
  · rcases ho with rfl | rfl <;> cases h
  · rcases ho with rfl | rfl <;> cases h

/-- What is known of a call that takes the lock, at every point of it. -/
def OpeningEnd (s : RuntimeSystem) (call : RuntimeCall)
    (r : Except RuntimeError (CheckpointBoundRuntime × RuntimeRecovery))
    (t : RuntimeDisk) : Prop :=
  JournalInv t.journal s.invoked ∧
    match r with
    | .error _ => t.locked = s.disk.locked
    | .ok (runtime, recovery) => s.disk.locked = false ∧ t.locked = true ∧
        runtime.nextRequestIndex ≤ s.invoked.length ∧
        (∃ plan, call.plan = some plan ∧ runtime.plan = plan ∧ runtime.stateStore.plan = plan) ∧
        CheckpointBoundRuntime.Decided t runtime recovery

theorem wp_opening (hs : s.Inv) {p : Proc RuntimeError RuntimeDisk (CheckpointBoundRuntime × RuntimeRecovery)}
    (hp : call.opening = some p) :
    Proc.wp p (fun t => JournalInv t.journal s.invoked) (OpeningEnd s call) s.disk := by
  cases call with
  | start plan consumed processId clock =>
    cases hp
    refine Proc.wp_mono CheckpointBoundRuntime.wp_initializeRuntime (fun t ht => hs.journal.congr ht) ?_
    rintro r t ⟨hrecords, hend⟩
    refine ⟨hs.journal.congr hrecords, ?_⟩
    cases r with
    | error e => exact hend
    | ok value =>
      obtain ⟨hfree, hlocked, hplan, hstore, hnext, hnone⟩ := hend
      refine ⟨hfree, hlocked, by rw [hnext]; exact Nat.zero_le _, ⟨plan, rfl, hplan, hstore⟩, fun k => .inr (.inl ?_)⟩
      rw [hrecords]
      exact hnone .prepared k
  | reopen plan certificate processId clock =>
    cases hp
    refine Proc.wp_mono (CheckpointBoundRuntime.wp_openRuntime hs.journal) (fun t ht => ht.journal) ?_
    rintro r t ⟨hopening, hend⟩
    refine ⟨hopening.journal, ?_⟩
    cases r with
    | error e => exact hend
    | ok value =>
      obtain ⟨hfree, hlocked, hopened⟩ := hend
      exact ⟨hfree, hlocked, hopened.le, ⟨plan, rfl, hopened.bound⟩, hopened.decided⟩
  | execute | executeLive | beginTeardown | completeTeardown | abort | deprovision | close => cases hp

theorem stepped_endOpening (hs : s.Inv)
    {outcome : Outcome RuntimeError RuntimeDisk (CheckpointBoundRuntime × RuntimeRecovery)}
    (hpassed : ∀ t ∈ outcome.passed, JournalInv t.journal s.invoked)
    (hend : OpeningEnd s call outcome.result outcome.final)
    (h : s.endOpening outcome crashAt = some (o, u)) : Stepped s call o u := by
  obtain ⟨result, final, passed⟩ := outcome
  cases crashAt with
  | some n =>
    obtain ⟨disk, hdisk, heq⟩ := Option.map_eq_some_iff.mp h
    cases heq
    exact stepped_crash (hpassed disk (List.mem_of_getElem? hdisk)) (.inl rfl) (.inl rfl)
  | none =>
    cases result with
    | error e =>
      cases h
      obtain ⟨hjournal, hlocked⟩ := hend
      exact ⟨⟨hjournal, hlocked.trans hs.locked, hs.next⟩, .inl rfl, fun runtime hruntime => .inl
        ⟨runtime, hruntime, rfl, rfl⟩,
        (fun _ h => nomatch h), (fun _ _ h => nomatch h)⟩
    | ok value =>
      cases h
      obtain ⟨hjournal, -, hlocked, hnext, hplan, hdecided⟩ := hend
      refine ⟨⟨hjournal, hlocked, ?_⟩, .inl rfl, ?_, ?_, fun _ _ h => nomatch h⟩
      · rintro runtime ⟨⟩
        exact hnext
      · rintro runtime ⟨⟩
        exact .inr hplan
      · rintro recovery ⟨⟩
        exact ⟨_, rfl, hdecided⟩

theorem stepped_endServing (hs : s.Inv) (hprocess : s.process = some runtime)
    {outcome : Outcome RuntimeError RuntimeWorld RuntimeReply}
    (hpassed : ∀ t ∈ outcome.passed, RuntimeWorld.Serving ⟨s.disk, runtime, s.invoked⟩ call t.disk t.invoked)
    (hend : RuntimeWorld.Served ⟨s.disk, runtime, s.invoked⟩ call outcome.result outcome.final)
    (h : endServing outcome crashAt = some (o, u)) : Stepped s call o u := by
  have hcalls : ∀ {disk invoked}, RuntimeWorld.Serving ⟨s.disk, runtime, s.invoked⟩ call disk invoked →
      invoked = s.invoked ∨ ∃ runtime spec clock reservedBytes prepared, s.process = some runtime ∧
        call.request = some (spec, clock, reservedBytes) ∧
        invoked = s.invoked ++ [⟨runtime.nextRequestIndex, spec⟩] ∧ s.invoked.length = runtime.nextRequestIndex ∧
        runtime.prepareRequest s.disk spec clock reservedBytes = .ok prepared := by
    intro disk invoked hserving
    refine hserving.calls.imp id ?_
    rintro ⟨spec, clock, reserved, prepared, hrest⟩
    exact ⟨runtime, spec, clock, reserved, prepared, hprocess, hrest⟩
  obtain ⟨result, final, passed⟩ := outcome
  cases crashAt with
  | some n =>
    obtain ⟨t, ht, heq⟩ := Option.map_eq_some_iff.mp h
    cases heq
    have hserving := hpassed t (List.mem_of_getElem? ht)
    exact stepped_crash hserving.journal (hcalls hserving) (.inl rfl)
  | none =>
    have hlocked : final.disk.locked = true := by
      rw [hend.serving.locked]
      show s.disk.locked = true
      rw [hs.locked, hprocess]
      rfl
    have hinv : Inv ⟨final.disk, final.invoked, some final.runtime⟩ := by
      refine ⟨hend.serving.journal, hlocked, ?_⟩
      rintro runtime ⟨⟩
      exact hend.next
    have hplans : ∀ r, some final.runtime = some r →
        (∃ old, s.process = some old ∧ r.plan = old.plan ∧ r.stateStore = old.stateStore) ∨
          ∃ plan, call.plan = some plan ∧ r.plan = plan ∧ r.stateStore.plan = plan := by
      rintro r ⟨⟩
      exact .inl ⟨runtime, hprocess, hend.plan, hend.store⟩
    cases result with
    | error e =>
      cases h
      exact ⟨hinv, hcalls hend.serving, hplans, (fun _ h => nomatch h), (fun _ _ h => nomatch h)⟩
    | ok reply =>
      cases h
      refine ⟨hinv, hcalls hend.serving, hplans, ?_, ?_⟩
      · rintro recovery rfl
        rcases hend.replied _ rfl with ⟨state, hstate⟩ | ⟨_, _, _, _, _, _, hreply, -⟩
        · cases hstate
        · cases hreply
      · rintro receipt state rfl
        rcases hend.replied _ rfl with ⟨state', hstate⟩ | ⟨_, _, spec, clock, reserved, executor, hreply, -, hperformed⟩
        · cases hstate
        · cases hreply
          obtain ⟨recovered, prepared, outcome, hprepare, hsettle, -⟩ := hperformed.settled
          exact ⟨runtime, spec, clock, reserved, recovered, prepared, outcome, hprocess, hprepare, hsettle⟩

/-- **One step** keeps the system in order. -/
theorem stepped_of_step (hs : s.Inv) (h : step s (call, crashAt) = some (o, u)) : Stepped s call o u := by
  unfold step at h
  split at h
  · next p hopening =>
    have hwp := wp_opening hs hopening
    exact stepped_endOpening hs hwp.1 hwp.2 h
  · next p runtime _ hserving hprocess =>
    have hwp := RuntimeWorld.wp_serving (w := ⟨s.disk, runtime, s.invoked⟩) hs.journal
      (hs.next runtime hprocess) hserving
    exact stepped_endServing hs hprocess hwp.1 hwp.2 h
  · cases h
    exact stepped_crash hs.journal (.inl rfl) (.inr rfl)
  · cases h

theorem inv_of_run {es : List RuntimeEvent} {t : RuntimeSystem}
    (hs : s.Fresh) (hrun : Run step s es t) : t.Inv :=
  hrun.invariant (fun _ t => t.Inv) hs.inv fun _ _ _ _ _ _ ht hstep => (stepped_of_step ht hstep).inv

end RuntimeSystem

end BoundSeal.Operator

import BoundSeal.Operator.Journal

/-!
# Every request index is executed once

`JournalInv journal invoked` relates the names in the journal directory to the
invocations of the executor so far: they are numbered from zero without gaps,
each has its prepared record, and there is no outcome record of any other number
and no commit record without an outcome record. Every state that a call passes
through satisfies it, so it survives a crash at any point.
-/

namespace BoundSeal.Operator

open Rust Lib Proc

/-! ## The invariant -/

/-- The journal of a runtime that has made these invocations. -/
structure JournalInv (journal : Directory) (invoked : List Invocation) : Prop where
  indices : invoked.map (·.index) = List.range invoked.length
  prepared : ∀ k < invoked.length, preparedFileName k ∈ journal
  outcome : ∀ k, outcomeFileName k ∈ journal → k < invoked.length
  commit : ∀ k, commitFileName k ∈ journal → outcomeFileName k ∈ journal

variable {content : Bytes} {kind : RecordKind} {index processId : ℕ}

namespace JournalInv

variable {journal : Directory} {invoked : List Invocation}

variable {t : Directory}

theorem congr (h : JournalInv journal invoked)
    (hnames : ∀ kind k, recordFileName kind k ∈ t ↔ recordFileName kind k ∈ journal) : JournalInv t invoked where
  indices := h.indices
  prepared k hk := (hnames .prepared k).mpr (h.prepared k hk)
  outcome k hk := h.outcome k ((hnames .outcome k).mp hk)
  commit k hk := (hnames .outcome k).mpr (h.commit k ((hnames .commit k).mp hk))

theorem mem_publishing
    (ht : Directory.Publishing journal (temporaryName (recordFileName kind index) processId)
      (recordFileName kind index) content t) (kind' : RecordKind) (k : ℕ) :
    recordFileName kind' k ∈ t ↔ recordFileName kind' k ∈ journal ∨
      ((kind' = kind ∧ k = index) ∧ recordFileName kind index ∈ t) := by
  rw [ht.mem_iff (temporaryName_ne_recordFileName _ _ _ _).symm, recordFileName_inj]

variable (h : JournalInv journal invoked)

include h

theorem publishing
    (ht : Directory.Publishing journal (temporaryName (recordFileName kind index) processId)
      (recordFileName kind index) content t)
    (hallowed : match kind with
      | .prepared => True
      | .outcome => index < invoked.length
      | .commit => outcomeFileName index ∈ journal) : JournalInv t invoked := by
  have hmem := mem_publishing ht
  refine ⟨h.indices, fun k hk => (hmem .prepared k).mpr (.inl (h.prepared k hk)), fun k hk => ?_, fun k hk => ?_⟩
  · rcases (hmem .outcome k).mp hk with hk | ⟨⟨rfl, rfl⟩, -⟩
    · exact h.outcome k hk
    · exact hallowed
  · rcases (hmem .commit k).mp hk with hk | ⟨⟨rfl, rfl⟩, -⟩
    · exact (hmem .outcome k).mpr (.inl (h.commit k hk))
    · exact (hmem .outcome k).mpr (.inl hallowed)

theorem invoke {spec : RuntimeRequestSpec} (hprepared : preparedFileName invoked.length ∈ journal) :
    JournalInv journal (invoked ++ [⟨invoked.length, spec⟩]) := by
  refine ⟨?_, fun k hk => ?_, fun k hk => ?_, h.commit⟩
  · rw [List.map_append, h.indices, List.length_append, List.length_singleton, List.range_succ]
    rfl
  · rw [List.length_append, List.length_singleton] at hk
    rcases Nat.lt_succ_iff_lt_or_eq.mp hk with hk | rfl
    · exact h.prepared k hk
    · exact hprepared
  · rw [List.length_append]
    exact Nat.lt_add_right _ (h.outcome k hk)

theorem length_le_of_free {k : ℕ} (hfree : preparedFileName k ∉ journal) : invoked.length ≤ k := by
  by_contra hlt
  exact hfree (h.prepared k (by omega))

end JournalInv

/-! ## The procedures of a request -/

namespace RuntimeWorld

section Rules

variable {C : RuntimeDisk → List Invocation → Prop} {S : StateDisk} {J : Directory} {L : Bool}
  {R : CheckpointBoundRuntime} {I : List Invocation}

/-- A crash leaves the disk; the invocations have been made. -/
def durably (C : RuntimeDisk → List Invocation → Prop) (w : RuntimeWorld) : Prop := C w.disk w.invoked

variable {post : Except RuntimeError Unit → RuntimeWorld → Prop}

theorem wp_publishRecord
    (hcrash : ∀ j, Directory.Publishing J (temporaryName (recordFileName kind index) processId)
      (recordFileName kind index) content j → C ⟨S, j, L⟩ I)
    (hpost : ∀ r j, Directory.Published RuntimeError.io .journalRecordAlreadyExists J
      (temporaryName (recordFileName kind index) processId)
      (recordFileName kind index) content r j → post r ⟨⟨S, j, L⟩, R, I⟩) :
    wp (onDisk (RuntimeDisk.onJournal (publishRecord processId (recordFileName kind index) content)))
      (durably C) post ⟨⟨S, J, L⟩, R, I⟩ := by
  rw [onDisk, wp_onPart, RuntimeDisk.onJournal, wp_onPart]
  exact wp_mono (Directory.wp_publish (temporaryName_ne_recordFileName _ _ _ _)) hcrash hpost

theorem wp_addJournalBytes {length : ℕ} (hcrash : C ⟨S, J, L⟩ I)
    (herror : u64Max < R.journalBytes + length → ∀ e, post (.error e) ⟨⟨S, J, L⟩, R, I⟩)
    (hok : post (.ok ()) ⟨⟨S, J, L⟩, { R with journalBytes := R.journalBytes + length }, I⟩) :
    wp (addJournalBytes length) (durably C) post ⟨⟨S, J, L⟩, R, I⟩ := by
  rw [addJournalBytes, wp_get_bind, wp_bind, wp_ofExcept]
  by_cases hfits : R.journalBytes + length ≤ u64Max
  · rw [okOr_eq_ok.mpr (checkedAdd_eq_some.mpr ⟨hfits, rfl⟩), after, update, wp_modify]
    exact ⟨hcrash, hok⟩
  · cases hadd : okOr (checkedAdd R.journalBytes length) RuntimeError.workspaceBudgetExceeded with
    | error e => exact herror (Nat.lt_of_not_le hfits) e
    | ok n => exact absurd (checkedAdd_eq_some.mp (okOr_eq_ok.mp hadd)).1 hfits

theorem wp_journalRecord {index : ℕ}
    (hcrash : ∀ j, Directory.Publishing J (temporaryName (recordFileName kind index) R.stateStore.processId)
      (recordFileName kind index) content j → C ⟨S, j, L⟩ I)
    (herror : ∀ e j, Directory.Publishing J (temporaryName (recordFileName kind index) R.stateStore.processId)
      (recordFileName kind index) content j → post (.error e) ⟨⟨S, j, L⟩, R, I⟩)
    (hok : recordFileName kind index ∉ J →
      post (.ok ()) ⟨⟨S, J.insert (recordFileName kind index) (.file content), L⟩,
        { R with journalBytes := R.journalBytes + content.length }, I⟩) :
    wp (journalRecord (recordFileName kind index) content) (durably C) post ⟨⟨S, J, L⟩, R, I⟩ := by
  have hne := temporaryName_ne_recordFileName (recordFileName kind index) R.stateStore.processId kind index
  rw [journalRecord, wp_get_bind, wp_bind]
  refine wp_publishRecord hcrash fun r j hpublished => ?_
  cases r with
  | error e => exact herror e j (hpublished.publishing hne)
  | ok u =>
    have hpublishing := hpublished.publishing hne
    cases hpublished with
    | done _ hfree => exact wp_addJournalBytes (hcrash _ hpublishing) (fun _ e => herror e _ hpublishing) (hok hfree)

theorem wp_block {α : Type} {e : RuntimeError} {post : Except RuntimeError α → RuntimeWorld → Prop}
    (hcrash : C ⟨S, J, L⟩ I) (hpost : post (.error e) ⟨⟨S, J, L⟩, { R with blocked := true }, I⟩) :
    wp (block e) (durably C) post ⟨⟨S, J, L⟩, R, I⟩ := by
  rw [block, wp_bind, update, wp_modify]
  exact ⟨hcrash, wp_fail.mpr hpost⟩

theorem wp_orBlock {α : Type} {x : Except CheckpointBoundRuntime.Failure α}
    {post : Except RuntimeError α → RuntimeWorld → Prop} (hcrash : C ⟨S, J, L⟩ I)
    (herror : ∀ e blocked, post (.error e) ⟨⟨S, J, L⟩, { R with blocked }, I⟩)
    (hok : ∀ value, x = .ok value → post (.ok value) ⟨⟨S, J, L⟩, R, I⟩) :
    wp (orBlock x) (durably C) post ⟨⟨S, J, L⟩, R, I⟩ := by
  cases x with
  | ok value => exact wp_pure.mpr (hok value rfl)
  | error failure =>
    rw [orBlock]
    cases failure.blocks with
    | true => exact wp_block hcrash (herror _ true)
    | false => exact wp_fail.mpr (herror _ R.blocked)

theorem wp_invoke {spec : RuntimeRequestSpec} {executor : RuntimeExecutor}
    {post : Except RuntimeError RuntimeExecutionReceipt → RuntimeWorld → Prop}
    (hcrash : C ⟨S, J, L⟩ (I ++ [⟨R.nextRequestIndex, spec⟩]))
    (herror : ∀ e, post (.error e)
      ⟨⟨S, J, L⟩, { R with blocked := true }, I ++ [⟨R.nextRequestIndex, spec⟩]⟩)
    (hok : ∀ receipt, executor spec = .ok receipt →
      post (.ok receipt) ⟨⟨S, J, L⟩, R, I ++ [⟨R.nextRequestIndex, spec⟩]⟩) :
    wp (invoke spec executor) (durably C) post ⟨⟨S, J, L⟩, R, I⟩ := by
  rw [invoke, wp_bind, wp_modify]
  refine ⟨hcrash, ?_⟩
  rw [after]
  cases hexecutor : executor spec with
  | ok receipt => exact wp_pure.mpr (hok receipt hexecutor)
  | error e => exact wp_block hcrash (herror _)

theorem wp_appendCheckpoint {counters : OperatorCounters} {clock : RuntimeClock}
    {post : Except RuntimeError RecoveredOperatorState → RuntimeWorld → Prop}
    (hcrash : ∀ s, C ⟨s, J, L⟩ I)
    (herror : ∀ e s, post (.error e) ⟨⟨s, J, L⟩, { R with blocked := true }, I⟩)
    (hok : ∀ state,
      (R.stateStore.append { status := .running, counters, stopReason := none } clock.epochSeconds S).result =
        .ok state →
      post (.ok state) ⟨⟨(R.stateStore.append { status := .running, counters, stopReason := none }
        clock.epochSeconds S).final, J, L⟩, R, I⟩) :
    wp (appendCheckpoint counters clock) (durably C) post ⟨⟨S, J, L⟩, R, I⟩ := by
  rw [appendCheckpoint, wp_get_bind, wp_bind, wp_attempt, onDisk, wp_onPart,
    RuntimeDisk.onState, wp_onPart]
  refine ⟨fun s _ => hcrash s, ?_⟩
  cases hresult : (R.stateStore.append { status := .running, counters, stopReason := none }
    clock.epochSeconds S).result with
  | ok state => exact wp_pure.mpr (hok state hresult)
  | error e => exact wp_block (hcrash _) (herror _ _)

theorem wp_commitRequest {outcome : RequestOutcomeRecord} {latest : OperatorCheckpoint}
    (hcrash : ∀ content j, Directory.Publishing J
      (temporaryName (commitFileName R.nextRequestIndex) R.stateStore.processId)
      (commitFileName R.nextRequestIndex) content j → C ⟨S, j, L⟩ I)
    (herror : ∀ e content j blocked, Directory.Publishing J
      (temporaryName (commitFileName R.nextRequestIndex) R.stateStore.processId)
      (commitFileName R.nextRequestIndex) content j → post (.error e) ⟨⟨S, j, L⟩, { R with blocked }, I⟩)
    (hok : ∀ commit, RequestCommitRecord.build outcome latest = .ok commit →
      commitFileName R.nextRequestIndex ∉ J →
      post (.ok ()) ⟨⟨S, J.insert (commitFileName R.nextRequestIndex) (.file (canonicalBytes commit)), L⟩,
        { R with journalBytes := R.journalBytes + (canonicalBytes commit).length }, I⟩) :
    wp (commitRequest outcome latest) (durably C) post ⟨⟨S, J, L⟩, R, I⟩ := by
  have hne := temporaryName_ne_recordFileName
    (commitFileName R.nextRequestIndex) R.stateStore.processId .commit R.nextRequestIndex
  have hhere : ∀ content, Directory.Publishing J
      (temporaryName (commitFileName R.nextRequestIndex) R.stateStore.processId)
      (commitFileName R.nextRequestIndex) content J := fun _ => .refl
  rw [commitRequest, wp_bind, wp_ofExcept]
  cases hbuild : RequestCommitRecord.build outcome latest with
  | error e => exact herror e [] J R.blocked (hhere _)
  | ok commit =>
    rw [after, wp_bind]
    refine wp_orBlock (hcrash [] J (hhere _)) (fun e blocked => herror e [] J blocked (hhere _)) fun _ _ => ?_
    rw [after, wp_get_bind, wp_bind, wp_attempt]
    refine wp_publishRecord (hcrash (canonicalBytes commit)) fun r j hpublished => ?_
    have hpublishing := hpublished.publishing hne
    cases r with
    | error e => exact wp_block (hcrash _ _ hpublishing) (herror _ _ _ true hpublishing)
    | ok u =>
      cases hpublished with
      | done _ hfree =>
        exact wp_addJournalBytes (hcrash _ _ hpublishing)
          (fun _ e => herror e _ _ R.blocked hpublishing) (hok commit hbuild hfree)

end Rules

/-! ## A request from beginning to end -/

/-- What holds of the disk and the invocations while a request is executed from `w`. -/
structure Executing (w : RuntimeWorld) (spec : RuntimeRequestSpec) (clock : RuntimeClock)
    (reservedBytes : ℕ) (disk : RuntimeDisk) (invoked : List Invocation) : Prop where
  journal : JournalInv disk.journal invoked
  calls : invoked = w.invoked ∨
    (invoked = w.invoked ++ [⟨w.runtime.nextRequestIndex, spec⟩] ∧ w.invoked.length = w.runtime.nextRequestIndex ∧
      ∃ prepared, w.runtime.prepareRequest w.disk spec clock reservedBytes = .ok prepared)
  locked : disk.locked = w.disk.locked

structure Performed (w : RuntimeWorld) (spec : RuntimeRequestSpec) (clock : RuntimeClock)
    (reservedBytes : ℕ) (executor : RuntimeExecutor) (execution : RuntimeExecutionReceipt)
    (state : RecoveredOperatorState) (t : RuntimeWorld) : Prop where
  next : t.runtime.nextRequestIndex = w.runtime.nextRequestIndex + 1
  invoked : t.invoked = w.invoked ++ [⟨w.runtime.nextRequestIndex, spec⟩]
  executed : executor spec = .ok execution
  settled : ∃ recovered prepared outcome,
    w.runtime.prepareRequest w.disk spec clock reservedBytes = .ok (recovered, prepared) ∧
      CheckpointBoundRuntime.settleOutcome
        { w.runtime with journalBytes := w.runtime.journalBytes + (canonicalBytes prepared).length }
        recovered prepared spec clock reservedBytes execution = .ok outcome ∧
      (w.runtime.stateStore.append
        { status := .running, counters := outcome.resultingCounters, stopReason := none }
        clock.epochSeconds w.disk.state).result = .ok state

structure Executed (w : RuntimeWorld) (spec : RuntimeRequestSpec) (clock : RuntimeClock)
    (reservedBytes : ℕ) (executor : RuntimeExecutor)
    (r : Except RuntimeError (RuntimeExecutionReceipt × RecoveredOperatorState)) (t : RuntimeWorld) : Prop where
  executing : Executing w spec clock reservedBytes t.disk t.invoked
  plan : t.runtime.plan = w.runtime.plan
  store : t.runtime.stateStore = w.runtime.stateStore
  failed : ∀ e, r = .error e → t.runtime.nextRequestIndex = w.runtime.nextRequestIndex
  performed : ∀ execution state, r = .ok (execution, state) →
    Performed w spec clock reservedBytes executor execution state t

section Execute

variable {w : RuntimeWorld} {spec : RuntimeRequestSpec} {clock : RuntimeClock} {reservedBytes : ℕ}
  {executor : RuntimeExecutor}

theorem Executed.error {e : RuntimeError} {t : RuntimeWorld}
    (executing : Executing w spec clock reservedBytes t.disk t.invoked)
    (plan : t.runtime.plan = w.runtime.plan) (store : t.runtime.stateStore = w.runtime.stateStore)
    (next : t.runtime.nextRequestIndex = w.runtime.nextRequestIndex) :
    Executed w spec clock reservedBytes executor (.error e) t :=
  ⟨executing, plan, store, fun _ _ => next, fun _ _ h => by cases h⟩

variable (hinv : JournalInv w.disk.journal w.invoked)

include hinv

theorem executing_prepared {processId : ℕ} {j : Directory} {S : StateDisk}
    (hj : Directory.Publishing w.disk.journal
      (temporaryName (preparedFileName w.runtime.nextRequestIndex) processId)
      (preparedFileName w.runtime.nextRequestIndex) content j) :
    Executing w spec clock reservedBytes ⟨S, j, w.disk.locked⟩ w.invoked :=
  ⟨hinv.publishing hj trivial, .inl rfl, rfl⟩

/-- **A prepared request** is executed: the record was free, so the number is the next one. -/
theorem wp_performRequest
    (hnext : w.runtime.nextRequestIndex ≤ w.invoked.length) {recovered : RecoveredOperatorState}
    {prepared : PreparedRequestRecord}
    (hprepare : w.runtime.prepareRequest w.disk spec clock reservedBytes = .ok (recovered, prepared)) :
    wp (performRequest recovered prepared spec clock reservedBytes executor)
      (durably (Executing w spec clock reservedBytes))
      (Executed w spec clock reservedBytes executor) w := by
  obtain ⟨⟨S, J, L⟩, R, I⟩ := w
  rw [performRequest, wp_get_bind, wp_bind]
  refine wp_journalRecord (fun j hj => executing_prepared hinv hj)
    (fun e j hj => .error (executing_prepared hinv hj) rfl rfl rfl) fun hfree => ?_
  have hindex : I.length = R.nextRequestIndex := le_antisymm (hinv.length_le_of_free hfree) hnext
  -- from here on the invocation has been made
  set I' := I ++ [⟨R.nextRequestIndex, spec⟩] with hI'
  set J' := J.insert (preparedFileName R.nextRequestIndex) (.file (canonicalBytes prepared)) with hJ'
  have hinv' : JournalInv J' I' := by
    have hpublishing : Directory.Publishing J (temporaryName (preparedFileName R.nextRequestIndex) 0)
        (preparedFileName R.nextRequestIndex) (canonicalBytes prepared) J' := .insert_target hfree
    have hpublished : JournalInv J' I := hinv.publishing hpublishing trivial
    rw [hI', ← hindex]
    exact hpublished.invoke (by rw [hindex]; exact Std.ExtTreeMap.mem_insert_self)
  have hbelow : R.nextRequestIndex < I'.length := by simp [hI', hindex]
  have hpublish : ∀ (kind : RecordKind) {processId : ℕ} {content : Bytes} {j t : Directory}, JournalInv j I' →
      Directory.Publishing j (temporaryName (recordFileName kind R.nextRequestIndex) processId)
        (recordFileName kind R.nextRequestIndex) content t →
      (kind = .commit → outcomeFileName R.nextRequestIndex ∈ j) → JournalInv t I' := by
    intro kind processId content j t hj ht houtcome
    refine hj.publishing ht ?_
    cases kind with
    | prepared => trivial
    | outcome => exact hbelow
    | commit => exact houtcome rfl
  have hinsert : ∀ (kind : RecordKind) {content : Bytes} {j : Directory}, JournalInv j I' →
      recordFileName kind R.nextRequestIndex ∉ j → (kind = .commit → outcomeFileName R.nextRequestIndex ∈ j) →
      JournalInv (j.insert (recordFileName kind R.nextRequestIndex) (.file content)) I' := by
    intro kind content j hj hfree houtcome
    have hpublishing : Directory.Publishing j (temporaryName (recordFileName kind R.nextRequestIndex) 0)
        (recordFileName kind R.nextRequestIndex) content _ := .insert_target hfree
    exact hpublish kind hj hpublishing houtcome
  have hexecuting : ∀ {s j}, JournalInv j I' →
      Executing ⟨⟨S, J, L⟩, R, I⟩ spec clock reservedBytes ⟨s, j, L⟩ I' := fun hj =>
    ⟨hj, .inr ⟨rfl, hindex, _, hprepare⟩, rfl⟩
  rw [after, wp_bind]
  refine wp_invoke (hexecuting hinv') (fun e => .error (hexecuting hinv') rfl rfl rfl) fun execution hexecution => ?_
  rw [after, wp_get_bind, wp_bind]
  refine wp_orBlock (hexecuting hinv')
    (fun e blocked => .error (hexecuting hinv') rfl rfl rfl) fun outcome hsettle => ?_
  rw [after, wp_bind]
  refine wp_journalRecord (fun j hj => hexecuting (hpublish .outcome hinv' hj (by simp)))
    (fun e j hj => .error (hexecuting (hpublish .outcome hinv' hj (by simp))) rfl rfl rfl) fun hfreeOutcome => ?_
  set J'' := J'.insert (outcomeFileName R.nextRequestIndex) (.file (canonicalBytes outcome)) with hJ''
  have hsettled : JournalInv J'' I' := hinsert .outcome hinv' hfreeOutcome (by simp)
  have houtcome : outcomeFileName R.nextRequestIndex ∈ J'' := Std.ExtTreeMap.mem_insert_self
  rw [after, wp_bind]
  refine wp_appendCheckpoint (fun s => hexecuting hsettled)
    (fun e s => .error (hexecuting hsettled) rfl rfl rfl) fun state hstate => ?_
  rw [after, wp_bind]
  refine wp_commitRequest (fun content j hj => hexecuting (hpublish .commit hsettled hj fun _ => houtcome))
    (fun e content j blocked hj => .error (hexecuting (hpublish .commit hsettled hj fun _ => houtcome)) rfl rfl rfl)
    fun commit hcommit hfreeCommit => ?_
  have hcommitted : JournalInv (J''.insert (commitFileName R.nextRequestIndex) (.file (canonicalBytes commit))) I' :=
    hinsert .commit hsettled hfreeCommit fun _ => houtcome
  rw [after, wp_bind, advance, wp_get_bind, wp_bind, wp_ofExcept]
  cases hadd : okOr (checkedAdd R.nextRequestIndex 1) RuntimeError.requestBudgetExceeded with
  | error e => exact .error (hexecuting hcommitted) rfl rfl rfl
  | ok n =>
    obtain ⟨-, rfl⟩ := checkedAdd_eq_some.mp (okOr_eq_ok.mp hadd)
    rw [after, update, wp_modify]
    refine ⟨hexecuting hcommitted, wp_pure.mpr ⟨hexecuting hcommitted, rfl, rfl, (fun e h => by cases h), ?_⟩⟩
    intro execution' state' heq
    cases heq
    exact ⟨rfl, rfl, hexecution, recovered, prepared, outcome, hprepare, hsettle, hstate⟩

/-- **The execution of a request**, at every point of it. -/
theorem wp_executeWithReservedWorkspace (hnext : w.runtime.nextRequestIndex ≤ w.invoked.length) :
    wp (executeWithReservedWorkspace spec clock reservedBytes executor)
      (durably (Executing w spec clock reservedBytes))
      (Executed w spec clock reservedBytes executor) w := by
  rw [executeWithReservedWorkspace, wp_get_bind, wp_bind, wp_ofExcept]
  show after _ _ _ (w.runtime.prepareRequest w.disk spec clock reservedBytes) w
  cases hprepare : w.runtime.prepareRequest w.disk spec clock reservedBytes with
  | error e => exact .error ⟨hinv, .inl rfl, rfl⟩ rfl rfl rfl
  | ok p => exact wp_performRequest hinv hnext hprepare

end Execute

/-! ## Teardown -/

section Teardown

variable {w : RuntimeWorld} {clock : RuntimeClock}

/-- A teardown call leaves the journal, the invocations and the numbering as they are. -/
structure SameJournal (w t : RuntimeWorld) : Prop where
  journal : t.disk.journal = w.disk.journal
  locked : t.disk.locked = w.disk.locked
  invoked : t.invoked = w.invoked
  plan : t.runtime.plan = w.runtime.plan
  store : t.runtime.stateStore = w.runtime.stateStore
  next : t.runtime.nextRequestIndex = w.runtime.nextRequestIndex

instance : Std.Refl SameJournal := ⟨fun _ => ⟨rfl, rfl, rfl, rfl, rfl, rfl⟩⟩

instance : IsTrans RuntimeWorld SameJournal :=
  ⟨fun _ _ _ h h' => ⟨h'.journal.trans h.journal, h'.locked.trans h.locked,
    h'.invoked.trans h.invoked, h'.plan.trans h.plan, h'.store.trans h.store, h'.next.trans h.next⟩⟩

theorem keeps_appendFinal (status : OperatorRunStatus) (latest : OperatorCheckpoint) (reason : String)
    (clock : RuntimeClock) : Proc.Keeps SameJournal (appendFinal status latest reason clock) := by
  have hdisk : ∀ p : Proc OperatorStateError StateDisk RecoveredOperatorState,
      Proc.Keeps (fun disk t => t.journal = disk.journal ∧ t.locked = disk.locked) (RuntimeDisk.onState p) := fun p =>
    .onPart .true fun _ _ _ => ⟨rfl, rfl⟩
  refine .bind (.get _) fun runtime => .bind (.mapError (.onPart (hdisk _) fun w disk h => ?_)) fun state =>
    .bind (.modify fun w => ?_) fun _ => .pure _
  · exact ⟨h.1, h.2, rfl, rfl, rfl, rfl⟩
  · exact ⟨rfl, rfl, rfl, rfl, rfl, rfl⟩

theorem keeps_recoverState (clock : RuntimeClock) : Proc.Keeps SameJournal (recoverState clock) :=
  .bind (.get _) fun _ => .ofExcept _

theorem keeps_beginTeardown (reason : String) (clock : RuntimeClock) :
    Proc.Keeps SameJournal (beginTeardown reason clock) := by
  refine .bind (.ofExcept _) fun _ => .bind (keeps_recoverState clock) fun recovered => ?_
  split_ifs
  · exact .pure _
  · exact .ofExcept _
  · exact keeps_appendFinal _ _ _ _

theorem keeps_completeTeardown (receiptSha256 : String) (clock : RuntimeClock) :
    Proc.Keeps SameJournal (completeTeardown receiptSha256 clock) := by
  refine .bind (.ofExcept _) fun _ => .bind (.ofExcept _) fun _ => .bind (keeps_recoverState clock) fun recovered => ?_
  split_ifs
  · exact .ofExcept _
  · exact keeps_appendFinal _ _ _ _

theorem keeps_abort (reason : String) (clock : RuntimeClock) : Proc.Keeps SameJournal (abort reason clock) := by
  refine .bind (.ofExcept _) fun _ => .bind (keeps_recoverState clock) fun recovered => ?_
  split_ifs
  · exact .ofExcept _
  · exact keeps_appendFinal _ _ _ _

theorem keeps_deprovisionExternalSession (teardown : ExternalTeardown) (clock : RuntimeClock) :
    Proc.Keeps SameJournal (deprovisionExternalSession teardown clock) := by
  refine .bind (.ofExcept _) fun _ => .bind (keeps_beginTeardown _ clock) fun _ => ?_
  cases teardown with
  | receipt verified receiptSha256 => exact .bind (.ofExcept _) fun _ => keeps_completeTeardown _ clock
  | error text => exact .bind (keeps_abort _ clock).attempt fun _ => .ofExcept _

end Teardown

end RuntimeWorld

/-! ## Opening a runtime -/

namespace CheckpointBoundRuntime

theorem mem_insert_lock (journal : Directory) (node : Node) (kind : RecordKind) (k : ℕ) :
    recordFileName kind k ∈ journal.insert runtimeLockFile node ↔ recordFileName kind k ∈ journal := by
  rw [Std.ExtTreeMap.mem_insert, compare_eq_iff_eq]
  simp [(recordFileName_ne_lock kind k).symm]

/-- A disk with the same state and the same records. -/
structure SameRecords (disk t : RuntimeDisk) : Prop where
  state : t.state = disk.state
  records : ∀ kind k, recordFileName kind k ∈ t.journal ↔ recordFileName kind k ∈ disk.journal

def Locked (disk t : RuntimeDisk) : Except RuntimeError Unit → Prop
  | .error _ => t.locked = disk.locked
  | .ok () => disk.locked = false ∧ t.locked = true

variable {disk : RuntimeDisk} {clock : RuntimeClock} {plan : UnifiedOperatorPlan}

variable {processId : ℕ}

theorem wp_acquireLock : wp (RuntimeDisk.acquireLock processId clock) (SameRecords disk)
      (fun r t => SameRecords disk t ∧ Locked disk t r) disk := by
  obtain ⟨S, J, L⟩ := disk
  have hlock : ∀ {j}, SameRecords ⟨S, J, L⟩ ⟨S, j, L⟩ → ∀ node L',
      SameRecords ⟨S, J, L⟩ ⟨S, j.insert runtimeLockFile node, L'⟩ := fun hj node L' =>
    ⟨rfl, fun kind k => (mem_insert_lock _ node kind k).trans (hj.records kind k)⟩
  -- the steps after the file is open
  have hrest : ∀ j, SameRecords ⟨S, J, L⟩ ⟨S, j, L⟩ →
      wp (do
        RuntimeDisk.tryLock
        RuntimeDisk.onJournal (.modify fun journal => journal.insert runtimeLockFile (.file []))
        RuntimeDisk.onJournal (.modify fun journal =>
          journal.insert runtimeLockFile (.file (bytes (RuntimeDisk.lockText processId clock)))))
        (SameRecords ⟨S, J, L⟩) (fun r t => SameRecords ⟨S, J, L⟩ t ∧ Locked ⟨S, J, L⟩ t r) ⟨S, j, L⟩ := by
    intro j hj
    rw [wp_bind, RuntimeDisk.tryLock, wp_op]
    cases L with
    | true => exact ⟨hj, hj, rfl⟩
    | false =>
      refine ⟨⟨rfl, hj.records⟩, ?_⟩
      simp only [Bool.false_eq_true, if_false, after, wp_bind, RuntimeDisk.onJournal, wp_onPart,
        wp_modify]
      rw [insert_insert_self]
      exact ⟨hlock hj _ _, hlock hj _ _, hlock hj _ _, rfl, rfl⟩
  rw [RuntimeDisk.acquireLock, wp_bind, RuntimeDisk.openLockFile, RuntimeDisk.onJournal, wp_onPart,
    wp_op]
  have hhere : SameRecords ⟨S, J, L⟩ ⟨S, J, L⟩ := ⟨rfl, fun _ _ => Iff.rfl⟩
  cases hnode : J[runtimeLockFile]? with
  | none => exact ⟨hlock hhere _ _, hrest _ (hlock hhere _ _)⟩
  | some node =>
    cases node with
    | file content => exact ⟨hhere, hrest _ hhere⟩
    | other => exact ⟨hhere, hhere, rfl⟩

theorem wp_holdingLock {α : Type} {p : Proc RuntimeError RuntimeDisk α} {crash : RuntimeDisk → Prop}
    {post : Except RuntimeError α → RuntimeDisk → Prop} (hunlock : ∀ t, crash t → crash t.unlock)
    (h : wp p crash (fun r t => crash t ∧
      match r with
      | .ok value => post (.ok value) t
      | .error e => post (.error e) t.unlock) disk) : wp (RuntimeDisk.holdingLock p) crash post disk := by
  rw [RuntimeDisk.holdingLock, wp_bind, wp_attempt]
  refine wp_mono h (fun _ ht => ht) fun r t ht => ?_
  cases r with
  | ok value => exact wp_pure.mpr ht.2
  | error e =>
    rw [after, wp_bind, wp_modify]
    exact ⟨hunlock t ht.1, wp_fail.mpr ht.2⟩

/-- What holds of the disk while a runtime is opened. -/
structure Opening (disk : RuntimeDisk) (invoked : List Invocation) (t : RuntimeDisk) : Prop where
  state : t.state = disk.state
  journal : JournalInv t.journal invoked
  kept : ∀ kind k, recordFileName kind k ∈ disk.journal → recordFileName kind k ∈ t.journal

/-- What `open` returns when it succeeds. -/
structure Opened (plan : UnifiedOperatorPlan) (clock : RuntimeClock) (invoked : List Invocation)
    (runtime : CheckpointBoundRuntime) (recovery : RuntimeRecovery) (t : RuntimeDisk) : Prop where
  bound : runtime.plan = plan ∧ runtime.stateStore.plan = plan
  recovered : runtime.stateStore.recover t.state clock.epochSeconds = .ok recovery.state
  next : runtime.nextRequestIndex = recovery.committedRequests
  le : runtime.nextRequestIndex ≤ invoked.length
  committed : ∀ k < runtime.nextRequestIndex, CommittedRequest t.journal t.state.directory k
  allowed : recovery.continuationAllowed = true →
    ∀ kind k, recordFileName kind k ∈ t.journal → k < runtime.nextRequestIndex
  denied : recovery.continuationAllowed = false →
    runtime.blocked = true ∨ recovery.state.latest.status.isTerminal = true

variable {state : RecoveredOperatorState} {invoked : List Invocation}

variable {stateStore : OperatorStateStore}

theorem opened_of_scan {scan : JournalScan} {t : RuntimeDisk} (hstore : stateStore.plan = plan)
    (hrecover : stateStore.recover t.state clock.epochSeconds = .ok state) (hinv : JournalInv t.journal invoked)
    (hscan : ScannedJournal t.journal t.state.directory state scan) (hreconcile : scan.reconcile = none) :
    Opened plan clock invoked (ofScan plan stateStore state scan) (recovery state scan) t where
  bound := ⟨rfl, hstore⟩
  recovered := hrecover
  next := hscan.next
  le := by
    show scan.nextRequestIndex ≤ invoked.length
    rw [hscan.next]
    cases hcount : scan.committedRequests with
    | zero => exact Nat.zero_le _
    | succ n => exact hinv.outcome n (hscan.committed n (by omega)).1
  committed k hk := (hscan.committed k (hscan.next ▸ hk)).2
  allowed hallowed := by
    show ∀ kind k, _ → k < scan.nextRequestIndex
    rw [hscan.next]
    rcases hscan.last with ⟨-, -, -, hall⟩ | ⟨hsome, -⟩ | ⟨outcome, -, hsome, -⟩
    · exact hall
    · -- an open request denies continuation
      rw [recovery, Bool.and_eq_true, Option.isNone_iff_eq_none] at hallowed
      rw [hallowed.2] at hsome
      cases hsome
    · rw [hreconcile] at hsome
      cases hsome
  denied hdenied := by
    show (!(recovery state scan).continuationAllowed && !state.latest.status.isTerminal) = true ∨ _
    rw [hdenied]
    cases hterminal : state.latest.status.isTerminal with
    | true => exact .inr hterminal
    | false => exact .inl rfl

theorem reconcile_eq_none {journal journal' stateDirectory : Directory}
    {scan scan' : JournalScan} {outcome : RequestOutcomeRecord}
    (hscan : ScannedJournal journal stateDirectory state scan) (hreconcile : scan.reconcile = some outcome)
    (hnames : ∀ kind k, recordFileName kind k ∈ journal' ↔
      recordFileName kind k ∈ journal ∨ (kind = .commit ∧ k = outcome.requestIndex))
    (hscan' : ScannedJournal journal' stateDirectory state scan') : scan'.reconcile = none := by
  rcases hscan.last with ⟨-, hnone, -⟩ | ⟨-, hnone, -⟩ | ⟨outcome', -, hsome, hindex, -, -, -, hall⟩
  · rw [hreconcile] at hnone
    cases hnone
  · rw [hreconcile] at hnone
    cases hnone
  · obtain rfl : outcome = outcome' := Option.some.inj (hreconcile.symm.trans hsome)
    rcases hscan'.last with ⟨-, hnone, -⟩ | ⟨-, hnone, -⟩ | ⟨last, -, -, -, -, hlast, hfree, -⟩
    · exact hnone
    · exact hnone
    · -- the last request of the second scan has an outcome and no commit: the first scan rules it out
      exfalso
      refine hfree ((hnames .commit _).mpr ?_)
      have hold : outcomeFileName scan'.committedRequests ∈ journal := by
        simpa using (hnames .outcome _).mp hlast
      rcases Nat.lt_or_eq_of_le (hall .outcome _ hold) with hlt | heq
      · obtain ⟨commit, -, hread, -⟩ := (hscan.committed _ hlt).2
        exact .inl (mem_of_read hread)
      · exact .inr ⟨rfl, heq.trans hindex.symm⟩

def OpenedScan (plan : UnifiedOperatorPlan) (stateStore : OperatorStateStore) (state : RecoveredOperatorState)
    (clock : RuntimeClock) (invoked : List Invocation) (t : RuntimeDisk) : Except RuntimeError JournalScan → Prop
  | .error _ => True
  | .ok scan => Opened plan clock invoked (ofScan plan stateStore state scan) (recovery state scan) t

theorem wp_rollForward {scan : JournalScan} {t : RuntimeDisk} (hstore : stateStore.plan = plan)
    (hrecover : stateStore.recover t.state clock.epochSeconds = .ok state) (hopening : Opening disk invoked t)
    (hscan : scanJournal t.journal t.state.directory state = .ok scan) :
    wp (rollForward processId state scan) (fun u => Opening disk invoked u)
      (fun r u => Opening disk invoked u ∧ u.locked = t.locked ∧
        OpenedScan plan stateStore state clock invoked u r) t := by
  obtain ⟨S, J, L⟩ := t
  have hfacts := scanJournal_eq_ok hscan
  rw [rollForward]
  cases hreconcile : scan.reconcile with
  | none =>
    exact wp_pure.mpr ⟨hopening, rfl, opened_of_scan hstore hrecover hopening.journal hfacts hreconcile⟩
  | some outcome =>
    have hindex : outcome.requestIndex = scan.committedRequests ∧ outcomeFileName outcome.requestIndex ∈ J := by
      rcases hfacts.last with ⟨-, hnone, -⟩ | ⟨-, hnone, -⟩ | ⟨outcome', -, hsome, hindex, -, hmem, -⟩
      · rw [hreconcile] at hnone
        cases hnone
      · rw [hreconcile] at hnone
        cases hnone
      · obtain rfl : outcome = outcome' := Option.some.inj (hreconcile.symm.trans hsome)
        exact ⟨hindex, hindex ▸ hmem⟩
    rw [wp_get_bind, wp_bind, wp_ofExcept]
    cases hcontent : reconciliation (id ⟨S, J, L⟩) outcome with
    | error e => exact ⟨hopening, rfl, trivial⟩
    | ok content =>
      rw [after, wp_bind, RuntimeDisk.onJournal, wp_onPart, publishRecord]
      have hpublishing : ∀ {j}, Directory.Publishing J
          (temporaryName (commitFileName outcome.requestIndex) processId) (commitFileName outcome.requestIndex)
          content j → Opening disk invoked ⟨S, j, L⟩ := fun hj =>
        ⟨hopening.state, hopening.journal.publishing hj hindex.2, fun kind k hk =>
          (JournalInv.mem_publishing hj kind k).mpr (.inl (hopening.kept kind k hk))⟩
      have hne := temporaryName_ne_recordFileName
        (commitFileName outcome.requestIndex) processId .commit outcome.requestIndex
      refine wp_mono (Directory.wp_publish hne) (fun j hj => hpublishing hj) fun r j hj => ?_
      cases r with
      | error e => exact ⟨hpublishing (hj.publishing hne), rfl, trivial⟩
      | ok u =>
        have hopening' := hpublishing (hj.publishing hne)
        cases hj with
        | done _ hfree =>
          rw [after, wp_get_bind, wp_ofExcept]
          refine ⟨hopening', rfl, ?_⟩
          show OpenedScan plan stateStore state clock invoked _
            (scanJournal (J.insert (commitFileName outcome.requestIndex) (.file content)) S.directory state)
          cases hscan' : scanJournal
            (J.insert (commitFileName outcome.requestIndex) (.file content)) S.directory state with
          | error e => exact trivial
          | ok scan' =>
            have hfacts' := scanJournal_eq_ok hscan'
            have hrecover' : stateStore.recover S clock.epochSeconds = .ok state := hrecover
            refine opened_of_scan (t := ⟨S, _, L⟩) hstore hrecover' hopening'.journal hfacts' ?_
            refine reconcile_eq_none hfacts hreconcile (fun kind k => ?_) hfacts'
            rw [Std.ExtTreeMap.mem_insert, compare_eq_iff_eq, recordFileName_inj, or_comm]
            simp [eq_comm]

/-- How `open` ends. -/
def OpenEnd (plan : UnifiedOperatorPlan) (clock : RuntimeClock) (disk : RuntimeDisk) (invoked : List Invocation)
    (t : RuntimeDisk) : Except RuntimeError (CheckpointBoundRuntime × RuntimeRecovery) → Prop
  | .error _ => t.locked = disk.locked
  | .ok (runtime, recovery) => disk.locked = false ∧ t.locked = true ∧ Opened plan clock invoked runtime recovery t

/-- **Opening a runtime**, at every point of it. -/
theorem wp_openRuntime {activationCertificateSha256 : String}
    (hinv : JournalInv disk.journal invoked) :
    wp (openRuntime plan activationCertificateSha256 processId clock) (Opening disk invoked)
      (fun r t => Opening disk invoked t ∧ OpenEnd plan clock disk invoked t r) disk := by
  have hsame : ∀ t, SameRecords disk t → Opening disk invoked t := fun t ht =>
    ⟨ht.state, hinv.congr ht.records, fun kind k hk => (ht.records kind k).mpr hk⟩
  rw [openRuntime, wp_bind, wp_ofExcept]
  cases clock.validate with
  | error e => exact ⟨hsame _ ⟨rfl, fun _ _ => Iff.rfl⟩, rfl⟩
  | ok _ =>
    rw [after, wp_bind]
    refine wp_mono wp_acquireLock hsame fun r t ht => ?_
    cases r with
    | error e => exact ⟨hsame t ht.1, ht.2⟩
    | ok u =>
      obtain ⟨hrecords, hfree, hlocked⟩ := ht
      have hopening := hsame t hrecords
      rw [after]
      refine wp_holdingLock (fun _ h => ⟨h.state, h.journal, h.kept⟩) ?_
      rw [wp_get_bind, wp_bind, wp_ofExcept]
      have herror : ∀ (e : RuntimeError) (v : RuntimeDisk), Opening disk invoked v →
          Opening disk invoked v ∧ Opening disk invoked v.unlock ∧
            OpenEnd plan clock disk invoked v.unlock (.error e) :=
        fun e v hv => ⟨hv, ⟨hv.state, hv.journal, hv.kept⟩, hfree.symm⟩
      show after _ _ _ ((OperatorStateStore.openStore plan activationCertificateSha256 processId t.state
        clock.epochSeconds).mapError RuntimeError.state) t
      cases hstore : OperatorStateStore.openStore plan activationCertificateSha256 processId t.state
        clock.epochSeconds with
      | error e => exact herror _ t hopening
      | ok opened =>
        obtain ⟨stateStore, state⟩ := opened
        simp only [OperatorStateStore.openStore, do_eq_ok, Prod.mk.injEq] at hstore
        obtain ⟨-, -, -, recovered, hrecover, rfl, rfl⟩ := hstore
        rw [Except.mapError, after, wp_bind, wp_ofExcept]
        show after _ _ _ (scanJournal t.journal t.state.directory recovered) t
        cases hscan : scanJournal t.journal t.state.directory recovered with
        | error e => exact herror e t hopening
        | ok scan =>
          rw [after, wp_bind]
          refine wp_mono (wp_rollForward rfl hrecover hopening hscan) (fun _ hu => hu) fun r u hu => ?_
          cases r with
          | error e => exact herror e u hu.1
          | ok scan' =>
            rw [after, wp_bind, wp_ofExcept]
            cases checkWorkspace plan recovered scan' with
            | error e => exact herror e u hu.1
            | ok _ =>
              rw [after]
              exact wp_pure.mpr ⟨hu.1, hu.1, hfree, hu.2.1.trans hlocked, hu.2.2⟩

/-- How `initialize` ends. -/
def InitializeEnd (plan : UnifiedOperatorPlan) (disk t : RuntimeDisk) :
    Except RuntimeError (CheckpointBoundRuntime × RuntimeRecovery) → Prop
  | .error _ => t.locked = disk.locked
  | .ok (runtime, _) => disk.locked = false ∧ t.locked = true ∧ runtime.plan = plan ∧ runtime.stateStore.plan = plan ∧
      runtime.nextRequestIndex = 0 ∧ ∀ kind k, recordFileName kind k ∉ disk.journal

variable {consumed : ConsumedUnifiedOperatorActivation}

theorem plan_of_initializeStore {now : ℤ}
    {S : StateDisk} {opened : OperatorStateStore × RecoveredOperatorState}
    (h : (OperatorStateStore.initializeStore plan consumed processId now S).result = .ok opened) :
    opened.1.plan = plan := by
  simp only [OperatorStateStore.initializeStore, result_bind_eq_ok, result_pure, Except.ok.injEq] at h
  obtain ⟨-, -, -, -, -, -, -, -, -, -, -, -, -, -, -, -, -, -, rfl⟩ := h
  rfl

/-- **Initializing a runtime**, at every point of it. -/
theorem wp_initializeRuntime : wp (initializeRuntime plan consumed processId clock)
      (fun t => ∀ kind k, recordFileName kind k ∈ t.journal ↔ recordFileName kind k ∈ disk.journal)
      (fun r t => (∀ kind k, recordFileName kind k ∈ t.journal ↔ recordFileName kind k ∈ disk.journal) ∧
        InitializeEnd plan disk t r) disk := by
  rw [initializeRuntime, wp_bind, wp_ofExcept]
  cases clock.validate with
  | error e => exact ⟨fun _ _ => Iff.rfl, rfl⟩
  | ok _ =>
    rw [after, wp_get_bind, wp_bind, wp_ofExcept]
    cases hempty : failIf (disk.journal.toList.any fun entry => entry.1 ≠ runtimeLockFile)
      RuntimeError.journalDirectoryNotEmpty with
    | error e => exact ⟨fun _ _ => Iff.rfl, rfl⟩
    | ok _ =>
      have hnone : ∀ kind k, recordFileName kind k ∉ disk.journal := by
        intro kind k hmem
        obtain ⟨node, hnode⟩ := Option.ne_none_iff_exists'.mp (Directory.mem_iff_ne_none.mp hmem)
        refine failIf_eq_ok.mp hempty (List.any_eq_true.mpr ⟨(recordFileName kind k, node), ?_, ?_⟩)
        · exact Std.ExtTreeMap.mem_toList_iff_getElem?_eq_some.mpr hnode
        · simpa using recordFileName_ne_lock kind k
      rw [after, wp_bind]
      refine wp_mono wp_acquireLock (fun _ ht => ht.records) fun r t ht => ?_
      cases r with
      | error e => exact ⟨ht.1.records, ht.2⟩
      | ok u =>
        obtain ⟨hrecords, hfree, hlocked⟩ := ht
        rw [after]
        refine wp_holdingLock (fun _ h => h) ?_
        obtain ⟨S, J, L⟩ := t
        rw [wp_bind, wp_mapError, RuntimeDisk.onState, wp_onPart]
        refine ⟨fun _ _ => hrecords.records, ?_⟩
        cases hresult : (OperatorStateStore.initializeStore plan consumed processId clock.epochSeconds S).result with
        | error e => exact ⟨hrecords.records, hrecords.records, hfree.symm⟩
        | ok opened =>
          rw [Except.mapError, after]
          exact wp_pure.mpr ⟨hrecords.records, hrecords.records, hfree, hlocked, rfl,
            plan_of_initializeStore hresult, rfl, hnone⟩

end CheckpointBoundRuntime

end BoundSeal.Operator

import BoundSeal.Operator.RuntimeRuns

/-!
# Requests that are carried through

When does `execute_with` succeed? The records of a request always fit: a verified
receipt gives an outcome record below `MAX_RUNTIME_OUTCOME_BYTES`, and the commit
record fits the bytes reserved for it.
-/

namespace BoundSeal.Operator

open Rust Lib Proc CheckpointBoundRuntime OperatorStateStore

/-! ## The sizes of the records -/

theorem RequestCommitRecord.length_le {record : RequestCommitRecord} (h : (Serde.toJson record).Short) :
    (canonicalBytes record).length ≤ runtimeCommitReservationBytes := by
  refine (length_canonicalBytes_le h).trans ?_
  simp (disch := decide +kernel) only [Serde.toJson, Json.bound, Json.boundFields, Json.quoteBytes_of_isPlain]
  decide

variable {receipt : RuntimeExecutionReceipt}

theorem RuntimeExecutionReceipt.verify_eq_ok :
    receipt.verify = .ok () ↔ receipt.version = operatorRuntimeVersion ∧
      (receipt.requestMethod = "GET" ∨ receipt.requestMethod = "HEAD") ∧
      (100 ≤ receipt.responseStatus ∧ receipt.responseStatus ≤ 599) ∧ 0 < receipt.completedAtEpochSeconds ∧
      (∀ s ∈ [receipt.requestTargetSha256, receipt.liveReceiptSha256, receipt.injectionAuthorizationSha256,
        receipt.sessionAuditTail, receipt.vaultAuditTail, receipt.receiptSha256], isLowerHexSha256 s = true) ∧
      receipt.receiptSha256 = receipt.calculateSha256 := by
  simp only [verify, do_eq_ok, forM_eq_ok, validateDigest, not_or, not_and_or, not_not, not_le,
    not_lt, ne_eq, and_assoc]

theorem RuntimeExecutionReceipt.short_of_verify (hverify : receipt.verify = .ok ())
    (hbody : receipt.responseBodyBytes ≤ u64Max)
    (htime : receipt.completedAtEpochSeconds.natAbs ≤ u64Max) : (Serde.toJson receipt).Short := by
  obtain ⟨hversion, hmethod, hstatus, -, hdigests, -⟩ := verify_eq_ok.mp hverify
  have hdigests' := fun s hs => short_of_isLowerHexSha256 (hdigests s hs)
  simp only [List.forall_mem_singleton, List.forall_mem_cons] at hdigests'
  obtain ⟨htarget, hlive, hinjection, hsession, hvault, hreceipt⟩ := hdigests'
  simp only [Serde.toJson, Json.Short, Json.ShortFields, hversion]
  refine ⟨by decide, ?_, htarget, hstatus.2.trans (by decide), hbody, hlive, hinjection, hsession,
    hvault, htime, hreceipt,
    trivial⟩
  rcases hmethod with h | h <;> rw [h] <;> decide +kernel

theorem RequestOutcomeRecord.length_le {record : RequestOutcomeRecord} (h : (Serde.toJson record).Short) :
    (canonicalBytes record).length ≤ maxRuntimeOutcomeBytes := by
  refine (length_canonicalBytes_le h).trans ?_
  simp (disch := decide +kernel) only [Serde.toJson, Json.bound, Json.boundFields, Json.quoteBytes_of_isPlain]
  decide

theorem PreparedRequestRecord.length_le {record : PreparedRequestRecord}
    (h : (Serde.toJson record).Short) : (canonicalBytes record).length ≤ 1024 := by
  refine (length_canonicalBytes_le h).trans ?_
  simp (disch := decide +kernel) only [Serde.toJson, Json.bound, Json.boundFields, Json.quoteBytes_of_isPlain]
  decide

namespace RuntimeSystem

def exampleSpec : RuntimeRequestSpec := ⟨.get, "/", 0⟩

def exampleReceipt (clock : RuntimeClock) : RuntimeExecutionReceipt :=
  let material : RuntimeExecutionReceipt :=
    { version := operatorRuntimeVersion
      requestMethod := "GET"
      requestTargetSha256 := exampleSpec.targetSha256
      responseStatus := 200
      responseBodyBytes := 10
      liveReceiptSha256 := exampleDigest
      injectionAuthorizationSha256 := exampleDigest
      sessionAuditTail := exampleDigest
      vaultAuditTail := exampleDigest
      completedAtEpochSeconds := clock.epochSeconds
      receiptSha256 := "" }
  { material with receiptSha256 := material.calculateSha256 }

theorem verify_exampleReceipt (clock : RuntimeClock) (hclock : 0 < clock.epochSeconds) :
    (exampleReceipt clock).verify = .ok () := by
  refine RuntimeExecutionReceipt.verify_eq_ok.mpr ⟨rfl, .inl rfl, ⟨?_, ?_⟩, hclock, ?_, rfl⟩
  · show 100 ≤ 200
    decide
  · show 200 ≤ 599
    decide
  · simp only [List.forall_mem_singleton, List.forall_mem_cons]
    exact ⟨isLowerHexSha256_hashText _, exampleDigest_isLowerHex, exampleDigest_isLowerHex,
      exampleDigest_isLowerHex, exampleDigest_isLowerHex, isLowerHexSha256_hashSerializable _⟩

end RuntimeSystem

/-! ## The outcome record -/

namespace CheckpointBoundRuntime

theorem length_toDigits_mono {m n : ℕ} (h : m ≤ n) : (Nat.toDigits 10 m).length ≤ (Nat.toDigits 10 n).length := by
  rw [Nat.length_toDigits_le_iff (by decide) Nat.length_toDigits_pos]
  exact lt_of_le_of_lt h ((Nat.length_toDigits_le_iff (by decide) Nat.length_toDigits_pos).mp le_rfl)

/-- **Three rounds reach a fixed point** when a round counts the digits of the number
before: a size with one digit more than the size before it is just above a power of
ten, and the next round adds one byte. -/
theorem iterate_three_fixed {f : ℕ → ℕ} {p k : ℕ}
    (hf : ∀ e, f e = max p (k + (Nat.toDigits 10 e).length)) : f (f^[3] 0) = f^[3] 0 := by
  obtain ⟨first, hfirst⟩ : ∃ n, n = f 0 := ⟨_, rfl⟩
  obtain ⟨second, hsecond⟩ : ∃ n, n = f first := ⟨_, rfl⟩
  obtain ⟨third, hthird⟩ : ∃ n, n = f second := ⟨_, rfl⟩
  obtain ⟨d, hd⟩ : ∃ d, d = (Nat.toDigits 10 first).length := ⟨_, rfl⟩
  have hiterate : f^[3] 0 = third := by rw [hthird, hsecond, hfirst]; rfl
  have hzero : (Nat.toDigits 10 0).length = 1 := rfl
  rw [hf, hzero] at hfirst
  rw [hf, ← hd] at hsecond
  rw [hf] at hthird
  have hpos : 0 < d := hd ▸ Nat.length_toDigits_pos
  have hlt : first < 10 ^ d := (Nat.length_toDigits_le_iff (by decide) hpos).mp hd.ge
  have hpow : d < 10 ^ d := Nat.lt_pow_self (by decide)
  have hsucc : 10 ^ (d + 1) = 10 * 10 ^ d := by rw [pow_succ, Nat.mul_comm]
  have hle : ∀ n < 10 ^ (d + 1), (Nat.toDigits 10 n).length ≤ d + 1 :=
    fun n => (Nat.length_toDigits_le_iff (by decide) d.succ_pos).mpr
  have hle₂ := hle second (by omega)
  have hle₃ := hle third (by omega)
  have hge₂ := length_toDigits_mono (show first ≤ second by omega)
  have hge₃ := length_toDigits_mono (show second ≤ third by omega)
  rw [hiterate, hf]
  by_cases hsame : (Nat.toDigits 10 second).length = d
  · have hstop : third = second := by rw [hthird, hsame, hsecond]
    rw [hstop, hsame, hsecond]
  · omega

def countersAfter (latest : OperatorCheckpoint) (spec : RuntimeRequestSpec)
    (execution : RuntimeExecutionReceipt) (evidenceBytes : ℕ) : OperatorCounters where
  requestsCompleted := latest.counters.requestsCompleted + 1
  totalResponseBytes := latest.counters.totalResponseBytes + execution.responseBodyBytes
  lastResponseBodyBytes := execution.responseBodyBytes
  maximumDepthObserved := max latest.counters.maximumDepthObserved spec.depth
  evidenceBytes := evidenceBytes

/-- The arguments of `settle_outcome`. -/
structure Settling where
  runtime : CheckpointBoundRuntime
  recovered : RecoveredOperatorState
  prepared : PreparedRequestRecord
  spec : RuntimeRequestSpec
  clock : RuntimeClock
  reserved : ℕ
  execution : RuntimeExecutionReceipt

namespace Settling

variable (t : Settling)

/-- The outcome record with the given evidence bytes. -/
def outcome (e : ℕ) : RequestOutcomeRecord :=
  sealedOutcome (t.runtime.outcomeRecord t.prepared t.execution t.clock
    (countersAfter t.recovered.latest t.spec t.execution e))

def loop (rounds : ℕ) (outcome : RequestOutcomeRecord) (e : ℕ) : Except Failure (RequestOutcomeRecord × ℕ) :=
  outcomeRounds t.runtime.journalBytes t.recovered.latest.counters.evidenceBytes t.reserved t.outcome rounds outcome e

def exactEvidence (outcome : RequestOutcomeRecord) : ℕ :=
  t.runtime.journalBytes + (canonicalBytes outcome).length + runtimeCommitReservationBytes + t.reserved

/-- The evidence bytes that a round calculates from those of the round before. -/
def round (e : ℕ) : ℕ := max t.recovered.latest.counters.evidenceBytes (t.exactEvidence (t.outcome e))

def Ends (r : Except Failure (RequestOutcomeRecord × ℕ)) : Prop :=
  (r = .error ⟨.workspaceBudgetExceeded, false⟩ ∧ ∃ e ≤ u64Max, u64Max < t.exactEvidence (t.outcome e)) ∨
  ∃ e ≤ u64Max, t.round e = e ∧ r = .ok (t.outcome e, e)

/-- The receipt and the prepared record are verified, and the numbers of the outcome
record are machine integers. -/
structure Verified : Prop where
  execution : t.execution.verify = .ok ()
  prepared : isLowerHexSha256 t.prepared.recordSha256 = true
  index : t.runtime.nextRequestIndex ≤ u64Max
  requests : t.recovered.latest.counters.requestsCompleted + 1 ≤ u64Max
  total : t.recovered.latest.counters.totalResponseBytes + t.execution.responseBodyBytes ≤ u64Max
  depth : max t.recovered.latest.counters.maximumDepthObserved t.spec.depth ≤ u64Max
  evidence : t.recovered.latest.counters.evidenceBytes ≤ u64Max
  completed : t.execution.completedAtEpochSeconds.natAbs ≤ u64Max
  milliseconds : t.clock.epochMilliseconds ≤ u64Max

theorem length_outcome (e : ℕ) :
    (canonicalBytes (t.outcome e)).length + 1 = (canonicalBytes (t.outcome 0)).length + (Nat.toDigits 10 e).length := by
  have hdigest : ∀ r : RequestOutcomeRecord, Json.byteLength (Json.quote r.calculateSha256) = 66 := by
    intro r
    have hlower : isLowerHexSha256 r.calculateSha256 = true := isLowerHexSha256_hashSerializable _
    exact (Json.quoteBytes_of_isPlain (isPlain_of_isLowerHexSha256 hlower)).trans
      (congrArg (2 + ·) (length_of_isLowerHexSha256 hlower))
  have hbytes : ∀ r : RequestOutcomeRecord,
      (canonicalBytes r).length = Json.byteLength (Json.prettyChars 0 (Serde.toJson r)) + 1 :=
    fun r => List.length_append
  have hzero : (Nat.toDigits 10 0).length = 1 := rfl
  simp only [hbytes, Serde.toJson, Json.prettyChars, Json.prettyFields, outcome, sealedOutcome, outcomeRecord,
    countersAfter, Json.byteLength_append, Json.byteLength_cons, hdigest, Json.byteLength_toDigits, List.isEmpty]
  omega

theorem round_fixed : t.round (t.round^[3] 0) = t.round^[3] 0 := by
  refine iterate_three_fixed (p := t.recovered.latest.counters.evidenceBytes)
    (k := t.exactEvidence (t.outcome 0) - 1) fun e => ?_
  have hlength := t.length_outcome e
  have hreserved : 0 < runtimeCommitReservationBytes := by decide
  simp only [round, exactEvidence]
  omega

variable {t} (h : t.Verified)

include h

theorem length_outcome_le {e : ℕ} (he : e ≤ u64Max) :
    (canonicalBytes (t.outcome e)).length ≤ maxRuntimeOutcomeBytes := by
  have htotal := h.total
  have hreceipt : (Serde.toJson t.execution).Short :=
    RuntimeExecutionReceipt.short_of_verify h.execution (by omega) h.completed
  refine RequestOutcomeRecord.length_le ?_
  simp only [Serde.toJson, Json.Short, Json.ShortFields, outcome, sealedOutcome, outcomeRecord, countersAfter]
  exact ⟨by decide, h.index, short_of_isLowerHexSha256 h.prepared, hreceipt, ⟨h.requests, htotal, by omega,
    h.depth, he, trivial⟩, h.milliseconds, short_of_isLowerHexSha256 (isLowerHexSha256_hashSerializable _), trivial⟩

theorem loop_succ {e : ℕ} (he : e ≤ u64Max) :
    (∃ r, (∀ rounds outcome, t.loop (rounds + 1) outcome e = r) ∧ t.Ends r) ∨
    t.round e ≤ u64Max ∧ t.round e ≠ e ∧
      ∀ rounds outcome, t.loop (rounds + 1) outcome e = t.loop rounds (t.outcome e) (t.round e) := by
  have hexact : ∀ n, ((checkedAdd t.runtime.journalBytes (canonicalBytes (t.outcome e)).length).bind
      (checkedAdd · runtimeCommitReservationBytes)).bind (checkedAdd · t.reserved) = some n ↔
      t.exactEvidence (t.outcome e) ≤ u64Max ∧ t.exactEvidence (t.outcome e) = n := by
    intro n
    simp only [Option.bind_eq_some_iff, checkedAdd_eq_some, exactEvidence]
    constructor
    · rintro ⟨_, ⟨_, ⟨-, rfl⟩, -, rfl⟩, hle, rfl⟩
      exact ⟨hle, rfl⟩
    · rintro ⟨hle, rfl⟩
      exact ⟨_, ⟨_, ⟨by omega, rfl⟩, by omega, rfl⟩, hle, rfl⟩
  simp only [loop, outcomeRounds, blocking, passing, failIf, if_neg (Nat.not_lt.mpr (length_outcome_le h he))]
  by_cases hfits : t.exactEvidence (t.outcome e) ≤ u64Max
  · rw [(hexact _).mpr ⟨hfits, rfl⟩]
    by_cases hstop : t.round e = e
    · exact .inl ⟨_, fun _ _ => if_pos hstop, .inr ⟨e, he, hstop, rfl⟩⟩
    · exact .inr ⟨max_le h.evidence hfits, hstop, fun _ _ => if_neg hstop⟩
  · rw [Option.eq_none_iff_forall_ne_some.mpr fun n hn => hfits ((hexact n).mp hn).1]
    exact .inl ⟨_, fun _ _ => rfl, .inl ⟨rfl, e, he, Nat.not_le.mp hfits⟩⟩

theorem ends_of_fixed {e k : ℕ} (he : e ≤ u64Max) (hfixed : t.round (t.round^[k] e) = t.round^[k] e) :
    ∃ r, (∀ rounds ≥ k, ∀ outcome, t.loop (rounds + 1) outcome e = r) ∧ t.Ends r := by
  induction k generalizing e with
  | zero =>
    rcases loop_succ h he with ⟨r, hr, hend⟩ | ⟨-, hne, -⟩
    · exact ⟨r, fun rounds _ => hr rounds, hend⟩
    · exact absurd hfixed hne
  | succ k ih =>
    rcases loop_succ h he with ⟨r, hr, hend⟩ | ⟨hle, -, hnext⟩
    · exact ⟨r, fun rounds _ => hr rounds, hend⟩
    · obtain ⟨r, hr, hend⟩ := ih hle hfixed
      refine ⟨r, fun rounds hrounds outcome => ?_, hend⟩
      obtain ⟨rounds, rfl⟩ := Nat.exists_eq_succ_of_ne_zero (Nat.ne_zero_of_lt hrounds)
      exact (hnext _ outcome).trans (hr rounds (Nat.le_of_succ_le_succ hrounds) _)

/-- **The evidence bytes converge**: if no sum overflows, the loop of eight rounds ends
by its break in the fourth round or before, with a record that states the bytes the
round counts, the digits of this number included. The branch that would correct the
record afterwards is not taken, and the record of the loop is the one to publish. -/
theorem evidenceBytes_converge (hsums : ∀ e ≤ u64Max, t.exactEvidence (t.outcome e) ≤ u64Max) :
    ∃ outcome e, (∀ rounds ≥ 4, ∀ draft, t.loop rounds draft 0 = .ok (outcome, e)) ∧
      outcome.resultingCounters.evidenceBytes = e ∧
      e = max t.recovered.latest.counters.evidenceBytes (t.exactEvidence outcome) ∧
      ∀ published, t.runtime.settleOutcome t.recovered t.prepared t.spec t.clock t.reserved t.execution =
        .ok published → published = outcome := by
  obtain ⟨r, hrounds, ⟨-, e, he, hover⟩ | ⟨e, -, hfixed, rfl⟩⟩ := ends_of_fixed h (Nat.zero_le _) t.round_fixed
  · exact absurd (hsums e he) (Nat.not_le.mpr hover)
  refine ⟨_, e, fun rounds hle draft => ?_, rfl, hfixed.symm, fun published hpublished => ?_⟩
  · obtain ⟨rounds, rfl⟩ := Nat.exists_eq_succ_of_ne_zero (Nat.ne_zero_of_lt hle)
    exact hrounds rounds (Nat.le_of_succ_le_succ hle) draft
  · simp only [settleOutcome, blocking, passing, do_eq_ok, mapError_eq_ok, checkedAdd_eq_some] at hpublished
    obtain ⟨-, -, -, _, ⟨-, rfl⟩, _, ⟨-, rfl⟩, -, ⟨outcome, e'⟩, hloop, -, rfl⟩ := hpublished
    obtain ⟨rfl, rfl⟩ := Prod.mk.inj (Except.ok.inj ((hrounds 7 (by decide) _).symm.trans hloop))
    exact if_neg (not_not.mpr rfl)

end Settling

open RuntimeSystem

section Example

variable (R : CheckpointBoundRuntime) (S : RecoveredOperatorState) (P : PreparedRequestRecord) (second : ℕ)

/-- The example request, executed in the given second. -/
def exampleSettling : Settling :=
  ⟨R, S, P, exampleSpec, ⟨second, second * 1000⟩, 0, exampleReceipt ⟨second, second * 1000⟩⟩

variable {R S P second} (hsecond : second = 2) (hindex : R.nextRequestIndex = 0)
  (hcounters : S.latest.counters = {}) (hP : isLowerHexSha256 P.recordSha256 = true)

include hsecond hindex hcounters hP

theorem verified_exampleSettling : (exampleSettling R S P second).Verified := by
  subst hsecond
  refine ⟨verify_exampleReceipt _ (by decide), hP, hindex.trans_le (by decide), ?_, ?_, ?_, ?_,
    show 2 ≤ u64Max by decide,
    show 2 * 1000 ≤ u64Max by decide⟩ <;> simp only [exampleSettling, hcounters] <;> decide

theorem exactEvidence_example (hjournal : R.journalBytes ≤ 2000) {e : ℕ} (he : e ≤ u64Max) :
    (exampleSettling R S P second).exactEvidence ((exampleSettling R S P second).outcome e) ≤ 30000 := by
  have hlength := Settling.length_outcome_le (verified_exampleSettling hsecond hindex hcounters hP) he
  have hmax : 2000 + maxRuntimeOutcomeBytes + runtimeCommitReservationBytes ≤ 30000 := by decide
  show R.journalBytes + _ + _ + 0 ≤ 30000
  omega

theorem settleOutcome_example (hplan : R.plan = examplePlan 1) (hjournal : R.journalBytes ≤ 2000) :
    ∃ e ≤ 30000, R.settleOutcome S P exampleSpec ⟨second, second * 1000⟩ 0
        (exampleReceipt ⟨second, second * 1000⟩) = .ok ((exampleSettling R S P second).outcome e) ∧
      (canonicalBytes ((exampleSettling R S P second).outcome e)).length ≤ maxRuntimeOutcomeBytes := by
  have hverified := verified_exampleSettling hsecond hindex hcounters hP
  have hprevious : S.latest.counters.evidenceBytes = 0 := by rw [hcounters]
  have hexact : ∀ e ≤ u64Max, (exampleSettling R S P second).exactEvidence
      ((exampleSettling R S P second).outcome e) ≤ 30000 :=
    fun e he => exactEvidence_example hsecond hindex hcounters hP hjournal he
  obtain ⟨r, hrounds, ⟨-, e, he, hover⟩ | ⟨e, he, hfixed, rfl⟩⟩ :=
    Settling.ends_of_fixed hverified (Nat.zero_le _) (Settling.round_fixed _)
  · exact absurd ((hexact e he).trans (by decide)) (Nat.not_le.mpr hover)
  refine ⟨e, hfixed ▸ max_le (hprevious.trans_le (Nat.zero_le _)) (hexact e he), ?_,
    Settling.length_outcome_le hverified he⟩
  simp only [settleOutcome, blocking, passing, do_eq_ok, mapError_eq_ok, hplan]
  refine ⟨hverified.execution, not_or.mpr ⟨not_not.mpr rfl, not_not.mpr rfl⟩, show ¬ 100 < 10 by decide, _,
    checkedAdd_eq_some.mpr ⟨hverified.requests, rfl⟩, _, checkedAdd_eq_some.mpr ⟨hverified.total, rfl⟩, ?_, (_, e),
    hrounds 7 (by decide) _, ?_, if_neg (not_not.mpr rfl)⟩
  · rw [hcounters, not_or]
    exact ⟨show ¬ 1 < 0 + 1 by decide, show ¬ 1000 < 0 + 10 by decide⟩
  · refine (congrArg RequestOutcomeRecord.verify (if_neg (not_not.mpr rfl))).trans ?_
    simp only [RequestOutcomeRecord.verify, bind_eq_ok, exists_unit, failIf_eq_ok, validateDigest, not_or, not_not]
    exact ⟨⟨rfl, show ((second * 1000 / 1000 : ℕ) : ℤ) = second by omega⟩, hP,
      isLowerHexSha256_hashSerializable _, hverified.execution, rfl⟩

end Example

/-- The first request of the example plan, on an empty journal. -/
def firstSettling : Settling :=
  exampleSettling ⟨examplePlan 1, exampleStore 1, 0, 0, none, false⟩
    ((exampleStore 1).recovered [] (exampleCheckpoint 1) 2) ⟨1, 0, "", .get, "", 0, 2, 2000, exampleDigest⟩ 2

/-- The loop settles the size of its outcome record, and the request publishes it. -/
theorem Settling.evidenceBytes_converge_example : ∃ outcome e,
    firstSettling.loop 8 (firstSettling.outcome 0) 0 = .ok (outcome, e) ∧
    outcome.resultingCounters.evidenceBytes = e ∧ e = max 0 (firstSettling.exactEvidence outcome) ∧
    firstSettling.runtime.settleOutcome firstSettling.recovered firstSettling.prepared firstSettling.spec
      firstSettling.clock firstSettling.reserved firstSettling.execution = .ok outcome := by
  have hdigest : isLowerHexSha256 firstSettling.prepared.recordSha256 = true := exampleDigest_isLowerHex
  have hverified : firstSettling.Verified := verified_exampleSettling rfl rfl rfl hdigest
  obtain ⟨outcome, e, hloop, hstated, hcounted, hpublished⟩ := evidenceBytes_converge hverified fun e he =>
    (exactEvidence_example rfl rfl rfl hdigest (Nat.zero_le _) he).trans (by decide)
  obtain ⟨_, -, hsettle, -⟩ := settleOutcome_example (R := firstSettling.runtime)
    (S := firstSettling.recovered) rfl rfl rfl hdigest rfl (Nat.zero_le _)
  exact ⟨outcome, e, hloop 8 (by decide) _, hstated, hcounted, hpublished _ hsettle ▸ hsettle⟩

end CheckpointBoundRuntime

/-! ## A request whose names are free -/

/-- The operations of a request before the executor: four publish the prepared record,
and one counts its bytes. -/
def operationsBeforeExecutor : ℕ := 5

theorem temporaryName_not_mem {J : Directory} (h : ∀ file ∈ J, isTemporary file = false)
    (name : String) (processId : ℕ) : temporaryName name processId ∉ J := fun hmem =>
  temporaryName_ne (h _ hmem) name processId rfl

variable {w : RuntimeWorld}

namespace RuntimeWorld

section Rules

variable {S : StateDisk} {J : Directory} {L : Bool} {R : CheckpointBoundRuntime} {I : List Invocation}

variable {post : Except RuntimeError Unit → RuntimeWorld → Prop}

theorem wp_journalRecord_free {C : RuntimeDisk → List Invocation → Prop} {kind : RecordKind}
    {index : ℕ} {content : Bytes} (hcrash : ∀ j, C ⟨S, j, L⟩ I)
    (htemporary : temporaryName (recordFileName kind index) R.stateStore.processId ∉ J)
    (hfree : recordFileName kind index ∉ J) (hbytes : R.journalBytes + content.length ≤ u64Max)
    (hpost : post (.ok ()) ⟨⟨S, J.insert (recordFileName kind index) (.file content), L⟩,
      { R with journalBytes := R.journalBytes + content.length }, I⟩) :
    wp (journalRecord (recordFileName kind index) content) (durably C) post ⟨⟨S, J, L⟩, R, I⟩ := by
  rw [journalRecord, wp_get_bind, wp_bind]
  refine wp_publishRecord (fun j _ => hcrash j) fun r j hpublished => ?_
  obtain ⟨rfl, rfl⟩ := hpublished.of_free htemporary hfree
  exact wp_addJournalBytes (hcrash _) (fun hover => absurd hover (Nat.not_lt.mpr hbytes)) hpost

theorem length_passed_journalRecord {kind : RecordKind} {index : ℕ} {content : Bytes}
    (htemporary : temporaryName (recordFileName kind index) R.stateStore.processId ∉ J)
    (hfree : recordFileName kind index ∉ J) (hbytes : R.journalBytes + content.length ≤ u64Max) :
    (journalRecord (recordFileName kind index) content ⟨⟨S, J, L⟩, R, I⟩).passed.length =
      operationsBeforeExecutor := by
  have hpublish : wp (onDisk (RuntimeDisk.onJournal (publishRecord R.stateStore.processId
      (recordFileName kind index) content))) (durably fun _ _ => True) (fun r _ => r = .ok ()) ⟨⟨S, J, L⟩, R, I⟩ :=
    wp_publishRecord (fun _ _ => trivial) fun _ _ hpublished => (hpublished.of_free htemporary hfree).1
  have hfour : (publishRecord R.stateStore.processId (recordFileName kind index) content J).passed.length = 4 :=
    Directory.length_passed_publish (temporaryName_ne_recordFileName _ _ _ _) htemporary hfree
  have hcount : okOr (checkedAdd R.journalBytes content.length) RuntimeError.workspaceBudgetExceeded =
      .ok (R.journalBytes + content.length) := okOr_eq_ok.mpr (checkedAdd_eq_some.mpr ⟨hbytes, rfl⟩)
  rw [journalRecord, get_bind, bind_of_ok hpublish.2, addJournalBytes, get_bind, bind_of_ok hcount]
  simp only [List.length_append, onDisk, RuntimeDisk.onJournal, onPart, List.length_map, hfour]
  rfl

theorem wp_commitRequest_free {outcome : RequestOutcomeRecord} {latest : OperatorCheckpoint}
    {commit : RequestCommitRecord}
    (hbuild : RequestCommitRecord.build outcome latest = .ok commit)
    (hlength : (canonicalBytes commit).length ≤ runtimeCommitReservationBytes)
    (htemporary : temporaryName (commitFileName R.nextRequestIndex) R.stateStore.processId ∉ J)
    (hfree : commitFileName R.nextRequestIndex ∉ J)
    (hbytes : R.journalBytes + (canonicalBytes commit).length ≤ u64Max)
    (hpost : post (.ok ()) ⟨⟨S, J.insert (commitFileName R.nextRequestIndex) (.file (canonicalBytes commit)), L⟩,
      { R with journalBytes := R.journalBytes + (canonicalBytes commit).length }, I⟩) :
    wp (commitRequest outcome latest) (fun _ => True) post ⟨⟨S, J, L⟩, R, I⟩ := by
  have hfits : blocking (failIf (runtimeCommitReservationBytes < (canonicalBytes commit).length)
      .commitReservationExceeded) = .ok () := by
    rw [blocking, failIf, if_neg (Nat.not_lt.mpr hlength)]
    rfl
  rw [commitRequest, wp_bind, wp_ofExcept, hbuild, after, hfits, wp_bind, orBlock, wp_pure,
    after, wp_get_bind, wp_bind, wp_attempt]
  refine wp_publishRecord (C := fun _ _ => True) (fun _ _ => trivial) fun r j hpublished => ?_
  obtain ⟨rfl, rfl⟩ := hpublished.of_free htemporary hfree
  exact wp_addJournalBytes (C := fun _ _ => True) trivial (fun hover => absurd hover (Nat.not_lt.mpr hbytes)) hpost

end Rules

/-! ## Admission -/

/-- The names of the prepared record of the next request are free. -/
def NamesFree (w : RuntimeWorld) : Prop :=
  temporaryName (preparedFileName w.runtime.nextRequestIndex) w.runtime.stateStore.processId ∉ w.disk.journal ∧
    preparedFileName w.runtime.nextRequestIndex ∉ w.disk.journal

/-- The procedure called the executor, after the operations that come before. -/
def Invokes {α : Type} (outcome : Outcome RuntimeError RuntimeWorld α) (w : RuntimeWorld) (call : Invocation) : Prop :=
  ∃ before since, outcome.passed = before ++ since ∧ before.length = operationsBeforeExecutor ∧ since ≠ [] ∧
    (∀ t ∈ before, t.invoked = w.invoked) ∧ (∀ t ∈ since, t.invoked = w.invoked ++ [call]) ∧
    outcome.final.invoked = w.invoked ++ [call]

theorem Invokes.map {α β : Type} {p : RuntimeProc α} {call : Invocation}
    (h : Invokes (p w) w call) (g : α → β) : Invokes ((do let a ← p; pure (g a)) w) w call := by
  obtain ⟨hfinal, hpassed⟩ := map_final_passed (p := p) (s := w) g
  rwa [Invokes, hfinal, hpassed]

/-- The procedure did not call the executor. -/
def Silent {α : Type} (outcome : Outcome RuntimeError RuntimeWorld α) (w : RuntimeWorld) : Prop :=
  (∀ t ∈ outcome.passed, t.invoked = w.invoked) ∧ outcome.final.invoked = w.invoked

variable {spec : RuntimeRequestSpec} {clock : RuntimeClock} {reservedBytes : ℕ}
  {executor : RuntimeExecutor}

/-- **A request that passes the checks is executed**: when the names of its prepared
record are free, the executor is called, whatever happens afterwards. -/
theorem invokes_of_prepareRequest {recovered : RecoveredOperatorState} {prepared : PreparedRequestRecord}
    (hprepare : w.runtime.prepareRequest w.disk spec clock reservedBytes = .ok (recovered, prepared))
    (hnames : NamesFree w) : Invokes (executeWithReservedWorkspace spec clock reservedBytes executor w) w
      ⟨w.runtime.nextRequestIndex, spec⟩ := by
  obtain ⟨⟨S, J, L⟩, R, I⟩ := w
  obtain ⟨htemporary, hfree⟩ := hnames
  have hbytes : R.journalBytes + (canonicalBytes prepared).length ≤ u64Max := by
    simp only [prepareRequest, do_eq_ok, Option.bind_eq_some_iff, checkedAdd_eq_some,
      Prod.mk.injEq] at hprepare
    obtain ⟨-, -, -, state, -, -, -, -, record, -, total, hadded, -, rfl, rfl⟩ := hprepare
    obtain ⟨_, ⟨_, ⟨_, ⟨_, ⟨-, rfl⟩, hbytes, rfl⟩, -⟩, -⟩, -⟩ := hadded
    omega
  have hjournal : wp (journalRecord (preparedFileName R.nextRequestIndex) (canonicalBytes prepared))
      (durably fun _ i => i = I)
      (fun r t => r = .ok () ∧ t = ⟨⟨S, J.insert (preparedFileName R.nextRequestIndex)
        (.file (canonicalBytes prepared)), L⟩,
        { R with journalBytes := R.journalBytes + (canonicalBytes prepared).length }, I⟩) ⟨⟨S, J, L⟩, R, I⟩ :=
    wp_journalRecord_free (fun _ => rfl) htemporary hfree hbytes ⟨rfl, rfl⟩
  obtain ⟨hbefore, hresult, hfinal⟩ := hjournal
  have hperform : executeWithReservedWorkspace spec clock reservedBytes executor ⟨⟨S, J, L⟩, R, I⟩ =
      performRequest recovered prepared spec clock reservedBytes executor ⟨⟨S, J, L⟩, R, I⟩ := by
    rw [executeWithReservedWorkspace, get_bind, bind_of_ok hprepare]
    rfl
  rw [Invokes, hperform, performRequest, get_bind, bind_of_ok hresult, hfinal]
  refine ⟨_, _, rfl, length_passed_journalRecord htemporary hfree hbytes,
    passed_bind_ne_nil (passed_bind_ne_nil (List.cons_ne_nil _ _)), hbefore, ?_⟩
  -- whatever follows leaves the invocations alone
  change wp _ (durably fun _ i => i = I ++ [⟨R.nextRequestIndex, spec⟩])
    (fun _ t => t.invoked = I ++ [⟨R.nextRequestIndex, spec⟩]) _
  rw [wp_bind]
  refine wp_invoke rfl (fun _ => rfl) fun execution _ => ?_
  rw [after, wp_get_bind, wp_bind]
  refine wp_orBlock rfl (fun _ _ => rfl) fun outcome _ => ?_
  rw [after, wp_bind]
  refine wp_journalRecord (fun _ _ => rfl) (fun _ _ _ => rfl) fun _ => ?_
  rw [after, wp_bind]
  refine wp_appendCheckpoint (fun _ => rfl) (fun _ _ => rfl) fun state _ => ?_
  rw [after, wp_bind]
  refine wp_commitRequest (fun _ _ _ => rfl) (fun _ _ _ _ _ => rfl) fun commit _ _ => ?_
  rw [after, wp_bind, advance, wp_get_bind, wp_bind, wp_ofExcept]
  cases okOr (checkedAdd R.nextRequestIndex 1) RuntimeError.requestBudgetExceeded with
  | error e => exact rfl
  | ok n =>
    rw [after, update, wp_modify, after, wp_pure]
    exact ⟨rfl, rfl⟩

/-- A request that fails a check, or whose names are taken, is not executed. -/
theorem silent_of_not_free (h : ∀ prepared,
      w.runtime.prepareRequest w.disk spec clock reservedBytes = .ok prepared → ¬ NamesFree w) :
    Silent (executeWithReservedWorkspace spec clock reservedBytes executor w) w := by
  obtain ⟨⟨S, J, L⟩, R, I⟩ := w
  change wp _ (durably fun _ i => i = I) (fun _ t => t.invoked = I) _
  rw [executeWithReservedWorkspace, wp_get_bind, wp_bind, wp_ofExcept]
  cases hprepare : R.prepareRequest ⟨S, J, L⟩ spec clock reservedBytes with
  | error e =>
    rw [id_eq, hprepare]
    exact rfl
  | ok request =>
    have htaken := h request hprepare
    obtain ⟨recovered, prepared⟩ := request
    rw [id_eq, hprepare]
    simp only [after]
    rw [performRequest, wp_get_bind, wp_bind, journalRecord, wp_get_bind, wp_bind]
    refine wp_publishRecord (fun _ _ => rfl) fun r j hpublished => ?_
    cases hpublished with
    | done htemporary hfree => exact absurd ⟨htemporary, hfree⟩ htaken
    | taken _ _ => exact rfl
    | blocked _ _ => exact rfl

end RuntimeWorld

/-! ## A request of the example plan -/

namespace RuntimeSystem

/-- A state directory after `c` requests of the example plan. -/
structure Going (n c : ℕ) (disk : StateDisk) (chain : List OperatorCheckpoint)
    (latest : OperatorCheckpoint) : Prop where
  marker : disk.markerIsFile = true
  holds : Holds disk.directory chain
  accepted : (exampleStore n).Accepted chain
  last : chain.getLast? = some latest
  status : latest.status = .ready ∨ latest.status = .running
  completed : latest.counters.requestsCompleted = c
  bytes : chainBytes chain ≤ 5000
  expires : latest.identity.activationExpiresAtEpochSeconds = 1000

/-- A runtime after `c` requests of the example plan. -/
structure Ready (n c : ℕ) (w : RuntimeWorld) : Prop where
  plan : w.runtime.plan = examplePlan n
  store : w.runtime.stateStore = exampleStore n
  unblocked : w.runtime.blocked = false
  next : w.runtime.nextRequestIndex = c
  finished : ∀ name ∈ w.disk.journal, isTemporary name = false
  records : ∀ kind k, recordFileName kind k ∈ w.disk.journal → k < c
  journalBytes : w.runtime.journalBytes ≤ 25000 * c
  interval : ∀ ms, w.runtime.lastCommittedEpochMilliseconds = some ms → ms ≤ 2000 * c

section Example

variable {n c second : ℕ} {disk : StateDisk} {chain : List OperatorCheckpoint} {latest : OperatorCheckpoint}

theorem Going.recover (hn : n = 1) (h : Going n c disk chain latest) (now : ℤ) :
    (exampleStore n).recover disk now = .ok ((exampleStore n).recovered chain latest now) :=
  recover_eq_ok.mpr ⟨verifyPlanDigest_examplePlan (.inl hn), h.marker, chain, latest, h.holds,
    h.accepted, h.last, rfl⟩

theorem Going.continuationAllowed (h : Going n c disk chain latest) (now : ℤ)
    (hnow : 0 < now ∧ now ≤ 1000) : (exampleStore n).continuationAllowed latest now = true := by
  have hstatus : latest.status.permitsContinuation = true := by
    rcases h.status with hstatus | hstatus <;>
      · rw [hstatus]
        rfl
  have htimes : (exampleStore n).plan.createdAtEpochSeconds ≤ now ∧ now ≤ (exampleStore n).plan.expiresAtEpochSeconds ∧
      now ≤ latest.identity.activationExpiresAtEpochSeconds := by
    rw [h.expires]
    exact ⟨hnow.1, hnow.2, hnow.2⟩
  rw [OperatorStateStore.continuationAllowed, hstatus, decide_eq_true htimes]
  rfl

/-- Before the first request. -/
theorem going_exampleDisk : Going n 0 (exampleDisk n) [exampleCheckpoint n] (exampleCheckpoint n) := by
  refine ⟨rfl, holds_exampleDisk n, accepted_exampleCheckpoint n, rfl, .inl rfl, rfl, ?_, rfl⟩
  have hsize := fileSize_exampleCheckpoint n
  rw [chainBytes_cons, chainBytes_nil]
  omega

/-- **A request of the example plan passes the checks**, also when the budget is used up. -/
theorem Ready.prepareRequest (hn : n = 1) (h : Ready n c w)
    (hgoing : Going n c w.disk.state chain latest) (hc : c ≤ 1) (hsecond : second = c + 2) :
    ∃ prepared, w.runtime.prepareRequest w.disk exampleSpec ⟨second, second * 1000⟩ 0 =
        .ok ((exampleStore n).recovered chain latest second, prepared) ∧
      (canonicalBytes prepared).length ≤ 1024 ∧ isLowerHexSha256 prepared.recordSha256 = true := by
  have hstatic := (last_of_accepted hgoing.accepted hgoing.last).2.1
  have hdigest := (validateStatic_eq_ok.mp hstatic).2.2.2.2.2.2.1
  have hclock : (0 : ℤ) < second ∧ ((second * 1000 / 1000 : ℕ) : ℤ) = second := by omega
  have hmax : (2 ^ 30 : ℕ) ≤ u64Max := by decide
  let material := PreparedRequestRecord.material c latest exampleSpec ⟨second, second * 1000⟩
  let prepared : PreparedRequestRecord := { material with recordSha256 := material.calculateSha256 }
  have hverify : prepared.verify = .ok () := by
    simp only [PreparedRequestRecord.verify, do_eq_ok, validateDigest, not_or, not_le, not_not]
    exact ⟨⟨rfl, hclock⟩, hdigest, isLowerHexSha256_hashText _, isLowerHexSha256_hashSerializable _, rfl⟩
  have hbuild : PreparedRequestRecord.build c latest exampleSpec ⟨second, second * 1000⟩ = .ok prepared :=
    bind_eq_ok.mpr ⟨(), hverify, rfl⟩
  have hlength : (canonicalBytes prepared).length ≤ 1024 := by
    refine PreparedRequestRecord.length_le ?_
    simp only [Serde.toJson, Json.Short, Json.ShortFields, prepared, material,
      PreparedRequestRecord.material, exampleSpec,
      operatorRuntimeVersion]
    refine ⟨?_, ?_, short_of_isLowerHexSha256 hdigest, by decide +kernel,
      short_of_isLowerHexSha256 (isLowerHexSha256_hashText _), ?_, ?_, ?_,
      short_of_isLowerHexSha256 (isLowerHexSha256_hashSerializable _), trivial⟩ <;> omega
  refine ⟨prepared, ?_, hlength, isLowerHexSha256_hashSerializable _⟩
  have hinterval : w.runtime.checkInterval ⟨second, second * 1000⟩ = .ok () := by
    rw [CheckpointBoundRuntime.checkInterval]
    cases hlast : w.runtime.lastCommittedEpochMilliseconds with
    | none => rfl
    | some previous =>
      have hprevious := h.interval previous hlast
      have hminimum : w.runtime.plan.binding.minimumRequestIntervalMilliseconds = 200 := by rw [h.plan]; rfl
      simp only [do_eq_ok, hminimum]
      omega
  have hvalid : exampleSpec.validate (examplePlan n) = .ok () := by
    rw [hn]
    decide +kernel
  have hallowed := hgoing.continuationAllowed second (by omega)
  have hbytes := hgoing.bytes
  have hjournal := h.journalBytes
  simp only [CheckpointBoundRuntime.prepareRequest, do_eq_ok, mapError_eq_ok,
    Option.bind_eq_some_iff, checkedAdd_eq_some, h.plan, h.store, h.next, h.unblocked]
  refine ⟨failIf_eq_ok.mpr ?_, by simp, hvalid, _, hgoing.recover hn second, ?_,
    not_not.mpr hgoing.completed, hinterval,
    prepared, hbuild, _, ⟨_, ⟨_, ⟨_, ⟨_, ⟨?_, rfl⟩, ?_, rfl⟩, ?_, rfl⟩, ?_, rfl⟩, ?_, rfl⟩, ?_, rfl⟩
  · rw [not_or, not_le, not_not]
    exact hclock
  · show ¬ (¬ (exampleStore n).continuationAllowed latest second = true ∨
      ¬ (latest.status = .ready ∨ latest.status = .running))
    rw [not_or, not_not, not_not]
    exact ⟨hallowed, hgoing.status⟩
  all_goals
    simp only [recovered, maxRuntimeOutcomeBytes, runtimeCommitReservationBytes]
  · omega
  · omega
  · omega
  · omega
  · omega
  · show ¬ maxUnifiedOperatorWorkspaceBytes < _
    rw [maxUnifiedOperatorWorkspaceBytes]
    omega

/-- What the first request adds to the chain. -/
def exampleUpdate (n second evidenceBytes : ℕ) : CheckpointUpdate where
  status := .running
  counters := CheckpointBoundRuntime.countersAfter (exampleCheckpoint n) exampleSpec
    (exampleReceipt ⟨second, second * 1000⟩) evidenceBytes
  stopReason := none

def checkpointAfter (n second evidenceBytes : ℕ) : OperatorCheckpoint :=
  OperatorStateStore.sealedCheckpoint (exampleCheckpoint n) (exampleUpdate n second evidenceBytes) second

variable {e : ℕ}

theorem fileSize_checkpointAfter (n : ℕ) (hsecond : second = 2) (he : e ≤ 30000) :
    fileSize (checkpointAfter n second e) ≤ 2400 := by
  refine fileSize_le ?_
  have hdigest := @short_of_isLowerHexSha256
  have hevidence : e ≤ u64Max := he.trans (by decide)
  have htime : second ≤ u64Max := hsecond.le.trans (by decide)
  simp only [Serde.toJson, Json.Short, Json.ShortFields, checkpointAfter, sealedCheckpoint,
    nextCheckpoint, exampleUpdate,
    countersAfter, exampleReceipt, exampleSpec, exampleCheckpoint, OperatorCheckpoint.initial, exampleActivation]
  refine ⟨?_, ?_, ⟨(by decide +kernel : Json.quoteBytes "operator" ≤ 66),
    hdigest (UnifiedOperatorPlan.isLowerHexSha256_calculateSha256 _), hdigest (isLowerHexSha256_toLowerHex rfl),
    hdigest exampleDigest_isLowerHex, ?_⟩, ?_, ⟨?_, ?_, ?_, ?_, hevidence, trivial⟩, htime, trivial,
    hdigest (isLowerHexSha256_hashSerializable _), hdigest (isLowerHexSha256_hashSerializable _),
    trivial⟩ <;> decide +kernel

theorem prepareAppend_exampleUpdate (hn : n = 1) (hsecond : second = 2) (he : e ≤ 30000) :
    (exampleStore n).prepareAppend (exampleDisk n) (exampleUpdate n second e) second =
      .ok (checkpointAfter n second e, canonicalBytes (checkpointAfter n second e)) := by
  have hsize := fileSize_checkpointAfter n hsecond he
  have hfirst := fileSize_exampleCheckpoint n
  have hmax : (2 ^ 30 : ℕ) ≤ u64Max := by decide
  refine prepareAppend_eq_ok.mpr ⟨_, recover_exampleDisk (.inl hn) second, Bool.false_ne_true, ?_,
    ?_, rfl, rfl, ?_, ?_⟩
  · rw [checkContinuation, if_pos (.inl rfl)]
    have hverify : (examplePlan n).verify second = .ok () := verify_examplePlan (.inl hn) (by omega)
    exact bind_eq_ok.mpr ⟨(), mapError_eq_ok.mpr hverify, failIf_eq_ok.mpr (show ¬ (1000 : ℤ) < second by omega)⟩
  · refine validateTransition_eq_ok.mpr ⟨⟨rfl, rfl⟩, rfl, ?_, ?_, ?_, ?_, rfl, .inl rfl, rfl⟩
    · show (1 : ℤ) ≤ second
      omega
    · simp only [OperatorCounters.validateAgainstPlan, do_eq_ok]
      exact ⟨show ¬ n < 0 + 1 by omega, show ¬ 1000 < 0 + 10 by decide, show ¬ 100 < 10 by decide,
        show ¬ 1 < max 0 0 by decide⟩
    · refine failIf_eq_ok.mpr ?_
      simp [exampleUpdate, nextCheckpoint, recovered, exampleCheckpoint,
        OperatorCheckpoint.initial]
    · show 0 + 1 - 0 ≤ 1
      decide
  · show e + chainBytes [exampleCheckpoint n] + fileSize (checkpointAfter n second e) ≤ u64Max
    rw [chainBytes_cons, chainBytes_nil]
    omega
  · show e + chainBytes [exampleCheckpoint n] + fileSize (checkpointAfter n second e) ≤ 1024 * 1024 * 1024
    rw [chainBytes_cons, chainBytes_nil]
    omega

/-- The store takes the checkpoint of the first request, and reads it back at any time. -/
theorem append_exampleDisk : (exampleStore 1).recover (exampleDisk 1) 1 =
        .ok ((exampleStore 1).recovered [exampleCheckpoint 1] (exampleCheckpoint 1) 1) ∧
      (∃ chain, Holds (exampleDisk 1).directory chain ∧ chain.getLast? = some (exampleCheckpoint 1) ∧
        chain.IsChain (OperatorStateStore.Precedes (examplePlan 1))) ∧
      ∃ next, ((exampleStore 1).append (exampleUpdate 1 2 0) 2 (exampleDisk 1)).result = .ok next ∧
        next.latest = checkpointAfter 1 2 0 ∧
        ∀ later, ∃ again, (exampleStore 1).recover
          ((exampleStore 1).append (exampleUpdate 1 2 0) 2 (exampleDisk 1)).final later = .ok again ∧
          again.latest = next.latest := by
  have hrecover := recover_exampleDisk (n := 1) (.inl rfl) 1
  obtain ⟨⟨chain, hholds, hlast, hchain, -⟩, hleaves⟩ :=
    OperatorStateStore.append_unchanged_or_extended hrecover (exampleUpdate 1 2 0) 2
  obtain ⟨next, hresult⟩ : ∃ next,
      ((exampleStore 1).append (exampleUpdate 1 2 0) 2 (exampleDisk 1)).result = .ok next := by
    rcases (wp_append (verifyPlanDigest_examplePlan (.inl rfl)) rfl (holds_exampleDisk 1)
      (accepted_exampleCheckpoint 1) rfl).2 with ⟨e, -, -, herror⟩ | ⟨_, -, -, -, hresult, -⟩
    · cases (prepareAppend_exampleUpdate rfl rfl (Nat.zero_le _)).symm.trans herror
    · exact ⟨_, hresult⟩
  rw [hresult] at hleaves
  exact ⟨hrecover, ⟨chain, hholds, hlast, hchain⟩, next, hresult, hleaves.1, hleaves.2.2.2⟩

theorem build_commit (runtime : CheckpointBoundRuntime) (hnext : runtime.nextRequestIndex = 0)
    (prepared : PreparedRequestRecord) (hsecond : second = 2) (he : e ≤ 30000) :
    ∃ commit, RequestCommitRecord.build (sealedOutcome (runtime.outcomeRecord prepared
        (exampleReceipt ⟨second, second * 1000⟩) ⟨second, second * 1000⟩
        (exampleUpdate n second e).counters)) (checkpointAfter n second e) = .ok commit ∧
      (canonicalBytes commit).length ≤ runtimeCommitReservationBytes := by
  let material := RequestCommitRecord.material (sealedOutcome (runtime.outcomeRecord prepared
    (exampleReceipt ⟨second, second * 1000⟩) ⟨second, second * 1000⟩ (exampleUpdate n second e).counters))
    (checkpointAfter n second e)
  let commit : RequestCommitRecord := { material with recordSha256 := material.calculateSha256 }
  have hverify : commit.verify = .ok () := by
    simp only [RequestCommitRecord.verify, do_eq_ok, validateDigest, not_or, not_le, not_not]
    refine ⟨⟨rfl, ?_, ?_, ?_, ?_⟩, isLowerHexSha256_hashSerializable _,
      isLowerHexSha256_hashSerializable _, isLowerHexSha256_hashSerializable _, rfl⟩
    · exact (congrArg (· + 1) hnext).symm
    · exact (congrArg (· + 1) hnext).symm
    · show (0 : ℤ) < second
      omega
    · show ((second * 1000 / 1000 : ℕ) : ℤ) = second
      omega
  refine ⟨commit, bind_eq_ok.mpr ⟨(), hverify, rfl⟩, RequestCommitRecord.length_le ?_⟩
  have hdigest := @short_of_isLowerHexSha256
  simp only [Serde.toJson, Json.Short, Json.ShortFields, commit, material, RequestCommitRecord.material, sealedOutcome,
    outcomeRecord, checkpointAfter, sealedCheckpoint, nextCheckpoint, exampleUpdate, countersAfter, exampleReceipt,
    exampleSpec, exampleCheckpoint, OperatorCheckpoint.initial, operatorRuntimeVersion, u64Max, hnext]
  refine ⟨?_, ?_, hdigest (isLowerHexSha256_hashSerializable _), ?_, hdigest (isLowerHexSha256_hashSerializable _),
    ⟨?_, ?_, ?_, ?_, ?_, trivial⟩, ?_, ?_, hdigest (isLowerHexSha256_hashSerializable _), trivial⟩ <;> omega

/-- **The first request of the example plan is carried through.** -/
theorem Ready.execute (hn : n = 1) (hsecond : second = 2) (h : Ready n 0 w)
    (hstate : w.disk.state = exampleDisk n)
    {executor : RuntimeExecutor}
    (hexecutor : executor exampleSpec = .ok (exampleReceipt ⟨second, second * 1000⟩)) :
    wp (RuntimeWorld.executeWithReservedWorkspace exampleSpec ⟨second, second * 1000⟩ 0 executor) (fun _ => True)
      (fun r t => (∃ state, r = .ok (exampleReceipt ⟨second, second * 1000⟩, state)) ∧ Ready n 1 t ∧
        (∃ chain latest, Going n 1 t.disk.state chain latest) ∧ t.invoked = w.invoked ++ [⟨0, exampleSpec⟩]) w := by
  have hgoing : Going n 0 w.disk.state [exampleCheckpoint n] (exampleCheckpoint n) := by
    rw [hstate]
    exact going_exampleDisk
  obtain ⟨prepared, hprepare, hprepared, hdigest⟩ := h.prepareRequest hn hgoing (Nat.zero_le 1) hsecond
  obtain ⟨⟨S, J, L⟩, ⟨plan, store, next, journalBytes, last, blocked⟩, I⟩ := w
  obtain ⟨hplan, hstore, hblocked, hnext, hfinished, hrecords, hjournal, -⟩ := h
  dsimp only at hplan hstore hblocked hnext hfinished hrecords hjournal hprepare hstate
  subst hplan hstore hblocked hnext hstate
  have hmax : (2 ^ 30 : ℕ) ≤ u64Max := by decide
  -- the names of the records are free until they are written
  have hinsert : ∀ kind content {j : Directory}, (∀ file ∈ j, isTemporary file = false) →
      ∀ file ∈ j.insert (recordFileName kind 0) (.file content), isTemporary file = false := by
    intro kind content j hj file hfile
    rcases Std.ExtTreeMap.mem_insert.mp hfile with heq | hmem
    · rw [← compare_eq_iff_eq.mp heq]
      exact isTemporary_recordFileName _ _
    · exact hj file hmem
  have hfree : ∀ kind, recordFileName kind 0 ∉ J := fun kind hmem => Nat.lt_irrefl _ (hrecords kind _ hmem)
  have hother : ∀ {kind kind' k content} {j : Directory}, kind ≠ kind' ∨ k ≠ 0 → recordFileName kind k ∉ j →
      recordFileName kind k ∉ j.insert (recordFileName kind' 0) (.file content) := by
    intro kind kind' k content j hne hj hmem
    rcases Std.ExtTreeMap.mem_insert.mp hmem with heq | hmem
    · obtain ⟨rfl, rfl⟩ := recordFileName_injective (compare_eq_iff_eq.mp heq)
      exact hne.elim (absurd rfl) (absurd rfl)
    · exact hj hmem
  rw [RuntimeWorld.executeWithReservedWorkspace, wp_get_bind, wp_bind,
    wp_ofExcept]
  simp only [id_eq, hprepare, after]
  rw [RuntimeWorld.performRequest, wp_get_bind, wp_bind]
  refine RuntimeWorld.wp_journalRecord_free (C := fun _ _ => True) (fun _ => trivial)
    (temporaryName_not_mem hfinished _ _) (hfree .prepared) ?_ ?_
  · show journalBytes + _ ≤ u64Max
    omega
  rw [after, wp_bind, RuntimeWorld.invoke, wp_bind, wp_modify]
  refine ⟨trivial, ?_⟩
  rw [after, hexecutor, wp_pure, after, wp_get_bind, wp_bind]
  -- the outcome record
  let runtime : CheckpointBoundRuntime :=
    ⟨examplePlan n, exampleStore n, 0, journalBytes + (canonicalBytes prepared).length, last, false⟩
  obtain ⟨e, he, hsettle, hlength⟩ := settleOutcome_example (R := runtime)
    (S := (exampleStore n).recovered [exampleCheckpoint n] (exampleCheckpoint n) second) hsecond
    rfl rfl hdigest (hn ▸ rfl)
    (show journalBytes + (canonicalBytes prepared).length ≤ 2000 by omega)
  rw [hsettle, RuntimeWorld.orBlock, wp_pure, after, wp_bind]
  rw [maxRuntimeOutcomeBytes] at hlength
  have hfinished' := hinsert .prepared (canonicalBytes prepared) hfinished
  refine RuntimeWorld.wp_journalRecord_free (C := fun _ _ => True) (fun _ => trivial)
    (temporaryName_not_mem hfinished' _ _) (hother (.inl (by decide)) (hfree .outcome)) ?_ ?_
  · show journalBytes + _ + _ ≤ u64Max
    omega
  have hfinished'' := hinsert .outcome (canonicalBytes (sealedOutcome
    (runtime.outcomeRecord prepared (exampleReceipt ⟨second, second * 1000⟩) ⟨second, second * 1000⟩
      (exampleUpdate n second e).counters))) hfinished'
  -- the checkpoint
  rw [after, wp_bind, RuntimeWorld.appendCheckpoint, wp_get_bind, wp_bind,
    wp_attempt, RuntimeWorld.onDisk, wp_onPart, RuntimeDisk.onState, wp_onPart]
  refine wp_mono (wp_append (verifyPlanDigest_examplePlan (.inl hn)) rfl (holds_exampleDisk n)
    (accepted_exampleCheckpoint n) rfl) (fun _ _ => trivial) ?_
  rintro r t (⟨error, -, -, herror⟩ | ⟨checkpoint, hcheckpoint, -, haccepted, rfl, -, rfl⟩)
  · cases (prepareAppend_exampleUpdate hn hsecond he).symm.trans herror
  obtain rfl : checkpoint = checkpointAfter n second e := hcheckpoint
  rw [after, wp_pure, after, wp_bind]
  -- the commit record
  obtain ⟨commit, hcommit, hcommitLength⟩ := build_commit runtime rfl prepared hsecond he
  have hcommitFits := hcommitLength
  rw [runtimeCommitReservationBytes] at hcommitFits
  refine RuntimeWorld.wp_commitRequest_free hcommit hcommitLength (temporaryName_not_mem hfinished'' _ _)
    (hother (.inl (by decide)) (hother (.inl (by decide)) (hfree .commit))) ?_ ?_
  · show journalBytes + _ + _ + _ ≤ u64Max
    omega
  have hadvance : okOr (checkedAdd 0 1) RuntimeError.requestBudgetExceeded = .ok 1 := rfl
  rw [after, wp_bind, RuntimeWorld.advance, wp_get_bind, wp_bind,
    wp_ofExcept, hadvance, after, RuntimeWorld.update, wp_modify]
  refine ⟨trivial, ?_⟩
  rw [after, wp_pure]
  refine ⟨⟨_, rfl⟩, ⟨rfl, rfl, rfl, rfl, hinsert .commit _ hfinished'', fun kind k hmem => ?_, ?_, ?_⟩,
    ⟨_, checkpointAfter n second e, rfl, holds_insert (holds_exampleDisk n) (show 1 ≤ u64Max by decide) _,
      haccepted, List.getLast?_concat, .inr rfl, rfl, ?_, rfl⟩, rfl⟩
  · by_contra hk
    refine hother (.inr ?_)
      (hother (.inr ?_) (hother (.inr ?_) fun hmem =>
        Nat.not_lt_zero _ (hrecords kind k hmem))) hmem
    all_goals omega
  · show journalBytes + _ + _ + _ ≤ 25000
    omega
  · rintro ms ⟨⟩
    show second * 1000 ≤ 2000 * 1
    omega
  · have hsize := fileSize_checkpointAfter n hsecond he
    have hfirst := fileSize_exampleCheckpoint n
    rw [chainBytes_append, chainBytes_cons, chainBytes_cons, chainBytes_nil]
    omega

/-- The checkpoint that `initialize` writes. -/
def firstCheckpoint (plan : UnifiedOperatorPlan) (consumed : ConsumedUnifiedOperatorActivation)
    (now : ℤ) : OperatorCheckpoint :=
  { OperatorCheckpoint.initial plan consumed now with
    checkpointSha256 := (OperatorCheckpoint.initial plan consumed now).calculateSha256 }

theorem wp_initializeStore_empty {plan : UnifiedOperatorPlan} {consumed : ConsumedUnifiedOperatorActivation}
    {processId : ℕ} {now : ℤ} {first : OperatorCheckpoint} {recovered : RecoveredOperatorState}
    (hfirst : firstCheckpoint plan consumed now = first) (hverify : plan.verify now = .ok ())
    (hbinding : consumed.planSha256 = plan.planSha256 ∧
      consumed.bindingSha256 = plan.bindingSha256 ∧ now ≤ consumed.expiresAtEpochSeconds)
    (hsize : fileSize first ≤ plan.maximumWorkspaceBytes)
    (hrecover : OperatorStateStore.recover ⟨plan, consumed.activationCertificateSha256, processId⟩
      ⟨(∅ : Directory).insert (checkpointFileName 0) (.file (canonicalBytes first)), true⟩ now = .ok recovered) :
    wp (initializeStore plan consumed processId now) (fun _ => True)
      (fun r t => t = ⟨(∅ : Directory).insert (checkpointFileName 0) (.file (canonicalBytes first)), true⟩ ∧
        r = .ok (⟨plan, consumed.activationCertificateSha256, processId⟩, recovered)) ⟨∅, true⟩ := by
  have hchecks : failIf (consumed.planSha256 ≠ plan.planSha256 ∨ consumed.bindingSha256 ≠ plan.bindingSha256 ∨
      consumed.expiresAtEpochSeconds < now ∨ ¬ true = true) OperatorStateError.consumedActivationMismatch = .ok () := by
    refine failIf_eq_ok.mpr ?_
    simp only [not_or, not_not, not_lt, and_true]
    exact hbinding
  have hempty : failIf (¬ (∅ : Directory).isEmpty = true) OperatorStateError.stateDirectoryNotEmpty = .ok () :=
    failIf_eq_ok.mpr (not_not.mpr Std.ExtTreeMap.isEmpty_empty)
  have hfits : failIf (plan.maximumWorkspaceBytes < (canonicalBytes first).length)
      OperatorStateError.workspaceBudgetExceeded = .ok () := failIf_eq_ok.mpr (Nat.not_lt.mpr hsize)
  subst hfirst
  rw [initializeStore, wp_bind, wp_ofExcept, hverify]
  simp only [Except.mapError, after]
  rw [wp_get_bind, wp_bind, wp_ofExcept, hchecks, after, wp_bind,
    wp_get, after, wp_bind, wp_ofExcept, hempty, after, wp_bind, wp_ofExcept]
  show after _ _ _ (failIf (plan.maximumWorkspaceBytes <
    (canonicalBytes (firstCheckpoint plan consumed now)).length) OperatorStateError.workspaceBudgetExceeded) _
  rw [hfits, after, wp_bind, publishCheckpoint, wp_onPart]
  refine wp_mono (Directory.wp_publish (temporaryName_ne (isTemporary_checkpointFileName 0) _ _))
    (fun _ _ => trivial) fun r t hpublished => ?_
  obtain ⟨rfl, rfl⟩ := hpublished.of_free Std.ExtTreeMap.not_mem_empty Std.ExtTreeMap.not_mem_empty
  rw [after, wp_get_bind, wp_bind, wp_ofExcept]
  show after _ _ _ (OperatorStateStore.recover ⟨plan, consumed.activationCertificateSha256, processId⟩
    ⟨(∅ : Directory).insert (checkpointFileName 0) (.file (canonicalBytes (firstCheckpoint plan consumed now))), true⟩
    now) _
  rw [hrecover, after, wp_pure]
  exact ⟨rfl, rfl⟩

theorem wp_acquireLock_free {S : StateDisk} {J : Directory} (hnone : runtimeLockFile ∉ J)
    {processId : ℕ} {clock : RuntimeClock} :
    wp (RuntimeDisk.acquireLock processId clock) (fun _ => True)
      (fun r t => r = .ok () ∧ ∃ node, t = ⟨S, J.insert runtimeLockFile node, true⟩) ⟨S, J, false⟩ := by
  rw [RuntimeDisk.acquireLock, wp_bind, RuntimeDisk.openLockFile, RuntimeDisk.onJournal, wp_onPart,
    wp_op, Directory.getElem?_of_not_mem hnone]
  refine ⟨trivial, ?_⟩
  rw [after, wp_bind, RuntimeDisk.tryLock, wp_op]
  simp only [Bool.false_eq_true, if_false, after, wp_bind, RuntimeDisk.onJournal, wp_onPart,
    wp_modify, insert_insert_self]
  exact ⟨trivial, trivial, trivial, trivial, _, rfl⟩

/-- **The example plan is started** on empty directories. -/
theorem wp_start_example (hn : n = 1) :
    wp (initializeRuntime (examplePlan n) (exampleActivation n) 1 ⟨1, 1000⟩) (fun _ => True)
      (fun r t => ∃ runtime recovery, r = .ok (runtime, recovery) ∧ t.state = exampleDisk n ∧
        ∀ invoked, Ready n 0 ⟨t, runtime, invoked⟩) ⟨⟨∅, true⟩, ∅, false⟩ := by
  have hclock : RuntimeClock.validate ⟨1, 1000⟩ = .ok () := by decide
  have hempty : failIf ((∅ : Directory).toList.any fun entry => entry.1 ≠ runtimeLockFile)
      RuntimeError.journalDirectoryNotEmpty = .ok () := by
    have hnil : (∅ : Directory).toList = [] := rfl
    rw [hnil]
    rfl
  have hsize : fileSize (exampleCheckpoint n) ≤ (examplePlan n).maximumWorkspaceBytes :=
    (fileSize_exampleCheckpoint n).trans (by show 2400 ≤ maxUnifiedOperatorWorkspaceBytes; decide)
  have hexpires : (1 : ℤ) ≤ (exampleActivation n).expiresAtEpochSeconds := by
    show (1 : ℤ) ≤ 1000
    decide
  rw [initializeRuntime, wp_bind, wp_ofExcept, hclock, after, wp_bind,
    wp_get, after, wp_bind, wp_ofExcept, hempty, after, wp_bind]
  refine wp_mono (wp_acquireLock_free Std.ExtTreeMap.not_mem_empty) (fun _ h => h) ?_
  rintro r t ⟨rfl, node, rfl⟩
  rw [after]
  refine wp_holdingLock (fun _ h => h) ?_
  rw [wp_bind, wp_mapError, RuntimeDisk.onState, wp_onPart]
  refine wp_mono (wp_initializeStore_empty rfl (verify_examplePlan (.inl hn) ⟨le_refl 1, by decide⟩)
    ⟨rfl, rfl, hexpires⟩ hsize (recover_exampleDisk (.inl hn) 1)) (fun _ h => h) ?_
  rintro r t ⟨rfl, rfl⟩
  simp only [Except.mapError, after]
  rw [wp_pure]
  have hmem : ∀ {name : String}, name ∈ (∅ : Directory).insert runtimeLockFile node → name = runtimeLockFile := by
    intro name hname
    rcases Std.ExtTreeMap.mem_insert.mp hname with heq | hmem
    · exact (compare_eq_iff_eq.mp heq).symm
    · exact absurd hmem Std.ExtTreeMap.not_mem_empty
  refine ⟨trivial, _, _, rfl, rfl, fun invoked => ⟨rfl, rfl, rfl, rfl, ?_, ?_, Nat.zero_le _, ?_⟩⟩
  · intro name hname
    rw [hmem hname]
    decide +kernel
  · intro kind k hk
    exact absurd (hmem hk) (recordFileName_ne_lock kind k)
  · rintro ms ⟨⟩

end Example

end RuntimeSystem

end BoundSeal.Operator

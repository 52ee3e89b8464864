import BoundSeal.Stream.Model

/-!
# What the operations of a stream do

An operation fails and changes nothing, is stopped before the backend is asked, or is
answered.
-/

namespace BoundSeal.Stream

open Rust Lib Transport Execution

namespace BoundedByteStream

variable {stream : BoundedByteStream B}

section

variable {B : Type}

/-- Valid limits, budgets kept, and no stream past its total deadline that is not timed
out. -/
structure Sound (stream : BoundedByteStream B) : Prop where
  limits : stream.limits.validate = .ok stream.limits
  budget : ∀ direction, stream.moved direction ≤ direction.budget stream.limits
  deadline : stream.elapsedMilliseconds > stream.limits.totalDeadlineMilliseconds → stream.state = .timedOut

theorem budget_lt {limits : StreamLimits} (h : limits.validate = .ok limits)
    (direction : StreamDirection) : direction.budget limits < u64Max := by
  simp only [StreamLimits.validate, do_eq_ok] at h
  obtain ⟨hread, hwrite, -⟩ := h
  have hcap : maxStreamDirectionBytes < u64Max := by decide
  cases direction with
  | read =>
    show limits.maximumReadBytes < u64Max
    omega
  | write =>
    show limits.maximumWriteBytes < u64Max
    omega

/-- What a read or a write that returns has done, when the backend is left as `backend`. -/
structure Operated (direction : StreamDirection) (pre : BoundedByteStream B) (backend : B)
    (receipt : StreamOperationReceipt) (post : BoundedByteStream B) : Prop where
  grant : post.grant = pre.grant
  limits : post.limits = pre.limits
  backend_eq : post.backend = backend
  count : post.operationCount = saturatingAdd pre.operationCount 1
  direction_eq : receipt.direction = some direction
  moved : post.moved direction = pre.moved direction + receipt.transferredBytes
  kept : ∀ other, other ≠ direction → post.moved other = pre.moved other
  sound : Sound post

variable {pre : BoundedByteStream B}

theorem operated_of_record (hpre : Sound pre) (direction : StreamDirection)
    (outcome : StreamOperationOutcome) (requested elapsed total : ℕ) (before state : StreamState)
    (hlate : total > pre.limits.totalDeadlineMilliseconds → state = .timedOut) :
    Operated direction pre pre.backend
      ({ pre with elapsedMilliseconds := total, state := state }.record (some direction) outcome
        (.requested requested elapsed) before state).1
      ({ pre with elapsedMilliseconds := total, state := state }.record (some direction) outcome
        (.requested requested elapsed) before state).2 where
  grant := rfl
  limits := rfl
  backend_eq := rfl
  count := rfl
  direction_eq := rfl
  moved := by cases direction <;> rfl
  kept other _ := by cases other <;> rfl
  sound := ⟨hpre.limits, fun other => by cases other with
    | read => exact hpre.budget .read
    | write => exact hpre.budget .write, hlate⟩

theorem Sound.in_time (h : Sound stream) (hopen : stream.state.isTerminal = false) :
    ¬ stream.elapsedMilliseconds > stream.limits.totalDeadlineMilliseconds := by
  intro hlate
  rw [h.deadline hlate] at hopen
  cases hopen

theorem finishWithoutBackend_spec (direction : StreamDirection) (requested : ℕ)
    (outcome : StreamOperationOutcome) (hpre : Sound pre) (hopen : pre.state.isTerminal = false) :
    ∃ receipt post, pre.finishWithoutBackend direction requested outcome = (receipt, post) ∧
      Operated direction pre pre.backend receipt post ∧ receipt.outcome = outcome ∧
      receipt.transferredBytes = 0 ∧ post.state = terminalState outcome pre.state := by
  refine ⟨_, _, rfl, ?_, rfl, rfl, rfl⟩
  exact operated_of_record hpre direction outcome requested 0 pre.elapsedMilliseconds pre.state _
    fun hlate => absurd hlate (hpre.in_time hopen)

theorem operated_of_credit (hpre : Sound pre) (direction : StreamDirection)
    (outcome : StreamOperationOutcome) (metrics : OperationMetrics) (total : ℕ)
    (before state : StreamState) (htotal : ¬ total > pre.limits.totalDeadlineMilliseconds)
    (hbudget : ¬ saturatingAdd (pre.moved direction) metrics.transferredBytes > direction.budget pre.limits) :
    let next : BoundedByteStream B :=
      { ({ pre with elapsedMilliseconds := total } : BoundedByteStream B).credit direction
          metrics.transferredBytes with state := state }
    Operated direction pre pre.backend (next.record (some direction) outcome metrics before state).1
      (next.record (some direction) outcome metrics before state).2 := by
  -- below the budget the saturating sum is the sum
  have hsum : saturatingAdd (pre.moved direction) metrics.transferredBytes =
      pre.moved direction + metrics.transferredBytes := by
    have hcap := budget_lt hpre.limits direction
    rw [saturatingAdd] at hbudget ⊢
    omega
  rw [hsum] at hbudget
  cases direction with
  | read =>
    refine ⟨rfl, rfl, rfl, rfl, rfl, hsum, ?_, hpre.limits, ?_, fun hlate => absurd hlate htotal⟩
    · rintro (_ | _) hne
      · exact absurd rfl hne
      · rfl
    · rintro (_ | _)
      · exact hsum.trans_le (not_lt.mp hbudget)
      · exact hpre.budget .write
  | write =>
    refine ⟨rfl, rfl, rfl, rfl, rfl, hsum, ?_, hpre.limits, ?_, fun hlate => absurd hlate htotal⟩
    · rintro (_ | _) hne
      · rfl
      · exact absurd rfl hne
    · rintro (_ | _)
      · exact hpre.budget .read
      · exact hsum.trans_le (not_lt.mp hbudget)

/-- The outcomes of an answer that came too late or is too long. -/
def Overrun (direction : StreamDirection) (outcome : StreamOperationOutcome) : Prop :=
  outcome = direction.timeout ∨ outcome = .totalTimeout ∨ outcome = direction.budgetExceeded

theorem settle_spec (direction : StreamDirection) (requested elapsed transferred : ℕ) (payloadSha256 : Option String)
    (outcome : StreamOperationOutcome) (nextState : StreamState) (hpre : Sound pre) :
    ∃ kept receipt post, pre.settle direction requested elapsed transferred payloadSha256 outcome nextState =
        (kept, receipt, post) ∧ Operated direction pre pre.backend receipt post ∧
      ((kept = true ∧ receipt.outcome = outcome ∧ receipt.transferredBytes = transferred ∧ post.state = nextState) ∨
        (kept = false ∧ Overrun direction receipt.outcome ∧ receipt.transferredBytes = 0 ∧
          post.state.isTerminal = true)) := by
  unfold settle
  dsimp only
  split_ifs with hlate htotal hbudget
  · exact ⟨_, _, _, rfl, operated_of_record hpre direction _ requested elapsed _ _ _ fun _ => rfl,
      .inr ⟨rfl, .inl rfl, rfl, rfl⟩⟩
  · exact ⟨_, _, _, rfl, operated_of_record hpre direction _ requested elapsed _ _ _ fun _ => rfl,
      .inr ⟨rfl, .inr (.inl rfl), rfl, rfl⟩⟩
  · exact ⟨_, _, _, rfl, operated_of_record hpre direction _ requested elapsed _ _ _ fun h =>
      absurd h htotal, .inr ⟨rfl, .inr (.inr rfl), rfl, rfl⟩⟩
  · have hmoved : ({ pre with elapsedMilliseconds := saturatingAdd pre.elapsedMilliseconds elapsed } :
        BoundedByteStream B).moved direction = pre.moved direction := by cases direction <;> rfl
    have hnext := operated_of_credit hpre direction outcome ⟨requested, transferred, payloadSha256,
      elapsed⟩ (saturatingAdd pre.elapsedMilliseconds elapsed) pre.state nextState htotal hbudget
    exact ⟨_, _, _, rfl, hnext, .inl ⟨rfl, rfl, rfl, rfl⟩⟩

variable {direction : StreamDirection}

/-- An operation that was stopped before the backend was asked. -/
structure Stopped (direction : StreamDirection) (requested : ℕ) (control : StreamControl) (pre : BoundedByteStream B)
    (receipt : StreamOperationReceipt) (post : BoundedByteStream B) : Prop where
  refusal : pre.refusal direction requested control = some receipt.outcome
  operated : Operated direction pre pre.backend receipt post
  transferred : receipt.transferredBytes = 0
  state : post.state = terminalState receipt.outcome pre.state

/-- An operation the backend has answered; `kept` says that the answer counts. -/
structure Answered (direction : StreamDirection) (requested : ℕ) (control : StreamControl) (pre : BoundedByteStream B)
    (backend : B) (transferred : ℕ) (outcome : StreamOperationOutcome) (nextState : StreamState)
    (kept : Bool) (receipt : StreamOperationReceipt) (post : BoundedByteStream B) : Prop where
  asked : pre.refusal direction requested control = none
  operated : Operated direction pre backend receipt post
  settled : (kept = true ∧ receipt.outcome = outcome ∧ receipt.transferredBytes = transferred ∧
      post.state = nextState) ∨
    (kept = false ∧ Overrun direction receipt.outcome ∧ receipt.transferredBytes = 0 ∧ post.state.isTerminal = true)

theorem ensureOpen_of_ensureOperation {requested : ℕ} {u : Unit}
    (h : pre.ensureOperation direction requested = .ok u) : pre.ensureOpen direction = .ok () := by
  simp only [ensureOperation, do_eq_ok] at h
  exact h.2

theorem not_terminal_of_ensureOpen (h : pre.ensureOpen direction = .ok ()) :
    pre.state.isTerminal = false := by
  cases hstate : pre.state <;> cases direction <;> simp_all [ensureOpen, StreamState.isTerminal]

theorem Operated.of_backend {pre post : BoundedByteStream B} {backend : B} {receipt : StreamOperationReceipt}
    (h : Operated direction { pre with backend } backend receipt post) :
    Operated direction pre backend receipt post where
  grant := h.grant
  limits := h.limits
  backend_eq := h.backend_eq
  count := h.count
  direction_eq := h.direction_eq
  moved := by
    rw [h.moved]
    cases direction <;> rfl
  kept other hne := by
    rw [h.kept other hne]
    cases other <;> rfl
  sound := h.sound

theorem Sound.of_backend (h : Sound pre) (backend : B) : Sound { pre with backend } :=
  ⟨h.limits, fun direction => by cases direction with
    | read => exact h.budget .read
    | write => exact h.budget .write, h.deadline⟩

variable [ByteStreamBackend B] {pre : BoundedByteStream B}

theorem read_cases (hpre : Sound pre) (maximumBytes : ℕ) (control : StreamControl) :
    let answer := ByteStreamBackend.read pre.backend maximumBytes pre.limits.readDeadlineMilliseconds
    let classified := classifyRead answer.1.status maximumBytes pre.state
    (∃ e, pre.read maximumBytes control = (.error e, pre)) ∨
    (pre.ensureOpen .read = .ok () ∧
      ((∃ receipt post, pre.read maximumBytes control = (.ok ⟨[], receipt⟩, post) ∧
          Stopped .read maximumBytes control pre receipt post) ∨
        ∃ kept receipt post,
          pre.read maximumBytes control = (.ok ⟨if kept then classified.1 else [], receipt⟩, post) ∧
          Answered .read maximumBytes control pre answer.2 classified.1.length classified.2.1 classified.2.2 kept
            receipt post)) := by
  intro answer classified
  cases hensure : pre.ensureOperation .read maximumBytes with
  | error e => exact .inl ⟨e, by simp only [read, hensure]⟩
  | ok u =>
    have hopen := ensureOpen_of_ensureOperation hensure
    refine .inr ⟨hopen, ?_⟩
    cases hrefusal : pre.refusal .read maximumBytes control with
    | some outcome =>
      obtain ⟨receipt, post, hfinish, hoperated, hout, htransferred, hstate⟩ :=
        finishWithoutBackend_spec .read maximumBytes outcome hpre (not_terminal_of_ensureOpen hopen)
      subst hout
      exact .inl ⟨receipt, post, by simp only [read, hensure, hrefusal, hfinish],
        ⟨hrefusal, hoperated, htransferred, hstate⟩⟩
    | none =>
      obtain ⟨kept, receipt, post, hsettle, hoperated, hsettled⟩ :=
        settle_spec .read maximumBytes answer.1.elapsedMilliseconds classified.1.length
          (if classified.1.isEmpty then none else some (payloadHash classified.1)) classified.2.1 classified.2.2
          (hpre.of_backend answer.2)
      refine .inr ⟨kept, receipt, post, ?_, ⟨hrefusal, hoperated.of_backend, hsettled⟩⟩
      simp only [read, hensure, hrefusal]
      rw [hsettle]

theorem write_cases (hpre : Sound pre) (bytes : Bytes) (control : StreamControl) :
    let answer := ByteStreamBackend.write pre.backend bytes pre.limits.writeDeadlineMilliseconds
    let classified := classifyWrite answer.1.status bytes.length pre.state
    (∃ e, pre.write bytes control = (.error e, pre)) ∨
    (pre.ensureOpen .write = .ok () ∧
      ((∃ receipt post, pre.write bytes control = (.ok ⟨receipt⟩, post) ∧
          Stopped .write bytes.length control pre receipt post) ∨
        ∃ kept receipt post, pre.write bytes control = (.ok ⟨receipt⟩, post) ∧
          Answered .write bytes.length control pre answer.2 classified.1 classified.2.1 classified.2.2 kept
            receipt post)) := by
  intro answer classified
  cases hensure : pre.ensureOperation .write bytes.length with
  | error e => exact .inl ⟨e, by simp only [write, hensure]⟩
  | ok u =>
    have hopen := ensureOpen_of_ensureOperation hensure
    refine .inr ⟨hopen, ?_⟩
    cases hrefusal : pre.refusal .write bytes.length control with
    | some outcome =>
      obtain ⟨receipt, post, hfinish, hoperated, hout, htransferred, hstate⟩ :=
        finishWithoutBackend_spec .write bytes.length outcome hpre (not_terminal_of_ensureOpen hopen)
      subst hout
      exact .inl ⟨receipt, post, by simp only [write, hensure, hrefusal, hfinish],
        ⟨hrefusal, hoperated, htransferred, hstate⟩⟩
    | none =>
      obtain ⟨kept, receipt, post, hsettle, hoperated, hsettled⟩ :=
        settle_spec .write bytes.length answer.1.elapsedMilliseconds classified.1
          (if classified.1 > 0 then some (payloadHash (bytes.take classified.1)) else none) classified.2.1
          classified.2.2 (hpre.of_backend answer.2)
      refine .inr ⟨kept, receipt, post, ?_, ⟨hrefusal, hoperated.of_backend, hsettled⟩⟩
      simp only [write, hensure, hrefusal]
      rw [hsettle]

theorem close_cases (hpre : Sound pre) :
    (pre.state.isTerminal = true ∧ ∃ e, pre.close = (.error e, pre)) ∨
    (pre.state.isTerminal = false ∧ ∃ receipt post, pre.close = (.ok receipt, post) ∧ post.grant = pre.grant ∧
      post.limits = pre.limits ∧ post.backend = ByteStreamBackend.close pre.backend ∧ post.state = .closed ∧
      receipt.direction = none ∧ (∀ direction, post.moved direction = pre.moved direction) ∧ Sound post) := by
  by_cases hterminal : pre.state.isTerminal = true
  · exact .inl ⟨hterminal, _, if_pos hterminal⟩
  · have hopen := Bool.eq_false_iff.mpr hterminal
    refine .inr ⟨hopen, _, _, if_neg hterminal, rfl, rfl, rfl, rfl, rfl, ?_, hpre.limits, ?_, ?_⟩
    · rintro (_ | _) <;> rfl
    · rintro (_ | _)
      · exact hpre.budget .read
      · exact hpre.budget .write
    · intro hlate
      exact absurd hlate (hpre.in_time hopen)

end

/-! ## What no operation changes -/

/-- The grant and the limits stay, no record is lost, and an audit that verifies still does. -/
structure Continues (pre post : BoundedByteStream B) : Prop where
  grant : post.grant = pre.grant
  limits : post.limits = pre.limits
  records : pre.audit.records.length ≤ post.audit.records.length
  audit : pre.audit.verify = .ok () → post.audit.verify = .ok ()

section

variable {B : Type} {pre mid post : BoundedByteStream B}

theorem Continues.refl (stream : BoundedByteStream B) : Continues stream stream :=
  ⟨rfl, rfl, le_rfl, id⟩

theorem Continues.trans (h : Continues pre mid) (h' : Continues mid post) : Continues pre post :=
  ⟨h'.grant.trans h.grant, h'.limits.trans h.limits, h.records.trans h'.records, h'.audit ∘ h.audit⟩

theorem length_lt_append (audit : StreamAuditChain) (event : StreamAuditEvent) :
    audit.records.length < (audit.append event).records.length :=
  List.length_append ▸ Nat.lt_succ_self _

/-- Other counters, another state, and one more record. -/
theorem continues_of_append {event : StreamAuditEvent} (hgrant : post.grant = pre.grant)
    (hlimits : post.limits = pre.limits) (haudit : post.audit = pre.audit.append event) :
    Continues pre post := by
  refine ⟨hgrant, hlimits, ?_, fun h => ?_⟩
  · rw [haudit]
    exact (length_lt_append _ _).le
  · rw [haudit]
    exact HashChain.verify_append _ event h

theorem continues_settle (backend : B) (direction : StreamDirection) (requested elapsed transferred : ℕ)
    (payloadSha256 : Option String) (outcome : StreamOperationOutcome) (nextState : StreamState) :
    Continues pre (({ pre with backend } : BoundedByteStream B).settle direction requested elapsed transferred
      payloadSha256 outcome nextState).2.2 := by
  unfold settle
  dsimp only
  split_ifs
  all_goals cases direction <;> exact continues_of_append rfl rfl rfl

variable [ByteStreamBackend B]

theorem continues_read (maximumBytes : ℕ) (control : StreamControl) :
    Continues pre (pre.read maximumBytes control).2 := by
  cases hensure : pre.ensureOperation .read maximumBytes with
  | error e =>
    simp only [read, hensure]
    exact .refl pre
  | ok u =>
    cases hrefusal : pre.refusal .read maximumBytes control with
    | some outcome =>
      simp only [read, hensure, hrefusal]
      exact continues_of_append rfl rfl rfl
    | none =>
      simp only [read, hensure, hrefusal]
      exact continues_settle _ _ _ _ _ _ _ _

theorem continues_write (bytes : Bytes) (control : StreamControl) :
    Continues pre (pre.write bytes control).2 := by
  cases hensure : pre.ensureOperation .write bytes.length with
  | error e =>
    simp only [write, hensure]
    exact .refl pre
  | ok u =>
    cases hrefusal : pre.refusal .write bytes.length control with
    | some outcome =>
      simp only [write, hensure, hrefusal]
      exact continues_of_append rfl rfl rfl
    | none =>
      simp only [write, hensure, hrefusal]
      exact continues_settle _ _ _ _ _ _ _ _

theorem records_lt_of_write {bytes : Bytes} (control : StreamControl)
    (h : pre.ensureOperation .write bytes.length = .ok ()) :
    pre.audit.records.length < (pre.write bytes control).2.audit.records.length := by
  unfold write settle
  simp only [h]
  split
  · exact length_lt_append _ _
  · dsimp only
    split_ifs <;> exact length_lt_append _ _

theorem continues_close : Continues pre pre.close.2 := by
  unfold close
  split_ifs
  · exact .refl pre
  · exact continues_of_append rfl rfl rfl

end

/-! ## Opening -/

structure Opened (permit : TransportPermit) (receipt : ExecutionReceipt) (limits : StreamLimits)
    (backend : B) (stream : BoundedByteStream B) : Prop where
  validated : limits.validate = .ok limits
  limits_eq : stream.limits = limits
  grant : ∃ anchor, stream.grant = streamGrant permit receipt anchor
  backend_eq : stream.backend = backend
  state : stream.state = .opened
  moved : ∀ direction, stream.moved direction = 0
  elapsed : stream.elapsedMilliseconds = 0
  count : stream.operationCount = 1
  sound : stream.Sound

variable {permit : TransportPermit} {receipt : ExecutionReceipt} {limits : StreamLimits}

section

variable {audit : ExecutorAuditChain} {backend : B}
  (h : BoundedByteStream.open permit receipt audit limits backend = .ok stream)

include h

theorem opened_of_open : Opened permit receipt limits backend stream := by
  simp only [BoundedByteStream.open, do_eq_ok] at h
  obtain ⟨validated, hlimits, -, record, -, -, chain, -, rfl⟩ := h
  obtain rfl : limits = validated := by
    have hself := hlimits
    simp only [StreamLimits.validate, do_eq_ok] at hself
    exact hself.2.2.2.2.2.2.2
  have hmoved : ∀ direction : StreamDirection, (0 : ℕ) ≤ direction.budget limits := fun _ => Nat.zero_le _
  refine ⟨hlimits, rfl, ⟨_, rfl⟩, rfl, rfl, ?_, rfl, rfl, hlimits, ?_, fun hlate => absurd hlate (Nat.not_lt_zero _)⟩
  · rintro (_ | _) <;> rfl
  · rintro (_ | _)
    · exact hmoved .read
    · exact hmoved .write

theorem audit_of_open :
    stream.audit.verify = .ok () ∧ isLowerHexSha256 stream.audit.tailHash = true := by
  simp only [BoundedByteStream.open, do_eq_ok] at h
  obtain ⟨validated, -, -, record, -, -, chain, hchain, rfl⟩ := h
  simp only [StreamAuditChain.new, do_eq_ok] at hchain
  obtain ⟨-, rfl⟩ := hchain
  exact ⟨HashChain.verify_append _ _ (HashChain.verify_start _ _), isLowerHexSha256_recordHash _ _ _ _⟩

end

def fresh (grant : StreamGrant) (limits : StreamLimits) (backend : B) (audit : StreamAuditChain) :
    BoundedByteStream B where
  grant
  limits
  backend
  state := .opened
  readBytes := 0
  writtenBytes := 0
  elapsedMilliseconds := 0
  operationCount := 1
  audit

/-- **A completed execution opens a stream**, when its id is new in the audit. -/
theorem open_of_completed {E : Type} [PermitBackend E] {executor executor' : PermitExecutor E}
    {anchor : String} (haudit : executor.audit.verify = .ok ())
    (hnew : ∀ record ∈ executor.audit.records, record.event.executionId ≠ executionIdText executor.nextExecutionId)
    (hexecuted : PermitExecutor.Executed executor permit anchor receipt executor')
    (hcompleted : receipt.outcome = .completed) (hlimits : limits.validate = .ok limits) :
    ∃ anchor chain, ∀ (B : Type) (backend : B),
      BoundedByteStream.open permit receipt executor'.audit limits backend =
        .ok (.fresh (streamGrant permit receipt anchor) limits backend chain) := by
  have hverify : executor'.audit.verify = .ok () := by
    rw [hexecuted.audit]
    exact HashChain.verify_append _ _ haudit
  let event := receiptEvent permit receipt
  let sequence := executor.audit.records.length + 1
  let record : Record ExecutorAuditEvent := ⟨sequence, executor.audit.tailHash, event,
    recordHash ExecutorAuditEvent.toJson sequence executor.audit.tailHash event⟩
  have hfind : executor'.audit.records.find?
      (fun record => record.event.executionId == receipt.executionId) = some record := by
    rw [hexecuted.audit]
    show (executor.audit.records ++ [record]).find? _ = _
    rw [List.find?_append, List.find?_eq_none.mpr, Option.none_or, List.find?_singleton]
    · simp [record, event, receiptEvent]
    · intro old hold
      simpa [hexecuted.executionId] using hnew old hold
  have hbinding : validateExecutionBinding permit receipt record = .ok () := by
    simp only [validateExecutionBinding, bind_eq_ok, exists_unit, failIf_eq_ok, forM_eq_ok]
    refine ⟨?_, ?_⟩
    · rw [hexecuted.finalState, hcompleted]
      simp [ExecutionOutcome.terminalState]
    · have hall : ∀ check ∈ bindingChecks permit receipt event, check.1 = true := by
        simp [bindingChecks, event, receiptEvent, hexecuted.ticketId, hexecuted.decisionId, hexecuted.dnsContextId,
          hexecuted.bindingHash, hexecuted.fingerprint, hexecuted.anchor, hcompleted]
      rintro ⟨ok, field⟩ hmem
      simpa using hall _ hmem
  have hchain : StreamAuditChain.new record.recordHash =
      .ok { HashChain.start record.recordHash with genesisAnchor := record.recordHash } := by
    simp [StreamAuditChain.new, record, isLowerHexSha256_recordHash, failIf]
  -- the chain does not depend on the backend
  let chain : StreamAuditChain := { HashChain.start record.recordHash with genesisAnchor := record.recordHash }
  let unbacked : BoundedByteStream Unit :=
    ⟨streamGrant permit receipt record.recordHash, limits, (), .opened, 0, 0, 0, 0, chain⟩
  simp only [BoundedByteStream.open, bind_eq_ok, exists_unit, pure_eq_ok]
  refine ⟨record.recordHash, (unbacked.record none .opened {} .opened .opened).2.audit,
    fun B backend => ⟨limits, hlimits, ?_, record, okOr_eq_ok.mpr hfind, hbinding, _, hchain, rfl⟩⟩
  rw [hverify]
  rfl

end BoundedByteStream

end BoundSeal.Stream

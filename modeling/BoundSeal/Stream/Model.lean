import BoundSeal.Execution.Executor

/-!
# Bounded byte streams (`nxb-stream`)

A `BoundedByteStream` puts limits around a byte stream backend: how many bytes may
be read and written in all and in one operation, how long operations may take, and
how many there may be. It is opened on the receipt of a completed execution, and
every operation leaves a receipt and an audit record.

`read` and `write` are mirrored in the source. What they share is written once
here, over the direction: `ensureOperation` (the size and the side), `refusal` (what stops an
operation before the backend is asked), `finishWithoutBackend` and `settle` (what
is made of the backend's answer). The backend is a parameter; `Recording` wraps one
so that the calls it received are kept.
-/

namespace BoundSeal.Stream

open Rust Lib Transport Execution

/-! ## Limits, control, states -/

def maxStreamDirectionBytes : ℕ := 64 * 1024 * 1024

def maxStreamOperationBytes : ℕ := 4 * 1024 * 1024

def maxStreamDeadlineMilliseconds : ℕ := 120000

def maxStreamOperations : ℕ := 100000

inductive StreamOpenError where
  | invalidLimits (reason : String)
  | invalidExecutorAudit (error : ChainError)
  | missingExecutorAuditRecord
  | executionNotCompleted
  | bindingMismatch (field : String)
  | invalidExecutorAuditAnchor
  deriving DecidableEq, Repr

structure StreamLimits where
  maximumReadBytes : ℕ
  maximumWriteBytes : ℕ
  maximumOperationBytes : ℕ
  readDeadlineMilliseconds : ℕ
  writeDeadlineMilliseconds : ℕ
  totalDeadlineMilliseconds : ℕ
  maximumOperations : ℕ
  deriving DecidableEq, Repr

namespace StreamLimits

def conservativeDefault : StreamLimits where
  maximumReadBytes := 2 * 1024 * 1024
  maximumWriteBytes := 256 * 1024
  maximumOperationBytes := 64 * 1024
  readDeadlineMilliseconds := 5000
  writeDeadlineMilliseconds := 5000
  totalDeadlineMilliseconds := 30000
  maximumOperations := 4096

/-- `StreamLimits::validate`. -/
def validate (self : StreamLimits) : Except StreamOpenError StreamLimits := do
  failIf (self.maximumReadBytes = 0 ∨ self.maximumReadBytes > maxStreamDirectionBytes)
    (.invalidLimits "read budget is outside the supported range")
  failIf (self.maximumWriteBytes = 0 ∨ self.maximumWriteBytes > maxStreamDirectionBytes)
    (.invalidLimits "write budget is outside the supported range")
  failIf (self.maximumOperationBytes = 0 ∨ self.maximumOperationBytes > maxStreamOperationBytes ∨
      self.maximumOperationBytes > max self.maximumReadBytes self.maximumWriteBytes)
    (.invalidLimits "operation byte budget is outside the supported range")
  failIf (self.readDeadlineMilliseconds = 0 ∨ self.readDeadlineMilliseconds > maxStreamDeadlineMilliseconds)
    (.invalidLimits "read deadline is outside the supported range")
  failIf (self.writeDeadlineMilliseconds = 0 ∨ self.writeDeadlineMilliseconds > maxStreamDeadlineMilliseconds)
    (.invalidLimits "write deadline is outside the supported range")
  failIf (self.totalDeadlineMilliseconds < max self.readDeadlineMilliseconds self.writeDeadlineMilliseconds ∨
      self.totalDeadlineMilliseconds > maxStreamDeadlineMilliseconds)
    (.invalidLimits "total deadline must cover operation deadlines and remain bounded")
  failIf (self.maximumOperations = 0 ∨ self.maximumOperations > maxStreamOperations)
    (.invalidLimits "operation count is outside the supported range")
  pure self

end StreamLimits

structure StreamControl where
  cancelRequested : Bool := false
  emergencyStopRequested : Bool := false
  deriving DecidableEq, Repr

inductive StreamDirection where
  | read
  | write
  deriving DecidableEq, Repr

def StreamDirection.code : StreamDirection → String
  | .read => "read"
  | .write => "write"

inductive StreamState where
  | opened
  | readClosed
  | writeClosed
  | closed
  | cancelled
  | emergencyStopped
  | timedOut
  | budgetExceeded
  | reset
  | truncated
  | backendFailed
  deriving DecidableEq, Repr

namespace StreamState

def code : StreamState → String
  | .opened => "open"
  | .readClosed => "read_closed"
  | .writeClosed => "write_closed"
  | .closed => "closed"
  | .cancelled => "cancelled"
  | .emergencyStopped => "emergency_stopped"
  | .timedOut => "timed_out"
  | .budgetExceeded => "budget_exceeded"
  | .reset => "reset"
  | .truncated => "truncated"
  | .backendFailed => "backend_failed"

def isTerminal : StreamState → Bool
  | .opened | .readClosed | .writeClosed => false
  | _ => true

end StreamState

inductive StreamOperationOutcome where
  | opened
  | data
  | written
  | partialWrite
  | backpressure
  | eof
  | closed
  | cancelled
  | emergencyStopped
  | readTimeout
  | writeTimeout
  | totalTimeout
  | readBudgetExceeded
  | writeBudgetExceeded
  | operationBudgetExceeded
  | reset
  | truncated
  | backendFailure (backendCode : String)
  deriving DecidableEq, Repr

namespace StreamOperationOutcome

def code : StreamOperationOutcome → String
  | .opened => "opened"
  | .data => "data"
  | .written => "written"
  | .partialWrite => "partial_write"
  | .backpressure => "backpressure"
  | .eof => "eof"
  | .closed => "closed"
  | .cancelled => "cancelled"
  | .emergencyStopped => "emergency_stopped"
  | .readTimeout => "read_timeout"
  | .writeTimeout => "write_timeout"
  | .totalTimeout => "total_timeout"
  | .readBudgetExceeded => "read_budget_exceeded"
  | .writeBudgetExceeded => "write_budget_exceeded"
  | .operationBudgetExceeded => "operation_budget_exceeded"
  | .reset => "reset"
  | .truncated => "truncated"
  | .backendFailure _ => "backend_failure"

def details : StreamOperationOutcome → BTreeMap String String
  | .backendFailure backendCode => textMap [("backend_code", backendCode)]
  | _ => ∅

end StreamOperationOutcome

namespace StreamDirection

def deadline (direction : StreamDirection) (limits : StreamLimits) : ℕ :=
  match direction with
  | .read => limits.readDeadlineMilliseconds
  | .write => limits.writeDeadlineMilliseconds

def budget (direction : StreamDirection) (limits : StreamLimits) : ℕ :=
  match direction with
  | .read => limits.maximumReadBytes
  | .write => limits.maximumWriteBytes

def timeout : StreamDirection → StreamOperationOutcome
  | .read => .readTimeout
  | .write => .writeTimeout

def budgetExceeded : StreamDirection → StreamOperationOutcome
  | .read => .readBudgetExceeded
  | .write => .writeBudgetExceeded

end StreamDirection

/-! ## The backend -/

inductive BackendReadStatus where
  | data (bytes : Bytes)
  | eof
  | backpressure
  | timeout
  | reset
  | truncated (bytes : Bytes)
  | failure (code : String)
  deriving DecidableEq, Repr

structure BackendReadReport where
  elapsedMilliseconds : ℕ
  status : BackendReadStatus
  deriving DecidableEq, Repr

inductive BackendWriteStatus where
  | written (accepted : ℕ)
  | backpressure
  | timeout
  | reset
  | closed
  | failure (code : String)
  deriving DecidableEq, Repr

structure BackendWriteReport where
  elapsedMilliseconds : ℕ
  status : BackendWriteStatus
  deriving DecidableEq, Repr

/-- The trait `ByteStreamBackend`. -/
class ByteStreamBackend (B : Type) where
  read : B → (maximumBytes deadlineMilliseconds : ℕ) → BackendReadReport × B
  write : B → (bytes : Bytes) → (deadlineMilliseconds : ℕ) → BackendWriteReport × B
  close : B → B

inductive BackendCall where
  | read (maximumBytes deadlineMilliseconds : ℕ)
  | write (bytes : Bytes) (deadlineMilliseconds : ℕ)
  | close
  deriving DecidableEq, Repr

/-- A backend that keeps the calls it received. -/
structure Recording (B : Type) where
  inner : B
  calls : List BackendCall

instance {B : Type} [ByteStreamBackend B] : ByteStreamBackend (Recording B) where
  read self maximumBytes deadline :=
    let (report, inner) := ByteStreamBackend.read self.inner maximumBytes deadline
    (report, ⟨inner, self.calls ++ [.read maximumBytes deadline]⟩)
  write self bytes deadline :=
    let (report, inner) := ByteStreamBackend.write self.inner bytes deadline
    (report, ⟨inner, self.calls ++ [.write bytes deadline]⟩)
  close self := ⟨ByteStreamBackend.close self.inner, self.calls ++ [.close]⟩

/-! ## What a report means (`stream/outcome.rs`) -/

def closeReadSide : StreamState → StreamState
  | .opened => .readClosed
  | .writeClosed => .closed
  | other => other

def closeWriteSide : StreamState → StreamState
  | .opened => .writeClosed
  | .readClosed => .closed
  | other => other

def backendReadOverflow (code : String) : Bytes × StreamOperationOutcome × StreamState :=
  ([], .backendFailure code, .backendFailed)

/-- `classify_read`. -/
def classifyRead (status : BackendReadStatus) (maximumBytes : ℕ) (state : StreamState) :
    Bytes × StreamOperationOutcome × StreamState :=
  match status with
  | .data bytes =>
    if bytes.length ≤ maximumBytes then (bytes, .data, state) else backendReadOverflow "backend_read_overflow"
  | .eof => ([], .eof, closeReadSide state)
  | .backpressure => ([], .backpressure, state)
  | .timeout => ([], .readTimeout, .timedOut)
  | .reset => ([], .reset, .reset)
  | .truncated bytes =>
    if bytes.length ≤ maximumBytes then (bytes, .truncated, .truncated)
    else backendReadOverflow "backend_truncated_read_overflow"
  | .failure code => ([], .backendFailure (sanitizeBackendCode code), .backendFailed)

/-- `classify_write`. -/
def classifyWrite (status : BackendWriteStatus) (requested : ℕ) (state : StreamState) :
    ℕ × StreamOperationOutcome × StreamState :=
  match status with
  | .written accepted =>
    if accepted ≤ requested then (accepted, if accepted = requested then .written else .partialWrite, state)
    else (0, .backendFailure "backend_write_overflow", .backendFailed)
  | .backpressure => (0, .backpressure, state)
  | .timeout => (0, .writeTimeout, .timedOut)
  | .reset => (0, .reset, .reset)
  | .closed => (0, .closed, closeWriteSide state)
  | .failure code => (0, .backendFailure (sanitizeBackendCode code), .backendFailed)

/-- `control_outcome`. -/
def controlOutcome (control : StreamControl) : Option StreamOperationOutcome :=
  if control.emergencyStopRequested then some .emergencyStopped
  else if control.cancelRequested then some .cancelled
  else none

/-- `terminal_state`. -/
def terminalState (outcome : StreamOperationOutcome) (current : StreamState) : StreamState :=
  match outcome with
  | .cancelled => .cancelled
  | .emergencyStopped => .emergencyStopped
  | .readTimeout | .writeTimeout | .totalTimeout => .timedOut
  | .readBudgetExceeded | .writeBudgetExceeded | .operationBudgetExceeded => .budgetExceeded
  | .reset => .reset
  | .truncated => .truncated
  | .backendFailure _ => .backendFailed
  | .eof => closeReadSide current
  | .closed => closeWriteSide current
  | _ => current

/-! ## Grants, receipts, audit -/

/-- `StreamGrant`. -/
structure StreamGrant where
  streamId : String
  executionId : String
  executorId : String
  ticketId : String
  decisionId : String
  dnsContextId : String
  bindingHash : String
  endpointFingerprint : String
  executorAuditAnchor : String
  remoteIp : String
  port : ℕ
  scheme : String
  sni : Option String
  httpHost : String
  redirectDepth : ℕ
  deriving DecidableEq, Repr

/-- `StreamOperationReceipt`. -/
structure StreamOperationReceipt where
  operationId : String
  streamId : String
  direction : Option StreamDirection
  outcome : StreamOperationOutcome
  requestedBytes : ℕ
  transferredBytes : ℕ
  payloadSha256 : Option String
  elapsedMilliseconds : ℕ
  cumulativeReadBytes : ℕ
  cumulativeWrittenBytes : ℕ
  stateBefore : StreamState
  stateAfter : StreamState

structure StreamReadResult where
  bytes : Bytes
  receipt : StreamOperationReceipt

structure StreamWriteResult where
  receipt : StreamOperationReceipt

/-- `StreamReceipt`. -/
structure StreamReceipt where
  streamId : String
  executionId : String
  executorId : String
  ticketId : String
  decisionId : String
  dnsContextId : String
  bindingHash : String
  endpointFingerprint : String
  executorAuditAnchor : String
  streamAuditTail : String
  state : StreamState
  readBytes : ℕ
  writtenBytes : ℕ
  elapsedMilliseconds : ℕ
  operationCount : ℕ

/-- `StreamAuditEvent`: the grant and the receipt, flattened. -/
structure StreamAuditEvent where
  grant : StreamGrant
  receipt : StreamOperationReceipt

def StreamAuditEvent.toJson (event : StreamAuditEvent) : Json :=
  let grant := event.grant
  let receipt := event.receipt
  .object [("operation_id", .text receipt.operationId), ("stream_id", .text grant.streamId),
    ("execution_id", .text grant.executionId), ("executor_id", .text grant.executorId),
    ("ticket_id", .text grant.ticketId), ("decision_id", .text grant.decisionId),
    ("dns_context_id", .text grant.dnsContextId), ("binding_hash", .text grant.bindingHash),
    ("endpoint_fingerprint", .text grant.endpointFingerprint),
    ("executor_audit_anchor", .text grant.executorAuditAnchor), ("remote_ip", .text grant.remoteIp),
    ("port", .number grant.port), ("scheme", .text grant.scheme), ("sni", .option .text grant.sni),
    ("http_host", .text grant.httpHost), ("redirect_depth", .number grant.redirectDepth),
    ("direction", .option (fun direction => .text direction.code) receipt.direction),
    ("outcome", .text receipt.outcome.code), ("outcome_details", textMapJson receipt.outcome.details),
    ("requested_bytes", .number receipt.requestedBytes), ("transferred_bytes", .number receipt.transferredBytes),
    ("payload_sha256", .option .text receipt.payloadSha256),
    ("elapsed_milliseconds", .number receipt.elapsedMilliseconds),
    ("cumulative_read_bytes", .number receipt.cumulativeReadBytes),
    ("cumulative_written_bytes", .number receipt.cumulativeWrittenBytes),
    ("state_before", .text receipt.stateBefore.code), ("state_after", .text receipt.stateAfter.code)]

/-- `StreamAuditChain`: a chain on the anchor of the executor's record. -/
structure StreamAuditChain extends HashChain StreamAuditEvent where
  genesisAnchor : String

namespace StreamAuditChain

def new (genesisAnchor : String) : Except StreamOpenError StreamAuditChain := do
  failIf (¬ isLowerHexSha256 genesisAnchor) .invalidExecutorAuditAnchor
  pure { HashChain.start genesisAnchor with genesisAnchor }

def append (self : StreamAuditChain) (event : StreamAuditEvent) : StreamAuditChain :=
  { self with toHashChain := HashChain.append (recordHash StreamAuditEvent.toJson) self.toHashChain event }

/-- `StreamAuditChain::verify`. -/
def verify (self : StreamAuditChain) : Except ChainError Unit :=
  HashChain.verify (recordHash StreamAuditEvent.toJson) self.genesisAnchor self.toHashChain

end StreamAuditChain

/-! ## Opening (`stream/binding.rs`) -/

/-- The comparisons of `validate_execution_binding`, with the field each is about. -/
def bindingChecks (permit : TransportPermit) (receipt : ExecutionReceipt)
    (event : ExecutorAuditEvent) : List (Bool × String) :=
  let expectedFingerprint := endpointFingerprint permit receipt.transportAuditAnchor
  [(receipt.ticketId == permit.ticketId && event.ticketId == permit.ticketId, "ticket_id"),
    (receipt.decisionId == permit.decisionId && event.decisionId == permit.decisionId, "decision_id"),
    (receipt.dnsContextId == permit.dnsContextId && event.dnsContextId == permit.dnsContextId, "dns_context_id"),
    (receipt.bindingHash == permit.bindingHash && event.bindingHash == permit.bindingHash, "binding_hash"),
    (receipt.endpointFingerprint == expectedFingerprint && event.endpointFingerprint == expectedFingerprint,
      "endpoint_fingerprint"),
    (event.executionId == receipt.executionId, "execution_id"),
    (event.executorId == receipt.executorId, "executor_id"),
    (event.transportAuditAnchor == receipt.transportAuditAnchor, "transport_audit_anchor"),
    (event.remoteIp == permit.remoteIp.toString, "remote_ip"),
    (event.port == permit.port, "port"),
    (event.scheme == permit.scheme.code, "scheme"),
    (event.sni == permit.sni, "sni"),
    (event.httpHost == permit.httpHost, "http_host"),
    (event.redirectDepth == permit.redirectDepth, "redirect_depth"),
    (event.outcome == ExecutionOutcome.completed.code, "outcome"),
    (event.readBytes == receipt.readBytes && event.writtenBytes == receipt.writtenBytes, "byte_counters")]

/-- `validate_execution_binding`. -/
def validateExecutionBinding (permit : TransportPermit) (receipt : ExecutionReceipt)
    (record : Record ExecutorAuditEvent) : Except StreamOpenError Unit := do
  failIf (receipt.outcome ≠ .completed ∨ receipt.stateHistory.getLast? ≠ some .completed) .executionNotCompleted
  (bindingChecks permit receipt record.event).forM fun (ok, field) => failIf (¬ ok) (.bindingMismatch field)

def streamDigest (permit : TransportPermit) (receipt : ExecutionReceipt) (executorAuditAnchor : String) : String :=
  toLowerHex (Sha256.digest (Json.object [("execution_id", .text receipt.executionId),
    ("ticket_id", .text permit.ticketId), ("binding_hash", .text permit.bindingHash),
    ("endpoint_fingerprint", .text receipt.endpointFingerprint),
    ("executor_audit_anchor", .text executorAuditAnchor)]).toVec)

/-- `stream_grant`. -/
def streamGrant (permit : TransportPermit) (receipt : ExecutionReceipt)
    (executorAuditAnchor : String) : StreamGrant where
  streamId := "stream-" ++ String.ofList ((streamDigest permit receipt executorAuditAnchor).toList.take 32)
  executionId := receipt.executionId
  executorId := receipt.executorId
  ticketId := permit.ticketId
  decisionId := permit.decisionId
  dnsContextId := permit.dnsContextId
  bindingHash := permit.bindingHash
  endpointFingerprint := receipt.endpointFingerprint
  executorAuditAnchor
  remoteIp := permit.remoteIp.toString
  port := permit.port
  scheme := permit.scheme.code
  sni := permit.sni
  httpHost := permit.httpHost
  redirectDepth := permit.redirectDepth

/-! ## The stream (`stream/engine.rs`) -/

inductive StreamError where
  | invalidOperationSize
  | readSideClosed
  | writeSideClosed
  | terminalState (state : StreamState)
  deriving DecidableEq, Repr

/-- `BoundedByteStream`. -/
structure BoundedByteStream (B : Type) where
  grant : StreamGrant
  limits : StreamLimits
  backend : B
  state : StreamState
  readBytes : ℕ
  writtenBytes : ℕ
  elapsedMilliseconds : ℕ
  operationCount : ℕ
  audit : StreamAuditChain

/-- `OperationMetrics`. -/
structure OperationMetrics where
  requestedBytes : ℕ := 0
  transferredBytes : ℕ := 0
  payloadSha256 : Option String := none
  elapsedMilliseconds : ℕ := 0

/-- `OperationMetrics::requested`. -/
def OperationMetrics.requested (requestedBytes elapsedMilliseconds : ℕ) : OperationMetrics :=
  { requestedBytes, elapsedMilliseconds }

/-- `payload_hash`. -/
def payloadHash (payload : Bytes) : String := toLowerHex (Sha256.digest payload)

namespace BoundedByteStream

section

variable {B : Type} (self : BoundedByteStream B)

/-- `record`: count the operation, write its receipt and its audit record. -/
def record (direction : Option StreamDirection) (outcome : StreamOperationOutcome) (metrics : OperationMetrics)
    (stateBefore stateAfter : StreamState) : StreamOperationReceipt × BoundedByteStream B :=
  let operationCount := saturatingAdd self.operationCount 1
  let receipt : StreamOperationReceipt :=
    { operationId := s!"{self.grant.streamId}-operation-{zeroPadded 20 operationCount}"
      streamId := self.grant.streamId
      direction
      outcome
      requestedBytes := metrics.requestedBytes
      transferredBytes := metrics.transferredBytes
      payloadSha256 := metrics.payloadSha256
      elapsedMilliseconds := metrics.elapsedMilliseconds
      cumulativeReadBytes := self.readBytes
      cumulativeWrittenBytes := self.writtenBytes
      stateBefore
      stateAfter }
  (receipt, { self with operationCount, audit := self.audit.append ⟨self.grant, receipt⟩ })

/-- `BoundedByteStream::receipt`. -/
def receipt : StreamReceipt where
  streamId := self.grant.streamId
  executionId := self.grant.executionId
  executorId := self.grant.executorId
  ticketId := self.grant.ticketId
  decisionId := self.grant.decisionId
  dnsContextId := self.grant.dnsContextId
  bindingHash := self.grant.bindingHash
  endpointFingerprint := self.grant.endpointFingerprint
  executorAuditAnchor := self.grant.executorAuditAnchor
  streamAuditTail := self.audit.tailHash
  state := self.state
  readBytes := self.readBytes
  writtenBytes := self.writtenBytes
  elapsedMilliseconds := self.elapsedMilliseconds
  operationCount := self.operationCount

/-- `ensure_readable` and `ensure_writable`. -/
def ensureOpen : StreamDirection → Except StreamError Unit
  | .read =>
    match self.state with
    | .opened | .writeClosed => .ok ()
    | .readClosed | .closed => .error .readSideClosed
    | state => .error (.terminalState state)
  | .write =>
    match self.state with
    | .opened | .readClosed => .ok ()
    | .writeClosed | .closed => .error .writeSideClosed
    | state => .error (.terminalState state)

/-- `validate_operation_size`, then the side. -/
def ensureOperation (direction : StreamDirection) (requested : ℕ) : Except StreamError Unit := do
  failIf (requested = 0 ∨ requested > self.limits.maximumOperationBytes) .invalidOperationSize
  self.ensureOpen direction

def moved : StreamDirection → ℕ
  | .read => self.readBytes
  | .write => self.writtenBytes

/-- What to stop an operation with before the backend is asked. -/
def refusal (direction : StreamDirection) (requested : ℕ) (control : StreamControl) :
    Option StreamOperationOutcome :=
  match controlOutcome control with
  | some outcome => some outcome
  | none =>
    if self.operationCount ≥ self.limits.maximumOperations then some .operationBudgetExceeded
    else
      match direction with
      | .read => if requested > self.limits.maximumReadBytes - self.readBytes then some .readBudgetExceeded else none
      | .write =>
        if requested > self.limits.maximumWriteBytes - self.writtenBytes then some .writeBudgetExceeded else none

/-- `finish_read_without_backend` and `finish_write_without_backend`. -/
def finishWithoutBackend (direction : StreamDirection) (requested : ℕ)
    (outcome : StreamOperationOutcome) : StreamOperationReceipt × BoundedByteStream B :=
  let before := self.state
  let self := { self with state := terminalState outcome self.state }
  self.record (some direction) outcome (.requested requested 0) before self.state

def credit (direction : StreamDirection) (transferred : ℕ) : BoundedByteStream B :=
  match direction with
  | .read => { self with readBytes := saturatingAdd self.readBytes transferred }
  | .write => { self with writtenBytes := saturatingAdd self.writtenBytes transferred }

/-- What is made of the backend's answer: too late for the operation, too late for
the stream, over the budget, or the classified outcome. The flag says that the
bytes count. -/
def settle (direction : StreamDirection) (requested elapsed transferred : ℕ)
    (payloadSha256 : Option String) (outcome : StreamOperationOutcome) (nextState : StreamState) :
    Bool × StreamOperationReceipt × BoundedByteStream B :=
  let before := self.state
  let totalAfter := saturatingAdd self.elapsedMilliseconds elapsed
  let self := { self with elapsedMilliseconds := totalAfter }
  if elapsed > direction.deadline self.limits then
    let self := { self with state := .timedOut }
    (false, self.record (some direction) direction.timeout (.requested requested elapsed)
      before self.state)
  else if totalAfter > self.limits.totalDeadlineMilliseconds then
    let self := { self with state := .timedOut }
    (false, self.record (some direction) .totalTimeout (.requested requested elapsed) before self.state)
  else if saturatingAdd (self.moved direction) transferred > direction.budget self.limits then
    let self := { self with state := .budgetExceeded }
    (false, self.record (some direction) direction.budgetExceeded (.requested requested elapsed)
      before self.state)
  else
    let self := { self.credit direction transferred with state := nextState }
    (true, self.record (some direction) outcome
      { requestedBytes := requested, transferredBytes := transferred, payloadSha256, elapsedMilliseconds := elapsed }
      before self.state)

end

variable {B : Type}

/-- `BoundedByteStream::open`. -/
def «open» (permit : TransportPermit) (executionReceipt : ExecutionReceipt) (executorAudit : ExecutorAuditChain)
    (limits : StreamLimits) (backend : B) : Except StreamOpenError (BoundedByteStream B) := do
  let limits ← limits.validate
  executorAudit.verify.mapError .invalidExecutorAudit
  let executorRecord ← okOr
    (executorAudit.records.find? fun record =>
    record.event.executionId == executionReceipt.executionId) .missingExecutorAuditRecord
  validateExecutionBinding permit executionReceipt executorRecord
  let audit ← StreamAuditChain.new executorRecord.recordHash
  let stream : BoundedByteStream B :=
    { grant := streamGrant permit executionReceipt executorRecord.recordHash
      limits
      backend
      state := .opened
      readBytes := 0
      writtenBytes := 0
      elapsedMilliseconds := 0
      operationCount := 0
      audit }
  pure (stream.record none .opened {} .opened .opened).2

variable [ByteStreamBackend B] (self : BoundedByteStream B)

/-- `BoundedByteStream::read`. -/
def read (maximumBytes : ℕ) (control : StreamControl) : Except StreamError StreamReadResult × BoundedByteStream B :=
  match self.ensureOperation .read maximumBytes with
  | .error e => (.error e, self)
  | .ok () =>
    match self.refusal .read maximumBytes control with
    | some outcome =>
      let (receipt, self) := self.finishWithoutBackend .read maximumBytes outcome
      (.ok ⟨[], receipt⟩, self)
    | none =>
      let (report, backend) :=
        ByteStreamBackend.read self.backend maximumBytes self.limits.readDeadlineMilliseconds
      let self := { self with backend }
      let (bytes, outcome, nextState) := classifyRead report.status maximumBytes self.state
      let payloadSha256 := if bytes.isEmpty then none else some (payloadHash bytes)
      let (kept, receipt, self) := self.settle .read maximumBytes report.elapsedMilliseconds bytes.length
        payloadSha256 outcome nextState
      (.ok ⟨if kept then bytes else [], receipt⟩, self)

/-- `BoundedByteStream::write`. -/
def write (bytes : Bytes) (control : StreamControl) : Except StreamError StreamWriteResult × BoundedByteStream B :=
  let requested := bytes.length
  match self.ensureOperation .write requested with
  | .error e => (.error e, self)
  | .ok () =>
    match self.refusal .write requested control with
    | some outcome =>
      let (receipt, self) := self.finishWithoutBackend .write requested outcome
      (.ok ⟨receipt⟩, self)
    | none =>
      let (report, backend) := ByteStreamBackend.write self.backend bytes self.limits.writeDeadlineMilliseconds
      let self := { self with backend }
      let (accepted, outcome, nextState) := classifyWrite report.status requested self.state
      let payloadSha256 := if accepted > 0 then some (payloadHash (bytes.take accepted)) else none
      let (_, receipt, self) := self.settle .write requested report.elapsedMilliseconds accepted payloadSha256
        outcome nextState
      (.ok ⟨receipt⟩, self)

/-- `BoundedByteStream::close`. -/
def close : Except StreamError StreamOperationReceipt × BoundedByteStream B :=
  if self.state.isTerminal then (.error (.terminalState self.state), self)
  else
    let before := self.state
    let self := { self with backend := ByteStreamBackend.close self.backend, state := .closed }
    let (receipt, self) := self.record none .closed {} before self.state
    (.ok receipt, self)

end BoundedByteStream

end BoundSeal.Stream

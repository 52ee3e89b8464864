import BoundSeal.Lib.HashChain
import BoundSeal.Transport.Tickets

/-!
# The permit executor (`nxb-executor`)

A `PermitExecutor` takes the permit of a used ticket to a backend that opens the
connection. It checks the form of the permit and the two stop flags first, calls
the backend at most once, judges its report against the limits and records the
receipt in an audit chain.

The backend is a parameter: any type with the operation of the trait.
-/

namespace BoundSeal.Execution

open Rust Lib Transport

/-! ## Limits and outcomes -/

def maxConnectTimeoutMilliseconds : ℕ := 30000

def maxTotalTimeoutMilliseconds : ℕ := 120000

def maxDirectionBytes : ℕ := 64 * 1024 * 1024

/-- `EXECUTOR_AUDIT_GENESIS_HASH`. -/
def executorAuditGenesisHash : String := "0000000000000000000000000000000000000000000000000000000000000000"

inductive ExecutorError where
  | invalidExecutorId
  | invalidLimits (reason : String)
  | invalidTransportAuditAnchor
  deriving DecidableEq, Repr

structure ExecutorConfig where
  executorId : String

structure ExecutionLimits where
  connectTimeoutMilliseconds : ℕ
  totalTimeoutMilliseconds : ℕ
  maximumReadBytes : ℕ
  maximumWriteBytes : ℕ
  deriving DecidableEq, Repr

namespace ExecutionLimits

def conservativeDefault : ExecutionLimits where
  connectTimeoutMilliseconds := 5000
  totalTimeoutMilliseconds := 15000
  maximumReadBytes := 2 * 1024 * 1024
  maximumWriteBytes := 256 * 1024

/-- `ExecutionLimits::validate`. -/
def validate (self : ExecutionLimits) : Except ExecutorError ExecutionLimits := do
  failIf (self.connectTimeoutMilliseconds = 0 ∨ self.connectTimeoutMilliseconds > maxConnectTimeoutMilliseconds)
    (.invalidLimits "connect timeout is outside the supported range")
  failIf (self.totalTimeoutMilliseconds < self.connectTimeoutMilliseconds ∨
      self.totalTimeoutMilliseconds > maxTotalTimeoutMilliseconds)
    (.invalidLimits "total timeout must cover connect timeout and remain bounded")
  failIf (self.maximumReadBytes = 0 ∨ self.maximumReadBytes > maxDirectionBytes)
    (.invalidLimits "read byte budget is outside the supported range")
  failIf (self.maximumWriteBytes = 0 ∨ self.maximumWriteBytes > maxDirectionBytes)
    (.invalidLimits "write byte budget is outside the supported range")
  pure self

end ExecutionLimits

structure ExecutionControl where
  cancelRequested : Bool := false
  emergencyStopRequested : Bool := false
  deriving DecidableEq, Repr

inductive ExecutionState where
  | prepared
  | connecting
  | connected
  | completed
  | cancelled
  | emergencyStopped
  | timedOut
  | budgetRejected
  | backendFailed
  | permitRejected
  deriving DecidableEq, Repr

def ExecutionState.code : ExecutionState → String
  | .prepared => "prepared"
  | .connecting => "connecting"
  | .connected => "connected"
  | .completed => "completed"
  | .cancelled => "cancelled"
  | .emergencyStopped => "emergency_stopped"
  | .timedOut => "timed_out"
  | .budgetRejected => "budget_rejected"
  | .backendFailed => "backend_failed"
  | .permitRejected => "permit_rejected"

inductive ExecutionOutcome where
  | completed
  | cancelled
  | emergencyStopped
  | connectTimeout
  | totalTimeout
  | readBudgetExceeded
  | writeBudgetExceeded
  | backendFailure (backendCode : String)
  | permitIntegrityRejected (reason : String)
  deriving DecidableEq, Repr

namespace ExecutionOutcome

def code : ExecutionOutcome → String
  | .completed => "completed"
  | .cancelled => "cancelled"
  | .emergencyStopped => "emergency_stopped"
  | .connectTimeout => "connect_timeout"
  | .totalTimeout => "total_timeout"
  | .readBudgetExceeded => "read_budget_exceeded"
  | .writeBudgetExceeded => "write_budget_exceeded"
  | .backendFailure _ => "backend_failure"
  | .permitIntegrityRejected _ => "permit_integrity_rejected"

def terminalState : ExecutionOutcome → ExecutionState
  | .completed => .completed
  | .cancelled => .cancelled
  | .emergencyStopped => .emergencyStopped
  | .connectTimeout | .totalTimeout => .timedOut
  | .readBudgetExceeded | .writeBudgetExceeded => .budgetRejected
  | .backendFailure _ => .backendFailed
  | .permitIntegrityRejected _ => .permitRejected

def details : ExecutionOutcome → BTreeMap String String
  | .backendFailure backendCode => textMap [("backend_code", backendCode)]
  | .permitIntegrityRejected reason => textMap [("reason", reason)]
  | _ => ∅

end ExecutionOutcome

/-! ## The backend -/

structure BackendReport where
  connectedAfterMilliseconds : Option ℕ
  elapsedMilliseconds : ℕ
  readBytes : ℕ
  writtenBytes : ℕ
  failureCode : Option String
  deriving DecidableEq, Repr

structure PermitEndpoint where
  ticketId : String
  decisionId : String
  dnsContextId : String
  scheme : TransportScheme
  remoteIp : IpAddr
  port : ℕ
  sni : Option String
  httpHost : String
  redirectDepth : ℕ
  bindingHash : String
  deriving DecidableEq

/-- The trait `PermitBackend`. -/
class PermitBackend (B : Type) where
  execute : B → PermitEndpoint → ExecutionLimits → ExecutionControl → BackendReport × B

def emptyReport : BackendReport := ⟨none, 0, 0, 0, none⟩

def endpointFromPermit (permit : TransportPermit) : PermitEndpoint where
  ticketId := permit.ticketId
  decisionId := permit.decisionId
  dnsContextId := permit.dnsContextId
  scheme := permit.scheme
  remoteIp := permit.remoteIp
  port := permit.port
  sni := permit.sni
  httpHost := permit.httpHost
  redirectDepth := permit.redirectDepth
  bindingHash := permit.bindingHash

/-- `validate_permit`; the error is the reason of the rejection. -/
def validatePermit (permit : TransportPermit) : Except String Unit := do
  failIf (¬ isValidIdentifier permit.ticketId) "invalid_ticket_id"
  failIf (¬ isValidIdentifier permit.decisionId) "invalid_decision_id"
  failIf (¬ isValidIdentifier permit.dnsContextId) "invalid_dns_context_id"
  failIf (permit.port = 0) "zero_port"
  failIf (¬ isLowerHexSha256 permit.bindingHash) "invalid_binding_hash"
  failIf (trim permit.httpHost = "" ∨ containsChar '/' permit.httpHost ∨
    containsChar '\\' permit.httpHost ∨ containsChar '@' permit.httpHost) "invalid_http_host"
  match permit.scheme, permit.sni with
  | .http, some _ => .error "unexpected_http_sni"
  | .http, none => .ok ()
  | .https, some value => failIf (trim value = "") "missing_https_sni"
  | .https, none => .error "missing_https_sni"

/-- `sanitize_backend_code`. -/
def sanitizeBackendCode (value : String) : String :=
  let normalized := toAsciiLowercase (trim value)
  if isValidIdentifier normalized then normalized else "invalid_backend_code"

/-- `classify_report`. -/
def classifyReport (report : BackendReport) (limits : ExecutionLimits) : ExecutionOutcome :=
  match report.failureCode, report.connectedAfterMilliseconds with
  | some code, _ => .backendFailure (sanitizeBackendCode code)
  | none, none => .backendFailure "backend_did_not_connect"
  | none, some connectedAfter =>
    if connectedAfter > limits.connectTimeoutMilliseconds then .connectTimeout
    else if report.elapsedMilliseconds > limits.totalTimeoutMilliseconds then .totalTimeout
    else if report.readBytes > limits.maximumReadBytes then .readBudgetExceeded
    else if report.writtenBytes > limits.maximumWriteBytes then .writeBudgetExceeded
    else .completed

/-- `endpoint_fingerprint`. -/
def endpointFingerprint (permit : TransportPermit) (transportAuditAnchor : String) : String :=
  toLowerHex (Sha256.digest (Json.object [("ticket_id", .text permit.ticketId),
    ("decision_id", .text permit.decisionId), ("dns_context_id", .text permit.dnsContextId),
    ("scheme", .text permit.scheme.code), ("remote_ip", .text permit.remoteIp.toString),
    ("port", .number permit.port), ("sni", .option .text permit.sni), ("http_host", .text permit.httpHost),
    ("redirect_depth", .number permit.redirectDepth), ("binding_hash", .text permit.bindingHash),
    ("transport_audit_anchor", .text transportAuditAnchor)]).toVec)

/-! ## Receipts and the audit chain -/

/-- `ExecutionReceipt`. -/
structure ExecutionReceipt where
  executionId : String
  executorId : String
  ticketId : String
  decisionId : String
  dnsContextId : String
  transportAuditAnchor : String
  bindingHash : String
  endpointFingerprint : String
  outcome : ExecutionOutcome
  stateHistory : List ExecutionState
  connectedAfterMilliseconds : Option ℕ
  elapsedMilliseconds : ℕ
  readBytes : ℕ
  writtenBytes : ℕ

/-- `ExecutorAuditEvent`. -/
structure ExecutorAuditEvent where
  executionId : String
  executorId : String
  ticketId : String
  decisionId : String
  dnsContextId : String
  transportAuditAnchor : String
  bindingHash : String
  endpointFingerprint : String
  remoteIp : String
  port : ℕ
  scheme : String
  sni : Option String
  httpHost : String
  redirectDepth : ℕ
  outcome : String
  outcomeDetails : BTreeMap String String
  stateHistory : List String
  connectedAfterMilliseconds : Option ℕ
  elapsedMilliseconds : ℕ
  readBytes : ℕ
  writtenBytes : ℕ

def ExecutorAuditEvent.toJson (event : ExecutorAuditEvent) : Json :=
  .object [("execution_id", .text event.executionId), ("executor_id", .text event.executorId),
    ("ticket_id", .text event.ticketId), ("decision_id", .text event.decisionId),
    ("dns_context_id", .text event.dnsContextId), ("transport_audit_anchor", .text event.transportAuditAnchor),
    ("binding_hash", .text event.bindingHash), ("endpoint_fingerprint", .text event.endpointFingerprint),
    ("remote_ip", .text event.remoteIp), ("port", .number event.port), ("scheme", .text event.scheme),
    ("sni", .option .text event.sni), ("http_host", .text event.httpHost),
    ("redirect_depth", .number event.redirectDepth), ("outcome", .text event.outcome),
    ("outcome_details", textMapJson event.outcomeDetails), ("state_history", .texts event.stateHistory),
    ("connected_after_milliseconds", .option .number event.connectedAfterMilliseconds),
    ("elapsed_milliseconds", .number event.elapsedMilliseconds), ("read_bytes", .number event.readBytes),
    ("written_bytes", .number event.writtenBytes)]

abbrev ExecutorAuditChain := HashChain ExecutorAuditEvent

namespace ExecutorAuditChain

def new : ExecutorAuditChain := .start executorAuditGenesisHash

def append (chain : ExecutorAuditChain) (event : ExecutorAuditEvent) : ExecutorAuditChain :=
  HashChain.append (recordHash ExecutorAuditEvent.toJson) chain event

/-- `ExecutorAuditChain::verify`. -/
def verify (chain : ExecutorAuditChain) : Except ChainError Unit :=
  HashChain.verify (recordHash ExecutorAuditEvent.toJson) executorAuditGenesisHash chain

end ExecutorAuditChain

/-- The audit event of a receipt (`append_receipt`). -/
def receiptEvent (permit : TransportPermit) (receipt : ExecutionReceipt) : ExecutorAuditEvent where
  executionId := receipt.executionId
  executorId := receipt.executorId
  ticketId := receipt.ticketId
  decisionId := receipt.decisionId
  dnsContextId := receipt.dnsContextId
  transportAuditAnchor := receipt.transportAuditAnchor
  bindingHash := receipt.bindingHash
  endpointFingerprint := receipt.endpointFingerprint
  remoteIp := permit.remoteIp.toString
  port := permit.port
  scheme := permit.scheme.code
  sni := permit.sni
  httpHost := permit.httpHost
  redirectDepth := permit.redirectDepth
  outcome := receipt.outcome.code
  outcomeDetails := receipt.outcome.details
  stateHistory := receipt.stateHistory.map ExecutionState.code
  connectedAfterMilliseconds := receipt.connectedAfterMilliseconds
  elapsedMilliseconds := receipt.elapsedMilliseconds
  readBytes := receipt.readBytes
  writtenBytes := receipt.writtenBytes

/-! ## The executor -/

/-- `PermitExecutor`. -/
structure PermitExecutor (B : Type) where
  config : ExecutorConfig
  backend : B
  audit : ExecutorAuditChain
  nextExecutionId : ℕ

def executionIdText (n : ℕ) : String := s!"execution-{zeroPadded 20 n}"

namespace PermitExecutor

variable {B : Type}

/-- `PermitExecutor::new`. -/
def new (config : ExecutorConfig) (backend : B) : Except ExecutorError (PermitExecutor B) := do
  failIf (¬ isValidIdentifier config.executorId) .invalidExecutorId
  pure ⟨config, backend, .new, 1⟩

variable [PermitBackend B]

/-- What `execute` does with the backend: the states passed, the
report and the outcome. -/
def attempt (backend : B) (permit : TransportPermit) (limits : ExecutionLimits)
    (control : ExecutionControl) : (List ExecutionState × BackendReport × ExecutionOutcome) × B :=
  match validatePermit permit with
  | .error reason => (([.prepared], emptyReport, .permitIntegrityRejected reason), backend)
  | .ok () =>
    if control.emergencyStopRequested then (([.prepared], emptyReport, .emergencyStopped), backend)
    else if control.cancelRequested then (([.prepared], emptyReport, .cancelled), backend)
    else
      let (report, backend) := PermitBackend.execute backend (endpointFromPermit permit) limits control
      let states : List ExecutionState :=
        if report.connectedAfterMilliseconds.isSome then [.prepared, .connecting, .connected]
        else [.prepared, .connecting]
      ((states, report, classifyReport report limits), backend)

variable (self : PermitExecutor B)

/-- `PermitExecutor::execute`. -/
def execute (permit : TransportPermit) (transportAuditAnchor : String) (limits : ExecutionLimits)
    (control : ExecutionControl) : Except ExecutorError ExecutionReceipt × PermitExecutor B :=
  match limits.validate with
  | .error e => (.error e, self)
  | .ok limits =>
    if ¬ isLowerHexSha256 transportAuditAnchor then (.error .invalidTransportAuditAnchor, self)
    else
      let ((states, report, outcome), backend) := attempt self.backend permit limits control
      let receipt : ExecutionReceipt :=
        { executionId := executionIdText self.nextExecutionId
          executorId := self.config.executorId
          ticketId := permit.ticketId
          decisionId := permit.decisionId
          dnsContextId := permit.dnsContextId
          transportAuditAnchor
          bindingHash := permit.bindingHash
          endpointFingerprint := endpointFingerprint permit transportAuditAnchor
          outcome
          stateHistory := states ++ [outcome.terminalState]
          connectedAfterMilliseconds := report.connectedAfterMilliseconds
          elapsedMilliseconds := report.elapsedMilliseconds
          readBytes := report.readBytes
          writtenBytes := report.writtenBytes }
      (.ok receipt,
        { self with
          backend
          audit := self.audit.append (receiptEvent permit receipt)
          nextExecutionId := saturatingAdd self.nextExecutionId 1 })

/-! ## What an execution does -/

/-- What an execution that returns a receipt has done. -/
structure Executed (pre : PermitExecutor B) (permit : TransportPermit) (transportAuditAnchor : String)
    (receipt : ExecutionReceipt) (post : PermitExecutor B) : Prop where
  executionId : receipt.executionId = executionIdText pre.nextExecutionId
  ticketId : receipt.ticketId = permit.ticketId
  decisionId : receipt.decisionId = permit.decisionId
  dnsContextId : receipt.dnsContextId = permit.dnsContextId
  anchor : receipt.transportAuditAnchor = transportAuditAnchor
  bindingHash : receipt.bindingHash = permit.bindingHash
  fingerprint : receipt.endpointFingerprint = endpointFingerprint permit transportAuditAnchor
  finalState : receipt.stateHistory.getLast? = some receipt.outcome.terminalState
  audit : post.audit = pre.audit.append (receiptEvent permit receipt)

/-- **An execution is refused and changes nothing, or it is recorded.** -/
theorem execute_cases (permit : TransportPermit) (transportAuditAnchor : String)
    (limits : ExecutionLimits) (control : ExecutionControl) :
    (∃ e, self.execute permit transportAuditAnchor limits control = (.error e, self)) ∨
    ∃ receipt post, self.execute permit transportAuditAnchor limits control = (.ok receipt, post) ∧
      Executed self permit transportAuditAnchor receipt post := by
  cases hlimits : limits.validate with
  | error e => exact .inl ⟨e, by simp only [execute, hlimits]⟩
  | ok validated =>
    obtain rfl : limits = validated := by
      simp only [ExecutionLimits.validate, do_eq_ok] at hlimits
      exact hlimits.2.2.2.2
    by_cases hanchor : isLowerHexSha256 transportAuditAnchor = true
    · rcases hattempt : attempt self.backend permit limits control with ⟨⟨states, report, outcome⟩, backend⟩
      have hexecute := execute.eq_1 self permit transportAuditAnchor limits control
      rw [hlimits] at hexecute
      dsimp only at hexecute
      rw [hattempt, if_neg (not_not.mpr hanchor)] at hexecute
      exact .inr ⟨_, _, hexecute, ⟨rfl, rfl, rfl, rfl, rfl, rfl, rfl, List.getLast?_concat, rfl⟩⟩
    · exact .inl ⟨_, by simp only [execute, hlimits, hanchor]; rfl⟩

end PermitExecutor

end BoundSeal.Execution

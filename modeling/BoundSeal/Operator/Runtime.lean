import BoundSeal.Live.Request
import BoundSeal.Operator.Chain
import BoundSeal.Transport.Tickets

/-!
# The checkpoint-bound runtime

The runtime of `nxb-operator-runtime` executes the requests of a plan one by one
and keeps a journal of them beside the operator state. A request leaves three
records in the journal directory, each published under a name of its own:

1. *prepared*, before the executor is called;
2. *outcome*, with the execution receipt and the counters that result;
3. *commit*, after the operator state has the checkpoint with these counters.

`openRuntime` reads the whole journal. It writes the missing commit record of a
request whose checkpoint is there, and it denies continuation when a request is
left without one.

The calls are procedures over the state and journal directories and the memory
of the process, with one ghost: the list of the invocations of the executor. The
executor is a parameter of the call, any function from the request to a receipt
or an error.
-/

namespace BoundSeal.Operator

open Rust Lib Live Transport

/-! ## Requests -/

/-- `OPERATOR_RUNTIME_VERSION`. -/
def operatorRuntimeVersion : ℕ := 1

/-- `MAX_RUNTIME_OUTCOME_BYTES`. -/
def maxRuntimeOutcomeBytes : ℕ := 16 * 1024

/-- `RUNTIME_COMMIT_RESERVATION_BYTES`. -/
def runtimeCommitReservationBytes : ℕ := 4 * 1024

/-- `RUNTIME_LOCK_FILE`. -/
def runtimeLockFile : String := ".nxb-operator-runtime.lock"

/-- `RuntimeError`. An error of the operating system, of the JSON reader or of the
executor is carried without its text or as the text the executor gives; one of
the operator state as it is. -/
inductive RuntimeError where
  | invalidClock
  | clockRegression
  | journalDirectoryNotEmpty
  | runtimeLocked
  | runtimeBlocked
  | continuationDenied
  | pathDenied
  | depthDenied
  | requestIntervalDenied
  | requestBudgetExceeded
  | responseBodyBudgetExceeded
  | responseBudgetExceeded
  | workspaceBudgetExceeded
  | executionBindingMismatch
  | liveAttemptBindingMismatch
  | executionIndeterminate (error : String)
  | invalidExecutionReceipt
  | executionReceiptDigestMismatch
  | outcomeTooLarge
  | commitReservationExceeded
  | checkpointAfterExecution (error : OperatorStateError)
  | commitAfterCheckpoint (error : RuntimeError)
  | unexpectedJournalEntry
  | incompleteJournalPublication
  | journalRecordAlreadyExists
  | journalSequenceGap
  | duplicateJournalRecord
  | missingPreparedRecord
  | commitWithoutOutcome
  | invalidJournalRecord
  | journalDigestMismatch
  | nonCanonicalJournalRecord
  | stateJournalMismatch
  | teardownNotStarted
  | externalTeardown (error : String)
  | invalidSha256
  | serialization
  | io
  | state (error : OperatorStateError)
  | liveAdapter (error : RequestTargetError)
deriving DecidableEq

/-- `validate_sha256`. -/
def validateDigest (value : String) : Except RuntimeError Unit :=
  failIf (¬ isLowerHexSha256 value) .invalidSha256

/-- `RuntimeMethod`. -/
inductive RuntimeMethod where
  | get
  | head
deriving DecidableEq, Repr

namespace RuntimeMethod

/-- `RuntimeMethod::code`. -/
def code : RuntimeMethod → String
  | .get => "GET"
  | .head => "HEAD"

/-- `RuntimeMethod::passive`. -/
def passive : RuntimeMethod → PassiveMethod
  | .get => .get
  | .head => .head

/-- `RuntimeMethod::from`. -/
def ofPassive : PassiveMethod → RuntimeMethod
  | .get => .get
  | .head => .head

def name : RuntimeMethod → String
  | .get => "get"
  | .head => "head"

def ofName (s : String) : Option RuntimeMethod :=
  [get, head].find? fun method => method.name == s

theorem ofName_name (method : RuntimeMethod) : ofName method.name = some method := by
  cases method <;> decide

end RuntimeMethod

def asMethod (value : Json) : Option RuntimeMethod := value.asText.bind RuntimeMethod.ofName

theorem asMethod_text (method : RuntimeMethod) : asMethod (.text method.name) = some method := by
  simp [asMethod, Json.asText, RuntimeMethod.ofName_name]

/-- `RuntimeClock`. -/
structure RuntimeClock where
  epochSeconds : ℤ
  epochMilliseconds : ℕ
deriving DecidableEq

/-- `RuntimeClock::validate`. -/
def RuntimeClock.validate (clock : RuntimeClock) : Except RuntimeError Unit :=
  failIf (clock.epochSeconds ≤ 0 ∨ (clock.epochMilliseconds / 1000 : ℕ) ≠ clock.epochSeconds) .invalidClock

/-- `RuntimeRequestSpec`. -/
structure RuntimeRequestSpec where
  method : RuntimeMethod
  target : String
  depth : ℕ
deriving DecidableEq

/-- `path_matches_prefix`. -/
def pathMatchesPrefix (path start : String) : Bool :=
  start == "/" || path == start || (stripStart start path).any (startsWithChar '/')

namespace RuntimeRequestSpec

/-- `RuntimeRequestSpec::validate`. -/
def validate (spec : RuntimeRequestSpec) (plan : UnifiedOperatorPlan) : Except RuntimeError Unit := do
  (LivePassiveRequest.validate ⟨spec.method.passive, spec.target⟩).mapError .liveAdapter
  failIf (plan.binding.maximumDepth < spec.depth) .depthDenied
  failIf (¬ plan.binding.allowedPathPrefixes.toList.any (pathMatchesPrefix spec.target)) .pathDenied

/-- `RuntimeRequestSpec::target_sha256`. -/
def targetSha256 (spec : RuntimeRequestSpec) : String := hashText spec.target

end RuntimeRequestSpec

/-! ## Records -/

/-- `RuntimeExecutionReceipt`. -/
structure RuntimeExecutionReceipt where
  version : ℕ
  requestMethod : String
  requestTargetSha256 : String
  responseStatus : ℕ
  responseBodyBytes : ℕ
  liveReceiptSha256 : String
  injectionAuthorizationSha256 : String
  sessionAuditTail : String
  vaultAuditTail : String
  completedAtEpochSeconds : ℤ
  receiptSha256 : String
deriving DecidableEq

instance : Serde RuntimeExecutionReceipt where
  toJson receipt := .object [("version", .number receipt.version),
    ("request_method", .text receipt.requestMethod),
    ("request_target_sha256", .text receipt.requestTargetSha256),
    ("response_status", .number receipt.responseStatus),
    ("response_body_bytes", .number receipt.responseBodyBytes),
    ("live_receipt_sha256", .text receipt.liveReceiptSha256),
    ("injection_authorization_sha256", .text receipt.injectionAuthorizationSha256),
    ("session_audit_tail", .text receipt.sessionAuditTail),
    ("vault_audit_tail", .text receipt.vaultAuditTail),
    ("completed_at_epoch_seconds", .integer receipt.completedAtEpochSeconds),
    ("receipt_sha256", .text receipt.receiptSha256)]
  fromJson value := do
    let fields ← value.knownFields ["version", "request_method", "request_target_sha256", "response_status",
      "response_body_bytes", "live_receipt_sha256", "injection_authorization_sha256", "session_audit_tail",
      "vault_audit_tail", "completed_at_epoch_seconds", "receipt_sha256"]
    let version ← Json.field fields "version" Json.asNat
    let requestMethod ← Json.field fields "request_method" Json.asText
    let requestTargetSha256 ← Json.field fields "request_target_sha256" Json.asText
    let responseStatus ← Json.field fields "response_status" Json.asNat
    let responseBodyBytes ← Json.field fields "response_body_bytes" Json.asNat
    let liveReceiptSha256 ← Json.field fields "live_receipt_sha256" Json.asText
    let injectionAuthorizationSha256 ← Json.field fields "injection_authorization_sha256" Json.asText
    let sessionAuditTail ← Json.field fields "session_audit_tail" Json.asText
    let vaultAuditTail ← Json.field fields "vault_audit_tail" Json.asText
    let completedAtEpochSeconds ← Json.field fields "completed_at_epoch_seconds" Json.asInt
    let receiptSha256 ← Json.field fields "receipt_sha256" Json.asText
    some { version, requestMethod, requestTargetSha256, responseStatus, responseBodyBytes, liveReceiptSha256,
           injectionAuthorizationSha256, sessionAuditTail, vaultAuditTail, completedAtEpochSeconds, receiptSha256 }
  fromJson_toJson receipt := by
    simp [Json.knownFields_object, Json.field_self, Json.field_other, Json.asInt_normalize, Json.asNat, Json.asText]

namespace RuntimeExecutionReceipt

/-- `RuntimeExecutionReceipt::calculate_sha256`. -/
def calculateSha256 (receipt : RuntimeExecutionReceipt) : String :=
  hashSerializable { receipt with receiptSha256 := "" }

/-- `RuntimeExecutionReceipt::verify`. -/
def verify (receipt : RuntimeExecutionReceipt) : Except RuntimeError Unit := do
  failIf (receipt.version ≠ operatorRuntimeVersion ∨ ¬ (receipt.requestMethod = "GET" ∨
    receipt.requestMethod = "HEAD") ∨
    ¬ (100 ≤ receipt.responseStatus ∧ receipt.responseStatus ≤ 599) ∨
    receipt.completedAtEpochSeconds ≤ 0) .invalidExecutionReceipt
  [receipt.requestTargetSha256, receipt.liveReceiptSha256, receipt.injectionAuthorizationSha256,
    receipt.sessionAuditTail, receipt.vaultAuditTail, receipt.receiptSha256].forM validateDigest
  failIf (receipt.receiptSha256 ≠ receipt.calculateSha256) .executionReceiptDigestMismatch

end RuntimeExecutionReceipt

/-- `PreparedRequestRecord`. -/
structure PreparedRequestRecord where
  version : ℕ
  requestIndex : ℕ
  previousCheckpointSha256 : String
  method : RuntimeMethod
  requestTargetSha256 : String
  depth : ℕ
  preparedAtEpochSeconds : ℤ
  preparedAtEpochMilliseconds : ℕ
  recordSha256 : String
deriving DecidableEq

instance : Serde PreparedRequestRecord where
  toJson record := .object [("version", .number record.version),
    ("request_index", .number record.requestIndex),
    ("previous_checkpoint_sha256", .text record.previousCheckpointSha256),
    ("method", .text record.method.name),
    ("request_target_sha256", .text record.requestTargetSha256),
    ("depth", .number record.depth),
    ("prepared_at_epoch_seconds", .integer record.preparedAtEpochSeconds),
    ("prepared_at_epoch_milliseconds", .number record.preparedAtEpochMilliseconds),
    ("record_sha256", .text record.recordSha256)]
  fromJson value := do
    let fields ← value.knownFields ["version", "request_index", "previous_checkpoint_sha256", "method",
      "request_target_sha256", "depth", "prepared_at_epoch_seconds", "prepared_at_epoch_milliseconds",
      "record_sha256"]
    let version ← Json.field fields "version" Json.asNat
    let requestIndex ← Json.field fields "request_index" Json.asNat
    let previousCheckpointSha256 ← Json.field fields "previous_checkpoint_sha256" Json.asText
    let method ← Json.field fields "method" asMethod
    let requestTargetSha256 ← Json.field fields "request_target_sha256" Json.asText
    let depth ← Json.field fields "depth" Json.asNat
    let preparedAtEpochSeconds ← Json.field fields "prepared_at_epoch_seconds" Json.asInt
    let preparedAtEpochMilliseconds ← Json.field fields "prepared_at_epoch_milliseconds" Json.asNat
    let recordSha256 ← Json.field fields "record_sha256" Json.asText
    some { version, requestIndex, previousCheckpointSha256, method, requestTargetSha256, depth,
           preparedAtEpochSeconds, preparedAtEpochMilliseconds, recordSha256 }
  fromJson_toJson record := by
    simp [Json.knownFields_object, Json.field_self, Json.field_other, Json.asInt_normalize,
      Json.asNat, Json.asText, asMethod_text]

namespace PreparedRequestRecord

/-- `PreparedRequestRecord::calculate_sha256`. -/
def calculateSha256 (record : PreparedRequestRecord) : String :=
  hashSerializable { record with recordSha256 := "" }

/-- `PreparedRequestRecord::verify`. -/
def verify (record : PreparedRequestRecord) : Except RuntimeError Unit := do
  failIf (record.version ≠ operatorRuntimeVersion ∨ record.preparedAtEpochSeconds ≤ 0 ∨
    (record.preparedAtEpochMilliseconds / 1000 : ℕ) ≠ record.preparedAtEpochSeconds) .invalidJournalRecord
  validateDigest record.previousCheckpointSha256
  validateDigest record.requestTargetSha256
  validateDigest record.recordSha256
  failIf (record.recordSha256 ≠ record.calculateSha256) .journalDigestMismatch

/-- `PreparedRequestRecord::build`, without the digest. -/
def material (requestIndex : ℕ) (previous : OperatorCheckpoint) (spec : RuntimeRequestSpec)
    (clock : RuntimeClock) : PreparedRequestRecord where
  version := operatorRuntimeVersion
  requestIndex := requestIndex
  previousCheckpointSha256 := previous.checkpointSha256
  method := spec.method
  requestTargetSha256 := spec.targetSha256
  depth := spec.depth
  preparedAtEpochSeconds := clock.epochSeconds
  preparedAtEpochMilliseconds := clock.epochMilliseconds
  recordSha256 := ""

/-- `PreparedRequestRecord::build`. -/
def build (requestIndex : ℕ) (previous : OperatorCheckpoint) (spec : RuntimeRequestSpec)
    (clock : RuntimeClock) : Except RuntimeError PreparedRequestRecord := do
  let record := material requestIndex previous spec clock
  let record := { record with recordSha256 := record.calculateSha256 }
  record.verify
  pure record

end PreparedRequestRecord

/-- `RequestOutcomeRecord`. -/
structure RequestOutcomeRecord where
  version : ℕ
  requestIndex : ℕ
  preparedRecordSha256 : String
  execution : RuntimeExecutionReceipt
  resultingCounters : OperatorCounters
  completedAtEpochMilliseconds : ℕ
  recordSha256 : String
deriving DecidableEq

instance : Serde RequestOutcomeRecord where
  toJson record := .object [("version", .number record.version),
    ("request_index", .number record.requestIndex),
    ("prepared_record_sha256", .text record.preparedRecordSha256),
    ("execution", Serde.toJson record.execution),
    ("resulting_counters", Serde.toJson record.resultingCounters),
    ("completed_at_epoch_milliseconds", .number record.completedAtEpochMilliseconds),
    ("record_sha256", .text record.recordSha256)]
  fromJson value := do
    let fields ← value.knownFields ["version", "request_index", "prepared_record_sha256",
      "execution", "resulting_counters", "completed_at_epoch_milliseconds", "record_sha256"]
    let version ← Json.field fields "version" Json.asNat
    let requestIndex ← Json.field fields "request_index" Json.asNat
    let preparedRecordSha256 ← Json.field fields "prepared_record_sha256" Json.asText
    let execution ← Json.field fields "execution" Serde.fromJson
    let resultingCounters ← Json.field fields "resulting_counters" Serde.fromJson
    let completedAtEpochMilliseconds ← Json.field fields "completed_at_epoch_milliseconds" Json.asNat
    let recordSha256 ← Json.field fields "record_sha256" Json.asText
    some { version, requestIndex, preparedRecordSha256, execution, resultingCounters,
           completedAtEpochMilliseconds, recordSha256 }
  fromJson_toJson record := by
    simp [Json.knownFields_object, Json.field_self, Json.field_other, Json.asNat, Json.asText,
      Serde.fromJson_toJson]

namespace RequestOutcomeRecord

/-- `RequestOutcomeRecord::calculate_sha256`. -/
def calculateSha256 (record : RequestOutcomeRecord) : String :=
  hashSerializable { record with recordSha256 := "" }

/-- `RequestOutcomeRecord::verify`. -/
def verify (record : RequestOutcomeRecord) : Except RuntimeError Unit := do
  failIf (record.version ≠ operatorRuntimeVersion ∨
    (record.completedAtEpochMilliseconds / 1000 : ℕ) ≠ record.execution.completedAtEpochSeconds) .invalidJournalRecord
  validateDigest record.preparedRecordSha256
  validateDigest record.recordSha256
  record.execution.verify
  failIf (record.recordSha256 ≠ record.calculateSha256) .journalDigestMismatch

end RequestOutcomeRecord

/-- `RequestCommitRecord`. -/
structure RequestCommitRecord where
  version : ℕ
  requestIndex : ℕ
  outcomeRecordSha256 : String
  checkpointSequence : ℕ
  checkpointSha256 : String
  counters : OperatorCounters
  committedAtEpochSeconds : ℤ
  committedAtEpochMilliseconds : ℕ
  recordSha256 : String
deriving DecidableEq

instance : Serde RequestCommitRecord where
  toJson record := .object [("version", .number record.version),
    ("request_index", .number record.requestIndex),
    ("outcome_record_sha256", .text record.outcomeRecordSha256),
    ("checkpoint_sequence", .number record.checkpointSequence),
    ("checkpoint_sha256", .text record.checkpointSha256),
    ("counters", Serde.toJson record.counters),
    ("committed_at_epoch_seconds", .integer record.committedAtEpochSeconds),
    ("committed_at_epoch_milliseconds", .number record.committedAtEpochMilliseconds),
    ("record_sha256", .text record.recordSha256)]
  fromJson value := do
    let fields ← value.knownFields ["version", "request_index", "outcome_record_sha256", "checkpoint_sequence",
      "checkpoint_sha256", "counters", "committed_at_epoch_seconds", "committed_at_epoch_milliseconds",
      "record_sha256"]
    let version ← Json.field fields "version" Json.asNat
    let requestIndex ← Json.field fields "request_index" Json.asNat
    let outcomeRecordSha256 ← Json.field fields "outcome_record_sha256" Json.asText
    let checkpointSequence ← Json.field fields "checkpoint_sequence" Json.asNat
    let checkpointSha256 ← Json.field fields "checkpoint_sha256" Json.asText
    let counters ← Json.field fields "counters" Serde.fromJson
    let committedAtEpochSeconds ← Json.field fields "committed_at_epoch_seconds" Json.asInt
    let committedAtEpochMilliseconds ← Json.field fields "committed_at_epoch_milliseconds" Json.asNat
    let recordSha256 ← Json.field fields "record_sha256" Json.asText
    some { version, requestIndex, outcomeRecordSha256, checkpointSequence, checkpointSha256,
           counters, committedAtEpochSeconds, committedAtEpochMilliseconds, recordSha256 }
  fromJson_toJson record := by
    simp [Json.knownFields_object, Json.field_self, Json.field_other, Json.asInt_normalize,
      Json.asNat, Json.asText, Serde.fromJson_toJson]

namespace RequestCommitRecord

/-- `RequestCommitRecord::calculate_sha256`. -/
def calculateSha256 (record : RequestCommitRecord) : String :=
  hashSerializable { record with recordSha256 := "" }

/-- `RequestCommitRecord::verify`. -/
def verify (record : RequestCommitRecord) : Except RuntimeError Unit := do
  failIf (record.version ≠ operatorRuntimeVersion ∨ record.checkpointSequence ≠ record.requestIndex + 1 ∨
    record.counters.requestsCompleted ≠ record.requestIndex + 1 ∨ record.committedAtEpochSeconds ≤ 0 ∨
    (record.committedAtEpochMilliseconds / 1000 : ℕ) ≠ record.committedAtEpochSeconds) .invalidJournalRecord
  validateDigest record.outcomeRecordSha256
  validateDigest record.checkpointSha256
  validateDigest record.recordSha256
  failIf (record.recordSha256 ≠ record.calculateSha256) .journalDigestMismatch

/-- `RequestCommitRecord::build`, without the digest. -/
def material (outcome : RequestOutcomeRecord) (checkpoint : OperatorCheckpoint) : RequestCommitRecord where
  version := operatorRuntimeVersion
  requestIndex := outcome.requestIndex
  outcomeRecordSha256 := outcome.recordSha256
  checkpointSequence := checkpoint.sequence
  checkpointSha256 := checkpoint.checkpointSha256
  counters := checkpoint.counters
  committedAtEpochSeconds := outcome.execution.completedAtEpochSeconds
  committedAtEpochMilliseconds := outcome.completedAtEpochMilliseconds
  recordSha256 := ""

/-- `RequestCommitRecord::build`. -/
def build (outcome : RequestOutcomeRecord) (checkpoint : OperatorCheckpoint) :
    Except RuntimeError RequestCommitRecord := do
  let record := material outcome checkpoint
  let record := { record with recordSha256 := record.calculateSha256 }
  record.verify
  pure record

end RequestCommitRecord

/-! ## The journal -/

/-- `UnresolvedRequestPhase`. -/
inductive UnresolvedRequestPhase where
  | prepared
  | outcomePersisted
deriving DecidableEq, Repr

/-- `RuntimeCommittedRequest`. -/
structure RuntimeCommittedRequest where
  requestIndex : ℕ
  method : RuntimeMethod
  requestTargetSha256 : String
  depth : ℕ
  executionReceiptSha256 : String
  checkpointSequence : ℕ
  checkpointSha256 : String
deriving DecidableEq

/-- `RecordKind`. -/
inductive RecordKind where
  | prepared
  | outcome
  | commit
deriving DecidableEq, Repr

/-- `PREPARED_SUFFIX`, `OUTCOME_SUFFIX`, `COMMIT_SUFFIX`. -/
def RecordKind.ending : RecordKind → String
  | .prepared => "-prepared.json"
  | .outcome => "-outcome.json"
  | .commit => "-commit.json"

def recordFileName (kind : RecordKind) (index : ℕ) : String := numberedName "request-" kind.ending index

/-- `prepared_file_name`. -/
abbrev preparedFileName (index : ℕ) : String := recordFileName .prepared index

/-- `outcome_file_name`. -/
abbrev outcomeFileName (index : ℕ) : String := recordFileName .outcome index

/-- `commit_file_name`. -/
abbrev commitFileName (index : ℕ) : String := recordFileName .commit index

/-- `parse_record_file_name`. -/
def parseRecordFileName (name : String) : Option (ℕ × RecordKind) :=
  [RecordKind.prepared, .outcome, .commit].findSome? fun kind =>
    (parseNumbered "request-" kind.ending name).map (·, kind)

/-- `RecordPaths`: the names of the records of one request. -/
structure RecordPaths where
  prepared : Option String := none
  outcome : Option String := none
  commit : Option String := none

namespace RecordPaths

def slot (paths : RecordPaths) : RecordKind → Option String
  | .prepared => paths.prepared
  | .outcome => paths.outcome
  | .commit => paths.commit

def put (paths : RecordPaths) (name : String) : RecordKind → RecordPaths
  | .prepared => { paths with prepared := some name }
  | .outcome => { paths with outcome := some name }
  | .commit => { paths with commit := some name }

end RecordPaths

def Node.length : Node → ℕ
  | .file content => content.length
  | .other => 0

/-- A file of the journal other than the lock. -/
def collectRecord (found : ℕ × BTreeMap ℕ RecordPaths) (entry : String × Node) :
    Except RuntimeError (ℕ × BTreeMap ℕ RecordPaths) := do
  failIf (isTemporary entry.1) .incompleteJournalPublication
  let (index, kind) ← okOr (parseRecordFileName entry.1) .unexpectedJournalEntry
  let journalBytes ← okOr (checkedAdd found.1 (Node.length entry.2)) .workspaceBudgetExceeded
  let paths := (found.2[index]?).getD {}
  failIf (paths.slot kind).isSome .duplicateJournalRecord
  pure (journalBytes, found.2.insert index (paths.put entry.1 kind))

/-- One entry of the first loop of `scan_journal`. -/
def journalEntry (found : ℕ × BTreeMap ℕ RecordPaths) (entry : String × Node) :
    Except RuntimeError (ℕ × BTreeMap ℕ RecordPaths) := do
  failIf (entry.2 = .other) .unexpectedJournalEntry
  if entry.1 = runtimeLockFile then pure found else collectRecord found entry

/-- The first loop of `scan_journal`: the bytes of the records and their names. -/
def journalEntries (journal : Directory) : Except RuntimeError (ℕ × BTreeMap ℕ RecordPaths) :=
  journal.toList.foldlM journalEntry (0, ∅)

def RuntimeError.ofUnreadable : Unreadable → RuntimeError
  | .serialization => .serialization
  | .nonCanonical => .nonCanonicalJournalRecord

/-- `read_canonical`. -/
def readRecord {α : Type} [Serde α] (directory : Directory) (name : String) : Except RuntimeError α := do
  let content ← okOr (directory.read name) .io
  (readCanonical content).mapError .ofUnreadable

/-- `read_checkpoint`. -/
def readStateCheckpoint (stateDirectory : Directory) (sequence : ℕ) : Except RuntimeError OperatorCheckpoint :=
  readRecord stateDirectory (checkpointFileName sequence)

/-- What `scan_journal` finds about one request. -/
inductive RequestVerdict where
  | unresolved (phase : UnresolvedRequestPhase)
  | reconcile (outcome : RequestOutcomeRecord)
  | committed (epochMilliseconds : ℕ) (request : RuntimeCommittedRequest)

/-- The outcome record of a request, if there is one. -/
def readOutcome (journal : Directory) (index : ℕ) (prepared : PreparedRequestRecord) :
    Option String → Except RuntimeError (Option RequestOutcomeRecord)
  | none => pure none
  | some path => do
    let outcome : RequestOutcomeRecord ← readRecord journal path
    outcome.verify
    failIf (outcome.requestIndex ≠ index ∨ outcome.preparedRecordSha256 ≠ prepared.recordSha256)
      .stateJournalMismatch
    pure (some outcome)

/-- The commit record of a request, if there is one. -/
def readCommit (journal : Directory) : Option String → Except RuntimeError (Option RequestCommitRecord)
  | none => pure none
  | some path => do
    let commit : RequestCommitRecord ← readRecord journal path
    commit.verify
    pure (some commit)

/-- A request with an outcome and no commit: whether the state has its checkpoint. -/
def judgeOutcome (stateDirectory : Directory) (index : ℕ) (outcome : RequestOutcomeRecord) : RequestVerdict :=
  match readStateCheckpoint stateDirectory (index + 1) with
  | .ok checkpoint =>
    if checkpoint.counters = outcome.resultingCounters then .reconcile outcome
    else .unresolved .outcomePersisted
  | .error _ => .unresolved .outcomePersisted

def judgeCommit (stateDirectory : Directory) (index : ℕ) (prepared : PreparedRequestRecord)
    (outcome : RequestOutcomeRecord) (commit : RequestCommitRecord) : Except RuntimeError RequestVerdict := do
  failIf (commit.requestIndex ≠ index ∨ commit.outcomeRecordSha256 ≠ outcome.recordSha256 ∨
    commit.counters ≠ outcome.resultingCounters) .stateJournalMismatch
  let checkpoint ← readStateCheckpoint stateDirectory commit.checkpointSequence
  failIf (checkpoint.checkpointSha256 ≠ commit.checkpointSha256 ∨
    checkpoint.counters ≠ commit.counters) .stateJournalMismatch
  pure (.committed commit.committedAtEpochMilliseconds
    { requestIndex := index
      method := prepared.method
      requestTargetSha256 := prepared.requestTargetSha256
      depth := prepared.depth
      executionReceiptSha256 := outcome.execution.receiptSha256
      checkpointSequence := commit.checkpointSequence
      checkpointSha256 := commit.checkpointSha256 })

def judge (stateDirectory : Directory) (index : ℕ) (prepared : PreparedRequestRecord) :
    Option RequestOutcomeRecord → Option RequestCommitRecord → Except RuntimeError RequestVerdict
  | none, none => pure (.unresolved .prepared)
  | none, some _ => .error .commitWithoutOutcome
  | some outcome, none => pure (judgeOutcome stateDirectory index outcome)
  | some outcome, some commit => judgeCommit stateDirectory index prepared outcome commit

/-- The body of the second loop of `scan_journal`. -/
def scanRequest (journal stateDirectory : Directory) (index : ℕ) (paths : RecordPaths) :
    Except RuntimeError RequestVerdict := do
  let preparedPath ← okOr paths.prepared .missingPreparedRecord
  let prepared : PreparedRequestRecord ← readRecord journal preparedPath
  prepared.verify
  failIf (prepared.requestIndex ≠ index) .stateJournalMismatch
  let outcome ← readOutcome journal index prepared paths.outcome
  let commit ← readCommit journal paths.commit
  judge stateDirectory index prepared outcome commit

/-- The variables of the second loop of `scan_journal`. -/
structure ScanState where
  committedRequests : ℕ := 0
  lastCommitted : Option ℕ := none
  lastCommittedRequest : Option RuntimeCommittedRequest := none
  unresolved : Option (ℕ × UnresolvedRequestPhase) := none
  reconcile : Option RequestOutcomeRecord := none

namespace ScanState

/-- `incomplete_seen`. -/
def incompleteSeen (st : ScanState) : Bool := st.unresolved.isSome || st.reconcile.isSome

def record (st : ScanState) (index : ℕ) : RequestVerdict → ScanState
  | .unresolved phase => { st with unresolved := some (index, phase) }
  | .reconcile outcome => { st with reconcile := some outcome }
  | .committed epochMilliseconds request =>
    { st with
      committedRequests := st.committedRequests + 1
      lastCommitted := some epochMilliseconds
      lastCommittedRequest := some request }

end ScanState

/-- The second loop of `scan_journal`. -/
def scanLoop (journal stateDirectory : Directory) :
    ℕ → ScanState → List (ℕ × RecordPaths) → Except RuntimeError ScanState
  | _, st, [] => pure st
  | expected, st, (index, paths) :: records => do
    failIf st.incompleteSeen .stateJournalMismatch
    failIf (index ≠ expected) .journalSequenceGap
    let verdict ← scanRequest journal stateDirectory index paths
    scanLoop journal stateDirectory (expected + 1) (st.record index verdict) records

/-- `JournalScan`. -/
structure JournalScan where
  journalBytes : ℕ
  committedRequests : ℕ
  lastCommittedRequest : Option RuntimeCommittedRequest
  nextRequestIndex : ℕ
  lastCommittedEpochMilliseconds : Option ℕ
  unresolvedRequest : Option (ℕ × UnresolvedRequestPhase)
  reconcile : Option RequestOutcomeRecord

/-- `scan_journal`. -/
def scanJournal (journal stateDirectory : Directory) (state : RecoveredOperatorState) :
    Except RuntimeError JournalScan := do
  let (journalBytes, records) ← journalEntries journal
  let st ← scanLoop journal stateDirectory 0 {} records.toList
  failIf (st.reconcile.isNone ∧ state.latest.counters.requestsCompleted ≠ st.committedRequests) .stateJournalMismatch
  failIf (st.reconcile.isSome ∧ state.latest.counters.requestsCompleted ≠ st.committedRequests + 1)
    .stateJournalMismatch
  pure { journalBytes
         committedRequests := st.committedRequests
         lastCommittedRequest := st.lastCommittedRequest
         nextRequestIndex := st.committedRequests
         lastCommittedEpochMilliseconds := st.lastCommitted
         unresolvedRequest := st.unresolved
         reconcile := st.reconcile }

/-! ## The runtime -/

/-- `RuntimeRecovery`. -/
structure RuntimeRecovery where
  state : RecoveredOperatorState
  journalBytes : ℕ
  committedRequests : ℕ
  lastCommittedRequest : Option RuntimeCommittedRequest
  unresolvedRequest : Option (ℕ × UnresolvedRequestPhase)
  continuationAllowed : Bool

/-- What the runtime finds on disk: the disk of the operator state, the journal
directory, and whether a process holds the lock of the journal. -/
structure RuntimeDisk where
  state : StateDisk
  journal : Directory
  locked : Bool

/-- `CheckpointBoundRuntime`. -/
structure CheckpointBoundRuntime where
  plan : UnifiedOperatorPlan
  stateStore : OperatorStateStore
  nextRequestIndex : ℕ
  journalBytes : ℕ
  lastCommittedEpochMilliseconds : Option ℕ
  blocked : Bool

structure Invocation where
  index : ℕ
  spec : RuntimeRequestSpec
deriving DecidableEq

/-- The disk, the memory of the process and, as a ghost, the invocations of the executor. -/
structure RuntimeWorld where
  disk : RuntimeDisk
  runtime : CheckpointBoundRuntime
  invoked : List Invocation

abbrev RuntimeProc := Proc RuntimeError RuntimeWorld

/-- The executor of a request, given by the caller. -/
abbrev RuntimeExecutor := RuntimeRequestSpec → Except String RuntimeExecutionReceipt

/-- `publish_record`. -/
def publishRecord (processId : ℕ) (name : String) (content : Bytes) : Proc RuntimeError Directory Unit :=
  Directory.publish .io .journalRecordAlreadyExists (temporaryName name processId) name content

namespace RuntimeDisk

def onJournal {α : Type} (p : Proc RuntimeError Directory α) : Proc RuntimeError RuntimeDisk α :=
  .onPart RuntimeDisk.journal (fun journal disk => { disk with journal }) p

/-- A procedure on the disk of the operator state. -/
def onState {α : Type} (p : Proc OperatorStateError StateDisk α) : Proc OperatorStateError RuntimeDisk α :=
  .onPart RuntimeDisk.state (fun state disk => { disk with state }) p

/-- The lock file is opened, and created if it is not there. -/
def openLockFile : Proc RuntimeError RuntimeDisk Unit :=
  onJournal (.op fun journal =>
    match journal[runtimeLockFile]? with
    | none => (.ok (), journal.insert runtimeLockFile (.file []))
    | some (.file _) => (.ok (), journal)
    | some .other => (.error .io, journal))

/-- `File::try_lock`. -/
def tryLock : Proc RuntimeError RuntimeDisk Unit :=
  .op fun disk => if disk.locked then (.error .runtimeLocked, disk) else (.ok (), { disk with locked := true })

def lockText (processId : ℕ) (clock : RuntimeClock) : String :=
  "pid=" ++ toString processId ++ "\nepoch_seconds=" ++ toString clock.epochSeconds ++ "\n"

/-- `acquire_lock`. -/
def acquireLock (processId : ℕ) (clock : RuntimeClock) : Proc RuntimeError RuntimeDisk Unit := do
  openLockFile
  tryLock
  onJournal (.modify fun journal => journal.insert runtimeLockFile (.file []))
  onJournal (.modify fun journal => journal.insert runtimeLockFile (.file (bytes (lockText processId clock))))

/-- `RuntimeLock::drop`. -/
def unlock (disk : RuntimeDisk) : RuntimeDisk := { disk with locked := false }

/-- The rest of a function that has taken the lock: an error drops it. -/
def holdingLock {α : Type} (p : Proc RuntimeError RuntimeDisk α) : Proc RuntimeError RuntimeDisk α := do
  match ← .attempt p with
  | .ok value => pure value
  | .error e =>
    .modify unlock
    .fail e

end RuntimeDisk

namespace CheckpointBoundRuntime

/-- `CheckpointBoundRuntime::initialize`. -/
def initializeRuntime (plan : UnifiedOperatorPlan) (consumed : ConsumedUnifiedOperatorActivation) (processId : ℕ)
    (clock : RuntimeClock) : Proc RuntimeError RuntimeDisk (CheckpointBoundRuntime × RuntimeRecovery) := do
  .ofExcept clock.validate
  let journal ← .get RuntimeDisk.journal
  .ofExcept (failIf (journal.toList.any fun entry => entry.1 ≠ runtimeLockFile) .journalDirectoryNotEmpty)
  RuntimeDisk.acquireLock processId clock
  RuntimeDisk.holdingLock do
    let (stateStore, state) ← .mapError .state (RuntimeDisk.onState
      (OperatorStateStore.initializeStore plan consumed processId clock.epochSeconds))
    pure ({ plan, stateStore, nextRequestIndex := 0, journalBytes := 0,
            lastCommittedEpochMilliseconds := none, blocked := false },
          { state, continuationAllowed := state.continuationAllowed, journalBytes := 0, committedRequests := 0,
            lastCommittedRequest := none, unresolvedRequest := none })

/-- The checks of `open` on the commit record it is about to write. -/
def reconciliation (disk : RuntimeDisk) (outcome : RequestOutcomeRecord) : Except RuntimeError Bytes := do
  let checkpoint ← readStateCheckpoint disk.state.directory (saturatingAdd outcome.requestIndex 1)
  let commit ← RequestCommitRecord.build outcome checkpoint
  failIf (runtimeCommitReservationBytes < (canonicalBytes commit).length) .commitReservationExceeded
  pure (canonicalBytes commit)

/-- The scan of `open`: a request whose checkpoint is there gets its commit record. -/
def rollForward (processId : ℕ) (state : RecoveredOperatorState) (scan : JournalScan) :
    Proc RuntimeError RuntimeDisk JournalScan :=
  match scan.reconcile with
  | none => pure scan
  | some outcome => do
    let disk ← .get id
    let content ← .ofExcept (reconciliation disk outcome)
    RuntimeDisk.onJournal (publishRecord processId (commitFileName outcome.requestIndex) content)
    let disk ← .get id
    .ofExcept (scanJournal disk.journal disk.state.directory state)

/-- The workspace check of `open` and `recover`. -/
def checkWorkspace (plan : UnifiedOperatorPlan) (state : RecoveredOperatorState)
    (scan : JournalScan) : Except RuntimeError Unit := do
  let exactWorkspace ← okOr (checkedAdd state.stateFileBytes scan.journalBytes) .workspaceBudgetExceeded
  failIf (plan.maximumWorkspaceBytes < exactWorkspace) .workspaceBudgetExceeded

def recovery (state : RecoveredOperatorState) (scan : JournalScan) : RuntimeRecovery where
  state := state
  journalBytes := scan.journalBytes
  committedRequests := scan.committedRequests
  lastCommittedRequest := scan.lastCommittedRequest
  unresolvedRequest := scan.unresolvedRequest
  continuationAllowed := state.continuationAllowed && scan.unresolvedRequest.isNone

def ofScan (plan : UnifiedOperatorPlan) (stateStore : OperatorStateStore)
    (state : RecoveredOperatorState) (scan : JournalScan) : CheckpointBoundRuntime where
  plan := plan
  stateStore := stateStore
  nextRequestIndex := scan.nextRequestIndex
  journalBytes := scan.journalBytes
  lastCommittedEpochMilliseconds := scan.lastCommittedEpochMilliseconds
  blocked := !(recovery state scan).continuationAllowed && !state.latest.status.isTerminal

/-- `CheckpointBoundRuntime::open`. -/
def openRuntime (plan : UnifiedOperatorPlan) (activationCertificateSha256 : String) (processId : ℕ)
    (clock : RuntimeClock) : Proc RuntimeError RuntimeDisk (CheckpointBoundRuntime × RuntimeRecovery) := do
  .ofExcept clock.validate
  RuntimeDisk.acquireLock processId clock
  RuntimeDisk.holdingLock do
    let disk ← .get id
    let (stateStore, state) ← .ofExcept ((OperatorStateStore.openStore plan activationCertificateSha256 processId
      disk.state clock.epochSeconds).mapError .state)
    let scan ← .ofExcept (scanJournal disk.journal disk.state.directory state)
    let scan ← rollForward processId state scan
    .ofExcept (checkWorkspace plan state scan)
    pure (ofScan plan stateStore state scan, recovery state scan)

/-- `CheckpointBoundRuntime::recover`. -/
def recover (runtime : CheckpointBoundRuntime) (disk : RuntimeDisk) (clock : RuntimeClock) :
    Except RuntimeError RuntimeRecovery := do
  clock.validate
  let state ← (runtime.stateStore.recover disk.state clock.epochSeconds).mapError .state
  let scan ← scanJournal disk.journal disk.state.directory state
  checkWorkspace runtime.plan state scan
  pure (recovery state scan)

/-! ## Execution -/

/-- The interval check against the last committed request. -/
def checkInterval (runtime : CheckpointBoundRuntime) (clock : RuntimeClock) : Except RuntimeError Unit :=
  match runtime.lastCommittedEpochMilliseconds with
  | none => pure ()
  | some previous => do
    failIf (clock.epochMilliseconds < previous) .clockRegression
    failIf (clock.epochMilliseconds - previous < runtime.plan.binding.minimumRequestIntervalMilliseconds)
      .requestIntervalDenied

/-- The checks of `execute_with_reserved_workspace` before it writes: the state
recovered and the prepared record. -/
def prepareRequest (runtime : CheckpointBoundRuntime) (disk : RuntimeDisk)
    (spec : RuntimeRequestSpec) (clock : RuntimeClock) (externalReservedBytes : ℕ) :
    Except RuntimeError (RecoveredOperatorState × PreparedRequestRecord) := do
  clock.validate
  failIf runtime.blocked .runtimeBlocked
  spec.validate runtime.plan
  let recovered ← (runtime.stateStore.recover disk.state clock.epochSeconds).mapError .state
  failIf (¬ recovered.continuationAllowed ∨
    ¬ (recovered.latest.status = .ready ∨ recovered.latest.status = .running)) .continuationDenied
  failIf (recovered.latest.counters.requestsCompleted ≠ runtime.nextRequestIndex) .stateJournalMismatch
  runtime.checkInterval clock
  let prepared ← PreparedRequestRecord.build runtime.nextRequestIndex recovered.latest spec clock
  let prospective ← okOr (((((checkedAdd recovered.stateFileBytes runtime.journalBytes).bind
    (checkedAdd · (canonicalBytes prepared).length)).bind
    (checkedAdd · maxRuntimeOutcomeBytes)).bind
    (checkedAdd · runtimeCommitReservationBytes)).bind
    (checkedAdd · externalReservedBytes)) .workspaceBudgetExceeded
  failIf (runtime.plan.maximumWorkspaceBytes < prospective) .workspaceBudgetExceeded
  pure (recovered, prepared)

/-- An error after the executor was called, and whether it blocks the runtime. -/
structure Failure where
  error : RuntimeError
  blocks : Bool

def blocking (x : Except RuntimeError Unit) : Except Failure Unit := x.mapError (⟨·, true⟩)

def passing {α : Type} (x : Except RuntimeError α) : Except Failure α := x.mapError (⟨·, false⟩)

def outcomeRecord (runtime : CheckpointBoundRuntime) (prepared : PreparedRequestRecord)
    (execution : RuntimeExecutionReceipt) (clock : RuntimeClock) (counters : OperatorCounters) :
    RequestOutcomeRecord where
  version := operatorRuntimeVersion
  requestIndex := runtime.nextRequestIndex
  preparedRecordSha256 := prepared.recordSha256
  execution := execution
  resultingCounters := counters
  completedAtEpochMilliseconds := clock.epochMilliseconds
  recordSha256 := ""

/-- The same with its digest. -/
def sealedOutcome (record : RequestOutcomeRecord) : RequestOutcomeRecord :=
  { record with recordSha256 := record.calculateSha256 }

/-- The rounds of the loop that fixes the evidence bytes. The record counts its own
length, so a round may have to be repeated. -/
def outcomeRounds (journalBytes previousEvidence externalReservedBytes : ℕ) (build : ℕ →
    RequestOutcomeRecord) : ℕ → RequestOutcomeRecord → ℕ → Except Failure (RequestOutcomeRecord × ℕ)
  | 0, outcome, evidenceBytes => pure (outcome, evidenceBytes)
  | rounds + 1, _, evidenceBytes => do
    let outcome := build evidenceBytes
    blocking (failIf (maxRuntimeOutcomeBytes < (canonicalBytes outcome).length) .outcomeTooLarge)
    let exactEvidence ← passing (okOr (((checkedAdd journalBytes (canonicalBytes outcome).length).bind
      (checkedAdd · runtimeCommitReservationBytes)).bind
      (checkedAdd · externalReservedBytes)) .workspaceBudgetExceeded)
    let calculated := max previousEvidence exactEvidence
    if calculated = evidenceBytes then pure (outcome, evidenceBytes)
    else outcomeRounds journalBytes previousEvidence externalReservedBytes build rounds outcome calculated

/-- The outcome record of an execution: the checks and the loop between the call
of the executor and the publication of the record. -/
def settleOutcome (runtime : CheckpointBoundRuntime) (recovered : RecoveredOperatorState)
    (prepared : PreparedRequestRecord) (spec : RuntimeRequestSpec) (clock : RuntimeClock)
    (externalReservedBytes : ℕ) (execution : RuntimeExecutionReceipt) : Except Failure RequestOutcomeRecord := do
  blocking execution.verify
  blocking (failIf (execution.requestMethod ≠ spec.method.code ∨ execution.requestTargetSha256 ≠ spec.targetSha256)
    .executionBindingMismatch)
  blocking (failIf (runtime.plan.binding.maximumResponseBodyBytes < execution.responseBodyBytes)
    .responseBodyBudgetExceeded)
  let requestCount ← passing (okOr (checkedAdd recovered.latest.counters.requestsCompleted 1) .requestBudgetExceeded)
  let totalResponseBytes ← passing (okOr
    (checkedAdd recovered.latest.counters.totalResponseBytes execution.responseBodyBytes) .responseBudgetExceeded)
  blocking (failIf (runtime.plan.binding.maximumRequests < requestCount ∨
    runtime.plan.binding.maximumTotalResponseBytes < totalResponseBytes) .responseBudgetExceeded)
  let counters (evidenceBytes : ℕ) : OperatorCounters :=
    { requestsCompleted := requestCount
      totalResponseBytes
      lastResponseBodyBytes := execution.responseBodyBytes
      maximumDepthObserved := max recovered.latest.counters.maximumDepthObserved spec.depth
      evidenceBytes }
  let build (evidenceBytes : ℕ) :=
    sealedOutcome (runtime.outcomeRecord prepared execution clock (counters evidenceBytes))
  let (outcome, evidenceBytes) ← outcomeRounds runtime.journalBytes recovered.latest.counters.evidenceBytes
    externalReservedBytes build 8 (runtime.outcomeRecord prepared execution clock {}) 0
  let outcome := if outcome.resultingCounters.evidenceBytes ≠ evidenceBytes then build evidenceBytes else outcome
  passing outcome.verify
  pure outcome

end CheckpointBoundRuntime

namespace RuntimeWorld

def onDisk {ε α : Type} (p : Proc ε RuntimeDisk α) : Proc ε RuntimeWorld α :=
  .onPart RuntimeWorld.disk (fun disk w => { w with disk }) p

/-- A change of the memory of the process. -/
def update (f : CheckpointBoundRuntime → CheckpointBoundRuntime) : RuntimeProc Unit :=
  .modify fun w => { w with runtime := f w.runtime }

/-- `self.blocked = true`, and an error. -/
def block {α : Type} (e : RuntimeError) : RuntimeProc α := do
  update fun runtime => { runtime with blocked := true }
  .fail e

/-- The value, or a failure that may block the runtime. -/
def orBlock {α : Type} : Except CheckpointBoundRuntime.Failure α → RuntimeProc α
  | .ok value => pure value
  | .error failure => if failure.blocks then block failure.error else .fail failure.error

/-- `self.journal_bytes += length`. -/
def addJournalBytes (length : ℕ) : RuntimeProc Unit := do
  let runtime ← .get RuntimeWorld.runtime
  let journalBytes ← .ofExcept (okOr (checkedAdd runtime.journalBytes length) .workspaceBudgetExceeded)
  update fun runtime => { runtime with journalBytes }

/-- A record of the current request is published and counted. -/
def journalRecord (name : String) (content : Bytes) : RuntimeProc Unit := do
  let runtime ← .get RuntimeWorld.runtime
  onDisk (RuntimeDisk.onJournal (publishRecord runtime.stateStore.processId name content))
  addJournalBytes content.length

def invoke (spec : RuntimeRequestSpec) (executor : RuntimeExecutor) :
    RuntimeProc RuntimeExecutionReceipt := do
  .modify fun w => { w with invoked := w.invoked ++ [⟨w.runtime.nextRequestIndex, spec⟩] }
  match executor spec with
  | .ok receipt => pure receipt
  | .error e => block (.executionIndeterminate e)

def appendCheckpoint (counters : OperatorCounters) (clock : RuntimeClock) :
    RuntimeProc RecoveredOperatorState := do
  let runtime ← .get RuntimeWorld.runtime
  match ← .attempt (onDisk (RuntimeDisk.onState (runtime.stateStore.append
    { status := .running, counters, stopReason := none } clock.epochSeconds))) with
  | .ok state => pure state
  | .error e => block (.checkpointAfterExecution e)

def commitRequest (outcome : RequestOutcomeRecord) (latest : OperatorCheckpoint) :
    RuntimeProc Unit := do
  let commit ← .ofExcept (RequestCommitRecord.build outcome latest)
  orBlock (CheckpointBoundRuntime.blocking (failIf (runtimeCommitReservationBytes < (canonicalBytes commit).length)
    .commitReservationExceeded))
  let runtime ← .get RuntimeWorld.runtime
  match ← .attempt (onDisk (RuntimeDisk.onJournal (publishRecord runtime.stateStore.processId
    (commitFileName runtime.nextRequestIndex) (canonicalBytes commit)))) with
  | .ok () => addJournalBytes (canonicalBytes commit).length
  | .error e => block (.commitAfterCheckpoint e)

def advance (clock : RuntimeClock) : RuntimeProc Unit := do
  let runtime ← .get RuntimeWorld.runtime
  let nextRequestIndex ← .ofExcept (okOr (checkedAdd runtime.nextRequestIndex 1) .requestBudgetExceeded)
  update fun runtime =>
    { runtime with nextRequestIndex, lastCommittedEpochMilliseconds := some clock.epochMilliseconds }

/-- What `execute_with_reserved_workspace` does with a prepared request: the
record, the executor, the outcome, the checkpoint, the commit. -/
def performRequest (recovered : RecoveredOperatorState) (prepared : PreparedRequestRecord)
    (spec : RuntimeRequestSpec) (clock : RuntimeClock) (externalReservedBytes : ℕ)
    (executor : RuntimeExecutor) :
    RuntimeProc (RuntimeExecutionReceipt × RecoveredOperatorState) := do
  let runtime ← .get RuntimeWorld.runtime
  journalRecord (preparedFileName runtime.nextRequestIndex) (canonicalBytes prepared)
  let execution ← invoke spec executor
  -- the journal has grown by the prepared record
  let runtime ← .get RuntimeWorld.runtime
  let outcome ← orBlock (runtime.settleOutcome recovered prepared spec clock externalReservedBytes execution)
  journalRecord (outcomeFileName runtime.nextRequestIndex) (canonicalBytes outcome)
  let state ← appendCheckpoint outcome.resultingCounters clock
  commitRequest outcome state.latest
  advance clock
  pure (execution, state)

/-- `CheckpointBoundRuntime::execute_with_reserved_workspace`. -/
def executeWithReservedWorkspace (spec : RuntimeRequestSpec) (clock : RuntimeClock)
    (externalReservedBytes : ℕ) (executor : RuntimeExecutor) :
    RuntimeProc (RuntimeExecutionReceipt × RecoveredOperatorState) := do
  let w ← .get id
  let (recovered, prepared) ← .ofExcept (w.runtime.prepareRequest w.disk spec clock externalReservedBytes)
  performRequest recovered prepared spec clock externalReservedBytes executor

/-- `CheckpointBoundRuntime::execute_with`. -/
def executeWith (spec : RuntimeRequestSpec) (clock : RuntimeClock)
    (executor : RuntimeExecutor) :
    RuntimeProc (RuntimeExecutionReceipt × RecoveredOperatorState) :=
  executeWithReservedWorkspace spec clock 0 executor

/-- `validate_live_attempt`. -/
def validateLiveAttempt (plan : UnifiedOperatorPlan) (attempt : ConnectionAttempt) (depth : ℕ) :
    Except RuntimeError Unit :=
  failIf (attempt.scheme ≠ .https ∨ attempt.port ≠ 443 ∨ attempt.httpHost ≠ plan.binding.authority ∨
    attempt.sni ≠ some plan.binding.authority ∨ attempt.redirectDepth ≠ depth) .liveAttemptBindingMismatch

/-- `CheckpointBoundRuntime::execute_live_authenticated`. The executor is the live
pipeline, with any receipt or error. -/
def executeLiveAuthenticated (attempt : ConnectionAttempt) (request : LivePassiveRequest)
    (depth : ℕ) (clock : RuntimeClock) (pipeline : RuntimeExecutor) :
    RuntimeProc (RuntimeExecutionReceipt × RecoveredOperatorState) := do
  let runtime ← .get RuntimeWorld.runtime
  .ofExcept (validateLiveAttempt runtime.plan attempt depth)
  executeWith ⟨.ofPassive request.method, request.target, depth⟩ clock pipeline

/-! ## Teardown -/

/-- A checkpoint that ends the run or begins its end. -/
def appendFinal (status : OperatorRunStatus) (latest : OperatorCheckpoint) (reason : String)
    (clock : RuntimeClock) : RuntimeProc RecoveredOperatorState := do
  let runtime ← .get RuntimeWorld.runtime
  let state ← .mapError .state (onDisk (RuntimeDisk.onState (runtime.stateStore.append
    { status, counters := latest.counters, stopReason := some reason } clock.epochSeconds)))
  update fun runtime => { runtime with blocked := true }
  pure state

def recoverState (clock : RuntimeClock) : RuntimeProc RecoveredOperatorState := do
  let w ← .get id
  .ofExcept ((w.runtime.stateStore.recover w.disk.state clock.epochSeconds).mapError .state)

/-- `CheckpointBoundRuntime::begin_teardown`. -/
def beginTeardown (reason : String) (clock : RuntimeClock) :
    RuntimeProc RecoveredOperatorState := do
  .ofExcept clock.validate
  let recovered ← recoverState clock
  if recovered.latest.status = .teardownPending then pure recovered
  else if recovered.latest.status.isTerminal then .fail .continuationDenied
  else appendFinal .teardownPending recovered.latest reason clock

/-- `CheckpointBoundRuntime::complete_teardown`. -/
def completeTeardown (teardownReceiptSha256 : String) (clock : RuntimeClock) :
    RuntimeProc RecoveredOperatorState := do
  .ofExcept clock.validate
  .ofExcept (validateDigest teardownReceiptSha256)
  let recovered ← recoverState clock
  if recovered.latest.status ≠ .teardownPending then .fail .teardownNotStarted
  else appendFinal .completed recovered.latest ("teardown:" ++ teardownReceiptSha256) clock

/-- `CheckpointBoundRuntime::abort`. -/
def abort (reason : String) (clock : RuntimeClock) : RuntimeProc RecoveredOperatorState := do
  .ofExcept clock.validate
  let recovered ← recoverState clock
  if recovered.latest.status.isTerminal then .fail .continuationDenied
  else appendFinal .aborted recovered.latest reason clock

/-- What the teardown of the external session gives: a receipt, with the result
of its verification, or an error. -/
inductive ExternalTeardown where
  | receipt (verified : Except RuntimeError Unit) (receiptSha256 : String)
  | error (text : String)

/-- `CheckpointBoundRuntime::deprovision_external_session`. -/
def deprovisionExternalSession (teardown : ExternalTeardown) (clock : RuntimeClock) :
    RuntimeProc RecoveredOperatorState := do
  .ofExcept clock.validate
  let _ ← beginTeardown "external session teardown started" clock
  match teardown with
  | .receipt verified receiptSha256 =>
    .ofExcept verified
    completeTeardown receiptSha256 clock
  | .error text =>
    let _ ← Proc.attempt (abort "external session teardown failed" clock)
    .fail (.externalTeardown text)

end RuntimeWorld

end BoundSeal.Operator

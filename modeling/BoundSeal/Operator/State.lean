import BoundSeal.Operator.Plan

/-!
# The operator state store

The store of `nxb-operator-state` keeps one directory with a file per checkpoint.
Every checkpoint names the digest of the one before it. `recover` reads the whole
directory, checks every checkpoint and every transition, and returns the latest;
`append` recovers, checks the next checkpoint against the latest one, publishes
its file and recovers again.

The disk of a store is its directory and whether the marker of the consumed
activation is a file. Two things of the source have no counterpart: the error
texts of the operating system and of `serde_json`, and the overflow of a sequence
number, which a chain in a bounded workspace does not reach.
-/

namespace BoundSeal.Operator

open Rust Lib

/-! ## Checkpoints -/

/-- `OPERATOR_CHECKPOINT_VERSION`. -/
def operatorCheckpointVersion : ℕ := 1

/-- `MAX_CHECKPOINT_REASON_BYTES`. -/
def maxCheckpointReasonBytes : ℕ := 512

/-- `OperatorStateError`. -/
inductive OperatorStateError where
  | unsupportedCheckpointVersion
  | planDigestMismatch
  | identityMismatch
  | consumedActivationMismatch
  | invalidActivationExpiry
  | activationExpired
  | activationMarkerMissing
  | stateDirectoryNotEmpty
  | checkpointChainEmpty
  | checkpointSequenceGap
  | checkpointSequenceMismatch
  | duplicateCheckpointSequence
  | checkpointChainMismatch
  | missingPreviousCheckpointHash
  | checkpointDigestMismatch
  | nonCanonicalCheckpoint
  | checkpointAlreadyExists
  | incompleteCheckpointPublication
  | unexpectedStateEntry
  | invalidInitialCheckpoint
  | invalidCheckpointTime
  | checkpointTimeRegression
  | requestBudgetExceeded
  | responseBudgetExceeded
  | responseBodyBudgetExceeded
  | depthBudgetExceeded
  | workspaceBudgetExceeded
  | checkpointIntervalExceeded
  | counterRegression
  | cleanupCountersChanged
  | invalidStatusTransition
  | terminalState
  | invalidStopReason
  | invalidSha256 (field : String)
  | serialization
  | io
  | unified (error : UnifiedOperatorError)
deriving DecidableEq, Repr

/-- `OperatorRunStatus`. -/
inductive OperatorRunStatus where
  | ready
  | running
  | teardownPending
  | completed
  | aborted
deriving DecidableEq, Repr

namespace OperatorRunStatus

/-- `is_terminal`. -/
def isTerminal : OperatorRunStatus → Bool
  | .completed | .aborted => true
  | _ => false

/-- `requires_reason`. -/
def requiresReason : OperatorRunStatus → Bool
  | .teardownPending | .completed | .aborted => true
  | _ => false

/-- `permits_continuation`. -/
def permitsContinuation : OperatorRunStatus → Bool
  | .ready | .running => true
  | _ => false

def name : OperatorRunStatus → String
  | .ready => "ready"
  | .running => "running"
  | .teardownPending => "teardown_pending"
  | .completed => "completed"
  | .aborted => "aborted"

def ofName (s : String) : Option OperatorRunStatus :=
  [ready, running, teardownPending, completed, aborted].find? fun status => status.name == s

theorem ofName_name (status : OperatorRunStatus) : ofName status.name = some status := by
  cases status <;> decide

end OperatorRunStatus

/-- `OperatorStateIdentity`. -/
structure OperatorStateIdentity where
  operatorId : String
  planSha256 : String
  bindingSha256 : String
  activationCertificateSha256 : String
  activationExpiresAtEpochSeconds : ℤ
deriving DecidableEq

instance : Serde OperatorStateIdentity where
  toJson identity := .object [("operator_id", .text identity.operatorId),
    ("plan_sha256", .text identity.planSha256),
    ("binding_sha256", .text identity.bindingSha256),
    ("activation_certificate_sha256", .text identity.activationCertificateSha256),
    ("activation_expires_at_epoch_seconds", .integer identity.activationExpiresAtEpochSeconds)]
  fromJson value := do
    let fields ← value.knownFields ["operator_id", "plan_sha256", "binding_sha256",
      "activation_certificate_sha256", "activation_expires_at_epoch_seconds"]
    let operatorId ← Json.field fields "operator_id" Json.asText
    let planSha256 ← Json.field fields "plan_sha256" Json.asText
    let bindingSha256 ← Json.field fields "binding_sha256" Json.asText
    let activationCertificateSha256 ← Json.field fields "activation_certificate_sha256" Json.asText
    let activationExpiresAtEpochSeconds ← Json.field fields "activation_expires_at_epoch_seconds" Json.asInt
    some { operatorId, planSha256, bindingSha256, activationCertificateSha256, activationExpiresAtEpochSeconds }
  fromJson_toJson identity := by
    simp [Json.knownFields_object, Json.field_self, Json.field_other, Json.asInt_normalize, Json.asText]

namespace OperatorStateIdentity

/-- `OperatorStateIdentity::validate`. -/
def validate (identity : OperatorStateIdentity) (plan : UnifiedOperatorPlan) : Except OperatorStateError Unit := do
  failIf (identity.operatorId ≠ plan.operatorId ∨ identity.planSha256 ≠ plan.planSha256 ∨
    identity.bindingSha256 ≠ plan.bindingSha256) .identityMismatch
  failIf (¬ isLowerHexSha256 identity.activationCertificateSha256) (.invalidSha256 "activation_certificate_sha256")
  failIf (identity.activationExpiresAtEpochSeconds ≤ plan.createdAtEpochSeconds ∨
    plan.expiresAtEpochSeconds < identity.activationExpiresAtEpochSeconds) .invalidActivationExpiry

end OperatorStateIdentity

/-- `OperatorCounters`. -/
structure OperatorCounters where
  requestsCompleted : ℕ := 0
  totalResponseBytes : ℕ := 0
  lastResponseBodyBytes : ℕ := 0
  maximumDepthObserved : ℕ := 0
  evidenceBytes : ℕ := 0
deriving DecidableEq, Repr

instance : Serde OperatorCounters where
  toJson counters := .object [("requests_completed", .number counters.requestsCompleted),
    ("total_response_bytes", .number counters.totalResponseBytes),
    ("last_response_body_bytes", .number counters.lastResponseBodyBytes),
    ("maximum_depth_observed", .number counters.maximumDepthObserved),
    ("evidence_bytes", .number counters.evidenceBytes)]
  fromJson value := do
    let fields ← value.knownFields ["requests_completed", "total_response_bytes",
      "last_response_body_bytes", "maximum_depth_observed", "evidence_bytes"]
    let requestsCompleted ← Json.field fields "requests_completed" Json.asNat
    let totalResponseBytes ← Json.field fields "total_response_bytes" Json.asNat
    let lastResponseBodyBytes ← Json.field fields "last_response_body_bytes" Json.asNat
    let maximumDepthObserved ← Json.field fields "maximum_depth_observed" Json.asNat
    let evidenceBytes ← Json.field fields "evidence_bytes" Json.asNat
    some { requestsCompleted, totalResponseBytes, lastResponseBodyBytes, maximumDepthObserved, evidenceBytes }
  fromJson_toJson counters := by
    simp [Json.knownFields_object, Json.field_self, Json.field_other, Json.asNat]

namespace OperatorCounters

/-- `OperatorCounters::validate_against_plan`. -/
def validateAgainstPlan (counters : OperatorCounters) (plan : UnifiedOperatorPlan) :
    Except OperatorStateError Unit := do
  failIf (plan.binding.maximumRequests < counters.requestsCompleted) .requestBudgetExceeded
  failIf (plan.binding.maximumTotalResponseBytes < counters.totalResponseBytes) .responseBudgetExceeded
  failIf (plan.binding.maximumResponseBodyBytes < counters.lastResponseBodyBytes) .responseBodyBudgetExceeded
  failIf (plan.binding.maximumDepth < counters.maximumDepthObserved) .depthBudgetExceeded

/-- `OperatorCounters::validate_monotonic`. -/
def validateMonotonic (counters previous : OperatorCounters) : Except OperatorStateError Unit :=
  failIf (counters.requestsCompleted < previous.requestsCompleted ∨
    counters.totalResponseBytes < previous.totalResponseBytes ∨
    counters.maximumDepthObserved < previous.maximumDepthObserved ∨
    counters.evidenceBytes < previous.evidenceBytes) .counterRegression

end OperatorCounters

/-- `OperatorCheckpoint`. -/
structure OperatorCheckpoint where
  version : ℕ
  sequence : ℕ
  identity : OperatorStateIdentity
  status : OperatorRunStatus
  counters : OperatorCounters
  createdAtEpochSeconds : ℤ
  stopReason : Option String
  previousCheckpointSha256 : Option String
  checkpointSha256 : String
deriving DecidableEq

theorem asOption_text (s : Option String) : Json.asOption Json.asText (Json.option .text s).normalize = some s :=
  Json.asOption_normalize (fun a => by simp [Json.asText]) (fun a => by simp) s

instance : Serde OperatorCheckpoint where
  toJson checkpoint := .object [("version", .number checkpoint.version),
    ("sequence", .number checkpoint.sequence),
    ("identity", Serde.toJson checkpoint.identity),
    ("status", .text checkpoint.status.name),
    ("counters", Serde.toJson checkpoint.counters),
    ("created_at_epoch_seconds", .integer checkpoint.createdAtEpochSeconds),
    ("stop_reason", Json.option .text checkpoint.stopReason),
    ("previous_checkpoint_sha256", Json.option .text checkpoint.previousCheckpointSha256),
    ("checkpoint_sha256", .text checkpoint.checkpointSha256)]
  fromJson value := do
    let fields ← value.knownFields ["version", "sequence", "identity", "status", "counters",
      "created_at_epoch_seconds", "stop_reason", "previous_checkpoint_sha256", "checkpoint_sha256"]
    let version ← Json.field fields "version" Json.asNat
    let sequence ← Json.field fields "sequence" Json.asNat
    let identity ← Json.field fields "identity" Serde.fromJson
    let status ← Json.field fields "status" fun value => value.asText.bind OperatorRunStatus.ofName
    let counters ← Json.field fields "counters" Serde.fromJson
    let createdAtEpochSeconds ← Json.field fields "created_at_epoch_seconds" Json.asInt
    let stopReason ← Json.optionalField fields "stop_reason" Json.asText
    let previousCheckpointSha256 ← Json.optionalField fields "previous_checkpoint_sha256" Json.asText
    let checkpointSha256 ← Json.field fields "checkpoint_sha256" Json.asText
    some { version, sequence, identity, status, counters, createdAtEpochSeconds, stopReason,
           previousCheckpointSha256, checkpointSha256 }
  fromJson_toJson checkpoint := by
    simp [Json.knownFields_object, Json.field_self, Json.field_other, Json.optionalField_self,
      Json.optionalField_other, Json.asInt_normalize, Json.asNat, Json.asText, asOption_text,
      OperatorRunStatus.ofName_name]

/-- `validate_reason`. -/
def validateReason (reason : String) : Except OperatorStateError Unit :=
  failIf (reason = "" ∨ maxCheckpointReasonBytes < reason.utf8ByteSize ∨
    reason.toList.any isControl) .invalidStopReason

/-- A stop reason is given exactly where the status requires one. -/
def validateStopReason (stopReason : Option String) (status : OperatorRunStatus) : Except OperatorStateError Unit :=
  match stopReason, status.requiresReason with
  | some reason, true => validateReason reason
  | none, false => pure ()
  | _, _ => .error .invalidStopReason

namespace OperatorCheckpoint

/-- `OperatorCheckpoint::calculate_sha256`: the digest of the checkpoint without its digest. -/
def calculateSha256 (checkpoint : OperatorCheckpoint) : String :=
  hashSerializable { checkpoint with checkpointSha256 := "" }

theorem calculateSha256_with (checkpoint : OperatorCheckpoint) (digest : String) :
    { checkpoint with checkpointSha256 := digest }.calculateSha256 = checkpoint.calculateSha256 := rfl

/-- `OperatorCheckpoint::initial`. -/
def initial (plan : UnifiedOperatorPlan) (consumed : ConsumedUnifiedOperatorActivation)
    (nowEpochSeconds : ℤ) : OperatorCheckpoint where
  version := operatorCheckpointVersion
  sequence := 0
  identity :=
    { operatorId := plan.operatorId
      planSha256 := plan.planSha256
      bindingSha256 := plan.bindingSha256
      activationCertificateSha256 := consumed.activationCertificateSha256
      activationExpiresAtEpochSeconds := consumed.expiresAtEpochSeconds }
  status := .ready
  counters := {}
  createdAtEpochSeconds := nowEpochSeconds
  stopReason := none
  previousCheckpointSha256 := none
  checkpointSha256 := ""

/-- The link to the previous checkpoint: none at the start, a digest after it. -/
def validateLink (checkpoint : OperatorCheckpoint) : Except OperatorStateError Unit :=
  if checkpoint.sequence = 0 then
    failIf (checkpoint.status ≠ .ready ∨ checkpoint.counters ≠ {} ∨
      checkpoint.previousCheckpointSha256.isSome) .invalidInitialCheckpoint
  else do
    let previous ← okOr checkpoint.previousCheckpointSha256 .missingPreviousCheckpointHash
    failIf (¬ isLowerHexSha256 previous) (.invalidSha256 "previous_checkpoint_sha256")

/-- `OperatorCheckpoint::validate_static`. -/
def validateStatic (checkpoint : OperatorCheckpoint) (plan : UnifiedOperatorPlan) :
    Except OperatorStateError Unit := do
  failIf (checkpoint.version ≠ operatorCheckpointVersion) .unsupportedCheckpointVersion
  checkpoint.identity.validate plan
  checkpoint.counters.validateAgainstPlan plan
  failIf (checkpoint.createdAtEpochSeconds ≤ 0) .invalidCheckpointTime
  validateStopReason checkpoint.stopReason checkpoint.status
  checkpoint.validateLink
  failIf (¬ isLowerHexSha256 checkpoint.checkpointSha256) (.invalidSha256 "checkpoint_sha256")
  failIf (checkpoint.checkpointSha256 ≠ checkpoint.calculateSha256) .checkpointDigestMismatch

end OperatorCheckpoint

/-- The transitions of `validate_transition`. -/
def transitionAllowed : OperatorRunStatus → OperatorRunStatus → Bool
  | .ready, .running | .ready, .teardownPending | .ready, .aborted
  | .running, .running | .running, .teardownPending | .running, .aborted
  | .teardownPending, .completed | .teardownPending, .aborted => true
  | _, _ => false

/-- `validate_transition`. -/
def validateTransition (previous next : OperatorCheckpoint) (plan : UnifiedOperatorPlan) :
    Except OperatorStateError Unit := do
  failIf (next.sequence ≠ previous.sequence + 1 ∨
    next.previousCheckpointSha256 ≠ some previous.checkpointSha256) .checkpointChainMismatch
  failIf (next.identity ≠ previous.identity) .identityMismatch
  failIf (next.createdAtEpochSeconds < previous.createdAtEpochSeconds) .checkpointTimeRegression
  next.counters.validateAgainstPlan plan
  next.counters.validateMonotonic previous.counters
  failIf (plan.checkpointIntervalRequests < next.counters.requestsCompleted - previous.counters.requestsCompleted)
    .checkpointIntervalExceeded
  failIf (¬ transitionAllowed previous.status next.status) .invalidStatusTransition
  failIf (¬ next.status.permitsContinuation ∧ next.counters ≠ previous.counters) .cleanupCountersChanged
  validateStopReason next.stopReason next.status

/-- The transition from the checkpoint before, if there is one. -/
def validateFollowing (previous : Option OperatorCheckpoint) (next : OperatorCheckpoint)
    (plan : UnifiedOperatorPlan) : Except OperatorStateError Unit :=
  match previous with
  | some previous => validateTransition previous next plan
  | none => pure ()

/-! ## The store -/

/-- `CheckpointUpdate`. -/
structure CheckpointUpdate where
  status : OperatorRunStatus
  counters : OperatorCounters
  stopReason : Option String

/-- `RecoveredOperatorState`. -/
structure RecoveredOperatorState where
  latest : OperatorCheckpoint
  checkpointCount : ℕ
  stateFileBytes : ℕ
  continuationAllowed : Bool

/-- What a store finds on disk: its directory, and whether the activation marker is a file. -/
structure StateDisk where
  directory : Directory
  markerIsFile : Bool

/-- `OperatorStateStore`, in the process of the given number. The paths are those of the disk. -/
structure OperatorStateStore where
  plan : UnifiedOperatorPlan
  activationCertificateSha256 : String
  processId : ℕ

/-- `checkpoint_file_name`. -/
def checkpointFileName (sequence : ℕ) : String := numberedName "checkpoint-" ".json" sequence

/-- `parse_checkpoint_file_name`. -/
def parseCheckpointFileName (name : String) : Except OperatorStateError ℕ :=
  okOr (parseNumbered "checkpoint-" ".json" name) .unexpectedStateEntry

/-- One entry of the loop of `checkpoint_entries`. -/
def checkpointEntry (entries : BTreeMap ℕ String) (entry : String × Node) :
    Except OperatorStateError (BTreeMap ℕ String) := do
  failIf (entry.2 = .other) .unexpectedStateEntry
  failIf (isTemporary entry.1) .incompleteCheckpointPublication
  let sequence ← parseCheckpointFileName entry.1
  failIf (sequence ∈ entries) .duplicateCheckpointSequence
  pure (entries.insert sequence entry.1)

/-- `checkpoint_entries`. The directory is listed in the order of its names. -/
def checkpointEntries (directory : Directory) : Except OperatorStateError (BTreeMap ℕ String) :=
  directory.toList.foldlM checkpointEntry ∅

def readCheckpoint (content : Bytes) : Except OperatorStateError OperatorCheckpoint :=
  (readCanonical content).mapError fun e =>
    match e with
    | .serialization => .serialization
    | .nonCanonical => .nonCanonicalCheckpoint

/-- `verify_plan_digest`. -/
def verifyPlanDigest (plan : UnifiedOperatorPlan) : Except OperatorStateError Unit := do
  plan.validate.mapError .unified
  failIf (plan.planSha256 ≠ plan.calculateSha256) .planDigestMismatch

namespace OperatorStateStore

/-- The checks of `recover` on one checkpoint, with the bytes of the files up to it. -/
def checkCheckpoint (store : OperatorStateStore) (previous : Option OperatorCheckpoint) (sequence stateFileBytes : ℕ)
    (checkpoint : OperatorCheckpoint) : Except OperatorStateError Unit := do
  failIf (checkpoint.sequence ≠ sequence) .checkpointSequenceMismatch
  checkpoint.validateStatic store.plan
  failIf (checkpoint.identity.activationCertificateSha256 ≠ store.activationCertificateSha256) .identityMismatch
  validateFollowing previous checkpoint store.plan
  let accounted ← okOr (checkedAdd checkpoint.counters.evidenceBytes stateFileBytes) .workspaceBudgetExceeded
  failIf (store.plan.maximumWorkspaceBytes < accounted) .workspaceBudgetExceeded

/-- The loop of `recover`: the last checkpoint and the bytes of all files. -/
def recoverLoop (store : OperatorStateStore) (directory : Directory) :
    ℕ → Option OperatorCheckpoint → ℕ → List (ℕ × String) →
      Except OperatorStateError (Option OperatorCheckpoint × ℕ)
  | _, previous, stateFileBytes, [] => pure (previous, stateFileBytes)
  | expectedSequence, previous, stateFileBytes, (sequence, path) :: entries => do
    failIf (sequence ≠ expectedSequence) .checkpointSequenceGap
    let content ← okOr (directory.read path) .io
    let stateFileBytes ← okOr (checkedAdd stateFileBytes content.length) .workspaceBudgetExceeded
    let checkpoint ← readCheckpoint content
    store.checkCheckpoint previous sequence stateFileBytes checkpoint
    recoverLoop store directory (expectedSequence + 1) (some checkpoint) stateFileBytes entries

/-- Whether a run may go on from its latest checkpoint. -/
def continuationAllowed (store : OperatorStateStore) (latest : OperatorCheckpoint) (nowEpochSeconds : ℤ) : Bool :=
  latest.status.permitsContinuation &&
    decide (store.plan.createdAtEpochSeconds ≤ nowEpochSeconds ∧
      nowEpochSeconds ≤ store.plan.expiresAtEpochSeconds ∧
      nowEpochSeconds ≤ latest.identity.activationExpiresAtEpochSeconds)

/-- `OperatorStateStore::recover`. -/
def recover (store : OperatorStateStore) (disk : StateDisk) (nowEpochSeconds : ℤ) :
    Except OperatorStateError RecoveredOperatorState := do
  verifyPlanDigest store.plan
  failIf (¬ disk.markerIsFile) .activationMarkerMissing
  let entries ← checkpointEntries disk.directory
  failIf entries.isEmpty .checkpointChainEmpty
  let (previous, stateFileBytes) ← store.recoverLoop disk.directory 0 none 0 entries.toList
  let latest ← okOr previous .checkpointChainEmpty
  pure { latest, stateFileBytes, checkpointCount := latest.sequence + 1,
         continuationAllowed := store.continuationAllowed latest nowEpochSeconds }

/-- `publish_checkpoint`. -/
def publishCheckpoint (store : OperatorStateStore) (checkpoint : OperatorCheckpoint)
    (content : Bytes) : Proc OperatorStateError StateDisk Unit :=
  .onPart StateDisk.directory (fun directory disk => { disk with directory })
    (Directory.publish .io .checkpointAlreadyExists
      (temporaryName (checkpointFileName checkpoint.sequence) store.processId)
      (checkpointFileName checkpoint.sequence) content)

/-- `OperatorStateStore::initialize`, of a store on an empty directory. -/
def initializeStore (plan : UnifiedOperatorPlan) (consumed : ConsumedUnifiedOperatorActivation) (processId : ℕ)
    (nowEpochSeconds : ℤ) : Proc OperatorStateError StateDisk (OperatorStateStore × RecoveredOperatorState) := do
  .ofExcept ((plan.verify nowEpochSeconds).mapError .unified)
  let markerIsFile ← .get StateDisk.markerIsFile
  .ofExcept (failIf (consumed.planSha256 ≠ plan.planSha256 ∨ consumed.bindingSha256 ≠ plan.bindingSha256 ∨
    consumed.expiresAtEpochSeconds < nowEpochSeconds ∨ ¬ markerIsFile) .consumedActivationMismatch)
  let directory ← .get StateDisk.directory
  .ofExcept (failIf (¬ directory.isEmpty) .stateDirectoryNotEmpty)
  let store := { plan, processId, activationCertificateSha256 := consumed.activationCertificateSha256 }
  let initial := OperatorCheckpoint.initial plan consumed nowEpochSeconds
  let initial := { initial with checkpointSha256 := initial.calculateSha256 }
  let content := canonicalBytes initial
  .ofExcept (failIf (plan.maximumWorkspaceBytes < content.length) .workspaceBudgetExceeded)
  store.publishCheckpoint initial content
  let disk ← .get id
  let recovered ← .ofExcept (store.recover disk nowEpochSeconds)
  pure (store, recovered)

/-- `OperatorStateStore::open`. -/
def openStore (plan : UnifiedOperatorPlan) (activationCertificateSha256 : String) (processId : ℕ) (disk : StateDisk)
    (nowEpochSeconds : ℤ) : Except OperatorStateError (OperatorStateStore × RecoveredOperatorState) := do
  verifyPlanDigest plan
  failIf (¬ isLowerHexSha256 activationCertificateSha256) (.invalidSha256 "activation_certificate_sha256")
  failIf (¬ disk.markerIsFile) .activationMarkerMissing
  let store := { plan, activationCertificateSha256, processId }
  let recovered ← store.recover disk nowEpochSeconds
  pure (store, recovered)

/-- Whether an update needs a plan and an activation that are still valid. -/
def needsContinuation (update : CheckpointUpdate) (previous : OperatorCheckpoint) : Prop :=
  update.status.permitsContinuation ∨
    previous.counters.requestsCompleted < update.counters.requestsCompleted ∨
    previous.counters.totalResponseBytes < update.counters.totalResponseBytes ∨
    previous.counters.maximumDepthObserved < update.counters.maximumDepthObserved

instance (update : CheckpointUpdate) (previous : OperatorCheckpoint) :
    Decidable (needsContinuation update previous) :=
  inferInstanceAs (Decidable (_ ∨ _ ∨ _ ∨ _))

/-- The time checks of `append`. -/
def checkContinuation (store : OperatorStateStore) (update : CheckpointUpdate)
    (previous : OperatorCheckpoint) (nowEpochSeconds : ℤ) : Except OperatorStateError Unit :=
  if needsContinuation update previous then do
    (store.plan.verify nowEpochSeconds).mapError .unified
    failIf (previous.identity.activationExpiresAtEpochSeconds < nowEpochSeconds) .activationExpired
  else pure ()

/-- The checkpoint of an update, without its digest. -/
def nextCheckpoint (previous : OperatorCheckpoint) (update : CheckpointUpdate)
    (nowEpochSeconds : ℤ) : OperatorCheckpoint where
  version := operatorCheckpointVersion
  sequence := previous.sequence + 1
  identity := previous.identity
  status := update.status
  counters := update.counters
  createdAtEpochSeconds := nowEpochSeconds
  stopReason := update.stopReason
  previousCheckpointSha256 := some previous.checkpointSha256
  checkpointSha256 := ""

/-- The checks of `append` before it writes: the checkpoint and its bytes. -/
def prepareAppend (store : OperatorStateStore) (disk : StateDisk) (update : CheckpointUpdate)
    (nowEpochSeconds : ℤ) : Except OperatorStateError (OperatorCheckpoint × Bytes) := do
  let recovered ← store.recover disk nowEpochSeconds
  failIf recovered.latest.status.isTerminal .terminalState
  store.checkContinuation update recovered.latest nowEpochSeconds
  let checkpoint := nextCheckpoint recovered.latest update nowEpochSeconds
  validateTransition recovered.latest checkpoint store.plan
  let checkpoint := { checkpoint with checkpointSha256 := checkpoint.calculateSha256 }
  let content := canonicalBytes checkpoint
  let accounted ← okOr ((checkedAdd checkpoint.counters.evidenceBytes recovered.stateFileBytes).bind
    (checkedAdd · content.length)) .workspaceBudgetExceeded
  failIf (store.plan.maximumWorkspaceBytes < accounted) .workspaceBudgetExceeded
  pure (checkpoint, content)

/-- `OperatorStateStore::append`. -/
def append (store : OperatorStateStore) (update : CheckpointUpdate) (nowEpochSeconds : ℤ) :
    Proc OperatorStateError StateDisk RecoveredOperatorState := do
  let disk ← .get id
  let (checkpoint, content) ← .ofExcept (store.prepareAppend disk update nowEpochSeconds)
  store.publishCheckpoint checkpoint content
  let disk ← .get id
  .ofExcept (store.recover disk nowEpochSeconds)

end OperatorStateStore

end BoundSeal.Operator

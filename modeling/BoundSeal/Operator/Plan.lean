import BoundSeal.Records

/-!
# The unified operator plan

The signed plan of a run (`nxb-unified-operator`): the binding of the components,
the request and byte budgets, the time window and the digests. `verify` checks a
plan at a moment; the stores of a run check `verifyPlanDigest`, which leaves the
moment out.

The activation certificate and its signature are not modelled: a store is given
the record of an activation that was consumed, `ConsumedUnifiedOperatorActivation`.
-/

namespace BoundSeal.Operator

open Rust

/-! ## Constants -/

/-- `UNIFIED_OPERATOR_PLAN_VERSION`. -/
def unifiedOperatorPlanVersion : ℕ := 1

/-- `MAX_UNIFIED_OPERATOR_LIFETIME_SECONDS`. -/
def maxUnifiedOperatorLifetimeSeconds : ℤ := 4 * 60 * 60

/-- `MIN_UNIFIED_OPERATOR_WORKSPACE_BYTES`. -/
def minUnifiedOperatorWorkspaceBytes : ℕ := 1024 * 1024

/-- `MAX_UNIFIED_OPERATOR_WORKSPACE_BYTES`. -/
def maxUnifiedOperatorWorkspaceBytes : ℕ := 1024 * 1024 * 1024

/-- `MAX_UNIFIED_OPERATOR_REQUESTS`. -/
def maxUnifiedOperatorRequests : ℕ := 128

/-- `MAX_UNIFIED_OPERATOR_DEPTH`. -/
def maxUnifiedOperatorDepth : ℕ := 4

/-- `MAX_UNIFIED_OPERATOR_RESPONSE_BODY_BYTES`. -/
def maxUnifiedOperatorResponseBodyBytes : ℕ := 8 * 1024 * 1024

/-- `MAX_UNIFIED_OPERATOR_TOTAL_RESPONSE_BYTES`. -/
def maxUnifiedOperatorTotalResponseBytes : ℕ := 64 * 1024 * 1024

/-- `MIN_UNIFIED_OPERATOR_REQUEST_INTERVAL_MILLISECONDS`. -/
def minUnifiedOperatorRequestIntervalMilliseconds : ℕ := 200

/-- `MAX_UNIFIED_OPERATOR_PATH_PREFIXES`. -/
def maxUnifiedOperatorPathPrefixes : ℕ := 32

/-- `MAX_UNIFIED_OPERATOR_SECRET_COUNT`. -/
def maxUnifiedOperatorSecretCount : ℕ := 64

/-- `DENIED_PATH_TOKENS`. -/
def deniedPathTokens : List String :=
  ["delete", "destroy", "disable", "drop", "logoff", "logout", "remove", "reset", "revoke",
    "shutdown", "signout", "terminate", "unsubscribe"]

/-- `UnifiedOperatorError`, of the plan. -/
inductive UnifiedOperatorError where
  | unsupportedPlanVersion
  | invalidIdentifier (field : String)
  | invalidSha256 (field : String)
  | invalidAuthority
  | invalidSecretCount
  | invalidPathScope
  | invalidRequestBudget
  | invalidDepthBudget
  | invalidResponseBodyBudget
  | invalidTotalResponseBudget
  | invalidRequestInterval
  | invalidConcurrency
  | invalidComponentExpiry
  | bindingDigestMismatch
  | invalidPlanWindow
  | invalidCheckpointInterval
  | invalidWorkspaceBudget
  | planDigestMismatch
  | planExpired
deriving DecidableEq, Repr

/-! ## Checks of single fields -/

/-- `validate_identifier`. -/
def validateIdentifier (value field : String) : Except UnifiedOperatorError Unit :=
  failIf (¬ (1 ≤ value.utf8ByteSize ∧ value.utf8ByteSize ≤ 128) ∨
      ¬ value.toList.all fun c => c.isAlphanum || ['-', '_', '.', ':', '@'].contains c)
    (.invalidIdentifier field)

/-- `validate_sha256`. -/
def validateSha256 (value field : String) : Except UnifiedOperatorError Unit :=
  failIf (¬ isLowerHexSha256 value) (.invalidSha256 field)

/-- `if !value.is_empty() { check? }`. -/
def unlessEmpty {ε : Type} (value : String) (check : Except ε Unit) : Except ε Unit :=
  if value = "" then .ok () else check

/-- `validate_authority`. -/
def validateAuthority (value : String) : Except UnifiedOperatorError Unit :=
  failIf (value = "" ∨ 253 < value.utf8ByteSize ∨ value ≠ trim value ∨ value ≠ toAsciiLowercase value ∨
      containsChar '/' value ∨ containsChar '\\' value ∨ containsChar '@' value ∨ value.toList.any isWhitespace)
    .invalidAuthority

/-- The parts of a path segment between `-`, `_` and `.`. -/
def segmentTokens (segment : String) : List String :=
  (segment.toList.splitOnP fun c => c == '-' || c == '_' || c == '.').map String.ofList

/-- `validate_passive_path`. -/
def validatePassivePath (path : String) : Except UnifiedOperatorError Unit := do
  failIf (¬ startsWithChar '/' path ∨ 2048 < path.utf8ByteSize ∨ containsChar '?' path ∨ containsChar '#' path ∨
      containsChar '%' path ∨ containsChar '\\' path ∨ containsStr "//" path ∨
      containsChar ';' path ∨ path.toList.any fun c => isControl c || isWhitespace c)
    .invalidPathScope
  ((splitChar '/' path).filter (· ≠ "")).forM fun segment =>
    failIf (segment = "." ∨ segment = ".." ∨
        (segmentTokens segment).any fun token => deniedPathTokens.contains (toAsciiLowercase token))
      .invalidPathScope

/-! ## The plan -/

/-- `UnifiedComponentBinding`. -/
structure UnifiedComponentBinding where
  discoveryPlanSha256 : String
  policySha256 : String
  targetOriginSha256 : String
  discoverySessionId : String
  authority : String
  runId : String
  workerId : String
  accountId : String
  tenantId : String
  roleId : String
  sessionInjectionManifestSha256 : String
  externalVaultPlanSha256 : String
  externalVaultBootstrapReceiptSha256 : String
  externalSessionIdSha256 : String
  providerId : String
  providerInstanceSha256 : String
  providerCapabilitySha256 : String
  secretBindingRootSha256 : String
  secretCount : ℕ
  allowedPathPrefixes : BTreeSet String
  maximumRequests : ℕ
  maximumDepth : ℕ
  maximumResponseBodyBytes : ℕ
  maximumTotalResponseBytes : ℕ
  minimumRequestIntervalMilliseconds : ℕ
  maximumConcurrency : ℕ
  componentExpiresAtEpochSeconds : ℤ

namespace UnifiedComponentBinding

def toJson (binding : UnifiedComponentBinding) : Json :=
  .object [("discovery_plan_sha256", .text binding.discoveryPlanSha256),
    ("policy_sha256", .text binding.policySha256),
    ("target_origin_sha256", .text binding.targetOriginSha256),
    ("discovery_session_id", .text binding.discoverySessionId),
    ("authority", .text binding.authority),
    ("run_id", .text binding.runId),
    ("worker_id", .text binding.workerId),
    ("account_id", .text binding.accountId),
    ("tenant_id", .text binding.tenantId),
    ("role_id", .text binding.roleId),
    ("session_injection_manifest_sha256", .text binding.sessionInjectionManifestSha256),
    ("external_vault_plan_sha256", .text binding.externalVaultPlanSha256),
    ("external_vault_bootstrap_receipt_sha256", .text binding.externalVaultBootstrapReceiptSha256),
    ("external_session_id_sha256", .text binding.externalSessionIdSha256),
    ("provider_id", .text binding.providerId),
    ("provider_instance_sha256", .text binding.providerInstanceSha256),
    ("provider_capability_sha256", .text binding.providerCapabilitySha256),
    ("secret_binding_root_sha256", .text binding.secretBindingRootSha256),
    ("secret_count", .number binding.secretCount),
    ("allowed_path_prefixes", .texts binding.allowedPathPrefixes.toList),
    ("maximum_requests", .number binding.maximumRequests),
    ("maximum_depth", .number binding.maximumDepth),
    ("maximum_response_body_bytes", .number binding.maximumResponseBodyBytes),
    ("maximum_total_response_bytes", .number binding.maximumTotalResponseBytes),
    ("minimum_request_interval_milliseconds", .number binding.minimumRequestIntervalMilliseconds),
    ("maximum_concurrency", .number binding.maximumConcurrency),
    ("component_expires_at_epoch_seconds", .integer binding.componentExpiresAtEpochSeconds)]

/-- `UnifiedComponentBinding::validate`. -/
def validate (binding : UnifiedComponentBinding) : Except UnifiedOperatorError Unit := do
  [(binding.discoveryPlanSha256, "discovery_plan_sha256"),
    (binding.policySha256, "policy_sha256"),
    (binding.targetOriginSha256, "target_origin_sha256"),
    (binding.sessionInjectionManifestSha256, "session_injection_manifest_sha256"),
    (binding.externalVaultPlanSha256, "external_vault_plan_sha256"),
    (binding.externalVaultBootstrapReceiptSha256, "external_vault_bootstrap_receipt_sha256"),
    (binding.externalSessionIdSha256, "external_session_id_sha256"),
    (binding.providerInstanceSha256, "provider_instance_sha256"),
    (binding.providerCapabilitySha256, "provider_capability_sha256"),
    (binding.secretBindingRootSha256, "secret_binding_root_sha256")].forM
      fun (value, field) => validateSha256 value field
  [(binding.discoverySessionId, "discovery_session_id"),
    (binding.runId, "run_id"),
    (binding.workerId, "worker_id"),
    (binding.accountId, "account_id"),
    (binding.tenantId, "tenant_id"),
    (binding.roleId, "role_id"),
    (binding.providerId, "provider_id")].forM fun (value, field) => validateIdentifier value field
  validateAuthority binding.authority
  failIf (binding.secretCount = 0 ∨ maxUnifiedOperatorSecretCount < binding.secretCount) .invalidSecretCount
  failIf (binding.allowedPathPrefixes.isEmpty ∨
    maxUnifiedOperatorPathPrefixes < binding.allowedPathPrefixes.size) .invalidPathScope
  binding.allowedPathPrefixes.toList.forM validatePassivePath
  failIf (binding.maximumRequests = 0 ∨ maxUnifiedOperatorRequests < binding.maximumRequests) .invalidRequestBudget
  failIf (maxUnifiedOperatorDepth < binding.maximumDepth) .invalidDepthBudget
  failIf (binding.maximumResponseBodyBytes = 0 ∨
    maxUnifiedOperatorResponseBodyBytes < binding.maximumResponseBodyBytes) .invalidResponseBodyBudget
  failIf (binding.maximumTotalResponseBytes < binding.maximumResponseBodyBytes ∨
    maxUnifiedOperatorTotalResponseBytes < binding.maximumTotalResponseBytes) .invalidTotalResponseBudget
  failIf (binding.minimumRequestIntervalMilliseconds < minUnifiedOperatorRequestIntervalMilliseconds)
    .invalidRequestInterval
  failIf (binding.maximumConcurrency ≠ 1) .invalidConcurrency
  failIf (binding.componentExpiresAtEpochSeconds ≤ 0) .invalidComponentExpiry

/-- `UnifiedComponentBinding::calculate_sha256`. -/
def calculateSha256 (binding : UnifiedComponentBinding) : Except UnifiedOperatorError String := do
  binding.validate
  pure (toLowerHex (Sha256.digest binding.toJson.toVec))

end UnifiedComponentBinding

/-- `UnifiedOperatorPlan`. -/
structure UnifiedOperatorPlan where
  version : ℕ
  operatorId : String
  binding : UnifiedComponentBinding
  bindingSha256 : String
  checkpointIntervalRequests : ℕ
  maximumWorkspaceBytes : ℕ
  createdAtEpochSeconds : ℤ
  expiresAtEpochSeconds : ℤ
  activationKeyIdSha256 : String
  planSha256 : String

namespace UnifiedOperatorPlan

def toJson (plan : UnifiedOperatorPlan) : Json :=
  .object [("version", .number plan.version),
    ("operator_id", .text plan.operatorId),
    ("binding", plan.binding.toJson),
    ("binding_sha256", .text plan.bindingSha256),
    ("checkpoint_interval_requests", .number plan.checkpointIntervalRequests),
    ("maximum_workspace_bytes", .number plan.maximumWorkspaceBytes),
    ("created_at_epoch_seconds", .integer plan.createdAtEpochSeconds),
    ("expires_at_epoch_seconds", .integer plan.expiresAtEpochSeconds),
    ("activation_key_id_sha256", .text plan.activationKeyIdSha256),
    ("plan_sha256", .text plan.planSha256)]

/-- `UnifiedOperatorPlan::validate`. -/
def validate (plan : UnifiedOperatorPlan) : Except UnifiedOperatorError Unit := do
  failIf (plan.version ≠ unifiedOperatorPlanVersion) .unsupportedPlanVersion
  validateIdentifier plan.operatorId "operator_id"
  plan.binding.validate
  validateSha256 plan.bindingSha256 "binding_sha256"
  validateSha256 plan.activationKeyIdSha256 "activation_key_id_sha256"
  unlessEmpty plan.planSha256 (validateSha256 plan.planSha256 "plan_sha256")
  let bindingSha256 ← plan.binding.calculateSha256
  failIf (plan.bindingSha256 ≠ bindingSha256) .bindingDigestMismatch
  failIf (plan.createdAtEpochSeconds ≤ 0 ∨ plan.expiresAtEpochSeconds ≤ plan.createdAtEpochSeconds ∨
      maxUnifiedOperatorLifetimeSeconds < saturatingAddI64 plan.expiresAtEpochSeconds (-plan.createdAtEpochSeconds) ∨
      plan.binding.componentExpiresAtEpochSeconds < plan.expiresAtEpochSeconds)
    .invalidPlanWindow
  failIf (plan.checkpointIntervalRequests = 0 ∨
    plan.binding.maximumRequests < plan.checkpointIntervalRequests) .invalidCheckpointInterval
  failIf (¬ (minUnifiedOperatorWorkspaceBytes ≤ plan.maximumWorkspaceBytes ∧
      plan.maximumWorkspaceBytes ≤ maxUnifiedOperatorWorkspaceBytes))
    .invalidWorkspaceBudget

/-- `UnifiedOperatorPlan::calculate_sha256`: the digest of the plan without its digest. -/
def calculateSha256 (plan : UnifiedOperatorPlan) : String :=
  toLowerHex (Sha256.digest { plan with planSha256 := "" }.toJson.toVec)

theorem calculateSha256_with (plan : UnifiedOperatorPlan) (digest : String) :
    { plan with planSha256 := digest }.calculateSha256 = plan.calculateSha256 := rfl

theorem isLowerHexSha256_calculateSha256 (plan : UnifiedOperatorPlan) :
    isLowerHexSha256 plan.calculateSha256 = true :=
  isLowerHexSha256_toLowerHex rfl

/-- `UnifiedOperatorPlan::verify`. -/
def verify (plan : UnifiedOperatorPlan) (nowEpochSeconds : ℤ) : Except UnifiedOperatorError Unit := do
  plan.validate
  failIf (plan.planSha256 ≠ plan.calculateSha256) .planDigestMismatch
  failIf (nowEpochSeconds < plan.createdAtEpochSeconds ∨ plan.expiresAtEpochSeconds < nowEpochSeconds) .planExpired

end UnifiedOperatorPlan

/-- `ConsumedUnifiedOperatorActivation`. The file of its marker is part of the state of the disk. -/
structure ConsumedUnifiedOperatorActivation where
  planSha256 : String
  bindingSha256 : String
  activationCertificateSha256 : String
  expiresAtEpochSeconds : ℤ

end BoundSeal.Operator

import BoundSeal.Lib.Method
import BoundSeal.Lib.Run
import BoundSeal.Rust.MapSum
import BoundSeal.Rust.Result
import BoundSeal.Shared

/-!
# Coverage and saturation receipts (`coverage_saturation` of `nxb-passive-analyzers`)

A tracker admits endpoints and enables rules, records one outcome for a pair of
them (executed, or skipped with a reason), and keeps totals beside the outcomes:
findings, resources, and windows of checks whose yield may end the run.
`CoverageTracker.receipt` is the account of it all.

The five finding counters are one function of `FindingCount`, the five resource
counters one function of `Resource`; the budgets are a function of the same
resources. Serialising never fails, so the digests are plain functions. A method
of the source that takes `&mut self` is a `Method`: an error keeps what was
changed before it.
-/

namespace BoundSeal.Analyzers

open Rust Lib

/-! ## Data -/

/-- `coverage_hash_serializable`, and its copies in the other analyzer modules. -/
def hashJson (value : Json) : String := toLowerHex (Sha256.digest value.toVec)

/-- A digest that repeats one digit, for examples. -/
def digestOf (c : Char) : String := String.ofList (List.replicate 64 c)

/-- `MAX_COVERAGE_ENDPOINTS`. -/
def maxCoverageEndpoints : ℕ := 10000000

/-- `MAX_COVERAGE_RULES`. -/
def maxCoverageRules : ℕ := 100000

/-- `MAX_COVERAGE_PAIRS`. -/
def maxCoveragePairs : ℕ := 100000000

/-- `MAX_SATURATION_WINDOWS`. -/
def maxSaturationWindows : ℕ := 4096

/-- `MAX_WINDOW_CHECKS`. -/
def maxWindowChecks : ℕ := 10000000

inductive RunStopReason where
  | completed
  | saturated
  | memoryBudget
  | evidenceBudget
  | diskBudget
  | requestBudget
  | timeBudget
  | cancelled
  | emergencyStop
  deriving DecidableEq

def RunStopReason.name : RunStopReason → String
  | completed => "completed"
  | saturated => "saturated"
  | memoryBudget => "memory_budget"
  | evidenceBudget => "evidence_budget"
  | diskBudget => "disk_budget"
  | requestBudget => "request_budget"
  | timeBudget => "time_budget"
  | cancelled => "cancelled"
  | emergencyStop => "emergency_stop"

def RunStopReason.toJson (reason : RunStopReason) : Json := .text reason.name

inductive CoverageError where
  | invalidConfig (message : String)
  | invalidInput (name : String)
  | endpointBudget
  | ruleBudget
  | pairBudget
  | endpointNotAdmitted
  | ruleNotEnabled
  | pairAlreadyRecorded
  | runStopped
  | resourceBoundary (reason : RunStopReason)
  | incompleteCoverage
  | receiptDigest
  deriving DecidableEq

/-- `validate_coverage_sha256`. -/
def validateCoverageSha256 (value name : String) : Except CoverageError Unit :=
  failIf (isLowerHexSha256 value = false) (.invalidInput name)

def isRuleIdChar (c : Char) : Bool :=
  c.isAlphanum || c == '-' || c == '_' || c == '.' || c == ':'

/-- A rule identifier: one to 192 bytes of the allowed characters. -/
def isRuleId (value : String) : Bool :=
  value.utf8ByteSize != 0 && decide (value.utf8ByteSize ≤ 192) && value.toList.all isRuleIdChar

/-- `validate_coverage_rule_id`. -/
def validateCoverageRuleId (value : String) : Except CoverageError Unit :=
  failIf (isRuleId value = false) (.invalidInput "rule_id")

structure PairKey where
  endpointSha256 : String
  ruleId : String
  deriving DecidableEq

namespace PairKey

/-- The derived order: endpoint, then rule. -/
instance : Ord PairKey := ⟨compareLex (compareOn endpointSha256) (compareOn ruleId)⟩

instance : Std.TransOrd PairKey :=
  inferInstanceAs (Std.TransCmp (compareLex (compareOn endpointSha256) (compareOn ruleId)))

instance : Std.LawfulEqOrd PairKey where
  compare_self {a} := by
    show compareLex _ _ a a = .eq
    exact compareLex_eq_eq.mpr ⟨Std.ReflOrd.compare_self, Std.ReflOrd.compare_self⟩
  eq_of_compare {a b} h := by
    obtain ⟨hendpoint, hrule⟩ := compareLex_eq_eq.mp (show compareLex _ _ a b = .eq from h)
    cases a
    cases b
    congr
    · exact Std.LawfulEqOrd.eq_of_compare hendpoint
    · exact Std.LawfulEqOrd.eq_of_compare hrule

/-- `PairKey::new`. -/
def new (endpoint rule : String) : Except CoverageError PairKey := do
  validateCoverageSha256 endpoint "endpoint_sha256"
  validateCoverageRuleId rule
  pure ⟨endpoint, rule⟩

def toJson (key : PairKey) : Json :=
  .object [("endpoint_sha256", .text key.endpointSha256), ("rule_id", .text key.ruleId)]

end PairKey

structure CoverageLimits where
  maximumEndpoints : ℕ
  maximumRules : ℕ
  maximumRecordedPairs : ℕ
  maximumWindows : ℕ

/-- `CoverageLimits::validate`. -/
def CoverageLimits.validate (limits : CoverageLimits) : Except CoverageError Unit :=
  failIf (limits.maximumEndpoints = 0 ∨ limits.maximumEndpoints > maxCoverageEndpoints ∨
    limits.maximumRules = 0 ∨ limits.maximumRules > maxCoverageRules ∨
    limits.maximumRecordedPairs = 0 ∨ limits.maximumRecordedPairs > maxCoveragePairs ∨
    limits.maximumWindows = 0 ∨ limits.maximumWindows > maxSaturationWindows)
    (.invalidConfig "one or more coverage limits are outside policy")

/-- The resources a run is charged for: the fields of `ResourceUse`. -/
inductive Resource where
  | accountedMemoryBytes
  | evidenceBytes
  | diskBytes
  | requests
  | elapsedMilliseconds
  deriving DecidableEq

namespace Resource

/-- In the order of the fields, which is the order the budgets are checked in. -/
def all : List Resource := [accountedMemoryBytes, evidenceBytes, diskBytes, requests, elapsedMilliseconds]

def name : Resource → String
  | accountedMemoryBytes => "accounted_memory_bytes"
  | evidenceBytes => "evidence_bytes"
  | diskBytes => "disk_bytes"
  | requests => "requests"
  | elapsedMilliseconds => "elapsed_milliseconds"

/-- The reason a run stops with when the budget of the resource is exceeded. -/
def stopReason : Resource → RunStopReason
  | accountedMemoryBytes => .memoryBudget
  | evidenceBytes => .evidenceBudget
  | diskBytes => .diskBudget
  | requests => .requestBudget
  | elapsedMilliseconds => .timeBudget

theorem mem_all (resource : Resource) : resource ∈ all := by
  cases resource <;> decide

instance : Fintype Resource := Fintype.ofList all mem_all

end Resource

abbrev ResourceUse := Resource → ℕ

namespace ResourceUse

/-- `ResourceUse::checked_add`. -/
def checkedAdd (use delta : ResourceUse) : ResourceUse := fun r => saturatingAdd (use r) (delta r)

def toJson (use : ResourceUse) : Json := .object (Resource.all.map fun r => (r.name, .integer (use r)))

end ResourceUse

abbrev CoverageResourceBudget := Resource → ℕ

namespace CoverageResourceBudget

/-- `CoverageResourceBudget::validate`. -/
def validate (budget : CoverageResourceBudget) : Except CoverageError Unit :=
  failIf (∃ r, budget r = 0) (.invalidConfig "all resource budgets must be non-zero")

/-- `CoverageResourceBudget::first_exceeded`. -/
def firstExceeded (budget : CoverageResourceBudget) (usage : ResourceUse) : Option RunStopReason :=
  (Resource.all.find? fun r => decide (usage r > budget r)).map Resource.stopReason

end CoverageResourceBudget

inductive PairSkipReason where
  | notApplicable
  | capabilityDenied
  | methodDenied
  | rateLimited
  | dependencyUnavailable
  | resourceBudget
  | cancelled
  | emergencyStop
  deriving DecidableEq

namespace PairSkipReason

def name : PairSkipReason → String
  | notApplicable => "not_applicable"
  | capabilityDenied => "capability_denied"
  | methodDenied => "method_denied"
  | rateLimited => "rate_limited"
  | dependencyUnavailable => "dependency_unavailable"
  | resourceBudget => "resource_budget"
  | cancelled => "cancelled"
  | emergencyStop => "emergency_stop"

/-- The derived order is the order of declaration. -/
instance : Ord PairSkipReason := ⟨compareOn PairSkipReason.ctorIdx⟩

instance : Std.TransOrd PairSkipReason := inferInstanceAs (Std.TransCmp (compareOn PairSkipReason.ctorIdx))

instance : Std.LawfulEqOrd PairSkipReason where
  compare_self {a} := by
    cases a <;> rfl
  eq_of_compare {a b} h := by
    have hindex : a.ctorIdx = b.ctorIdx :=
      Std.LawfulEqOrd.eq_of_compare (show compare a.ctorIdx b.ctorIdx = .eq from h)
    cases a <;> cases b <;> first | rfl | exact absurd hindex (by decide)

end PairSkipReason

/-- The finding counters of an execution, and of a run. -/
inductive FindingCount where
  | unique
  | duplicate
  | validated
  | rejected
  | inconclusive
  deriving DecidableEq

namespace FindingCount

def all : List FindingCount := [unique, duplicate, validated, rejected, inconclusive]

def name : FindingCount → String
  | unique => "unique_findings"
  | duplicate => "duplicate_findings"
  | validated => "validated_findings"
  | rejected => "rejected_findings"
  | inconclusive => "inconclusive_findings"

end FindingCount

structure ExecutionMetrics where
  findings : FindingCount → ℕ
  resourceDelta : ResourceUse

namespace ExecutionMetrics

/-- `ExecutionMetrics::validate`. -/
def validate (metrics : ExecutionMetrics) : Except CoverageError Unit :=
  let classified := saturatingAdd (saturatingAdd (metrics.findings .validated) (metrics.findings .rejected))
    (metrics.findings .inconclusive)
  failIf (classified > metrics.findings .unique ∨ metrics.resourceDelta .requests = 0)
    (.invalidInput "execution metrics are inconsistent")

def toJson (metrics : ExecutionMetrics) : Json :=
  .object ((FindingCount.all.map fun c => (c.name, .integer (metrics.findings c))) ++
    [("resource_delta", metrics.resourceDelta.toJson)])

end ExecutionMetrics

inductive PairOutcome where
  | executed (metrics : ExecutionMetrics)
  | skipped (reason : PairSkipReason)

namespace PairOutcome

def isExecuted : PairOutcome → Bool
  | executed _ => true
  | skipped _ => false

def toJson : PairOutcome → Json
  | executed metrics => .object [("outcome", .text "executed"), ("metrics", metrics.toJson)]
  | skipped reason => .object [("outcome", .text "skipped"), ("reason", .text reason.name)]

end PairOutcome

structure QueueTelemetry where
  highPriorityUnexploredPairs : ℕ
  validationQueue : ℕ
  cleanupQueue : ℕ

def QueueTelemetry.toJson (telemetry : QueueTelemetry) : Json :=
  .object [("high_priority_unexplored_pairs", .integer telemetry.highPriorityUnexploredPairs),
    ("validation_queue", .integer telemetry.validationQueue), ("cleanup_queue", .integer telemetry.cleanupQueue)]

structure SaturationPolicy where
  checksPerWindow : ℕ
  minimumCompletedChecks : ℕ
  requiredConsecutiveLowYieldWindows : ℕ
  yieldThresholdNumerator : ℕ
  yieldThresholdDenominator : ℕ

/-- `SaturationPolicy::validate`. -/
def SaturationPolicy.validate (policy : SaturationPolicy) (maximumWindows : ℕ) : Except CoverageError Unit :=
  failIf (policy.checksPerWindow = 0 ∨ policy.checksPerWindow > maxWindowChecks ∨
    policy.minimumCompletedChecks < policy.checksPerWindow ∨
    policy.requiredConsecutiveLowYieldWindows = 0 ∨
    policy.requiredConsecutiveLowYieldWindows > maximumWindows ∨
    policy.yieldThresholdDenominator = 0 ∨
    policy.yieldThresholdNumerator > policy.yieldThresholdDenominator)
    (.invalidConfig "saturation policy is outside deterministic bounds")

structure SaturationWindow where
  completedChecks : ℕ
  newUniqueFindings : ℕ
  belowYieldThreshold : Bool

def SaturationWindow.toJson (window : SaturationWindow) : Json :=
  .object [("completed_checks", .integer window.completedChecks),
    ("new_unique_findings", .integer window.newUniqueFindings),
    ("below_yield_threshold", .bool window.belowYieldThreshold)]

structure CoverageReceipt where
  admittedEndpoints : ℕ
  consideredEndpoints : ℕ
  analyzedEndpoints : ℕ
  untestedEndpoints : ℕ
  enabledRules : ℕ
  theoreticalPairs : ℕ
  recordedPairs : ℕ
  untestedPairs : ℕ
  executedPairs : ℕ
  skippedPairs : ℕ
  skippedByReason : BTreeMap PairSkipReason ℕ
  findings : FindingCount → ℕ
  resourceUse : ResourceUse
  queueTelemetry : QueueTelemetry
  saturationWindows : List SaturationWindow
  stopReason : Option RunStopReason
  endpointSetSha256 : String
  ruleSetSha256 : String
  pairOutcomesSha256 : String
  receiptSha256 : String

namespace CoverageReceipt

def toJson (r : CoverageReceipt) : Json :=
  .object ([("admitted_endpoints", .integer r.admittedEndpoints),
    ("considered_endpoints", .integer r.consideredEndpoints),
    ("analyzed_endpoints", .integer r.analyzedEndpoints), ("untested_endpoints", .integer r.untestedEndpoints),
    ("enabled_rules", .integer r.enabledRules), ("theoretical_pairs", .integer r.theoreticalPairs),
    ("recorded_pairs", .integer r.recordedPairs), ("untested_pairs", .integer r.untestedPairs),
    ("executed_pairs", .integer r.executedPairs), ("skipped_pairs", .integer r.skippedPairs),
    ("skipped_by_reason", .object (r.skippedByReason.toList.map fun e => (e.1.name, .integer e.2)))] ++
    (FindingCount.all.map fun c => (c.name, .integer (r.findings c))) ++
    [("resource_use", r.resourceUse.toJson), ("queue_telemetry", r.queueTelemetry.toJson),
    ("saturation_windows", .array (r.saturationWindows.map SaturationWindow.toJson)),
    ("stop_reason", Json.option RunStopReason.toJson r.stopReason),
    ("endpoint_set_sha256", .text r.endpointSetSha256), ("rule_set_sha256", .text r.ruleSetSha256),
    ("pair_outcomes_sha256", .text r.pairOutcomesSha256), ("receipt_sha256", .text r.receiptSha256)])

/-- The digest of a receipt: over its JSON with an empty digest. -/
def calculateSha256 (r : CoverageReceipt) : String := hashJson { r with receiptSha256 := "" }.toJson

/-- `CoverageReceipt::verify`. -/
def verify (r : CoverageReceipt) : Except CoverageError Unit :=
  failIf (r.calculateSha256 ≠ r.receiptSha256) .receiptDigest

end CoverageReceipt

structure CoverageTracker where
  limits : CoverageLimits
  budget : CoverageResourceBudget
  saturationPolicy : SaturationPolicy
  admittedEndpoints : BTreeSet String
  consideredEndpoints : BTreeSet String
  analyzedEndpoints : BTreeSet String
  enabledRules : BTreeSet String
  pairOutcomes : BTreeMap PairKey PairOutcome
  skippedByReason : BTreeMap PairSkipReason ℕ
  findings : FindingCount → ℕ
  resourceUse : ResourceUse
  queueTelemetry : QueueTelemetry
  saturationWindows : List SaturationWindow
  currentWindowChecks : ℕ
  currentWindowUniqueFindings : ℕ
  stopReason : Option RunStopReason

/-- A method with `&mut self`. -/
abbrev CoverageMethod := Method CoverageError CoverageTracker

namespace CoverageTracker

/-! ## The operations -/

/-- `CoverageTracker::new`. -/
def new (limits : CoverageLimits) (budget : CoverageResourceBudget) (policy : SaturationPolicy) :
    Except CoverageError CoverageTracker := do
  limits.validate
  budget.validate
  policy.validate limits.maximumWindows
  pure {
    limits := limits
    budget := budget
    saturationPolicy := policy
    admittedEndpoints := ∅
    consideredEndpoints := ∅
    analyzedEndpoints := ∅
    enabledRules := ∅
    pairOutcomes := ∅
    skippedByReason := ∅
    findings := fun _ => 0
    resourceUse := fun _ => 0
    queueTelemetry := ⟨0, 0, 0⟩
    saturationWindows := []
    currentWindowChecks := 0
    currentWindowUniqueFindings := 0
    stopReason := none }

/-- `CoverageTracker::ensure_running`. -/
def ensureRunning (t : CoverageTracker) : Except CoverageError Unit :=
  failIf (t.stopReason ≠ none) .runStopped

/-- `CoverageTracker::preflight_theoretical_pairs`. -/
def preflightTheoreticalPairs (endpoints rules : ℕ) (t : CoverageTracker) : Except CoverageError Unit :=
  failIf (saturatingMul endpoints rules > t.limits.maximumRecordedPairs) .pairBudget

/-- The checks on an endpoint that is not known yet. -/
def preflightEndpoint (t : CoverageTracker) : Except CoverageError Unit := do
  failIf (t.admittedEndpoints.size ≥ t.limits.maximumEndpoints) .endpointBudget
  preflightTheoreticalPairs (t.admittedEndpoints.size + 1) t.enabledRules.size t

/-- `CoverageTracker::admit_endpoint`. -/
def admitEndpoint (endpoint : String) : CoverageMethod Bool := do
  Method.check ensureRunning
  Method.ofExcept (validateCoverageSha256 endpoint "endpoint_sha256")
  let known ← Method.get fun t => t.admittedEndpoints.contains endpoint
  if known then
    pure false
  else do
    Method.check preflightEndpoint
    Method.modify fun t => { t with admittedEndpoints := t.admittedEndpoints.insert endpoint }
    pure true

def preflightRule (t : CoverageTracker) : Except CoverageError Unit := do
  failIf (t.enabledRules.size ≥ t.limits.maximumRules) .ruleBudget
  preflightTheoreticalPairs t.admittedEndpoints.size (t.enabledRules.size + 1) t

/-- `CoverageTracker::enable_rule`. -/
def enableRule (rule : String) : CoverageMethod Bool := do
  Method.check ensureRunning
  Method.ofExcept (validateCoverageRuleId rule)
  let known ← Method.get fun t => t.enabledRules.contains rule
  if known then
    pure false
  else do
    Method.check preflightRule
    Method.modify fun t => { t with enabledRules := t.enabledRules.insert rule }
    pure true

/-- The checks that have been counted in closed windows. -/
def closedChecks (t : CoverageTracker) : ℕ :=
  t.saturationWindows.foldl (fun sum window => saturatingAdd sum window.completedChecks) 0

/-- The condition under which `evaluate_saturation` stops the run. -/
def isSaturated (t : CoverageTracker) : Bool :=
  t.stopReason.isNone && t.queueTelemetry.highPriorityUnexploredPairs == 0 &&
    t.queueTelemetry.validationQueue == 0 && t.queueTelemetry.cleanupQueue == 0 &&
    decide (t.saturationPolicy.minimumCompletedChecks ≤ t.closedChecks) &&
    decide (t.saturationPolicy.requiredConsecutiveLowYieldWindows ≤ t.saturationWindows.length) &&
    (t.saturationWindows.reverse.take t.saturationPolicy.requiredConsecutiveLowYieldWindows).all
      (·.belowYieldThreshold)

/-- `CoverageTracker::evaluate_saturation`. -/
def evaluateSaturation (t : CoverageTracker) : CoverageTracker :=
  if t.isSaturated then { t with stopReason := some .saturated } else t

/-- `CoverageTracker::set_queue_telemetry`. -/
def setQueueTelemetry (telemetry : QueueTelemetry) : CoverageMethod Unit := do
  Method.check ensureRunning
  Method.modify fun t => { t with queueTelemetry := telemetry }
  Method.modify evaluateSaturation

/-- `CoverageTracker::validate_pair`. -/
def validatePair (endpoint rule : String) (t : CoverageTracker) : Except CoverageError PairKey := do
  let key ← PairKey.new endpoint rule
  failIf (endpoint ∉ t.admittedEndpoints) .endpointNotAdmitted
  failIf (rule ∉ t.enabledRules) .ruleNotEnabled
  pure key

/-- `CoverageTracker::preflight_new_pair`. -/
def preflightNewPair (key : PairKey) (t : CoverageTracker) : Except CoverageError Unit := do
  failIf (key ∈ t.pairOutcomes) .pairAlreadyRecorded
  failIf (t.pairOutcomes.size ≥ t.limits.maximumRecordedPairs) .pairBudget

/-- The resource boundary: an execution beyond a budget stops the run, and is not recorded. -/
def chargeResources (delta : ResourceUse) : CoverageMethod Unit := fun t =>
  match t.budget.firstExceeded (t.resourceUse.checkedAdd delta) with
  | some reason => (.error (.resourceBoundary reason), { t with stopReason := some reason })
  | none => (.ok (), t)

/-- The outcome of an executed pair and the totals beside it. -/
def commitExecution (key : PairKey) (metrics : ExecutionMetrics) (t : CoverageTracker) : CoverageTracker :=
  { t with
    pairOutcomes := t.pairOutcomes.insert key (.executed metrics)
    consideredEndpoints := t.consideredEndpoints.insert key.endpointSha256
    analyzedEndpoints := t.analyzedEndpoints.insert key.endpointSha256
    resourceUse := t.resourceUse.checkedAdd metrics.resourceDelta
    findings := fun c => saturatingAdd (t.findings c) (metrics.findings c)
    currentWindowChecks := saturatingAdd t.currentWindowChecks 1
    currentWindowUniqueFindings := saturatingAdd t.currentWindowUniqueFindings (metrics.findings .unique) }

def windowFull (t : CoverageTracker) : Bool := t.currentWindowChecks == t.saturationPolicy.checksPerWindow

def pushWindow (t : CoverageTracker) : CoverageTracker :=
  let left := saturatingMulU128 t.currentWindowUniqueFindings t.saturationPolicy.yieldThresholdDenominator
  let right := saturatingMulU128 t.currentWindowChecks t.saturationPolicy.yieldThresholdNumerator
  { t with
    saturationWindows := t.saturationWindows ++
      [⟨t.currentWindowChecks, t.currentWindowUniqueFindings, decide (left < right)⟩]
    currentWindowChecks := 0
    currentWindowUniqueFindings := 0 }

def windowBudgetExhausted (t : CoverageTracker) : Bool :=
  decide (t.limits.maximumWindows ≤ t.saturationWindows.length)

/-- `CoverageTracker::close_saturation_window`. -/
def closeSaturationWindow : CoverageMethod Unit := do
  Method.check fun t =>
    failIf (t.windowBudgetExhausted = true) (.invalidConfig "saturation window budget was exhausted")
  Method.modify pushWindow

def closeFullWindow : CoverageMethod Unit := do
  let full ← Method.get windowFull
  if full then closeSaturationWindow else pure ()

/-- `CoverageTracker::record_execution`. -/
def recordExecution (endpoint rule : String) (metrics : ExecutionMetrics) :
    CoverageMethod Unit := do
  Method.check ensureRunning
  Method.ofExcept metrics.validate
  let key ← Method.check (validatePair endpoint rule)
  Method.check (preflightNewPair key)
  chargeResources metrics.resourceDelta
  Method.modify (commitExecution key metrics)
  closeFullWindow
  Method.modify evaluateSaturation

/-- The outcome of a skipped pair and the count of its reason. -/
def commitSkip (key : PairKey) (reason : PairSkipReason) (t : CoverageTracker) : CoverageTracker :=
  { t with
    pairOutcomes := t.pairOutcomes.insert key (.skipped reason)
    consideredEndpoints := t.consideredEndpoints.insert key.endpointSha256
    skippedByReason := t.skippedByReason.insert reason (saturatingAdd (t.skippedByReason[reason]?.getD 0) 1) }

/-- `CoverageTracker::record_skip`. -/
def recordSkip (endpoint rule : String) (reason : PairSkipReason) : CoverageMethod Unit := do
  Method.check ensureRunning
  let key ← Method.check (validatePair endpoint rule)
  Method.check (preflightNewPair key)
  Method.modify (commitSkip key reason)

/-- `CoverageTracker::theoretical_pairs`. -/
def theoreticalPairs (t : CoverageTracker) : ℕ := saturatingMul t.admittedEndpoints.size t.enabledRules.size

def stopWith (reason : RunStopReason) : CoverageMethod Unit :=
  Method.modify fun t => { t with stopReason := some reason }

/-- `CoverageTracker::mark_completed`. -/
def markCompleted : CoverageMethod Unit := do
  Method.check ensureRunning
  Method.check fun t => failIf (t.theoreticalPairs = 0 ∨ t.pairOutcomes.size ≠ t.theoreticalPairs ∨
    t.queueTelemetry.validationQueue ≠ 0 ∨ t.queueTelemetry.cleanupQueue ≠ 0) .incompleteCoverage
  stopWith .completed

/-- `CoverageTracker::cancel`. -/
def cancel : CoverageMethod Unit := do
  Method.check ensureRunning
  stopWith .cancelled

/-- `CoverageTracker::emergency_stop`. -/
def emergencyStop : CoverageMethod Unit := do
  Method.check ensureRunning
  stopWith .emergencyStop

def executedPairs (t : CoverageTracker) : ℕ := countValues PairOutcome.isExecuted t.pairOutcomes

def receiptMaterial (t : CoverageTracker) : CoverageReceipt where
  admittedEndpoints := t.admittedEndpoints.size
  consideredEndpoints := t.consideredEndpoints.size
  analyzedEndpoints := t.analyzedEndpoints.size
  untestedEndpoints := t.admittedEndpoints.size - t.consideredEndpoints.size
  enabledRules := t.enabledRules.size
  theoreticalPairs := t.theoreticalPairs
  recordedPairs := t.pairOutcomes.size
  untestedPairs := t.theoreticalPairs - t.pairOutcomes.size
  executedPairs := t.executedPairs
  skippedPairs := t.pairOutcomes.size - t.executedPairs
  skippedByReason := t.skippedByReason
  findings := t.findings
  resourceUse := t.resourceUse
  queueTelemetry := t.queueTelemetry
  saturationWindows := t.saturationWindows
  stopReason := t.stopReason
  endpointSetSha256 := hashJson (Json.texts t.admittedEndpoints.toList)
  ruleSetSha256 := hashJson (Json.texts t.enabledRules.toList)
  pairOutcomesSha256 := hashJson (.array (t.pairOutcomes.toList.map fun e => .array [e.1.toJson, e.2.toJson]))
  receiptSha256 := ""

/-- `CoverageTracker::receipt`. -/
def receipt (t : CoverageTracker) : CoverageReceipt :=
  { t.receiptMaterial with receiptSha256 := t.receiptMaterial.calculateSha256 }

end CoverageTracker

/-! ## Calls -/

/-- A call of a method that takes `&mut self`. -/
inductive CoverageCall where
  | admitEndpoint (endpoint : String)
  | enableRule (rule : String)
  | setQueueTelemetry (telemetry : QueueTelemetry)
  | recordExecution (endpoint rule : String) (metrics : ExecutionMetrics)
  | recordSkip (endpoint rule : String) (reason : PairSkipReason)
  | markCompleted
  | cancel
  | emergencyStop

inductive CoverageReply where
  /-- Whether the endpoint or the rule is a new one. -/
  | added (new : Bool)
  | done

namespace CoverageCall

open CoverageTracker

def method : CoverageCall → CoverageMethod CoverageReply
  | admitEndpoint endpoint => do
    let new ← CoverageTracker.admitEndpoint endpoint
    pure (.added new)
  | enableRule rule => do
    let new ← CoverageTracker.enableRule rule
    pure (.added new)
  | setQueueTelemetry telemetry => do
    CoverageTracker.setQueueTelemetry telemetry
    pure .done
  | recordExecution endpoint rule metrics => do
    CoverageTracker.recordExecution endpoint rule metrics
    pure .done
  | recordSkip endpoint rule reason => do
    CoverageTracker.recordSkip endpoint rule reason
    pure .done
  | markCompleted => do
    CoverageTracker.markCompleted
    pure .done
  | cancel => do
    CoverageTracker.cancel
    pure .done
  | emergencyStop => do
    CoverageTracker.emergencyStop
    pure .done

end CoverageCall

def CoverageTracker.step (t : CoverageTracker) (call : CoverageCall) :
    Option (Except CoverageError CoverageReply × CoverageTracker) :=
  some (call.method t)

end BoundSeal.Analyzers

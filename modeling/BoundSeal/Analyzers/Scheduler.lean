import BoundSeal.Analyzers.Coverage
import BoundSeal.Rust.Files

/-!
# The adaptive rule scheduler (`adaptive_scheduler` of `nxb-passive-analyzers`)

Work items for pairs of an endpoint and a rule are queued with a reservation of
requests and mutations, leased in the order of a score that learns from the
findings of each rule, and end completed, failed or expired. A method of the
source that takes `&mut self` is a `Method`; `expire_authorizations` and
`expire_leases`, which cannot fail, are functions on the state.

`sort_by` is a stable sort; the order it sorts by is total, so insertion sort
gives the same list.
-/

namespace BoundSeal.Analyzers

open Rust Lib

/-! ## Data -/

/-- `SCHEDULER_SCORE_SCALE`. -/
def schedulerScoreScale : ℕ := 1000000000

/-- `MAX_SCHEDULER_RULES`. -/
def maxSchedulerRules : ℕ := 100000

/-- `MAX_SCHEDULER_PAIRS`. -/
def maxSchedulerPairs : ℕ := 10000000

/-- `MAX_SCHEDULER_IN_FLIGHT`. -/
def maxSchedulerInFlight : ℕ := 1000000

/-- `MAX_RULE_WEIGHT`. -/
def maxRuleWeight : ℕ := 10000

/-- `MAX_ITEM_COST`. -/
def maxItemCost : ℕ := 1000000000000

/-- `MAX_LEASE_SECONDS`. -/
def maxLeaseSeconds : ℤ := 86400

/-- The name of a reason in a message (`{:?}`). -/
def RunStopReason.debug : RunStopReason → String
  | completed => "Completed"
  | saturated => "Saturated"
  | memoryBudget => "MemoryBudget"
  | evidenceBudget => "EvidenceBudget"
  | diskBudget => "DiskBudget"
  | requestBudget => "RequestBudget"
  | timeBudget => "TimeBudget"
  | cancelled => "Cancelled"
  | emergencyStop => "EmergencyStop"

inductive SchedulerError where
  | invalidConfig (message : String)
  | invalidInput (message : String)
  | ruleUnknown
  | pairDuplicate
  | queueBudget
  | requestReservationBudget
  | mutationReservationBudget
  | inFlightBudget
  | authorizationExpired
  | runStopped (reason : RunStopReason)
  | noWork
  | leaseUnknown
  | leaseExpired
  | metricMismatch
  | receiptDigest
  deriving DecidableEq

def SchedulerError.display : SchedulerError → String
  | invalidConfig message => s!"scheduler configuration is invalid: {message}"
  | invalidInput message => s!"scheduler input is invalid: {message}"
  | ruleUnknown => "scheduler rule is not registered"
  | pairDuplicate => "scheduler pair was already observed"
  | queueBudget => "scheduler queue budget was exhausted"
  | requestReservationBudget => "scheduler request reservation budget was exhausted"
  | mutationReservationBudget => "scheduler mutation reservation budget was exhausted"
  | inFlightBudget => "scheduler in-flight budget was exhausted"
  | authorizationExpired => "work authorization has expired"
  | runStopped reason => s!"scheduler is stopped: {reason.debug}"
  | noWork => "no schedulable work remains"
  | leaseUnknown => "lease is unknown"
  | leaseExpired => "lease has expired"
  | metricMismatch => "scheduler metrics are inconsistent"
  | receiptDigest => "scheduler receipt digest mismatch"

structure SchedulerLimits where
  maximumRules : ℕ
  maximumKnownPairs : ℕ
  maximumQueuedPairs : ℕ
  maximumInFlight : ℕ
  maximumOutstandingRequestReservations : ℕ
  maximumOutstandingMutationReservations : ℕ
  leaseSeconds : ℤ

/-- `SchedulerLimits::validate`. -/
def SchedulerLimits.validate (limits : SchedulerLimits) : Except SchedulerError Unit :=
  failIf (limits.maximumRules = 0 ∨ limits.maximumRules > maxSchedulerRules ∨
    limits.maximumKnownPairs = 0 ∨ limits.maximumKnownPairs > maxSchedulerPairs ∨
    limits.maximumQueuedPairs = 0 ∨ limits.maximumQueuedPairs > limits.maximumKnownPairs ∨
    limits.maximumInFlight = 0 ∨ limits.maximumInFlight > maxSchedulerInFlight ∨
    limits.maximumOutstandingRequestReservations = 0 ∨
    limits.maximumOutstandingMutationReservations = 0 ∨
    limits.leaseSeconds ≤ 0 ∨ limits.leaseSeconds > maxLeaseSeconds)
    (.invalidConfig "one or more scheduler limits are outside policy")

structure RuleProfile where
  ruleId : String
  severityWeight : ℕ
  confidenceWeight : ℕ
  basePriorityWeight : ℕ
  minimumCostUnits : ℕ
  deriving DecidableEq

namespace RuleProfile

/-- `RuleProfile::validate`. -/
def validate (profile : RuleProfile) : Except SchedulerError Unit := do
  failIf (isRuleId profile.ruleId = false) (.invalidInput "rule_id")
  failIf (profile.severityWeight = 0 ∨ profile.severityWeight > maxRuleWeight ∨
    profile.confidenceWeight = 0 ∨ profile.confidenceWeight > maxRuleWeight ∨
    profile.basePriorityWeight = 0 ∨ profile.basePriorityWeight > maxRuleWeight ∨
    profile.minimumCostUnits = 0 ∨ profile.minimumCostUnits > maxItemCost)
    (.invalidInput "rule profile bounds")

def toJson (profile : RuleProfile) : Json :=
  .object [("rule_id", .text profile.ruleId), ("severity_weight", .integer profile.severityWeight),
    ("confidence_weight", .integer profile.confidenceWeight),
    ("base_priority_weight", .integer profile.basePriorityWeight),
    ("minimum_cost_units", .integer profile.minimumCostUnits)]

end RuleProfile

structure RuleObservation where
  uniqueFindings : ℕ
  duplicateFindings : ℕ
  validatedFindings : ℕ
  rejectedFindings : ℕ
  inconclusiveFindings : ℕ
  requests : ℕ
  evidenceBytes : ℕ
  elapsedMilliseconds : ℕ
  costUnits : ℕ

/-- `RuleObservation::validate`. -/
def RuleObservation.validate (o : RuleObservation) : Except SchedulerError Unit :=
  let classified := saturatingAdd (saturatingAdd o.validatedFindings o.rejectedFindings) o.inconclusiveFindings
  failIf (classified > o.uniqueFindings ∨ o.requests = 0 ∨ o.costUnits = 0 ∨
    o.costUnits > maxItemCost) .metricMismatch

structure RuleMetrics where
  completedChecks : ℕ := 0
  uniqueFindings : ℕ := 0
  duplicateFindings : ℕ := 0
  validatedFindings : ℕ := 0
  rejectedFindings : ℕ := 0
  inconclusiveFindings : ℕ := 0
  requests : ℕ := 0
  evidenceBytes : ℕ := 0
  elapsedMilliseconds : ℕ := 0
  costUnits : ℕ := 0

namespace RuleMetrics

/-- `RuleMetrics::apply`. -/
def apply (m : RuleMetrics) (o : RuleObservation) : RuleMetrics where
  completedChecks := saturatingAdd m.completedChecks 1
  uniqueFindings := saturatingAdd m.uniqueFindings o.uniqueFindings
  duplicateFindings := saturatingAdd m.duplicateFindings o.duplicateFindings
  validatedFindings := saturatingAdd m.validatedFindings o.validatedFindings
  rejectedFindings := saturatingAdd m.rejectedFindings o.rejectedFindings
  inconclusiveFindings := saturatingAdd m.inconclusiveFindings o.inconclusiveFindings
  requests := saturatingAdd m.requests o.requests
  evidenceBytes := saturatingAdd m.evidenceBytes o.evidenceBytes
  elapsedMilliseconds := saturatingAdd m.elapsedMilliseconds o.elapsedMilliseconds
  costUnits := saturatingAdd m.costUnits o.costUnits

def toJson (m : RuleMetrics) : Json :=
  .object [("completed_checks", .integer m.completedChecks), ("unique_findings", .integer m.uniqueFindings),
    ("duplicate_findings", .integer m.duplicateFindings), ("validated_findings", .integer m.validatedFindings),
    ("rejected_findings", .integer m.rejectedFindings), ("inconclusive_findings", .integer m.inconclusiveFindings),
    ("requests", .integer m.requests), ("evidence_bytes", .integer m.evidenceBytes),
    ("elapsed_milliseconds", .integer m.elapsedMilliseconds), ("cost_units", .integer m.costUnits)]

end RuleMetrics

structure AuthorizedWorkItem where
  pair : PairKey
  planSha256 : String
  capabilitySha256 : String
  authorizationSha256 : String
  authorizationExpiresAtEpochSeconds : ℤ
  estimatedRequests : ℕ
  estimatedMutations : ℕ
  estimatedCostUnits : ℕ
  itemPriorityWeight : ℕ
  deriving DecidableEq

namespace AuthorizedWorkItem

/-- `AuthorizedWorkItem::validate`. -/
def validate (item : AuthorizedWorkItem) : Except SchedulerError Unit := do
  [(item.planSha256, "plan_sha256"), (item.capabilitySha256, "capability_sha256"),
    (item.authorizationSha256, "authorization_sha256")].forM fun (value, name) =>
      failIf (isLowerHexSha256 value = false) (.invalidInput name)
  failIf (item.authorizationExpiresAtEpochSeconds ≤ 0 ∨ item.estimatedRequests = 0 ∨
    item.estimatedRequests > maxItemCost ∨ item.estimatedMutations > maxItemCost ∨
    item.estimatedCostUnits = 0 ∨ item.estimatedCostUnits > maxItemCost ∨
    item.itemPriorityWeight = 0 ∨ item.itemPriorityWeight > maxRuleWeight)
    (.invalidInput "work item bounds")

def toJson (item : AuthorizedWorkItem) : Json :=
  .object [("pair", item.pair.toJson), ("plan_sha256", .text item.planSha256),
    ("capability_sha256", .text item.capabilitySha256), ("authorization_sha256", .text item.authorizationSha256),
    ("authorization_expires_at_epoch_seconds", .integer item.authorizationExpiresAtEpochSeconds),
    ("estimated_requests", .integer item.estimatedRequests),
    ("estimated_mutations", .integer item.estimatedMutations),
    ("estimated_cost_units", .integer item.estimatedCostUnits),
    ("item_priority_weight", .integer item.itemPriorityWeight)]

end AuthorizedWorkItem

structure RuleScore where
  fixedPointScore : ℕ
  usefulRewardUnits : ℕ
  penaltyUnits : ℕ
  accountedCostUnits : ℕ
  explorationNumerator : ℕ
  explorationDenominator : ℕ

def RuleScore.toJson (score : RuleScore) : Json :=
  .object [("fixed_point_score", .integer score.fixedPointScore),
    ("useful_reward_units", .integer score.usefulRewardUnits), ("penalty_units", .integer score.penaltyUnits),
    ("accounted_cost_units", .integer score.accountedCostUnits),
    ("exploration_numerator", .integer score.explorationNumerator),
    ("exploration_denominator", .integer score.explorationDenominator)]

structure RankedWorkItem where
  pair : PairKey
  score : RuleScore
  authorizationSha256 : String

/-- The order of the ranking: the higher score first, then the pair, then the authorization. -/
def RankedWorkItem.before (a b : RankedWorkItem) : Bool :=
  ((compare b.score.fixedPointScore a.score.fixedPointScore).then
    ((compare a.pair b.pair).then (compare a.authorizationSha256 b.authorizationSha256))) != .gt

structure ScheduleLease where
  leaseId : String
  pair : PairKey
  planSha256 : String
  capabilitySha256 : String
  authorizationSha256 : String
  score : RuleScore
  issuedAtEpochSeconds : ℤ
  expiresAtEpochSeconds : ℤ

inductive WorkFailureReason where
  | capabilityDenied
  | resourceDenied
  | dependencyUnavailable
  | cancelled
  | emergencyStop
  deriving DecidableEq

def WorkFailureReason.name : WorkFailureReason → String
  | capabilityDenied => "capability_denied"
  | resourceDenied => "resource_denied"
  | dependencyUnavailable => "dependency_unavailable"
  | cancelled => "cancelled"
  | emergencyStop => "emergency_stop"

structure LeaseState where
  item : AuthorizedWorkItem
  score : RuleScore
  expiresAtEpochSeconds : ℤ

structure SchedulerReceipt where
  registeredRules : ℕ
  knownPairs : ℕ
  queuedPairs : ℕ
  inFlightPairs : ℕ
  completedPairs : ℕ
  failedPairs : ℕ
  expiredAuthorizations : ℕ
  outstandingRequestReservations : ℕ
  outstandingMutationReservations : ℕ
  stopReason : Option RunStopReason
  profilesSha256 : String
  metricsSha256 : String
  queueSha256 : String
  inFlightSha256 : String
  terminalPairsSha256 : String
  receiptSha256 : String

namespace SchedulerReceipt

def toJson (r : SchedulerReceipt) : Json :=
  .object [("registered_rules", .integer r.registeredRules), ("known_pairs", .integer r.knownPairs),
    ("queued_pairs", .integer r.queuedPairs), ("in_flight_pairs", .integer r.inFlightPairs),
    ("completed_pairs", .integer r.completedPairs), ("failed_pairs", .integer r.failedPairs),
    ("expired_authorizations", .integer r.expiredAuthorizations),
    ("outstanding_request_reservations", .integer r.outstandingRequestReservations),
    ("outstanding_mutation_reservations", .integer r.outstandingMutationReservations),
    ("stop_reason", Json.option RunStopReason.toJson r.stopReason), ("profiles_sha256", .text r.profilesSha256),
    ("metrics_sha256", .text r.metricsSha256), ("queue_sha256", .text r.queueSha256),
    ("in_flight_sha256", .text r.inFlightSha256), ("terminal_pairs_sha256", .text r.terminalPairsSha256),
    ("receipt_sha256", .text r.receiptSha256)]

/-- The digest of a receipt: over its JSON with an empty digest. -/
def calculateSha256 (r : SchedulerReceipt) : String := hashJson { r with receiptSha256 := "" }.toJson

/-- `SchedulerReceipt::verify`. -/
def verify (r : SchedulerReceipt) : Except SchedulerError Unit :=
  failIf (r.calculateSha256 ≠ r.receiptSha256) .receiptDigest

end SchedulerReceipt

/-- The text of a lease identifier: a start, the sequence number in twenty digits, a digest. -/
def leaseIdText (start : String) (sequence : ℕ) (digest : String) : String :=
  start ++ zeroPadded 20 sequence ++ ("-" ++ String.ofList (digest.toList.take 16))

theorem length_zeroPadded_twenty {n : ℕ} (h : n ≤ u64Max) : (zeroPadded 20 n).toList.length = 20 := by
  have hlength : (Nat.toDigits 10 n).length ≤ 20 := by
    rw [Nat.length_toDigits_le_iff (by decide) (by decide)]
    exact lt_of_le_of_lt h (by decide)
  simp only [zeroPadded, String.toList_ofList, List.length_append, List.length_replicate]
  omega

/-- Identifiers with different sequence numbers differ. -/
theorem leaseIdText_injective {start digest digest' : String} {n m : ℕ} (hn : n ≤ u64Max)
    (hm : m ≤ u64Max) (h : leaseIdText start n digest = leaseIdText start m digest') : n = m := by
  have hlist := congrArg String.toList h
  simp only [leaseIdText, String.toList_append, List.append_assoc] at hlist
  have hrest := List.append_cancel_left hlist
  have hdigits := (List.append_inj hrest ((length_zeroPadded_twenty hn).trans (length_zeroPadded_twenty hm).symm)).1
  exact zeroPadded_injective 20 (String.toList_inj.mp hdigits)

/-! ## The scheduler -/

structure AdaptiveRuleScheduler where
  limits : SchedulerLimits
  profiles : BTreeMap String RuleProfile
  metrics : BTreeMap String RuleMetrics
  queued : BTreeMap PairKey AuthorizedWorkItem
  inFlight : BTreeMap String LeaseState
  knownPairs : BTreeSet PairKey
  completedPairs : BTreeSet PairKey
  failedPairs : BTreeMap PairKey WorkFailureReason
  expiredPairs : BTreeSet PairKey
  outstandingRequestReservations : ℕ
  outstandingMutationReservations : ℕ
  nextLeaseSequence : ℕ
  stopReason : Option RunStopReason

/-- A method with `&mut self`. -/
abbrev SchedulerMethod := Method SchedulerError AdaptiveRuleScheduler

namespace AdaptiveRuleScheduler

/-- `AdaptiveRuleScheduler::new`. -/
def new (limits : SchedulerLimits) : Except SchedulerError AdaptiveRuleScheduler := do
  limits.validate
  pure {
    limits := limits
    profiles := ∅
    metrics := ∅
    queued := ∅
    inFlight := ∅
    knownPairs := ∅
    completedPairs := ∅
    failedPairs := ∅
    expiredPairs := ∅
    outstandingRequestReservations := 0
    outstandingMutationReservations := 0
    nextLeaseSequence := 1
    stopReason := none }

/-- `AdaptiveRuleScheduler::ensure_running`. -/
def ensureRunning (s : AdaptiveRuleScheduler) : Except SchedulerError Unit :=
  match s.stopReason with
  | some reason => .error (.runStopped reason)
  | none => .ok ()

def insertRule (profile : RuleProfile) (s : AdaptiveRuleScheduler) : AdaptiveRuleScheduler :=
  { s with
    metrics := s.metrics.insert profile.ruleId {}
    profiles := s.profiles.insert profile.ruleId profile }

/-- `AdaptiveRuleScheduler::register_rule`. -/
def registerRule (profile : RuleProfile) : SchedulerMethod Bool := do
  Method.check ensureRunning
  Method.ofExcept profile.validate
  let existing ← Method.get fun s => s.profiles[profile.ruleId]?
  match existing with
  | some other =>
    if other = profile then
      pure false
    else
      Method.fail (.invalidInput "rule profile cannot change after registration")
  | none => do
    Method.check fun s => failIf (s.profiles.size ≥ s.limits.maximumRules) .queueBudget
    Method.modify (insertRule profile)
    pure true

/-- The checks of `enqueue` after the item itself. -/
def preflightItem (item : AuthorizedWorkItem) (now : ℤ) (s : AdaptiveRuleScheduler) : Except SchedulerError Unit := do
  failIf (item.pair.ruleId ∉ s.profiles) .ruleUnknown
  failIf (item.authorizationExpiresAtEpochSeconds ≤ now) .authorizationExpired
  failIf (item.pair ∈ s.knownPairs) .pairDuplicate
  failIf (s.knownPairs.size ≥ s.limits.maximumKnownPairs ∨ s.queued.size ≥ s.limits.maximumQueuedPairs) .queueBudget
  failIf (saturatingAdd s.outstandingRequestReservations item.estimatedRequests >
    s.limits.maximumOutstandingRequestReservations) .requestReservationBudget
  failIf (saturatingAdd s.outstandingMutationReservations item.estimatedMutations >
    s.limits.maximumOutstandingMutationReservations) .mutationReservationBudget

/-- The item joins the queue with its reservations. -/
def insertItem (item : AuthorizedWorkItem) (s : AdaptiveRuleScheduler) : AdaptiveRuleScheduler :=
  { s with
    outstandingRequestReservations := saturatingAdd s.outstandingRequestReservations item.estimatedRequests
    outstandingMutationReservations := saturatingAdd s.outstandingMutationReservations item.estimatedMutations
    knownPairs := s.knownPairs.insert item.pair
    queued := s.queued.insert item.pair item }

/-- `AdaptiveRuleScheduler::enqueue`. -/
def enqueue (item : AuthorizedWorkItem) (now : ℤ) : SchedulerMethod Unit := do
  Method.check ensureRunning
  Method.ofExcept item.validate
  Method.check (preflightItem item now)
  Method.modify (insertItem item)

/-- The score of an item, from the profile of its rule and what has been observed of the rule. -/
def scoreOf (profile : RuleProfile) (metrics : RuleMetrics) (item : AuthorizedWorkItem) : RuleScore :=
  let classified := saturatingAdd (saturatingAdd metrics.validatedFindings metrics.rejectedFindings)
    metrics.inconclusiveFindings
  let unclassified := metrics.uniqueFindings - classified
  let usefulRewardUnits := saturatingAdd (saturatingAdd (saturatingAdd 1 (saturatingMul metrics.validatedFindings 4))
    (saturatingMul unclassified 2)) metrics.inconclusiveFindings
  let penaltyUnits := saturatingAdd (saturatingAdd 1 (saturatingMul metrics.rejectedFindings 4))
    metrics.duplicateFindings
  let accountedCostUnits := saturatingAdd (saturatingAdd profile.minimumCostUnits metrics.costUnits)
    item.estimatedCostUnits
  let explorationNumerator := saturatingAdd metrics.completedChecks 4
  let explorationDenominator := saturatingAdd metrics.completedChecks 1
  let numerator := [profile.severityWeight, profile.confidenceWeight, profile.basePriorityWeight,
    item.itemPriorityWeight, explorationNumerator, schedulerScoreScale].foldl saturatingMulU128 usefulRewardUnits
  let denominator := [max accountedCostUnits 1, explorationDenominator].foldl saturatingMulU128 penaltyUnits
  { fixedPointScore := min (numerator / max denominator 1) u64Max
    usefulRewardUnits := usefulRewardUnits
    penaltyUnits := penaltyUnits
    accountedCostUnits := accountedCostUnits
    explorationNumerator := explorationNumerator
    explorationDenominator := explorationDenominator }

/-- `AdaptiveRuleScheduler::score_item`. -/
def scoreItem (s : AdaptiveRuleScheduler) (item : AuthorizedWorkItem) : Except SchedulerError RuleScore := do
  let profile ← okOr s.profiles[item.pair.ruleId]? .ruleUnknown
  pure (scoreOf profile (s.metrics[item.pair.ruleId]?.getD {}) item)

/-- `AdaptiveRuleScheduler::ranking_snapshot`. -/
def rankingSnapshot (now : ℤ) (s : AdaptiveRuleScheduler) : Except SchedulerError (List RankedWorkItem) := do
  s.ensureRunning
  let ranked ← ((values s.queued).filter fun item =>
    decide (item.authorizationExpiresAtEpochSeconds > now)).mapM fun item => do
      let score ← s.scoreItem item
      pure { pair := item.pair, score := score, authorizationSha256 := item.authorizationSha256 : RankedWorkItem }
  pure (ranked.insertionSort fun a b => a.before b)

/-- `AdaptiveRuleScheduler::release_reservations`. -/
def releaseReservations (item : AuthorizedWorkItem) (s : AdaptiveRuleScheduler) : AdaptiveRuleScheduler :=
  { s with
    outstandingRequestReservations := s.outstandingRequestReservations - item.estimatedRequests
    outstandingMutationReservations := s.outstandingMutationReservations - item.estimatedMutations }

def insertExpired (pair : PairKey) (s : AdaptiveRuleScheduler) : AdaptiveRuleScheduler :=
  { s with expiredPairs := s.expiredPairs.insert pair }

def eraseQueued (pair : PairKey) (s : AdaptiveRuleScheduler) : AdaptiveRuleScheduler :=
  { s with queued := s.queued.erase pair }

def eraseLease (leaseId : String) (s : AdaptiveRuleScheduler) : AdaptiveRuleScheduler :=
  { s with inFlight := s.inFlight.erase leaseId }

def expirePair (s : AdaptiveRuleScheduler) (pair : PairKey) : AdaptiveRuleScheduler :=
  match s.queued[pair]? with
  | some item => insertExpired pair (releaseReservations item (eraseQueued pair s))
  | none => s

/-- The queued pairs whose authorization has expired. -/
def expiredAuthorizations (now : ℤ) (s : AdaptiveRuleScheduler) : List PairKey :=
  (s.queued.toList.filter fun e => decide (e.2.authorizationExpiresAtEpochSeconds ≤ now)).map (·.1)

/-- The state `AdaptiveRuleScheduler::expire_authorizations` leaves. -/
def expireAuthorizations (now : ℤ) (s : AdaptiveRuleScheduler) : AdaptiveRuleScheduler :=
  (s.expiredAuthorizations now).foldl expirePair s

def expireLease (s : AdaptiveRuleScheduler) (leaseId : String) : AdaptiveRuleScheduler :=
  match s.inFlight[leaseId]? with
  | some state => insertExpired state.item.pair (releaseReservations state.item (eraseLease leaseId s))
  | none => s

def expiredLeases (now : ℤ) (s : AdaptiveRuleScheduler) : List String :=
  (s.inFlight.toList.filter fun e => decide (e.2.expiresAtEpochSeconds ≤ now)).map (·.1)

/-- The state `AdaptiveRuleScheduler::expire_leases` leaves. -/
def expireLeases (now : ℤ) (s : AdaptiveRuleScheduler) : AdaptiveRuleScheduler :=
  (s.expiredLeases now).foldl expireLease s

/-- `queued.remove(pair).ok_or(NoWork)`. -/
def takeQueued (pair : PairKey) : SchedulerMethod AuthorizedWorkItem := do
  let item ← Method.check fun s => okOr s.queued[pair]? .noWork
  Method.modify (eraseQueued pair)
  pure item

/-- `in_flight.remove(lease_id).ok_or(LeaseUnknown)`. -/
def takeLease (leaseId : String) : SchedulerMethod LeaseState := do
  let state ← Method.check fun s => okOr s.inFlight[leaseId]? .leaseUnknown
  Method.modify (eraseLease leaseId)
  pure state

def leaseHash (sequence : ℕ) (item : AuthorizedWorkItem) (now expires : ℤ) : String :=
  hashJson (.array [.integer sequence, item.pair.toJson, .text item.authorizationSha256,
    .integer now, .integer expires])

def nextLeaseId (item : AuthorizedWorkItem) (now expires : ℤ) (s : AdaptiveRuleScheduler) : String :=
  leaseIdText "lease-" s.nextLeaseSequence (leaseHash s.nextLeaseSequence item now expires)

def insertLease (leaseId : String) (state : LeaseState) (s : AdaptiveRuleScheduler) : AdaptiveRuleScheduler :=
  { s with
    nextLeaseSequence := saturatingAdd s.nextLeaseSequence 1
    inFlight := s.inFlight.insert leaseId state }

/-- The last part of `lease_next`: a lease for an item that was taken from the queue. -/
def issueLease (item : AuthorizedWorkItem) (score : RuleScore) (now expires : ℤ) :
    SchedulerMethod ScheduleLease := do
  let leaseId ← Method.get (nextLeaseId item now expires)
  Method.modify (insertLease leaseId ⟨item, score, expires⟩)
  pure {
    leaseId := leaseId
    pair := item.pair
    planSha256 := item.planSha256
    capabilitySha256 := item.capabilitySha256
    authorizationSha256 := item.authorizationSha256
    score := score
    issuedAtEpochSeconds := now
    expiresAtEpochSeconds := expires }

def leaseExpiry (item : AuthorizedWorkItem) (now : ℤ) (s : AdaptiveRuleScheduler) : ℤ :=
  min item.authorizationExpiresAtEpochSeconds (saturatingAddI64 now s.limits.leaseSeconds)

/-- The reservation is given back, and the pair has expired. -/
def retireExpired (item : AuthorizedWorkItem) : SchedulerMethod Unit := do
  Method.modify (releaseReservations item)
  Method.modify (insertExpired item.pair)

/-- `AdaptiveRuleScheduler::lease_next`. -/
def leaseNext (now : ℤ) : SchedulerMethod ScheduleLease := do
  Method.check ensureRunning
  Method.modify (expireAuthorizations now)
  Method.modify (expireLeases now)
  Method.check fun s => failIf (s.inFlight.size ≥ s.limits.maximumInFlight) .inFlightBudget
  let ranked ← Method.check (rankingSnapshot now)
  let selected ← Method.ofExcept (okOr ranked.head? .noWork)
  let item ← takeQueued selected.pair
  let expires ← Method.get (leaseExpiry item now)
  if expires ≤ now then do
    retireExpired item
    Method.fail .authorizationExpired
  else
    issueLease item selected.score now expires

/-- The observation is added to the metrics of the rule. -/
def applyObservation (rule : String) (observation : RuleObservation) :
    SchedulerMethod Unit := do
  let metrics ← Method.check fun s => okOr s.metrics[rule]? .ruleUnknown
  Method.modify fun s => { s with metrics := s.metrics.insert rule (metrics.apply observation) }

def insertCompleted (pair : PairKey) (s : AdaptiveRuleScheduler) : AdaptiveRuleScheduler :=
  { s with completedPairs := s.completedPairs.insert pair }

/-- `AdaptiveRuleScheduler::complete_lease`. -/
def completeLease (leaseId : String) (observation : RuleObservation) (now : ℤ) :
    SchedulerMethod Unit := do
  Method.check ensureRunning
  Method.ofExcept observation.validate
  let state ← takeLease leaseId
  if now ≥ state.expiresAtEpochSeconds then do
    retireExpired state.item
    Method.fail .leaseExpired
  else do
    Method.modify (releaseReservations state.item)
    applyObservation state.item.pair.ruleId observation
    Method.modify (insertCompleted state.item.pair)

def insertFailed (pair : PairKey) (reason : WorkFailureReason) (s : AdaptiveRuleScheduler) :
    AdaptiveRuleScheduler :=
  { s with failedPairs := s.failedPairs.insert pair reason }

/-- `AdaptiveRuleScheduler::fail_lease`. -/
def failLease (leaseId : String) (reason : WorkFailureReason) (now : ℤ) :
    SchedulerMethod Unit := do
  Method.check ensureRunning
  let state ← takeLease leaseId
  Method.modify (releaseReservations state.item)
  if now ≥ state.expiresAtEpochSeconds then do
    Method.modify (insertExpired state.item.pair)
    Method.fail .leaseExpired
  else
    Method.modify (insertFailed state.item.pair reason)

/-- `AdaptiveRuleScheduler::apply_run_stop`. -/
def applyRunStop (reason : RunStopReason) : SchedulerMethod Unit := do
  Method.check ensureRunning
  Method.modify fun s => { s with stopReason := some reason }

def receiptMaterial (s : AdaptiveRuleScheduler) : SchedulerReceipt where
  registeredRules := s.profiles.size
  knownPairs := s.knownPairs.size
  queuedPairs := s.queued.size
  inFlightPairs := s.inFlight.size
  completedPairs := s.completedPairs.size
  failedPairs := s.failedPairs.size
  expiredAuthorizations := s.expiredPairs.size
  outstandingRequestReservations := s.outstandingRequestReservations
  outstandingMutationReservations := s.outstandingMutationReservations
  stopReason := s.stopReason
  profilesSha256 := hashJson (.object (s.profiles.toList.map fun e => (e.1, e.2.toJson)))
  metricsSha256 := hashJson (.object (s.metrics.toList.map fun e => (e.1, e.2.toJson)))
  queueSha256 := hashJson (.array (s.queued.toList.map fun e => .array [e.1.toJson, e.2.toJson]))
  inFlightSha256 := hashJson (.array (s.inFlight.toList.map fun e =>
    .array [.text e.1, e.2.item.toJson, e.2.score.toJson, .integer e.2.expiresAtEpochSeconds]))
  terminalPairsSha256 := hashJson (.array [.array (s.completedPairs.toList.map PairKey.toJson),
    .array (s.failedPairs.toList.map fun e => .array [e.1.toJson, .text e.2.name]),
    .array (s.expiredPairs.toList.map PairKey.toJson)])
  receiptSha256 := ""

/-- `AdaptiveRuleScheduler::receipt`. -/
def receipt (s : AdaptiveRuleScheduler) : SchedulerReceipt :=
  { s.receiptMaterial with receiptSha256 := s.receiptMaterial.calculateSha256 }

end AdaptiveRuleScheduler

/-! ## Calls -/

inductive SchedulerCall where
  | registerRule (profile : RuleProfile)
  | enqueue (item : AuthorizedWorkItem) (now : ℤ)
  | rankingSnapshot (now : ℤ)
  | leaseNext (now : ℤ)
  | completeLease (leaseId : String) (observation : RuleObservation) (now : ℤ)
  | failLease (leaseId : String) (reason : WorkFailureReason) (now : ℤ)
  | expireAuthorizations (now : ℤ)
  | expireLeases (now : ℤ)
  | applyRunStop (reason : RunStopReason)
  | metrics (rule : String)
  | receipt

inductive SchedulerReply where
  | registered (new : Bool)
  | ranking (ranked : List RankedWorkItem)
  | leased (lease : ScheduleLease)
  | expiredPairs (pairs : List PairKey)
  | expiredLeases (leases : List String)
  | metrics (metrics : Option RuleMetrics)
  | receipt (receipt : SchedulerReceipt)
  | done

namespace SchedulerCall

def method : SchedulerCall → SchedulerMethod SchedulerReply
  | registerRule profile => do
    let new ← AdaptiveRuleScheduler.registerRule profile
    pure (.registered new)
  | enqueue item now => do
    AdaptiveRuleScheduler.enqueue item now
    pure .done
  | rankingSnapshot now => do
    let ranked ← Method.check (AdaptiveRuleScheduler.rankingSnapshot now)
    pure (.ranking ranked)
  | leaseNext now => do
    let lease ← AdaptiveRuleScheduler.leaseNext now
    pure (.leased lease)
  | completeLease leaseId observation now => do
    AdaptiveRuleScheduler.completeLease leaseId observation now
    pure .done
  | failLease leaseId reason now => do
    AdaptiveRuleScheduler.failLease leaseId reason now
    pure .done
  | expireAuthorizations now => do
    let pairs ← Method.get (AdaptiveRuleScheduler.expiredAuthorizations now)
    Method.modify (AdaptiveRuleScheduler.expireAuthorizations now)
    pure (.expiredPairs pairs)
  | expireLeases now => do
    let leases ← Method.get (AdaptiveRuleScheduler.expiredLeases now)
    Method.modify (AdaptiveRuleScheduler.expireLeases now)
    pure (.expiredLeases leases)
  | applyRunStop reason => do
    AdaptiveRuleScheduler.applyRunStop reason
    pure .done
  | metrics rule => do
    let found ← Method.get fun s => s.metrics[rule]?
    pure (.metrics found)
  | receipt => do
    let r ← Method.get AdaptiveRuleScheduler.receipt
    pure (.receipt r)

end SchedulerCall

def AdaptiveRuleScheduler.step (s : AdaptiveRuleScheduler) (call : SchedulerCall) :
    Option (Except SchedulerError SchedulerReply × AdaptiveRuleScheduler) :=
  some (call.method s)

end BoundSeal.Analyzers

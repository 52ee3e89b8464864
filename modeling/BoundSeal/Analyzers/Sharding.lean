import BoundSeal.Analyzers.Scheduler

/-!
# The shard coordinator (`deterministic_sharding` of `nxb-passive-analyzers`)

Work items are assigned to shards by a digest of their origin, queued there with
a reservation of resources, leased shard by shard, and end completed, failed or
expired. Reservations and usage are kept twice: for each shard and globally. A
method of the source that takes `&mut self` is a `Method`: an error keeps what
was changed before it, and several methods change something and then fail.

The six resources are one function of `ShardResource`. `shards.get_mut(id)` with
`ok_or(ShardUnknown)` is `updateShard`.
-/

namespace BoundSeal.Analyzers

open Rust Lib

/-! ## Data -/

/-- `MAX_SHARD_COUNT`. -/
def maxShardCount : ℕ := 4096

/-- `MAX_SHARDED_PAIRS`. -/
def maxShardedPairs : ℕ := 100000000

/-- `MAX_SHARD_IN_FLIGHT`. -/
def maxShardInFlight : ℕ := 1000000

/-- `MAX_SHARD_LEASE_SECONDS`. -/
def maxShardLeaseSeconds : ℤ := 86400

/-- `MAX_RESOURCE_UNITS`. -/
def maxResourceUnits : ℕ := 1000000000000000

inductive ShardingError where
  | invalidConfig (message : String)
  | invalidInput (message : String)
  | pairDuplicate
  | originPartitionConflict
  | globalQueueBudget
  | shardQueueBudget
  | globalResourceBudget
  | shardResourceBudget
  | shardUnknown
  | shardInFlightBudget
  | authorizationExpired
  | runStopped (reason : RunStopReason)
  | noWork
  | leaseUnknown
  | leaseExpired
  | usageExceedsReservation
  | invalidFindingId
  | receiptDigest
  deriving DecidableEq

/-- The fields of `ShardResources`. -/
inductive ShardResource where
  | requests
  | mutations
  | accountedMemoryBytes
  | evidenceBytes
  | diskBytes
  | elapsedMilliseconds
  deriving DecidableEq

namespace ShardResource

def all : List ShardResource :=
  [requests, mutations, accountedMemoryBytes, evidenceBytes, diskBytes, elapsedMilliseconds]

def name : ShardResource → String
  | requests => "requests"
  | mutations => "mutations"
  | accountedMemoryBytes => "accounted_memory_bytes"
  | evidenceBytes => "evidence_bytes"
  | diskBytes => "disk_bytes"
  | elapsedMilliseconds => "elapsed_milliseconds"

theorem mem_all (resource : ShardResource) : resource ∈ all := by
  cases resource <;> decide

instance : Fintype ShardResource := Fintype.ofList all mem_all

end ShardResource

abbrev ShardResources := ShardResource → ℕ

namespace ShardResources

/-- `ShardResources::validate`. -/
def validate (r : ShardResources) : Except ShardingError Unit :=
  failIf (∃ i, r i > maxResourceUnits) (.invalidInput "resource value exceeds architecture guard")

/-- `ShardResources::checked_add`. -/
def checkedAdd (r other : ShardResources) : ShardResources := fun i => saturatingAdd (r i) (other i)

/-- `ShardResources::checked_sub`. -/
def checkedSub (r other : ShardResources) : ShardResources := fun i => r i - other i

/-- `ShardResources::exceeds`. -/
def exceeds (r budget : ShardResources) : Bool := decide (∃ i, r i > budget i)

/-- `resources_within`. -/
def within (usage reservation : ShardResources) : Bool := decide (∀ i, usage i ≤ reservation i)

def toJson (r : ShardResources) : Json := .object (ShardResource.all.map fun i => (i.name, .integer (r i)))

end ShardResources

structure ShardLimits where
  shardCount : ℕ
  maximumGlobalPairs : ℕ
  maximumPairsPerShard : ℕ
  maximumInFlightPerShard : ℕ
  leaseSeconds : ℤ
  globalResourceBudget : ShardResources
  perShardResourceBudget : ShardResources

/-- `ShardLimits::validate`. -/
def ShardLimits.validate (limits : ShardLimits) : Except ShardingError Unit := do
  limits.globalResourceBudget.validate
  limits.perShardResourceBudget.validate
  failIf (limits.shardCount = 0 ∨ limits.shardCount > maxShardCount ∨
    limits.maximumGlobalPairs = 0 ∨ limits.maximumGlobalPairs > maxShardedPairs ∨
    limits.maximumPairsPerShard = 0 ∨ limits.maximumPairsPerShard > limits.maximumGlobalPairs ∨
    limits.maximumInFlightPerShard = 0 ∨ limits.maximumInFlightPerShard > maxShardInFlight ∨
    limits.leaseSeconds ≤ 0 ∨ limits.leaseSeconds > maxShardLeaseSeconds ∨
    limits.perShardResourceBudget.exceeds limits.globalResourceBudget = true)
    (.invalidConfig "one or more sharding limits are outside policy")

/-- `validate_shard_sha256`. -/
def validateShardSha256 (value : String) : Except ShardingError Unit :=
  failIf (isLowerHexSha256 value = false) (.invalidInput "SHA-256 field")

structure ShardedWorkItem where
  originSha256 : String
  sessionPartitionSha256 : String
  credentialPartitionSha256 : String
  work : AuthorizedWorkItem
  resourceReservation : ShardResources

namespace ShardedWorkItem

/-- `ShardedWorkItem::validate`. -/
def validate (item : ShardedWorkItem) : Except ShardingError Unit := do
  [item.originSha256, item.sessionPartitionSha256, item.credentialPartitionSha256].forM validateShardSha256
  item.work.validate.mapError fun e => .invalidInput s!"authorized work item: {e.display}"
  item.resourceReservation.validate
  failIf (item.resourceReservation .requests < item.work.estimatedRequests ∨
    item.resourceReservation .mutations < item.work.estimatedMutations ∨
    item.resourceReservation .requests = 0)
    (.invalidInput "resource reservation does not cover authorized work")

def toJson (item : ShardedWorkItem) : Json :=
  .object [("origin_sha256", .text item.originSha256),
    ("session_partition_sha256", .text item.sessionPartitionSha256),
    ("credential_partition_sha256", .text item.credentialPartitionSha256), ("work", item.work.toJson),
    ("resource_reservation", item.resourceReservation.toJson)]

end ShardedWorkItem

structure ShardAssignment where
  shardId : ℕ
  originSha256 : String
  pair : PairKey
  assignmentSha256 : String
  deriving DecidableEq

structure ShardLease where
  leaseId : String
  shardId : ℕ
  originSha256 : String
  pair : PairKey
  planSha256 : String
  capabilitySha256 : String
  authorizationSha256 : String
  sessionPartitionSha256 : String
  credentialPartitionSha256 : String
  reservation : ShardResources
  issuedAtEpochSeconds : ℤ
  expiresAtEpochSeconds : ℤ

structure ShardExecutionResult where
  usage : ShardResources
  findingIds : BTreeSet String

/-- `ShardExecutionResult::validate`. -/
def ShardExecutionResult.validate (result : ShardExecutionResult) : Except ShardingError Unit := do
  result.usage.validate
  result.findingIds.toList.forM fun id => (validateShardSha256 id).mapError fun _ => .invalidFindingId

structure OriginBinding where
  shardId : ℕ
  sessionPartitionSha256 : String
  credentialPartitionSha256 : String

structure ShardLeaseState where
  item : ShardedWorkItem
  expiresAtEpochSeconds : ℤ

structure ShardState where
  queued : BTreeMap PairKey ShardedWorkItem := ∅
  inFlight : BTreeMap String ShardLeaseState := ∅
  completedPairs : BTreeSet PairKey := ∅
  failedPairs : BTreeSet PairKey := ∅
  expiredPairs : BTreeSet PairKey := ∅
  reservedResources : ShardResources := fun _ => 0
  usedResources : ShardResources := fun _ => 0
  acceptedUniqueFindings : ℕ := 0
  duplicateFindings : ℕ := 0

structure ShardSummary where
  shardId : ℕ
  queuedPairs : ℕ
  inFlightPairs : ℕ
  completedPairs : ℕ
  failedPairs : ℕ
  expiredPairs : ℕ
  reservedResources : ShardResources
  usedResources : ShardResources
  acceptedUniqueFindings : ℕ
  duplicateFindings : ℕ
  stateSha256 : String

def ShardSummary.toJson (s : ShardSummary) : Json :=
  .object [("shard_id", .integer s.shardId), ("queued_pairs", .integer s.queuedPairs),
    ("in_flight_pairs", .integer s.inFlightPairs), ("completed_pairs", .integer s.completedPairs),
    ("failed_pairs", .integer s.failedPairs), ("expired_pairs", .integer s.expiredPairs),
    ("reserved_resources", s.reservedResources.toJson), ("used_resources", s.usedResources.toJson),
    ("accepted_unique_findings", .integer s.acceptedUniqueFindings),
    ("duplicate_findings", .integer s.duplicateFindings), ("state_sha256", .text s.stateSha256)]

structure ShardingReceipt where
  shardCount : ℕ
  originBindings : ℕ
  ownedPairs : ℕ
  queuedPairs : ℕ
  inFlightPairs : ℕ
  completedPairs : ℕ
  failedPairs : ℕ
  expiredPairs : ℕ
  globalReservedResources : ShardResources
  globalUsedResources : ShardResources
  globalUniqueFindings : ℕ
  globalDuplicateFindings : ℕ
  stopReason : Option RunStopReason
  shardSummaries : List ShardSummary
  ownershipSha256 : String
  originBindingsSha256 : String
  globalFindingsSha256 : String
  receiptSha256 : String

namespace ShardingReceipt

def toJson (r : ShardingReceipt) : Json :=
  .object [("shard_count", .integer r.shardCount), ("origin_bindings", .integer r.originBindings),
    ("owned_pairs", .integer r.ownedPairs), ("queued_pairs", .integer r.queuedPairs),
    ("in_flight_pairs", .integer r.inFlightPairs), ("completed_pairs", .integer r.completedPairs),
    ("failed_pairs", .integer r.failedPairs), ("expired_pairs", .integer r.expiredPairs),
    ("global_reserved_resources", r.globalReservedResources.toJson),
    ("global_used_resources", r.globalUsedResources.toJson),
    ("global_unique_findings", .integer r.globalUniqueFindings),
    ("global_duplicate_findings", .integer r.globalDuplicateFindings),
    ("stop_reason", Json.option RunStopReason.toJson r.stopReason),
    ("shard_summaries", .array (r.shardSummaries.map ShardSummary.toJson)),
    ("ownership_sha256", .text r.ownershipSha256), ("origin_bindings_sha256", .text r.originBindingsSha256),
    ("global_findings_sha256", .text r.globalFindingsSha256), ("receipt_sha256", .text r.receiptSha256)]

/-- The digest of a receipt: over its JSON with an empty digest. -/
def calculateSha256 (r : ShardingReceipt) : String := hashJson { r with receiptSha256 := "" }.toJson

/-- `ShardingReceipt::verify`. -/
def verify (r : ShardingReceipt) : Except ShardingError Unit :=
  failIf (r.calculateSha256 ≠ r.receiptSha256) .receiptDigest

end ShardingReceipt

def hexDigitValue (c : Char) : Option ℕ :=
  if '0' ≤ c ∧ c ≤ '9' then some (c.toNat - '0'.toNat)
  else if 'a' ≤ c ∧ c ≤ 'f' then some (c.toNat - 'a'.toNat + 10)
  else if 'A' ≤ c ∧ c ≤ 'F' then some (c.toNat - 'A'.toNat + 10)
  else none

/-- `u64::from_str_radix(_, 16)` of at most sixteen digits. -/
def fromStrRadix16 (digits : List Char) : Option ℕ :=
  if digits = [] then none
  else digits.foldlM (fun value c => (hexDigitValue c).map fun d => value * 16 + d) 0

/-- `shard_index_from_digest`. -/
def shardIndexFromDigest (digest : String) (shardCount : ℕ) : Except ShardingError ℕ := do
  validateShardSha256 digest
  let start ← okOr (fromStrRadix16 (digest.toList.take 16)) (.invalidInput "shard digest prefix")
  pure (start % shardCount)

/-! ## The coordinator -/

structure DeterministicShardCoordinator where
  limits : ShardLimits
  runPartitionSha256 : String
  shards : BTreeMap ℕ ShardState
  originBindings : BTreeMap String OriginBinding
  pairOwners : BTreeMap PairKey ℕ
  globalFindingIds : BTreeSet String
  globalDuplicateFindings : ℕ
  globalReservedResources : ShardResources
  globalUsedResources : ShardResources
  nextLeaseSequence : ℕ
  stopReason : Option RunStopReason

/-- A method with `&mut self`. -/
abbrev ShardingMethod := Method ShardingError DeterministicShardCoordinator

namespace DeterministicShardCoordinator

/-- `DeterministicShardCoordinator::new`. -/
def new (limits : ShardLimits) (runPartitionSha256 : String) : Except ShardingError DeterministicShardCoordinator := do
  limits.validate
  validateShardSha256 runPartitionSha256
  pure {
    limits := limits
    runPartitionSha256 := runPartitionSha256
    shards := Std.ExtTreeMap.ofList ((List.range limits.shardCount).map fun shardId => (shardId, {})) compare
    originBindings := ∅
    pairOwners := ∅
    globalFindingIds := ∅
    globalDuplicateFindings := 0
    globalReservedResources := fun _ => 0
    globalUsedResources := fun _ => 0
    nextLeaseSequence := 1
    stopReason := none }

/-- `DeterministicShardCoordinator::ensure_running`. -/
def ensureRunning (c : DeterministicShardCoordinator) : Except ShardingError Unit :=
  match c.stopReason with
  | some reason => .error (.runStopped reason)
  | none => .ok ()

/-- `shards.get(&shard_id).ok_or(ShardUnknown)`. -/
def shardOf (shardId : ℕ) (c : DeterministicShardCoordinator) : Except ShardingError ShardState :=
  okOr c.shards[shardId]? .shardUnknown

def putShard (shardId : ℕ) (shard : ShardState) (c : DeterministicShardCoordinator) : DeterministicShardCoordinator :=
  { c with shards := c.shards.insert shardId shard }

/-- `shards.get_mut(&shard_id).ok_or(ShardUnknown)`, and a change of the shard. -/
def updateShard (shardId : ℕ) (f : ShardState → ShardState) :
    ShardingMethod Unit := do
  let shard ← Method.check (shardOf shardId)
  Method.modify (putShard shardId (f shard))

/-- `DeterministicShardCoordinator::assignment_for_origin`. -/
def assignmentForOrigin (originSha256 : String) (pair : PairKey)
    (c : DeterministicShardCoordinator) : Except ShardingError ShardAssignment := do
  validateShardSha256 originSha256
  let digest := hashJson (.array [.text "nxb-shard-v1", .text c.runPartitionSha256, .text originSha256])
  let shardId ← shardIndexFromDigest digest c.limits.shardCount
  let assignmentSha256 := hashJson (.array [.integer shardId, .text originSha256, pair.toJson, .text digest])
  pure { shardId := shardId, originSha256 := originSha256, pair := pair, assignmentSha256 := assignmentSha256 }

/-- The checks of `enqueue` on the pair. -/
def preflightPair (item : ShardedWorkItem) (now : ℤ) (c : DeterministicShardCoordinator) :
    Except ShardingError Unit := do
  failIf (item.work.authorizationExpiresAtEpochSeconds ≤ now) .authorizationExpired
  failIf (item.work.pair ∈ c.pairOwners) .pairDuplicate
  failIf (c.pairOwners.size ≥ c.limits.maximumGlobalPairs) .globalQueueBudget

/-- Whether a binding is another one than the item's. -/
def conflicts (item : ShardedWorkItem) (shardId : ℕ) (binding : OriginBinding) : Bool :=
  binding.shardId != shardId || binding.sessionPartitionSha256 != item.sessionPartitionSha256 ||
    binding.credentialPartitionSha256 != item.credentialPartitionSha256

/-- The check of `enqueue` on the origin. -/
def preflightOrigin (item : ShardedWorkItem) (shardId : ℕ) (c : DeterministicShardCoordinator) :
    Except ShardingError Unit :=
  failIf (c.originBindings[item.originSha256]?.any (conflicts item shardId) = true) .originPartitionConflict

def knownInShard (shard : ShardState) : ℕ :=
  shard.queued.size + shard.inFlight.size + shard.completedPairs.size + shard.failedPairs.size +
    shard.expiredPairs.size

/-- The checks of `enqueue` on the budgets. -/
def preflightBudgets (item : ShardedWorkItem) (shard : ShardState)
    (c : DeterministicShardCoordinator) : Except ShardingError Unit := do
  failIf (knownInShard shard ≥ c.limits.maximumPairsPerShard) .shardQueueBudget
  failIf (((c.globalUsedResources.checkedAdd c.globalReservedResources).checkedAdd item.resourceReservation).exceeds
    c.limits.globalResourceBudget = true) .globalResourceBudget
  failIf (((shard.usedResources.checkedAdd shard.reservedResources).checkedAdd item.resourceReservation).exceeds
    c.limits.perShardResourceBudget = true) .shardResourceBudget

/-- The binding of the origin, the owner of the pair, and the global reservation. -/
def bindItem (item : ShardedWorkItem) (shardId : ℕ) (c : DeterministicShardCoordinator) :
    DeterministicShardCoordinator :=
  { c with
    originBindings := c.originBindings.insertIfNew item.originSha256
      ⟨shardId, item.sessionPartitionSha256, item.credentialPartitionSha256⟩
    pairOwners := c.pairOwners.insert item.work.pair shardId
    globalReservedResources := c.globalReservedResources.checkedAdd item.resourceReservation }

/-- The item in the queue of its shard, with its reservation. -/
def queueItem (item : ShardedWorkItem) (shard : ShardState) : ShardState :=
  { shard with
    reservedResources := shard.reservedResources.checkedAdd item.resourceReservation
    queued := shard.queued.insert item.work.pair item }

/-- `DeterministicShardCoordinator::enqueue`. -/
def enqueue (item : ShardedWorkItem) (now : ℤ) :
    ShardingMethod ShardAssignment := do
  Method.check ensureRunning
  Method.ofExcept item.validate
  Method.check (preflightPair item now)
  let assignment ← Method.check (assignmentForOrigin item.originSha256 item.work.pair)
  Method.check (preflightOrigin item assignment.shardId)
  let shard ← Method.check (shardOf assignment.shardId)
  Method.check (preflightBudgets item shard)
  Method.modify (bindItem item assignment.shardId)
  updateShard assignment.shardId (queueItem item)
  pure assignment

/-- The global half of `release_reservation`. -/
def releaseGlobal (reservation : ShardResources) (c : DeterministicShardCoordinator) : DeterministicShardCoordinator :=
  { c with globalReservedResources := c.globalReservedResources.checkedSub reservation }

/-- The shard's half of `release_reservation`. -/
def releaseShard (reservation : ShardResources) (shard : ShardState) : ShardState :=
  { shard with reservedResources := shard.reservedResources.checkedSub reservation }

/-- `DeterministicShardCoordinator::release_reservation`. -/
def releaseReservation (shardId : ℕ) (reservation : ShardResources) :
    ShardingMethod Unit := do
  Method.modify (releaseGlobal reservation)
  updateShard shardId (releaseShard reservation)

def insertExpired (pair : PairKey) (shard : ShardState) : ShardState :=
  { shard with expiredPairs := shard.expiredPairs.insert pair }

def insertFailed (pair : PairKey) (shard : ShardState) : ShardState :=
  { shard with failedPairs := shard.failedPairs.insert pair }

/-- The reservation of an item is given back, and its pair is put into a final place. -/
def retire (shardId : ℕ) (item : ShardedWorkItem) (put : PairKey → ShardState → ShardState) :
    ShardingMethod Unit := do
  releaseReservation shardId item.resourceReservation
  updateShard shardId (put item.work.pair)

/-- `queued.remove(&pair).ok_or(NoWork)`, in a shard. -/
def takeQueued (shardId : ℕ) (pair : PairKey) : ShardingMethod ShardedWorkItem := do
  let shard ← Method.check (shardOf shardId)
  let item ← Method.ofExcept (okOr shard.queued[pair]? .noWork)
  Method.modify (putShard shardId { shard with queued := shard.queued.erase pair })
  pure item

/-- `in_flight.remove(lease_id).ok_or(LeaseUnknown)`, in a shard. -/
def takeLease (shardId : ℕ) (leaseId : String) :
    ShardingMethod ShardLeaseState := do
  let shard ← Method.check (shardOf shardId)
  let state ← Method.ofExcept (okOr shard.inFlight[leaseId]? .leaseUnknown)
  Method.modify (putShard shardId { shard with inFlight := shard.inFlight.erase leaseId })
  pure state

/-- The queued pairs whose authorization has expired. -/
def expiredQueued (now : ℤ) (shard : ShardState) : List PairKey :=
  (shard.queued.toList.filter fun e => decide (e.2.work.authorizationExpiresAtEpochSeconds ≤ now)).map (·.1)

def expiredLeases (now : ℤ) (shard : ShardState) : List String :=
  (shard.inFlight.toList.filter fun e => decide (e.2.expiresAtEpochSeconds ≤ now)).map (·.1)

def expireQueued (shardId : ℕ) (count : ℕ) (pair : PairKey) : ShardingMethod ℕ := do
  let item ← takeQueued shardId pair
  releaseReservation shardId item.resourceReservation
  updateShard shardId (insertExpired pair)
  pure (saturatingAdd count 1)

def expireLease (shardId : ℕ) (count : ℕ) (leaseId : String) :
    ShardingMethod ℕ := do
  let state ← takeLease shardId leaseId
  retire shardId state.item insertExpired
  pure (saturatingAdd count 1)

def expireShard (now : ℤ) (count : ℕ) (shardId : ℕ) : ShardingMethod ℕ := do
  let shard ← Method.check (shardOf shardId)
  let count ← (expiredQueued now shard).foldlM (expireQueued shardId) count
  let shard ← Method.check (shardOf shardId)
  (expiredLeases now shard).foldlM (expireLease shardId) count

/-- `DeterministicShardCoordinator::expire`. -/
def expire (now : ℤ) : ShardingMethod ℕ := do
  let shardCount ← Method.get (·.limits.shardCount)
  (List.range shardCount).foldlM (expireShard now) 0

/-- The next item of a shard, when another lease is allowed. -/
def nextPair (shardId : ℕ) (c : DeterministicShardCoordinator) : Except ShardingError PairKey := do
  let shard ← c.shardOf shardId
  failIf (shard.inFlight.size ≥ c.limits.maximumInFlightPerShard) .shardInFlightBudget
  okOr (shard.queued.toList.head?.map (·.1)) .noWork

def leaseExpiry (item : ShardedWorkItem) (now : ℤ) (c : DeterministicShardCoordinator) : ℤ :=
  min item.work.authorizationExpiresAtEpochSeconds (saturatingAddI64 now c.limits.leaseSeconds)

def leaseDigest (sequence shardId : ℕ) (item : ShardedWorkItem) (now expires : ℤ) : String :=
  hashJson (.array [.integer sequence, .integer shardId, .text item.originSha256,
    item.work.pair.toJson, .text item.work.authorizationSha256, .integer now, .integer expires])

def nextLeaseId (shardId : ℕ) (item : ShardedWorkItem) (now expires : ℤ) (c : DeterministicShardCoordinator) : String :=
  leaseIdText "shard-lease-" c.nextLeaseSequence (leaseDigest c.nextLeaseSequence shardId item now expires)

def insertLease (leaseId : String) (state : ShardLeaseState) (shard : ShardState) : ShardState :=
  { shard with inFlight := shard.inFlight.insert leaseId state }

/-- The last part of `lease_next`: a lease on an item that was taken from the queue. -/
def issueLease (shardId : ℕ) (item : ShardedWorkItem) (now expires : ℤ) :
    ShardingMethod ShardLease := do
  let leaseId ← Method.get (nextLeaseId shardId item now expires)
  Method.modify fun c => { c with nextLeaseSequence := saturatingAdd c.nextLeaseSequence 1 }
  updateShard shardId (insertLease leaseId ⟨item, expires⟩)
  pure {
    leaseId := leaseId
    shardId := shardId
    originSha256 := item.originSha256
    pair := item.work.pair
    planSha256 := item.work.planSha256
    capabilitySha256 := item.work.capabilitySha256
    authorizationSha256 := item.work.authorizationSha256
    sessionPartitionSha256 := item.sessionPartitionSha256
    credentialPartitionSha256 := item.credentialPartitionSha256
    reservation := item.resourceReservation
    issuedAtEpochSeconds := now
    expiresAtEpochSeconds := expires }

/-- `DeterministicShardCoordinator::lease_next`. -/
def leaseNext (shardId : ℕ) (now : ℤ) : ShardingMethod ShardLease := do
  Method.check ensureRunning
  let _ ← expire now
  let pair ← Method.check (nextPair shardId)
  let item ← takeQueued shardId pair
  let expires ← Method.get (leaseExpiry item now)
  if expires ≤ now then do
    retire shardId item insertExpired
    Method.fail .authorizationExpired
  else
    issueLease shardId item now expires

/-- One finding of a result, against those known globally: a new one or a duplicate. -/
def recordFinding : DeterministicShardCoordinator × ℕ × ℕ → String → DeterministicShardCoordinator × ℕ × ℕ
  | (c, accepted, duplicates), id =>
    if id ∈ c.globalFindingIds then
      ({ c with globalDuplicateFindings := saturatingAdd c.globalDuplicateFindings 1 }, accepted,
        saturatingAdd duplicates 1)
    else
      ({ c with globalFindingIds := c.globalFindingIds.insert id }, saturatingAdd accepted 1, duplicates)

/-- The findings of a result: the state, the new ones and the duplicates. -/
def recordFindings (ids : List String) (c : DeterministicShardCoordinator) : DeterministicShardCoordinator × ℕ × ℕ :=
  ids.foldl recordFinding (c, 0, 0)

def useGlobal (usage : ShardResources) (c : DeterministicShardCoordinator) : DeterministicShardCoordinator :=
  { c with globalUsedResources := c.globalUsedResources.checkedAdd usage }

/-- The usage and the findings of a result in its shard, and its pair completed. -/
def completeItem (usage : ShardResources) (accepted duplicates : ℕ) (pair : PairKey)
    (shard : ShardState) : ShardState :=
  { shard with
    usedResources := shard.usedResources.checkedAdd usage
    acceptedUniqueFindings := saturatingAdd shard.acceptedUniqueFindings accepted
    duplicateFindings := saturatingAdd shard.duplicateFindings duplicates
    completedPairs := shard.completedPairs.insert pair }

/-- The last part of `complete_lease`. -/
def recordResult (shardId : ℕ) (item : ShardedWorkItem) (result : ShardExecutionResult) :
    ShardingMethod Unit := do
  releaseReservation shardId item.resourceReservation
  Method.modify (useGlobal result.usage)
  let counts ← Method.get fun c => (recordFindings result.findingIds.toList c).2
  Method.modify fun c => (recordFindings result.findingIds.toList c).1
  updateShard shardId (completeItem result.usage counts.1 counts.2 item.work.pair)

/-- `DeterministicShardCoordinator::complete_lease`. -/
def completeLease (shardId : ℕ) (leaseId : String) (result : ShardExecutionResult) (now : ℤ) :
    ShardingMethod Unit := do
  Method.check ensureRunning
  Method.ofExcept result.validate
  let state ← takeLease shardId leaseId
  if now ≥ state.expiresAtEpochSeconds then do
    retire shardId state.item insertExpired
    Method.fail .leaseExpired
  else if result.usage.within state.item.resourceReservation = false then do
    retire shardId state.item insertFailed
    Method.fail .usageExceedsReservation
  else
    recordResult shardId state.item result

/-- `DeterministicShardCoordinator::fail_lease`. -/
def failLease (shardId : ℕ) (leaseId : String) (now : ℤ) : ShardingMethod Unit := do
  Method.check ensureRunning
  let state ← takeLease shardId leaseId
  if now ≥ state.expiresAtEpochSeconds then do
    retire shardId state.item insertExpired
    Method.fail .leaseExpired
  else
    retire shardId state.item insertFailed

/-- `DeterministicShardCoordinator::apply_run_stop`. -/
def applyRunStop (reason : RunStopReason) : ShardingMethod Unit := do
  Method.check ensureRunning
  Method.modify fun c => { c with stopReason := some reason }

/-- `mem::take` of the queue of a shard. -/
def takeQueue (shardId : ℕ) :
    ShardingMethod (BTreeMap PairKey ShardedWorkItem) := do
  let shard ← Method.check (shardOf shardId)
  Method.modify (putShard shardId { shard with queued := ∅ })
  pure shard.queued

/-- `mem::take` of the leases of a shard. -/
def takeLeases (shardId : ℕ) :
    ShardingMethod (BTreeMap String ShardLeaseState) := do
  let shard ← Method.check (shardOf shardId)
  Method.modify (putShard shardId { shard with inFlight := ∅ })
  pure shard.inFlight

/-- Everything queued or leased in one shard fails. -/
def drainShard (shardId : ℕ) : ShardingMethod Unit := do
  let queued ← takeQueue shardId
  (values queued).forM fun item => retire shardId item insertFailed
  let inFlight ← takeLeases shardId
  (values inFlight).forM fun state => retire shardId state.item insertFailed

/-- `DeterministicShardCoordinator::emergency_stop`. -/
def emergencyStop : ShardingMethod Unit := do
  Method.check ensureRunning
  let shardCount ← Method.get (·.limits.shardCount)
  (List.range shardCount).forM drainShard
  Method.modify fun c => { c with stopReason := some .emergencyStop }

def summary (shardId : ℕ) (shard : ShardState) : ShardSummary where
  shardId := shardId
  queuedPairs := shard.queued.size
  inFlightPairs := shard.inFlight.size
  completedPairs := shard.completedPairs.size
  failedPairs := shard.failedPairs.size
  expiredPairs := shard.expiredPairs.size
  reservedResources := shard.reservedResources
  usedResources := shard.usedResources
  acceptedUniqueFindings := shard.acceptedUniqueFindings
  duplicateFindings := shard.duplicateFindings
  stateSha256 := hashJson (.array [
    .array (shard.queued.toList.map fun e => .array [e.1.toJson, e.2.toJson]),
    .array (shard.inFlight.toList.map fun e =>
      .array [.text e.1, e.2.item.toJson, .integer e.2.expiresAtEpochSeconds]),
    .array (shard.completedPairs.toList.map PairKey.toJson), .array (shard.failedPairs.toList.map PairKey.toJson),
    .array (shard.expiredPairs.toList.map PairKey.toJson), shard.reservedResources.toJson,
    shard.usedResources.toJson, .integer shard.acceptedUniqueFindings, .integer shard.duplicateFindings])

def receiptMaterial (c : DeterministicShardCoordinator) : ShardingReceipt :=
  let summaries := c.shards.toList.map fun e => summary e.1 e.2
  let total (count : ShardSummary → ℕ) := summaries.foldl (fun sum shard => saturatingAdd sum (count shard)) 0
  { shardCount := c.limits.shardCount
    originBindings := c.originBindings.size
    ownedPairs := c.pairOwners.size
    queuedPairs := total (·.queuedPairs)
    inFlightPairs := total (·.inFlightPairs)
    completedPairs := total (·.completedPairs)
    failedPairs := total (·.failedPairs)
    expiredPairs := total (·.expiredPairs)
    globalReservedResources := c.globalReservedResources
    globalUsedResources := c.globalUsedResources
    globalUniqueFindings := c.globalFindingIds.size
    globalDuplicateFindings := c.globalDuplicateFindings
    stopReason := c.stopReason
    shardSummaries := summaries
    ownershipSha256 := hashJson (.array (c.pairOwners.toList.map fun e => .array [e.1.toJson, .integer e.2]))
    originBindingsSha256 := hashJson (.array (c.originBindings.toList.map fun e =>
      .array [.text e.1, .integer e.2.shardId, .text e.2.sessionPartitionSha256,
        .text e.2.credentialPartitionSha256]))
    globalFindingsSha256 := hashJson (Json.texts c.globalFindingIds.toList)
    receiptSha256 := "" }

/-- `DeterministicShardCoordinator::receipt`. -/
def receipt (c : DeterministicShardCoordinator) : ShardingReceipt :=
  { c.receiptMaterial with receiptSha256 := c.receiptMaterial.calculateSha256 }

end DeterministicShardCoordinator

/-! ## Calls -/

/-- A call of a method that takes `&mut self`. -/
inductive ShardingCall where
  | enqueue (item : ShardedWorkItem) (now : ℤ)
  | leaseNext (shardId : ℕ) (now : ℤ)
  | completeLease (shardId : ℕ) (leaseId : String) (result : ShardExecutionResult) (now : ℤ)
  | failLease (shardId : ℕ) (leaseId : String) (now : ℤ)
  | expire (now : ℤ)
  | applyRunStop (reason : RunStopReason)
  | emergencyStop

inductive ShardingReply where
  | assigned (assignment : ShardAssignment)
  | leased (lease : ShardLease)
  | expired (count : ℕ)
  | done

namespace ShardingCall

def method : ShardingCall → ShardingMethod ShardingReply
  | enqueue item now => do
    let assignment ← DeterministicShardCoordinator.enqueue item now
    pure (.assigned assignment)
  | leaseNext shardId now => do
    let lease ← DeterministicShardCoordinator.leaseNext shardId now
    pure (.leased lease)
  | completeLease shardId leaseId result now => do
    DeterministicShardCoordinator.completeLease shardId leaseId result now
    pure .done
  | failLease shardId leaseId now => do
    DeterministicShardCoordinator.failLease shardId leaseId now
    pure .done
  | expire now => do
    let count ← DeterministicShardCoordinator.expire now
    pure (.expired count)
  | applyRunStop reason => do
    DeterministicShardCoordinator.applyRunStop reason
    pure .done
  | emergencyStop => do
    DeterministicShardCoordinator.emergencyStop
    pure .done

end ShardingCall

def DeterministicShardCoordinator.step (c : DeterministicShardCoordinator) (call : ShardingCall) :
    Option (Except ShardingError ShardingReply × DeterministicShardCoordinator) :=
  some (call.method c)

end BoundSeal.Analyzers

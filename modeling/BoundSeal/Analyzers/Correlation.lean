import BoundSeal.Analyzers.Finding

/-!
# Root-cause correlation (`root_cause_correlation` of `nxb-passive-analyzers`)

The correlator puts each finding into the cluster of its root cause: the digest of
the rule and of the evidence. A cluster keeps the smallest title, the highest
severity and the lowest confidence of its findings, and the sets of their
identifiers, endpoints and evidence.

An error leaves the correlator as it was, so `correlate` returns the new one only
with `Ok`.
-/

namespace BoundSeal.Analyzers

open Rust Lib

/-! ## Data -/

/-- `MAX_CORRELATION_CLUSTERS`. -/
def maxCorrelationClusters : ℕ := 1000000

/-- `MAX_MEMBERS_PER_CLUSTER`. -/
def maxMembersPerCluster : ℕ := 1000000

/-- `MAX_ENDPOINTS_PER_CLUSTER`. -/
def maxEndpointsPerCluster : ℕ := 1000000

/-- `MAX_TOTAL_CORRELATION_MEMBERS`. -/
def maxTotalCorrelationMembers : ℕ := 10000000

inductive CorrelationError where
  | invalidLimits (message : String)
  | invalidInput (name : String)
  | clusterBudget
  | memberBudget
  | endpointBudget
  | findingIdentityConflict
  deriving DecidableEq

structure CorrelationLimits where
  maximumClusters : ℕ
  maximumMembersPerCluster : ℕ
  maximumEndpointsPerCluster : ℕ
  maximumTotalMembers : ℕ

/-- `CorrelationLimits::validate`. -/
def CorrelationLimits.validate (limits : CorrelationLimits) : Except CorrelationError Unit :=
  failIf (limits.maximumClusters = 0 ∨ limits.maximumClusters > maxCorrelationClusters ∨
    limits.maximumMembersPerCluster = 0 ∨ limits.maximumMembersPerCluster > maxMembersPerCluster ∨
    limits.maximumEndpointsPerCluster = 0 ∨ limits.maximumEndpointsPerCluster > maxEndpointsPerCluster ∨
    limits.maximumTotalMembers = 0 ∨ limits.maximumTotalMembers > maxTotalCorrelationMembers ∨
    limits.maximumMembersPerCluster > limits.maximumTotalMembers)
    (.invalidLimits "one or more limits are outside policy")

structure CorrelationEvidence where
  policySnapshotSha256 : String
  normalizationVersion : String
  componentSha256 : String
  normalizedEvidenceSha256 : String
  responseShapeSha256 : String
  deriving DecidableEq

/-- A text of one to `maximum` bytes, all letters, digits or one of `-_.:`. -/
def isToken (maximum : ℕ) (value : String) : Bool :=
  value.utf8ByteSize != 0 && decide (value.utf8ByteSize ≤ maximum) && value.toList.all isRuleIdChar

/-- `validate_rule_id`. -/
def validateRuleId (ruleId : String) : Except CorrelationError Unit :=
  failIf (isRuleId ruleId = false) (.invalidInput "rule_id")

def validateCorrelationSha256 (field : String × String) : Except CorrelationError Unit :=
  failIf (isLowerHexSha256 field.1 = false) (.invalidInput field.2)

namespace CorrelationEvidence

/-- `CorrelationEvidence::validate`. -/
def validate (evidence : CorrelationEvidence) : Except CorrelationError Unit := do
  [(evidence.policySnapshotSha256, "policy snapshot"),
    (evidence.componentSha256, "component"),
    (evidence.normalizedEvidenceSha256, "normalized evidence"),
    (evidence.responseShapeSha256, "response shape")].forM validateCorrelationSha256
  failIf (isToken 128 evidence.normalizationVersion = false) (.invalidInput "normalization version")

/-- What the identifier of a root cause is the digest of. -/
def rootCauseMaterial (evidence : CorrelationEvidence) (ruleId : String) : List String :=
  [ruleId, evidence.policySnapshotSha256, evidence.normalizationVersion, evidence.componentSha256,
    evidence.normalizedEvidenceSha256, evidence.responseShapeSha256]

/-- `CorrelationEvidence::root_cause_id`. -/
def rootCauseId (evidence : CorrelationEvidence) (ruleId : String) : Except CorrelationError String := do
  evidence.validate
  validateRuleId ruleId
  pure (hashJson (.texts (evidence.rootCauseMaterial ruleId)))

end CorrelationEvidence

inductive CorrelationDisposition where
  | newRootCause
  | additionalAffectedEndpoint
  | additionalFindingSameEndpoint
  | exactDuplicate
  deriving DecidableEq

structure RootCauseCluster where
  rootCauseId : String
  ruleId : String
  title : String
  policySnapshotSha256 : String
  normalizationVersion : String
  componentSha256 : String
  normalizedEvidenceSha256 : String
  responseShapeSha256 : String
  highestSeverity : Severity
  minimumConfidence : Confidence
  findingIds : BTreeSet String
  affectedEndpointSha256 : BTreeSet String
  evidenceSha256 : BTreeSet String

namespace RootCauseCluster

def toJson (cluster : RootCauseCluster) : Json :=
  .object [("root_cause_id", .text cluster.rootCauseId), ("rule_id", .text cluster.ruleId),
  ("title", .text cluster.title),
  ("policy_snapshot_sha256", .text cluster.policySnapshotSha256),
  ("normalization_version", .text cluster.normalizationVersion),
  ("component_sha256", .text cluster.componentSha256),
  ("normalized_evidence_sha256", .text cluster.normalizedEvidenceSha256),
  ("response_shape_sha256", .text cluster.responseShapeSha256),
  ("highest_severity", .text cluster.highestSeverity.name),
  ("minimum_confidence", .text cluster.minimumConfidence.name),
  ("finding_ids", .texts cluster.findingIds.toList),
  ("affected_endpoint_sha256", .texts cluster.affectedEndpointSha256.toList),
  ("evidence_sha256", .texts cluster.evidenceSha256.toList)]

/-- `RootCauseCluster::affected_endpoint_count`. -/
def affectedEndpointCount (cluster : RootCauseCluster) : ℕ := cluster.affectedEndpointSha256.size

/-- `RootCauseCluster::cluster_digest`. -/
def clusterDigest (cluster : RootCauseCluster) : String := hashJson cluster.toJson

end RootCauseCluster

structure CorrelationReceipt where
  rootCauseClusters : ℕ
  totalFindingMemberships : ℕ
  totalEndpointMemberships : ℕ
  totalEvidenceMemberships : ℕ
  exactDuplicateObservations : ℕ
  correlationTailSha256 : String
  deriving DecidableEq

structure FindingBinding where
  rootCauseId : String
  findingDigest : String
  deriving DecidableEq

structure RootCauseCorrelator where
  limits : CorrelationLimits
  clusters : BTreeMap String RootCauseCluster
  findingBindings : BTreeMap String FindingBinding
  totalMembers : ℕ
  exactDuplicateObservations : ℕ

/-- `validate_correlation_finding`. -/
def validateCorrelationFinding (finding : Finding) : Except CorrelationError Unit := do
  [(finding.findingId, "finding_id"),
    (finding.endpointSha256, "endpoint_sha256"),
    (finding.evidenceSha256, "evidence_sha256")].forM validateCorrelationSha256
  validateRuleId finding.ruleId
  failIf (finding.title.utf8ByteSize = 0 ∨ finding.title.utf8ByteSize > 512 ∨
    finding.title.toList.any fun c => c == '\x00' || c == '\x0d' || c == '\n') (.invalidInput "finding title")

/-! ## The correlator -/

namespace RootCauseCorrelator

/-- `RootCauseCorrelator::new`. -/
def new (limits : CorrelationLimits) : Except CorrelationError RootCauseCorrelator := do
  limits.validate
  pure { limits, clusters := ∅, findingBindings := ∅, totalMembers := 0, exactDuplicateObservations := 0 }

def joined (finding : Finding) (cluster : RootCauseCluster) : RootCauseCluster :=
  { cluster with
    title := if finding.title < cluster.title then finding.title else cluster.title
    findingIds := cluster.findingIds.insert finding.findingId
    affectedEndpointSha256 := cluster.affectedEndpointSha256.insert finding.endpointSha256
    evidenceSha256 := cluster.evidenceSha256.insert finding.evidenceSha256
    highestSeverity := max cluster.highestSeverity finding.severity
    minimumConfidence := min cluster.minimumConfidence finding.confidence }

def opened (finding : Finding) (evidence : CorrelationEvidence) (rootCauseId : String) : RootCauseCluster where
  rootCauseId := rootCauseId
  ruleId := finding.ruleId
  title := finding.title
  policySnapshotSha256 := evidence.policySnapshotSha256
  normalizationVersion := evidence.normalizationVersion
  componentSha256 := evidence.componentSha256
  normalizedEvidenceSha256 := evidence.normalizedEvidenceSha256
  responseShapeSha256 := evidence.responseShapeSha256
  highestSeverity := finding.severity
  minimumConfidence := finding.confidence
  findingIds := (∅ : BTreeSet String).insert finding.findingId
  affectedEndpointSha256 := (∅ : BTreeSet String).insert finding.endpointSha256
  evidenceSha256 := (∅ : BTreeSet String).insert finding.evidenceSha256

/-- The correlator with a finding put into a cluster. -/
def bound (s : RootCauseCorrelator) (findingId : String) (binding : FindingBinding)
    (cluster : RootCauseCluster) : RootCauseCorrelator :=
  { s with
    clusters := s.clusters.insert binding.rootCauseId cluster
    findingBindings := s.findingBindings.insert findingId binding
    totalMembers := saturatingAdd s.totalMembers 1 }

/-- A finding that is not known yet, into a cluster that is. -/
def join (s : RootCauseCorrelator) (finding : Finding) (binding : FindingBinding) (cluster : RootCauseCluster) :
    Except CorrelationError (CorrelationDisposition × RootCauseCorrelator) := do
  failIf (cluster.findingIds.size ≥ s.limits.maximumMembersPerCluster) .memberBudget
  let endpointIsNew := !cluster.affectedEndpointSha256.contains finding.endpointSha256
  failIf (endpointIsNew = true ∧
    cluster.affectedEndpointSha256.size ≥ s.limits.maximumEndpointsPerCluster) .endpointBudget
  pure (if endpointIsNew then .additionalAffectedEndpoint else .additionalFindingSameEndpoint,
    s.bound finding.findingId binding (joined finding cluster))

/-- `RootCauseCorrelator::correlate`. -/
def correlate (s : RootCauseCorrelator) (finding : Finding) (evidence : CorrelationEvidence) :
    Except CorrelationError (CorrelationDisposition × RootCauseCorrelator) := do
  validateCorrelationFinding finding
  evidence.validate
  let rootCauseId ← evidence.rootCauseId finding.ruleId
  let findingDigest := hashJson (Serde.toJson finding)
  match s.findingBindings[finding.findingId]? with
  | some binding =>
    if binding.rootCauseId = rootCauseId ∧ binding.findingDigest = findingDigest then
      pure (.exactDuplicate,
        { s with exactDuplicateObservations := saturatingAdd s.exactDuplicateObservations 1 })
    else throw .findingIdentityConflict
  | none => do
    failIf (s.totalMembers ≥ s.limits.maximumTotalMembers) .memberBudget
    match s.clusters[rootCauseId]? with
    | some cluster => s.join finding ⟨rootCauseId, findingDigest⟩ cluster
    | none => do
      failIf (s.clusters.size ≥ s.limits.maximumClusters) .clusterBudget
      pure (.newRootCause,
        s.bound finding.findingId ⟨rootCauseId, findingDigest⟩ (opened finding evidence rootCauseId))

/-- `RootCauseCorrelator::export_clusters`. -/
def exportClusters (s : RootCauseCorrelator) : List RootCauseCluster := values s.clusters

def clusterTotal (count : RootCauseCluster → ℕ) (s : RootCauseCorrelator) : ℕ :=
  (values s.clusters).foldl (fun sum cluster => saturatingAdd sum (count cluster)) 0

/-- `RootCauseCorrelator::receipt`. -/
def receipt (s : RootCauseCorrelator) : CorrelationReceipt :=
  let totalEndpointMemberships := s.clusterTotal (·.affectedEndpointCount)
  let totalEvidenceMemberships := s.clusterTotal (·.evidenceSha256.size)
  let clusterDigests := (values s.clusters).map (·.clusterDigest)
  { rootCauseClusters := s.clusters.size
    totalFindingMemberships := s.totalMembers
    totalEndpointMemberships
    totalEvidenceMemberships
    exactDuplicateObservations := s.exactDuplicateObservations
    correlationTailSha256 := hashJson (.array [.texts clusterDigests, .number s.totalMembers,
      .number totalEndpointMemberships, .number totalEvidenceMemberships, .number s.exactDuplicateObservations]) }

end RootCauseCorrelator

end BoundSeal.Analyzers

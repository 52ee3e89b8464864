import BoundSeal.Analyzers.Coverage
import BoundSeal.Rust.JsonText

/-!
# Findings (`part1.rs` of `nxb-passive-analyzers`)

What the analyzers report and the correlator groups. The
derived orders of `Severity` and `Confidence` are those of their declarations, and
texts are compared by code points, which is the order of their UTF-8 bytes.
-/

namespace BoundSeal.Analyzers

open Rust

inductive Severity where
  | info
  | low
  | medium
  | high
  deriving DecidableEq

namespace Severity

/-- The place in the declaration. -/
def rank : Severity → ℕ
  | info => 0
  | low => 1
  | medium => 2
  | high => 3

theorem rank_injective : Function.Injective rank := by
  intro a b h
  cases a <;> cases b <;> first | rfl | cases h

instance : LinearOrder Severity := LinearOrder.lift' rank rank_injective

def name : Severity → String
  | info => "info"
  | low => "low"
  | medium => "medium"
  | high => "high"

/-- The derived reader: a variant by its name. -/
def ofJson (value : Json) : Option Severity :=
  value.asText.bind fun text => [info, low, medium, high].find? (·.name = text)

theorem ofJson_name (severity : Severity) : ofJson (.text severity.name) = some severity := by
  cases severity <;> decide

end Severity

inductive Confidence where
  | low
  | medium
  | high
  deriving DecidableEq

namespace Confidence

/-- The place in the declaration. -/
def rank : Confidence → ℕ
  | low => 0
  | medium => 1
  | high => 2

theorem rank_injective : Function.Injective rank := by
  intro a b h
  cases a <;> cases b <;> first | rfl | cases h

instance : LinearOrder Confidence := LinearOrder.lift' rank rank_injective

def name : Confidence → String
  | low => "low"
  | medium => "medium"
  | high => "high"

/-- The derived reader: a variant by its name. -/
def ofJson (value : Json) : Option Confidence :=
  value.asText.bind fun text => [low, medium, high].find? (·.name = text)

theorem ofJson_name (confidence : Confidence) : ofJson (.text confidence.name) = some confidence := by
  cases confidence <;> decide

end Confidence

structure Finding where
  findingId : String
  ruleId : String
  title : String
  severity : Severity
  confidence : Confidence
  origin : String
  endpointSha256 : String
  evidenceSha256 : String
  summary : String
  metadata : BTreeMap String String

instance : Serde Finding where
  toJson finding := .object [("finding_id", .text finding.findingId),
    ("rule_id", .text finding.ruleId),
    ("title", .text finding.title),
    ("severity", .text finding.severity.name),
    ("confidence", .text finding.confidence.name),
    ("origin", .text finding.origin),
    ("endpoint_sha256", .text finding.endpointSha256),
    ("evidence_sha256", .text finding.evidenceSha256),
    ("summary", .text finding.summary),
    ("metadata", .textMap finding.metadata)]
  fromJson value := do
    let fields ← value.recordFields ["finding_id", "rule_id", "title", "severity", "confidence",
      "origin", "endpoint_sha256", "evidence_sha256", "summary", "metadata"]
    let findingId ← Json.field fields "finding_id" Json.asText
    let ruleId ← Json.field fields "rule_id" Json.asText
    let title ← Json.field fields "title" Json.asText
    let severity ← Json.field fields "severity" Severity.ofJson
    let confidence ← Json.field fields "confidence" Confidence.ofJson
    let origin ← Json.field fields "origin" Json.asText
    let endpointSha256 ← Json.field fields "endpoint_sha256" Json.asText
    let evidenceSha256 ← Json.field fields "evidence_sha256" Json.asText
    let summary ← Json.field fields "summary" Json.asText
    let metadata ← Json.field fields "metadata" Json.asTextMap
    some { findingId, ruleId, title, severity, confidence, origin, endpointSha256, evidenceSha256, summary, metadata }
  fromJson_toJson finding := by
    simp [Json.recordFields_object, Json.field_self, Json.field_other, Json.asText,
      Severity.ofJson_name, Confidence.ofJson_name, Json.asTextMap_normalize]

end BoundSeal.Analyzers

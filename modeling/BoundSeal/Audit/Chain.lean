import BoundSeal.Lib.HashChain
import BoundSeal.Records

/-!
# The audit chain (`nxb-audit`)

Every decision of the gateway is appended to a chain whose records carry the digest
of the one before.
-/

namespace BoundSeal.Audit

open Rust Lib

/-- `GENESIS_HASH`. -/
def genesisHash : String := "0000000000000000000000000000000000000000000000000000000000000000"

structure AuditDestination where
  ip : String
  «class» : String
  allowed : Bool
  deriving DecidableEq

instance : Serde AuditDestination where
  toJson destination := .object [("ip", .text destination.ip),
    ("class", .text destination.class),
    ("allowed", .bool destination.allowed)]
  fromJson value := do
    let fields ← value.recordFields ["ip", "class", "allowed"]
    let ip ← Json.field fields "ip" Json.asText
    let «class» ← Json.field fields "class" Json.asText
    let allowed ← Json.field fields "allowed" Json.asBool
    some { ip, «class», allowed }
  fromJson_toJson destination := by
    simp [Json.recordFields_object, Json.field_self, Json.field_other, Json.asText, Json.asBool]

structure AuditDns where
  contextId : String
  resolverId : String
  ttlSeconds : ℕ
  pinStatus : String
  deriving DecidableEq

instance : Serde AuditDns where
  toJson dns := .object [("context_id", .text dns.contextId),
    ("resolver_id", .text dns.resolverId),
    ("ttl_seconds", .number dns.ttlSeconds),
    ("pin_status", .text dns.pinStatus)]
  fromJson value := do
    let fields ← value.recordFields ["context_id", "resolver_id", "ttl_seconds", "pin_status"]
    let contextId ← Json.field fields "context_id" Json.asText
    let resolverId ← Json.field fields "resolver_id" Json.asText
    let ttlSeconds ← Json.field fields "ttl_seconds" Json.asNat
    let pinStatus ← Json.field fields "pin_status" Json.asText
    some { contextId, resolverId, ttlSeconds, pinStatus }
  fromJson_toJson dns := by
    simp [Json.recordFields_object, Json.field_self, Json.field_other, Json.asText, Json.asNat]

structure AuditEvent where
  decisionId : String
  outcome : String
  reasonCode : String
  reasonDetails : BTreeMap String String
  method : String
  url : String
  resolvedDestinations : List AuditDestination
  dns : AuditDns
  redirectDepth : ℕ
  elapsedMilliseconds : ℕ

instance : Serde AuditEvent where
  toJson event := .object [("decision_id", .text event.decisionId),
    ("outcome", .text event.outcome),
    ("reason_code", .text event.reasonCode),
    ("reason_details", .textMap event.reasonDetails),
    ("method", .text event.method),
    ("url", .text event.url),
    ("resolved_destinations", .array (event.resolvedDestinations.map Serde.toJson)),
    ("dns", Serde.toJson event.dns),
    ("redirect_depth", .number event.redirectDepth),
    ("elapsed_milliseconds", .number event.elapsedMilliseconds)]
  fromJson value := do
    let fields ← value.recordFields ["decision_id", "outcome", "reason_code", "reason_details",
      "method", "url", "resolved_destinations", "dns", "redirect_depth", "elapsed_milliseconds"]
    let decisionId ← Json.field fields "decision_id" Json.asText
    let outcome ← Json.field fields "outcome" Json.asText
    let reasonCode ← Json.field fields "reason_code" Json.asText
    let reasonDetails ← Json.field fields "reason_details" Json.asTextMap
    let method ← Json.field fields "method" Json.asText
    let url ← Json.field fields "url" Json.asText
    let resolvedDestinations ← Json.field fields "resolved_destinations" (Json.asList Serde.fromJson)
    let dns ← Json.field fields "dns" Serde.fromJson
    let redirectDepth ← Json.field fields "redirect_depth" Json.asNat
    let elapsedMilliseconds ← Json.field fields "elapsed_milliseconds" Json.asNat
    some { decisionId, outcome, reasonCode, reasonDetails, method, url, resolvedDestinations, dns,
           redirectDepth, elapsedMilliseconds }
  fromJson_toJson event := by
    simp [Json.recordFields_object, Json.field_self, Json.field_other, Json.asText, Json.asNat,
      Json.asTextMap_normalize, Json.asList_normalize]

abbrev AuditRecord := Record AuditEvent

/-- The chain of the crate, an instance of `HashChain`. -/
abbrev AuditChain := HashChain AuditEvent

structure HashMaterial where
  sequence : ℕ
  previousHash : String
  event : AuditEvent

instance : Serde HashMaterial where
  toJson material := .object [("sequence", .number material.sequence),
    ("previous_hash", .text material.previousHash),
    ("event", Serde.toJson material.event)]
  fromJson value := do
    let fields ← value.recordFields ["sequence", "previous_hash", "event"]
    let sequence ← Json.field fields "sequence" Json.asNat
    let previousHash ← Json.field fields "previous_hash" Json.asText
    let event ← Json.field fields "event" Serde.fromJson
    some { sequence, previousHash, event }
  fromJson_toJson material := by
    simp [Json.recordFields_object, Json.field_self, Json.field_other, Json.asText, Json.asNat]

/-- `hash_material`. -/
def hashMaterial (sequence : ℕ) (previousHash : String) (event : AuditEvent) : String :=
  hashSerializable (HashMaterial.mk sequence previousHash event)

namespace AuditChain

/-- `AuditChain::new`. -/
def new : AuditChain := .start genesisHash

/-- `AuditChain::append`. -/
def append (chain : AuditChain) (event : AuditEvent) : AuditChain := HashChain.append hashMaterial chain event

/-- `AuditChain::verify`. -/
def verify (chain : AuditChain) : Except ChainError Unit := HashChain.verify hashMaterial genesisHash chain

/-! ## Evidence -/

def serialisedMaterial (record : AuditRecord) : Bytes :=
  compactBytes (HashMaterial.mk record.sequence record.previousHash record.event)

/-- SHA-256 tells the materials of the records apart. -/
def DistinctDigests (records : List AuditRecord) : Prop :=
  ∀ r ∈ records, ∀ r' ∈ records, Sha256.digest (serialisedMaterial r) = Sha256.digest
    (serialisedMaterial r') → serialisedMaterial r = serialisedMaterial r'

theorem collisionFree {records : List AuditRecord} (h : DistinctDigests records) :
    HashChain.CollisionFree hashMaterial records := by
  intro r hr r' hr' hhash
  have hbytes := h r hr r' hr' (toLowerHex_injective hhash)
  have hmaterial := compactBytes_injective hbytes
  simp only [HashMaterial.mk.injEq] at hmaterial
  simp only [Record.material, Prod.mk.injEq]
  exact hmaterial

theorem verify_foldl_append {chain : AuditChain} (h : chain.verify = .ok ())
    (events : List AuditEvent) : (events.foldl append chain).verify = .ok () := by
  induction events generalizing chain with
  | nil => exact h
  | cons event events ih => exact ih (HashChain.verify_append hashMaterial event h)

/-- **Audit chains are append-only evidence**: what is appended verifies, and a tail hash belongs to
one list of records of a length; of any length, unless it is the hash the chain starts from. -/
theorem audit_chain_append_only :
    (∀ events : List AuditEvent, (events.foldl append new).verify = .ok ()) ∧
    ∀ chain chain' : AuditChain, chain.verify = .ok () → chain'.verify = .ok () →
      chain.tailHash = chain'.tailHash → DistinctDigests (chain.records ++ chain'.records) →
      (chain.records.length = chain'.records.length → chain.records = chain'.records) ∧
      (chain.tailHash ≠ genesisHash → chain.records = chain'.records) := by
  refine ⟨verify_foldl_append (HashChain.verify_start hashMaterial genesisHash), ?_⟩
  intro chain chain' h h' htail hdigests
  have hfree := collisionFree hdigests
  exact ⟨HashChain.records_eq_of_length hfree h h' htail, HashChain.records_eq_of_tail hfree h h' htail⟩

def exampleEvent : AuditEvent where
  decisionId := "decision-1"
  outcome := "deny"
  reasonCode := "fixture"
  reasonDetails := ∅
  method := "GET"
  url := "https://example.test/a"
  resolvedDestinations := [⟨"127.0.0.1", "loopback", false⟩]
  dns := ⟨"fixture-context", "fixture-resolver", 60, "not_evaluated"⟩
  redirectDepth := 0
  elapsedMilliseconds := 0

def laterEvent : AuditEvent := { exampleEvent with decisionId := "decision-2", outcome := "allow" }

def firstRecord : AuditRecord := ⟨1, genesisHash, exampleEvent, hashMaterial 1 genesisHash exampleEvent⟩

def laterRecord : AuditRecord :=
  ⟨2, firstRecord.recordHash, laterEvent, hashMaterial 2 firstRecord.recordHash laterEvent⟩

/-- The chain of a denial and a decision to allow. -/
def exampleChain : AuditChain := [exampleEvent, laterEvent].foldl append new

theorem distinctDigests_exampleChain : DistinctDigests (exampleChain.records ++ exampleChain.records) := by
  have hmem : ∀ r ∈ exampleChain.records ++ exampleChain.records, r = firstRecord ∨ r = laterRecord := by
    intro r hr
    have hone : r ∈ [firstRecord, laterRecord] := (List.mem_append.mp hr).elim id id
    simpa using hone
  have hne : Sha256.digest (serialisedMaterial firstRecord) ≠ Sha256.digest (serialisedMaterial laterRecord) := by
    decide +kernel
  intro r hr r' hr' hdigest
  rcases hmem r hr with rfl | rfl <;> rcases hmem r' hr' with rfl | rfl
  · rfl
  · exact absurd hdigest hne
  · exact absurd hdigest.symm hne
  · rfl

/-- No other list of two records verifies against the tail of the chain. -/
theorem audit_chain_append_only_example : exampleChain.verify = .ok () ∧
    ∃ chain : AuditChain, chain.records.length = 2 ∧ chain.verify = .ok () ∧
      chain.tailHash = exampleChain.tailHash ∧ chain.records = exampleChain.records := by
  have hverify : exampleChain.verify = .ok () := audit_chain_append_only.1 [exampleEvent, laterEvent]
  have hsame := (audit_chain_append_only.2 _ _ hverify hverify rfl distinctDigests_exampleChain).1 rfl
  exact ⟨hverify, exampleChain, rfl, hverify, rfl, hsame⟩

end AuditChain

end BoundSeal.Audit

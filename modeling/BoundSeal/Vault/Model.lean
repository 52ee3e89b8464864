import BoundSeal.Lib.HashChain
import BoundSeal.Rust.Result
import BoundSeal.Shared

/-!
# The secret vault (`nxb-vault`)

`InMemorySecretVault` stores secret values with the binding they may be used
under. A caller leases handles for one access context, and turns the lease into
the headers of one request: cookies that apply are joined in one `Cookie` header,
the other secrets are headers of their own.

Serialising an audit event cannot fail, so `append` is total and the clean-up
after a failed append is left out. Clock values are `i64` seconds.
-/

namespace BoundSeal.Vault

open Rust Lib

/-! ## Data -/

/-- `MAX_SECRET_BYTES`. -/
def maxSecretBytes : ℕ := 64 * 1024

/-- `MAX_SECRET_LEASE_SECONDS`. -/
def maxSecretLeaseSeconds : ℤ := 300

/-- `MAX_SECRET_HANDLES_PER_LEASE`. -/
def maxSecretHandlesPerLease : ℕ := 256

/-- `SecretHandle`, a text. -/
abbrev SecretHandle := String

inductive SecretKind where
  | cookie
  | bearerToken
  | apiKey
  | csrfToken
  deriving DecidableEq, Repr

def SecretKind.code : SecretKind → String
  | .cookie => "cookie"
  | .bearerToken => "bearer_token"
  | .apiKey => "api_key"
  | .csrfToken => "csrf_token"

inductive SameSitePolicy where
  | strict
  | lax
  | none
  | unspecified
  deriving DecidableEq, Repr

structure CookieMetadata where
  name : String
  domain : String
  path : String
  expiresAtEpochSeconds : Option ℤ
  secure : Bool
  httpOnly : Bool
  sameSite : SameSitePolicy
  deriving DecidableEq, Repr

structure SecretBinding where
  runId : String
  workerId : String
  accountId : String
  tenantId : String
  roleId : String
  allowedHosts : BTreeSet String
  allowedSchemes : BTreeSet String

structure VaultAccessContext where
  runId : String
  workerId : String
  accountId : String
  tenantId : String
  roleId : String
  authority : String
  scheme : String
  deriving DecidableEq, Repr

def VaultAccessContext.toJson (context : VaultAccessContext) : Json :=
  .object [("run_id", .text context.runId), ("worker_id", .text context.workerId),
    ("account_id", .text context.accountId), ("tenant_id", .text context.tenantId),
    ("role_id", .text context.roleId), ("authority", .text context.authority),
    ("scheme", .text context.scheme)]

inductive SecretDelivery where
  | cookie (cookie : CookieMetadata)
  | header (name : String) (valuePrefix : Bytes)
  deriving DecidableEq, Repr

structure SecretInput where
  kind : SecretKind
  value : Bytes
  binding : SecretBinding
  delivery : SecretDelivery
  expiresAtEpochSeconds : Option ℤ

inductive SecretDeliveryMetadata where
  | cookie (cookie : CookieMetadata)
  | header (name : String) (prefixBytes : ℕ)
  deriving DecidableEq, Repr

structure SecretMetadata where
  handle : SecretHandle
  kind : SecretKind
  binding : SecretBinding
  delivery : SecretDeliveryMetadata
  createdAtEpochSeconds : ℤ
  expiresAtEpochSeconds : Option ℤ

structure SecretEntry where
  metadata : SecretMetadata
  delivery : SecretDelivery
  value : Bytes

structure LeaseState where
  handles : List SecretHandle
  context : VaultAccessContext
  expiresAtEpochSeconds : ℤ
  consumed : Bool
  revoked : Bool
  deriving DecidableEq, Repr

/-- `SecretLease`, what the caller holds. -/
structure SecretLease where
  leaseId : String
  context : VaultAccessContext
  expiresAtEpochSeconds : ℤ
  consumed : Bool
  deriving DecidableEq, Repr

structure MaterializedHeader where
  normalizedName : String
  wireName : String
  value : Bytes
  deriving DecidableEq, Repr

structure SecretHeaderLease where
  leaseId : String
  sessionId : String
  authority : String
  scheme : String
  expiresAtEpochSeconds : ℤ
  fingerprint : String
  headers : List MaterializedHeader
  consumed : Bool
  deriving DecidableEq, Repr

structure SecretHeaderBatch where
  leaseFingerprint : String
  headers : List MaterializedHeader
  emitted : Bool
  deriving DecidableEq, Repr

inductive VaultError where
  | invalidIdentifier (name : String)
  | invalidSecretSize
  | invalidBinding (message : String)
  | invalidDelivery (message : String)
  | unknownSecret
  | secretExpired
  | accessDenied
  | invalidLeaseSize
  | invalidLeaseDuration
  | unknownLease
  | leaseConsumed
  | leaseExpired
  | leaseRevoked
  | leaseContextMismatch
  | headerLeaseConsumed
  | headerLeaseBindingMismatch
  | headerBatchConsumed
  | invalidHeaderName
  | invalidHeaderValue
  | invalidRequestTarget
  deriving DecidableEq, Repr

/-- The `Display` form of an error. -/
def VaultError.toText : VaultError → String
  | .invalidIdentifier name => s!"vault identifier is invalid: {name}"
  | .invalidSecretSize => "secret value size is outside the supported range"
  | .invalidBinding message => s!"secret binding is invalid: {message}"
  | .invalidDelivery message => s!"secret delivery is invalid: {message}"
  | .unknownSecret => "secret is unknown or has been revoked"
  | .secretExpired => "secret is expired"
  | .accessDenied => "secret access context does not match its binding"
  | .invalidLeaseSize => "secret lease size is outside the supported range"
  | .invalidLeaseDuration => "secret lease duration is outside the supported range"
  | .unknownLease => "secret lease is unknown"
  | .leaseConsumed => "secret lease has already been consumed"
  | .leaseExpired => "secret lease has expired"
  | .leaseRevoked => "secret lease has been revoked"
  | .leaseContextMismatch => "secret lease context does not match"
  | .headerLeaseConsumed => "secret header lease has already been consumed"
  | .headerLeaseBindingMismatch => "secret header lease does not match stream authority"
  | .headerBatchConsumed => "secret header batch has already been emitted"
  | .invalidHeaderName => "HTTP header name is invalid"
  | .invalidHeaderValue => "HTTP header value is invalid"
  | .invalidRequestTarget => "request target is invalid for cookie selection"

/-! ## Audit -/

structure VaultAuditEvent where
  action : String
  outcome : String
  vaultId : String
  handle : Option String
  leaseId : Option String
  sessionId : Option String
  metadata : BTreeMap String String

def VaultAuditEvent.toJson (event : VaultAuditEvent) : Json :=
  .object [("action", .text event.action), ("outcome", .text event.outcome),
    ("vault_id", .text event.vaultId), ("handle", .option .text event.handle),
    ("lease_id", .option .text event.leaseId), ("session_id", .option .text event.sessionId),
    ("metadata", textMapJson event.metadata)]

/-- `VaultAuditChain`; its anchor is `genesisOf` the vault. -/
abbrev VaultAuditChain := HashChain VaultAuditEvent

namespace VaultAuditChain

def genesisOf (vaultId : String) : String := toLowerHex (Sha256.digest (bytes s!"nxb-vault:{vaultId}"))

def new (vaultId : String) : VaultAuditChain := .start (genesisOf vaultId)

def append (chain : VaultAuditChain) (event : VaultAuditEvent) : VaultAuditChain :=
  HashChain.append (tupleRecordHash VaultAuditEvent.toJson) chain event

/-- `VaultAuditChain::verify`. -/
def verify (vaultId : String) (chain : VaultAuditChain) : Except ChainError Unit :=
  HashChain.verify (tupleRecordHash VaultAuditEvent.toJson) (genesisOf vaultId) chain

end VaultAuditChain

/-! ## Checks -/

def validateIdentifier (value name : String) : Except VaultError Unit :=
  failIf (value = "" ∨ value.utf8ByteSize > 128 ∨
      ¬ value.toList.all fun c => c.isAlphanum || c == '-' || c == '_' || c == '.')
    (.invalidIdentifier name)

/-- `normalize_host` of this crate: no trimming, no empty-label check. -/
def normalizeHost (host : String) : Except VaultError String := do
  let normalized := toAsciiLowercase (trimEndMatches '.' host)
  failIf (normalized = "" ∨ normalized.utf8ByteSize > 253 ∨ startsWithChar '.' normalized ∨
      endsWithChar '.' normalized ∨ normalized.toList.any fun c => !(c.isAlphanum || c == '.' || c == '-'))
    (.invalidBinding "host is invalid")
  pure normalized

def normalizeScheme (scheme : String) : Except VaultError String := do
  let normalized := toAsciiLowercase scheme
  failIf (normalized ∉ ["http", "https"]) (.invalidBinding "scheme is invalid")
  pure normalized

def validateHeaderName (name : String) : Except VaultError Unit :=
  failIf (name = "" ∨ name.utf8ByteSize > 256 ∨ ¬ name.toList.all isTokenChar) .invalidHeaderName

def isForbiddenValueByte (byte : UInt8) : Bool := (byte < 0x20 && byte != 0x09) || byte == 0x7f

def validateHeaderValue (value : Bytes) : Except VaultError Unit :=
  failIf (value.any isForbiddenValueByte) .invalidHeaderValue

def isProtocolManagedHeader (name : String) : Bool :=
  ["host", "content-length", "transfer-encoding", "connection", "proxy-connection", "expect",
    "upgrade", "trailer", "te"].contains name

def validateCookie (cookie : CookieMetadata) : Except VaultError Unit := do
  failIf (cookie.name = "" ∨ ¬ cookie.name.toList.all isTokenChar ∨ cookie.path = "" ∨
      ¬ startsWithChar '/' cookie.path ∨ cookie.path.toList.any isAsciiControlChar)
    (.invalidDelivery "cookie name or path is invalid")
  let _ ← normalizeHost cookie.domain
  pure ()

def normalizedBinding (binding : SecretBinding) : Except VaultError SecretBinding := do
  validateIdentifier binding.runId "run_id"
  validateIdentifier binding.workerId "worker_id"
  validateIdentifier binding.accountId "account_id"
  validateIdentifier binding.tenantId "tenant_id"
  validateIdentifier binding.roleId "role_id"
  failIf (binding.allowedHosts.isEmpty ∨ binding.allowedSchemes.isEmpty)
    (.invalidBinding "host and scheme sets must not be empty")
  let allowedHosts ← collectSet normalizeHost binding.allowedHosts
  let allowedSchemes ← collectSet normalizeScheme binding.allowedSchemes
  pure { binding with allowedHosts, allowedSchemes }

def normalizedContext (context : VaultAccessContext) : Except VaultError VaultAccessContext := do
  validateIdentifier context.runId "run_id"
  validateIdentifier context.workerId "worker_id"
  validateIdentifier context.accountId "account_id"
  validateIdentifier context.tenantId "tenant_id"
  validateIdentifier context.roleId "role_id"
  let authority ← normalizeHost context.authority
  let scheme ← normalizeScheme context.scheme
  pure { context with authority, scheme }

/-- `Option::is_some_and(|expires| now >= expires)`. -/
def isExpired (expires : Option ℤ) (now : ℤ) : Bool := expires.any fun expires => expires ≤ now

def validateSecretInput (input : SecretInput) (nowEpochSeconds : ℤ) : Except VaultError Unit := do
  failIf (input.value = [] ∨ input.value.length > maxSecretBytes) .invalidSecretSize
  validateHeaderValue input.value
  let _ ← normalizedBinding input.binding
  failIf (isExpired input.expiresAtEpochSeconds nowEpochSeconds) .secretExpired
  match input.kind, input.delivery with
  | .cookie, .cookie cookie => validateCookie cookie
  | .cookie, .header _ _ => .error (.invalidDelivery "cookie secrets must use cookie delivery")
  | _, .cookie _ => .error (.invalidDelivery "non-cookie secrets must use header delivery")
  | _, .header name valuePrefix => do
    validateHeaderName name
    failIf (isProtocolManagedHeader (toAsciiLowercase name))
      (.invalidDelivery "framing and authority headers cannot contain secrets")
    validateHeaderValue valuePrefix

def sameIdentity (binding : SecretBinding) (context : VaultAccessContext) : Prop :=
  binding.runId = context.runId ∧ binding.workerId = context.workerId ∧
    binding.accountId = context.accountId ∧ binding.tenantId = context.tenantId ∧
    binding.roleId = context.roleId

instance (binding : SecretBinding) (context : VaultAccessContext) :
    Decidable (sameIdentity binding context) := by
  unfold sameIdentity
  infer_instance

def validateEntryIdentity (entry : SecretEntry) (context : VaultAccessContext)
    (nowEpochSeconds : ℤ) : Except VaultError Unit := do
  failIf (isExpired entry.metadata.expiresAtEpochSeconds nowEpochSeconds) .secretExpired
  failIf (¬ sameIdentity entry.metadata.binding context) .accessDenied

def validateEntryAccess (entry : SecretEntry) (context : VaultAccessContext) (nowEpochSeconds : ℤ) :
    Except VaultError Unit := do
  validateEntryIdentity entry context nowEpochSeconds
  failIf (context.authority ∉ entry.metadata.binding.allowedHosts ∨
    context.scheme ∉ entry.metadata.binding.allowedSchemes) .accessDenied

def domainMatches (host domain : String) : Bool :=
  host == domain || (stripEnd domain host).any (endsWithChar '.')

/-- A host matches a domain if it is the domain or lies below it. -/
theorem domainMatches_iff {host domain : String} :
    domainMatches host domain = true ↔ host = domain ∨ ∃ labels, host = labels ++ "." ++ domain := by
  simp only [domainMatches, Bool.or_eq_true, beq_iff_eq, Option.any_eq_true, stripEnd_eq_some]
  refine or_congr_right ⟨?_, ?_⟩
  · rintro ⟨below, rfl, hdot⟩
    obtain ⟨labels, hlabels⟩ := List.getLast?_eq_some_iff.mp (beq_iff_eq.mp hdot)
    exact ⟨String.ofList labels, by rw [← String.toList_inj]; simp [hlabels]⟩
  · rintro ⟨labels, rfl⟩
    exact ⟨_, rfl, by simp [endsWithChar]⟩

def cookiePathMatches (target cookiePath : String) : Bool :=
  let requestPath := (splitChar '?' target).headD target
  requestPath == cookiePath || (stripStart cookiePath requestPath).any fun suffix =>
    endsWithChar '/' cookiePath || startsWithChar '/' suffix

/-- A target matches a path if its part before the query is the path or lies below it. -/
theorem cookiePathMatches_iff {target cookiePath : String} :
    cookiePathMatches target cookiePath = true ↔
      ∃ suffix, (splitChar '?' target).headD target = cookiePath ++ suffix ∧
        (suffix = "" ∨ endsWithChar '/' cookiePath = true ∨ startsWithChar '/' suffix = true) := by
  simp only [cookiePathMatches, Bool.or_eq_true, beq_iff_eq, Option.any_eq_true, stripStart_eq_some]
  constructor
  · rintro (h | ⟨suffix, h, hslash⟩)
    · exact ⟨"", by rw [h]; simp, .inl rfl⟩
    · exact ⟨suffix, h, .inr hslash⟩
  · rintro ⟨suffix, h, rfl | hslash⟩
    · exact .inl (by rw [h]; simp)
    · exact .inr ⟨suffix, h, hslash⟩

def cookieApplies (cookie : CookieMetadata) (context : VaultAccessContext) (requestTarget : String)
    (nowEpochSeconds : ℤ) : Except VaultError Bool := do
  let domain ← normalizeHost cookie.domain
  pure (domainMatches context.authority domain && cookiePathMatches requestTarget cookie.path &&
    !(cookie.secure && context.scheme != "https") && !isExpired cookie.expiresAtEpochSeconds nowEpochSeconds)

def validateRequestTarget (target : String) : Except VaultError Unit :=
  if target = "*" then .ok ()
  else failIf (target = "" ∨ ¬ startsWithChar '/' target ∨ containsChar '#' target ∨
    target.toList.any fun c => isAsciiControlChar c || c == ' ') .invalidRequestTarget

/-- `header_lease_fingerprint`: names and lengths only. -/
def headerLeaseFingerprint (leaseId sessionId : String) (context : VaultAccessContext)
    (expiresAtEpochSeconds : ℤ) (headers : List MaterializedHeader) : String :=
  toLowerHex (Sha256.digest (Json.array [.text leaseId, .text sessionId, context.toJson,
    .integer expiresAtEpochSeconds, .array (headers.map fun header =>
      .array [.text header.normalizedName, .number header.value.length])]).toVec)

/-! ## Header leases and batches -/

/-- `SecretHeaderLease::take_for`. -/
def SecretHeaderLease.takeFor (self : SecretHeaderLease) (authority scheme : String)
    (nowEpochSeconds : ℤ) : Except VaultError SecretHeaderBatch × SecretHeaderLease :=
  if self.consumed then (.error .headerLeaseConsumed, self)
  else
    let self := { self with consumed := true }
    let checked : Except VaultError Unit := do
      failIf (nowEpochSeconds ≥ self.expiresAtEpochSeconds) .leaseExpired
      let authority ← normalizeHost authority
      -- `||`: the scheme is not looked at when the authorities differ
      failIf (authority ≠ self.authority) .headerLeaseBindingMismatch
      let scheme ← normalizeScheme scheme
      failIf (scheme ≠ self.scheme) .headerLeaseBindingMismatch
    match checked with
    | .error e => (.error e, self)
    | .ok () => (.ok ⟨self.fingerprint, self.headers, false⟩, { self with headers := [] })

namespace SecretHeaderBatch

variable (self : SecretHeaderBatch)

def headerCount : ℕ := self.headers.length

def containsName (normalizedName : String) : Bool :=
  self.headers.any fun header => header.normalizedName == normalizedName

def headerWire (header : MaterializedHeader) : Bytes :=
  bytes header.wireName ++ bytes ": " ++ header.value ++ bytes "\r\n"

/-- One header on the redacted wire: the length stands for the value. -/
def redactedWire (header : MaterializedHeader) : Bytes :=
  bytes header.wireName ++ bytes ": <redacted:" ++ bytes header.value.length.repr ++ bytes ">\r\n"

/-- The loop of `append_http1`. -/
def appendHeaders : List MaterializedHeader → Bytes × Bytes → Except VaultError (Bytes × Bytes)
  | [], wires => .ok wires
  | header :: headers, (wire, redacted) => do
    validateHeaderName header.wireName
    validateHeaderValue header.value
    appendHeaders headers (wire ++ headerWire header, redacted ++ redactedWire header)

/-- `SecretHeaderBatch::append_http1`: the two wires after it. -/
def appendHttp1 (wires : Bytes × Bytes) : Except VaultError (Bytes × Bytes) := do
  failIf (self.emitted = true) .headerBatchConsumed
  appendHeaders self.headers wires

end SecretHeaderBatch

/-! ## The vault -/

/-- `InMemorySecretVault`. -/
structure InMemorySecretVault where
  vaultId : String
  entries : BTreeMap SecretHandle SecretEntry
  leases : BTreeMap String LeaseState
  nextSecretId : ℕ
  nextLeaseId : ℕ
  audit : VaultAuditChain

/-- What one leased handle contributes to a request. -/
inductive Contribution where
  | nothing
  | cookiePair (name : String) (value : Bytes)
  | header (header : MaterializedHeader)
  deriving DecidableEq, Repr

namespace Contribution

def header? : Contribution → Option MaterializedHeader
  | .header value => some value
  | _ => none

def cookiePair? : Contribution → Option (String × Bytes)
  | .cookiePair name value => some (name, value)
  | _ => none

/-- The cookie pairs in one value: `name=value; name=value`. -/
def joinPairs (pairs : List (String × Bytes)) : Bytes :=
  (bytes "; ").intercalate (pairs.map fun (name, value) => bytes name ++ bytes "=" ++ value)

/-- The headers of a request: those of the handles in order, then the cookies. -/
def headersOf (contributions : List Contribution) : List MaterializedHeader :=
  let headers := contributions.filterMap header?
  let pairs := contributions.filterMap cookiePair?
  if pairs = [] then headers else headers ++ [⟨"cookie", "Cookie", joinPairs pairs⟩]

end Contribution

/-- What an entry contributes in `materialize_http_headers`. -/
def SecretEntry.contribution (entry : SecretEntry) (context : VaultAccessContext)
    (requestTarget : String) (nowEpochSeconds : ℤ) : Except VaultError Contribution :=
  match entry.delivery with
  | .cookie cookie => do
    validateEntryIdentity entry context nowEpochSeconds
    if context.authority ∈ entry.metadata.binding.allowedHosts ∧
        context.scheme ∈ entry.metadata.binding.allowedSchemes then do
      let applies ← cookieApplies cookie context requestTarget nowEpochSeconds
      pure (if applies then .cookiePair cookie.name entry.value else .nothing)
    else pure .nothing
  | .header name valuePrefix => do
    validateEntryAccess entry context nowEpochSeconds
    let value := valuePrefix ++ entry.value
    validateHeaderValue value
    pure (.header ⟨toAsciiLowercase name, name, value⟩)

namespace InMemorySecretVault

/-- `InMemorySecretVault::new`. -/
def new (vaultId : String) : Except VaultError InMemorySecretVault := do
  validateIdentifier vaultId "vault_id"
  pure ⟨vaultId, ∅, ∅, 1, 1, .new vaultId⟩

def secretIdText (vaultId : String) (n : ℕ) : SecretHandle := s!"{vaultId}-secret-{zeroPadded 20 n}"

def leaseIdText (vaultId : String) (n : ℕ) : String := s!"{vaultId}-lease-{zeroPadded 20 n}"

variable (self : InMemorySecretVault)

def record (action outcome : String) (handle leaseId sessionId : Option String)
    (metadata : List (String × String)) : InMemorySecretVault :=
  let event : VaultAuditEvent :=
    { action, outcome, vaultId := self.vaultId, handle, leaseId, sessionId, metadata := textMap metadata }
  { self with audit := VaultAuditChain.append self.audit event }

def entryOf (input : SecretInput) (handle : SecretHandle) (binding : SecretBinding)
    (nowEpochSeconds : ℤ) : SecretEntry where
  metadata :=
    { handle
      kind := input.kind
      binding
      delivery := match input.delivery with
        | .cookie cookie => .cookie cookie
        | .header name valuePrefix => .header name valuePrefix.length
      createdAtEpochSeconds := nowEpochSeconds
      expiresAtEpochSeconds := input.expiresAtEpochSeconds }
  delivery := input.delivery
  value := input.value

/-- `InMemorySecretVault::insert`. -/
def insert (input : SecretInput) (nowEpochSeconds : ℤ) :
    Except VaultError SecretHandle × InMemorySecretVault :=
  match validateSecretInput input nowEpochSeconds with
  | .error e => (.error e, self)
  | .ok () =>
    let handle := secretIdText self.vaultId self.nextSecretId
    let self := { self with nextSecretId := saturatingAdd self.nextSecretId 1 }
    match normalizedBinding input.binding with
    | .error e => (.error e, self)
    | .ok binding =>
      let entries := self.entries.insert handle (entryOf input handle binding nowEpochSeconds)
      (.ok handle, InMemorySecretVault.record { self with entries } "secret_inserted" "stored" (some handle) none none
        [("kind", input.kind.code)])

/-- `InMemorySecretVault::metadata`. -/
def metadata (handle : SecretHandle) : Except VaultError SecretMetadata :=
  okOr (self.entries[handle]?.map (·.metadata)) .unknownSecret

/-- What `lease` checks of one handle. -/
def checkLeased (context : VaultAccessContext) (nowEpochSeconds : ℤ) (handle : SecretHandle) :
    Except VaultError Unit := do
  let entry ← okOr self.entries[handle]? .unknownSecret
  match entry.delivery with
  | .cookie _ => validateEntryIdentity entry context nowEpochSeconds
  | .header _ _ => validateEntryAccess entry context nowEpochSeconds

/-- `InMemorySecretVault::lease`; an error leaves the vault as it
was. -/
def lease (handles : List SecretHandle) (context : VaultAccessContext)
    (leaseSeconds nowEpochSeconds : ℤ) : Except VaultError (SecretLease × InMemorySecretVault) := do
  failIf (handles = [] ∨ handles.length > maxSecretHandlesPerLease) .invalidLeaseSize
  failIf (leaseSeconds ≤ 0 ∨ leaseSeconds > maxSecretLeaseSeconds) .invalidLeaseDuration
  let context ← normalizedContext context
  handles.forM (self.checkLeased context nowEpochSeconds)
  let leaseId := leaseIdText self.vaultId self.nextLeaseId
  let expiresAtEpochSeconds := saturatingAddI64 nowEpochSeconds leaseSeconds
  let next := { self with
    nextLeaseId := saturatingAdd self.nextLeaseId 1
    leases := self.leases.insert leaseId ⟨handles, context, expiresAtEpochSeconds, false, false⟩ }
  pure (⟨leaseId, context, expiresAtEpochSeconds, false⟩,
    next.record "secret_lease_issued" "issued" none (some leaseId) none
      [("handle_count", handles.length.repr), ("authority", context.authority),
        ("scheme", context.scheme), ("expires_at", toString expiresAtEpochSeconds)])

/-- What a lease that is used has passed, and the headers it yields. -/
def prepare (lease : SecretLease) (requestTarget : String) (nowEpochSeconds : ℤ) :
    Except VaultError (LeaseState × List MaterializedHeader) := do
  let state ← okOr self.leases[lease.leaseId]? .unknownLease
  failIf (state.revoked = true) .leaseRevoked
  failIf (state.consumed = true) .leaseConsumed
  failIf (nowEpochSeconds ≥ state.expiresAtEpochSeconds) .leaseExpired
  failIf (state.context ≠ lease.context) .leaseContextMismatch
  let contributions ← state.handles.mapM fun handle => do
    let entry ← okOr self.entries[handle]? .unknownSecret
    entry.contribution state.context requestTarget nowEpochSeconds
  pure (state, Contribution.headersOf contributions)

/-- `InMemorySecretVault::materialize_http_headers`. -/
def materializeHttpHeaders (lease : SecretLease) (sessionId requestTarget : String) (nowEpochSeconds : ℤ) :
    Except VaultError SecretHeaderLease × SecretLease × InMemorySecretVault :=
  let checked : Except VaultError Unit := do
    validateIdentifier sessionId "session_id"
    validateRequestTarget requestTarget
    failIf (lease.consumed = true) .leaseConsumed
  match checked with
  | .error e => (.error e, lease, self)
  | .ok () =>
    let lease := { lease with consumed := true }
    match self.prepare lease requestTarget nowEpochSeconds with
    | .error e => (.error e, lease, self)
    | .ok (state, headers) =>
      let fingerprint := headerLeaseFingerprint lease.leaseId sessionId state.context
        state.expiresAtEpochSeconds headers
      let next := { self with leases := self.leases.insert lease.leaseId { state with consumed := true } }
      (.ok
        { leaseId := lease.leaseId
          sessionId
          authority := state.context.authority
          scheme := state.context.scheme
          expiresAtEpochSeconds := state.expiresAtEpochSeconds
          fingerprint
          headers
          consumed := false },
        lease,
        next.record "http_headers_materialized" "materialized" none (some lease.leaseId) (some sessionId)
          [("header_count", headers.length.repr), ("authority", state.context.authority),
            ("scheme", state.context.scheme), ("fingerprint", fingerprint)])

/-- What a revocation of a secret makes of a lease. -/
def revokeIn (handle : SecretHandle) (state : LeaseState) : LeaseState :=
  if handle ∈ state.handles then { state with revoked := true } else state

/-- `InMemorySecretVault::revoke_secret`. -/
def revokeSecret (handle : SecretHandle) : Except VaultError InMemorySecretVault := do
  failIf (self.entries[handle]? = none) .unknownSecret
  let next := { self with
    entries := self.entries.erase handle
    leases := self.leases.map fun _ state => revokeIn handle state }
  pure (next.record "secret_revoked" "revoked" (some handle) none none [])

/-- `InMemorySecretVault::revoke_lease`. -/
def revokeLease (leaseId : String) : Except VaultError InMemorySecretVault := do
  let state ← okOr self.leases[leaseId]? .unknownLease
  let next := { self with leases := self.leases.insert leaseId { state with revoked := true } }
  pure (next.record "secret_lease_revoked" "revoked" none (some leaseId) none [])

/-- `InMemorySecretVault::emergency_purge`. -/
def emergencyPurge : InMemorySecretVault :=
  InMemorySecretVault.record { self with entries := ∅, leases := ∅ } "emergency_purge" "purged" none none none
    [("secret_count", self.entries.size.repr), ("lease_count", self.leases.size.repr)]

/-! ## What an operation does -/

variable {self} {post : InMemorySecretVault}

structure Inserted (pre : InMemorySecretVault) (input : SecretInput) (now : ℤ)
    (handle : SecretHandle) (post : InMemorySecretVault) : Prop where
  validated : validateSecretInput input now = .ok ()
  handle_eq : handle = secretIdText pre.vaultId pre.nextSecretId
  entries : ∃ binding, normalizedBinding input.binding = .ok binding ∧
    post.entries = pre.entries.insert handle (entryOf input handle binding now)
  leases : post.leases = pre.leases
  nextSecretId : post.nextSecretId = saturatingAdd pre.nextSecretId 1
  nextLeaseId : post.nextLeaseId = pre.nextLeaseId
  vaultId : post.vaultId = pre.vaultId

variable {now : ℤ} {context : VaultAccessContext}

theorem normalizedBinding_of_validate {input : SecretInput} (h : validateSecretInput input now = .ok ()) :
    ∃ binding, normalizedBinding input.binding = .ok binding := by
  simp only [validateSecretInput, do_eq_ok] at h
  obtain ⟨-, -, binding, hbinding, -⟩ := h
  exact ⟨binding, hbinding⟩

/-- **Everything `insert` can do**: it fails and nothing changes, or it stores one
entry under the next number. -/
theorem insert_cases {input : SecretInput} {result : Except VaultError SecretHandle}
    (h : self.insert input now = (result, post)) : (∃ e, result = .error e ∧ post = self) ∨
      ∃ handle, result = .ok handle ∧ Inserted self input now handle post := by
  unfold insert at h
  split at h
  · next e _ =>
    cases h
    exact .inl ⟨e, rfl, rfl⟩
  next hvalidated =>
  obtain ⟨binding, hbinding⟩ := normalizedBinding_of_validate hvalidated
  rw [hbinding] at h
  cases h
  exact .inr ⟨_, rfl, hvalidated, rfl, ⟨binding, hbinding, rfl⟩, rfl, rfl, rfl, rfl⟩

structure Leased (pre : InMemorySecretVault) (handles : List SecretHandle) (now : ℤ)
    (lease : SecretLease) (post : InMemorySecretVault) : Prop where
  leaseId : lease.leaseId = leaseIdText pre.vaultId pre.nextLeaseId
  checked : ∀ handle ∈ handles, pre.checkLeased lease.context now handle = .ok ()
  leases : post.leases = pre.leases.insert lease.leaseId
    ⟨handles, lease.context, lease.expiresAtEpochSeconds, false, false⟩
  entries : post.entries = pre.entries
  nextSecretId : post.nextSecretId = pre.nextSecretId
  nextLeaseId : post.nextLeaseId = saturatingAdd pre.nextLeaseId 1
  vaultId : post.vaultId = pre.vaultId

theorem lease_cases {handles : List SecretHandle} {leaseSeconds : ℤ} {lease : SecretLease}
    (h : self.lease handles context leaseSeconds now = .ok (lease, post)) : Leased self handles now lease post := by
  simp only [InMemorySecretVault.lease, do_eq_ok] at h
  obtain ⟨-, -, normalized, -, hchecked, hlease⟩ := h
  cases hlease
  exact ⟨rfl, forM_eq_ok.mp hchecked, rfl, rfl, rfl, rfl, rfl⟩

/-- An entry is released into a request: it is unexpired, bound to the identity of
the lease, allowed at its authority and scheme, and contributes its own value. -/
structure Released (entry : SecretEntry) (context : VaultAccessContext) (requestTarget : String)
    (now : ℤ) (contribution : Contribution) : Prop where
  unexpired : isExpired entry.metadata.expiresAtEpochSeconds now = false
  identity : sameIdentity entry.metadata.binding context
  host : context.authority ∈ entry.metadata.binding.allowedHosts
  scheme : context.scheme ∈ entry.metadata.binding.allowedSchemes
  value :
    (∃ cookie, entry.delivery = .cookie cookie ∧ contribution = .cookiePair cookie.name entry.value ∧
      cookieApplies cookie context requestTarget now = .ok true) ∨
    ∃ name valuePrefix, entry.delivery = .header name valuePrefix ∧
      contribution = .header ⟨toAsciiLowercase name, name, valuePrefix ++ entry.value⟩

variable {entry : SecretEntry}

theorem validateEntryIdentity_eq_ok : validateEntryIdentity entry context now = .ok () ↔
      isExpired entry.metadata.expiresAtEpochSeconds now = false ∧ sameIdentity entry.metadata.binding context := by
  simp only [validateEntryIdentity, do_eq_ok, Bool.not_eq_true, not_not]

theorem validateEntryAccess_eq_ok : validateEntryAccess entry context now = .ok () ↔
      (isExpired entry.metadata.expiresAtEpochSeconds now = false ∧
        sameIdentity entry.metadata.binding context) ∧
      context.authority ∈ entry.metadata.binding.allowedHosts ∧
      context.scheme ∈ entry.metadata.binding.allowedSchemes := by
  simp only [validateEntryAccess, do_eq_ok, validateEntryIdentity_eq_ok, not_or, not_not]

/-- **An entry contributes nothing, or is released.** -/
theorem contribution_cases {requestTarget : String} {contribution : Contribution}
    (h : entry.contribution context requestTarget now = .ok contribution) :
    contribution = .nothing ∨ Released entry context requestTarget now contribution := by
  unfold SecretEntry.contribution at h
  split at h
  · next cookie hdelivery =>
    simp only [do_eq_ok, validateEntryIdentity_eq_ok] at h
    obtain ⟨⟨hexpired, hidentity⟩, h⟩ := h
    split at h
    · next hallowed =>
      simp only [do_eq_ok] at h
      obtain ⟨applies, happlies, rfl⟩ := h
      cases applies with
      | false => exact .inl rfl
      | true => exact .inr ⟨hexpired, hidentity, hallowed.1, hallowed.2, .inl ⟨cookie, hdelivery, rfl, happlies⟩⟩
    · rw [pure_eq_ok] at h
      exact .inl h.symm
  · next name valuePrefix hdelivery =>
    simp only [do_eq_ok, validateEntryAccess_eq_ok] at h
    obtain ⟨⟨⟨hexpired, hidentity⟩, hhost, hscheme⟩, -, rfl⟩ := h
    exact .inr ⟨hexpired, hidentity, hhost, hscheme, .inr ⟨name, valuePrefix, hdelivery, rfl⟩⟩

structure Materialized (pre : InMemorySecretVault) (lease : SecretLease) (requestTarget : String) (now : ℤ)
    (state : LeaseState) (header : SecretHeaderLease) (post : InMemorySecretVault) : Prop where
  stored : pre.leases[lease.leaseId]? = some state
  unused : lease.consumed = false
  unconsumed : state.consumed = false
  unrevoked : state.revoked = false
  unexpired : now < state.expiresAtEpochSeconds
  context : state.context = lease.context
  headers : ∃ contributions, header.headers = Contribution.headersOf contributions ∧
    ∀ contribution ∈ contributions, contribution = .nothing ∨ ∃ handle ∈ state.handles, ∃ entry,
      pre.entries[handle]? = some entry ∧ Released entry state.context requestTarget now contribution
  leaseId : header.leaseId = lease.leaseId
  authority : header.authority = state.context.authority
  scheme : header.scheme = state.context.scheme
  expires : header.expiresAtEpochSeconds = state.expiresAtEpochSeconds
  leases : post.leases = pre.leases.insert lease.leaseId { state with consumed := true }
  entries : post.entries = pre.entries
  nextSecretId : post.nextSecretId = pre.nextSecretId
  nextLeaseId : post.nextLeaseId = pre.nextLeaseId
  vaultId : post.vaultId = pre.vaultId

variable {sessionId requestTarget : String}

/-- **Everything `materialize_http_headers` can do**: it fails and the vault is as
before, or the lease is used up. -/
theorem materializeHttpHeaders_cases {lease lease' : SecretLease}
    {result : Except VaultError SecretHeaderLease}
    (h : self.materializeHttpHeaders lease sessionId requestTarget now = (result, lease', post)) :
    (∃ e, result = .error e ∧ post = self) ∨
      ∃ state header, result = .ok header ∧ Materialized self lease requestTarget now state header post := by
  unfold materializeHttpHeaders at h
  dsimp only at h
  split at h
  · next e _ =>
    cases h
    exact .inl ⟨e, rfl, rfl⟩
  next hchecked =>
  simp only [do_eq_ok, Bool.not_eq_true] at hchecked
  obtain ⟨-, -, hunused⟩ := hchecked
  split at h
  · next e _ =>
    cases h
    exact .inl ⟨e, rfl, rfl⟩
  next state headers hprepare =>
  cases h
  simp only [prepare, do_eq_ok, Prod.mk.injEq, Bool.not_eq_true, not_le, not_not, ne_eq] at hprepare
  obtain ⟨_, hstored, hrevoked, hconsumed, hexpires, hcontext, contributions, hcontributions, rfl, rfl⟩ :=
    hprepare
  refine .inr ⟨_, _, rfl, ⟨hstored, hunused, hconsumed, hrevoked, hexpires, hcontext,
    ⟨contributions, rfl, ?_⟩, rfl, rfl, rfl, rfl, rfl, rfl, rfl, rfl, rfl⟩⟩
  intro contribution hmem
  obtain ⟨handle, hhandle, hentry⟩ := (mem_mapM hcontributions).mp hmem
  simp only [do_eq_ok] at hentry
  obtain ⟨entry, hentry, hcontribution⟩ := hentry
  exact (contribution_cases hcontribution).imp id fun hreleased => ⟨handle, hhandle, entry, hentry, hreleased⟩

theorem revokeSecret_eq_ok {handle : SecretHandle} (h : self.revokeSecret handle = .ok post) :
    (∃ entry, self.entries[handle]? = some entry) ∧ post.entries = self.entries.erase handle ∧
      post.leases = self.leases.map (fun _ state => revokeIn handle state) ∧
      post.nextSecretId = self.nextSecretId ∧ post.nextLeaseId = self.nextLeaseId ∧
      post.vaultId = self.vaultId := by
  simp only [revokeSecret, do_eq_ok] at h
  obtain ⟨hsome, rfl⟩ := h
  exact ⟨Option.ne_none_iff_exists'.mp hsome, rfl, rfl, rfl, rfl, rfl⟩

theorem revokeLease_eq_ok {leaseId : String} (h : self.revokeLease leaseId = .ok post) :
    ∃ state, self.leases[leaseId]? = some state ∧
      post.leases = self.leases.insert leaseId { state with revoked := true } ∧
      post.entries = self.entries ∧ post.nextSecretId = self.nextSecretId ∧
      post.nextLeaseId = self.nextLeaseId ∧ post.vaultId = self.vaultId := by
  simp only [revokeLease, do_eq_ok] at h
  obtain ⟨state, hstate, rfl⟩ := h
  exact ⟨state, hstate, rfl, rfl, rfl, rfl, rfl⟩

end InMemorySecretVault

end BoundSeal.Vault

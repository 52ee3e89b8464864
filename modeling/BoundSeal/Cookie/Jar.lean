import BoundSeal.Cookie.SetCookie

/-!
# The cookie jar (`nxb-cookie-jar`)

A jar keeps the records of the cookies of a session, by name, domain and path;
the values are secrets of a vault. `applyResponse` takes the `Set-Cookie` fields
of a response in one transaction: parse all of them, check the records they touch,
store the new values (`stage`, with a roll-back), revoke the old ones, and then
write the records (`commitAll`). `purge` revokes everything.

Serialising an audit event cannot fail, so `append` is total. Where a function of
the source takes `&mut self` and `&mut vault`, the model returns both, also with
an error.
-/

namespace BoundSeal.Cookie

open Rust Lib
open Vault (InMemorySecretVault SecretBinding SecretDelivery SecretDeliveryMetadata SecretHandle SecretInput
  SecretKind SecretMetadata VaultError CookieMetadata SameSitePolicy)

/-! ## Data -/

namespace CookieKey

/-- The derived order: name, then domain, then path. -/
instance : Ord CookieKey :=
  ⟨compareLex (compareOn name) (compareLex (compareOn domain) (compareOn path))⟩

instance : Std.TransOrd CookieKey :=
  inferInstanceAs (Std.TransCmp (compareLex (compareOn name) (compareLex (compareOn domain) (compareOn path))))

instance : Std.LawfulEqOrd CookieKey where
  compare_self {a} := by
    show compareLex _ (compareLex _ _) a a = .eq
    rw [compareLex_eq_eq, compareLex_eq_eq]
    exact ⟨Std.ReflOrd.compare_self, Std.ReflOrd.compare_self, Std.ReflOrd.compare_self⟩
  eq_of_compare {a b} h := by
    have h : compareLex _ (compareLex _ _) a b = .eq := h
    rw [compareLex_eq_eq, compareLex_eq_eq] at h
    obtain ⟨hname, hdomain, hpath⟩ := h
    cases a
    cases b
    congr
    · exact Std.LawfulEqOrd.eq_of_compare hname
    · exact Std.LawfulEqOrd.eq_of_compare hdomain
    · exact Std.LawfulEqOrd.eq_of_compare hpath

def toJson (key : CookieKey) : Json :=
  .object [("name", .text key.name), ("domain", .text key.domain), ("path", .text key.path)]

/-- `cookie_key_hash`. -/
def hash (key : CookieKey) : String := toLowerHex (Sha256.digest key.toJson.toVec)

end CookieKey

/-- `MAX_SET_COOKIE_HEADERS`. -/
def maxSetCookieHeaders : ℕ := 128

structure CookieJarConfig where
  maximumSetCookieHeaders : ℕ
  maximumCookieRecords : ℕ
  rotationCookieNames : BTreeSet String

namespace CookieJarConfig

/-- `CookieJarConfig::conservative_default`, the default. -/
def conservativeDefault : CookieJarConfig where
  maximumSetCookieHeaders := 64
  maximumCookieRecords := 512
  rotationCookieNames := Std.ExtTreeSet.ofList
    ["session", "sessionid", "sid", "auth", "auth_token", "access_token", "jwt"] compare

/-- `CookieJarConfig::validate`. -/
def validate (self : CookieJarConfig) : Except CookieJarError CookieJarConfig := do
  failIf (self.maximumSetCookieHeaders = 0 ∨ self.maximumSetCookieHeaders > maxSetCookieHeaders)
    (.invalidConfig "set-cookie header limit is outside the supported range")
  failIf (self.maximumCookieRecords = 0 ∨ self.maximumCookieRecords > 16384)
    (.invalidConfig "cookie record limit is outside the supported range")
  let rotationCookieNames ← collectSet normalizeRotationName self.rotationCookieNames
  pure { self with rotationCookieNames }

end CookieJarConfig

structure CookieRecord where
  key : CookieKey
  handle : SecretHandle
  hostOnly : Bool
  secure : Bool
  httpOnly : Bool
  sameSite : SameSitePolicy
  expiresAtEpochSeconds : Option ℤ
  valueSha256 : Option String
  generation : ℕ
  deriving DecidableEq, Repr

structure CookieCommit where
  transactionId : String
  generationBefore : ℕ
  generationAfter : ℕ
  inserted : ℕ
  replaced : ℕ
  deleted : ℕ
  ignoredDeletions : ℕ
  supersededHeaders : ℕ
  rotationDetected : Bool
  activeHandles : List SecretHandle
  auditTail : String
  deriving DecidableEq, Repr

structure CookieJarAuditEvent where
  action : String
  outcome : String
  jarId : String
  transactionId : Option String
  generationBefore : ℕ
  generationAfter : ℕ
  inserted : ℕ
  replaced : ℕ
  deleted : ℕ
  ignoredDeletions : ℕ
  supersededHeaders : ℕ
  rotationDetected : Bool
  originHost : Option String
  originScheme : Option String
  mutatedKeySha256 : List String
  vaultAuditBefore : String
  vaultAuditAfter : String

def CookieJarAuditEvent.toJson (event : CookieJarAuditEvent) : Json :=
  .object [("action", .text event.action), ("outcome", .text event.outcome), ("jar_id", .text event.jarId),
    ("transaction_id", .option .text event.transactionId), ("generation_before", .number event.generationBefore),
    ("generation_after", .number event.generationAfter), ("inserted", .number event.inserted),
    ("replaced", .number event.replaced), ("deleted", .number event.deleted),
    ("ignored_deletions", .number event.ignoredDeletions),
    ("superseded_headers", .number event.supersededHeaders), ("rotation_detected", .bool event.rotationDetected),
    ("origin_host", .option .text event.originHost), ("origin_scheme", .option .text event.originScheme),
    ("mutated_key_sha256", .array (event.mutatedKeySha256.map .text)),
    ("vault_audit_before", .text event.vaultAuditBefore), ("vault_audit_after", .text event.vaultAuditAfter)]

/-- `CookieJarAuditChain`. -/
abbrev CookieJarAuditChain := HashChain CookieJarAuditEvent

namespace CookieJarAuditChain

def genesisOf (jarId : String) : String := toLowerHex (Sha256.digest (bytes s!"nxb-cookie-jar:{jarId}"))

def new (jarId : String) : CookieJarAuditChain := .start (genesisOf jarId)

def append (chain : CookieJarAuditChain) (event : CookieJarAuditEvent) : CookieJarAuditChain :=
  HashChain.append (tupleRecordHash CookieJarAuditEvent.toJson) chain event

/-- `CookieJarAuditChain::verify`. -/
def verify (jarId : String) (chain : CookieJarAuditChain) : Except ChainError Unit :=
  HashChain.verify (tupleRecordHash CookieJarAuditEvent.toJson) (genesisOf jarId) chain

end CookieJarAuditChain

/-- `CookieJar`. -/
structure CookieJar where
  jarId : String
  config : CookieJarConfig
  records : BTreeMap CookieKey CookieRecord
  generation : ℕ
  nextTransactionId : ℕ
  audit : CookieJarAuditChain

/-- `CookieMutation`. -/
inductive CookieMutation where
  | set (parsed : ParsedSetCookie)
  | delete
  deriving DecidableEq, Repr

namespace CookieMutation

def fromParsed (parsed : ParsedSetCookie) : CookieMutation := if parsed.delete then .delete else .set parsed

def isSet : CookieMutation → Bool
  | .set _ => true
  | .delete => false

def isDelete : CookieMutation → Bool
  | .set _ => false
  | .delete => true

end CookieMutation

/-! ## Steps of a transaction -/

def validateBindingIdentity (binding : SecretBinding) : Except CookieJarError Unit := do
  validateIdentifier binding.runId "run_id"
  validateIdentifier binding.workerId "worker_id"
  validateIdentifier binding.accountId "account_id"
  validateIdentifier binding.tenantId "tenant_id"
  validateIdentifier binding.roleId "role_id"
  failIf (binding.allowedHosts.isEmpty ∨ binding.allowedSchemes.isEmpty) .originOutsideBinding

/-- `allowed_hosts_for_cookie`. -/
def allowedHostsForCookie (binding : SecretBinding) (origin : CookieOrigin)
    (cookie : ParsedSetCookie) : Except CookieJarError (BTreeSet String) := do
  let allowedHosts : BTreeSet String :=
    if cookie.hostOnly then Std.ExtTreeSet.ofList [origin.host] compare
    else binding.allowedHosts.filter fun host => domainMatches host cookie.domain
  failIf allowedHosts.isEmpty .cookieScopeEmpty
  pure allowedHosts

def allowedSchemesForCookie (binding : SecretBinding) (cookie : ParsedSetCookie) : BTreeSet String :=
  if cookie.secure then binding.allowedSchemes.filter (· == "https") else binding.allowedSchemes

def secretInputOf (binding : SecretBinding) (allowedHosts allowedSchemes : BTreeSet String)
    (parsed : ParsedSetCookie) : SecretInput where
  kind := .cookie
  value := parsed.value
  binding := { binding with allowedHosts, allowedSchemes }
  delivery := .cookie
    { name := parsed.name
      domain := parsed.domain
      path := parsed.path
      expiresAtEpochSeconds := parsed.expiresAtEpochSeconds
      secure := parsed.secure
      httpOnly := parsed.httpOnly
      sameSite := parsed.sameSite }
  expiresAtEpochSeconds := parsed.expiresAtEpochSeconds

/-- The record of a cookie that is stored under a handle. -/
def recordOf (key : CookieKey) (handle : SecretHandle) (generation : ℕ) (parsed : ParsedSetCookie) :
    CookieRecord where
  key
  handle
  hostOnly := parsed.hostOnly
  secure := parsed.secure
  httpOnly := parsed.httpOnly
  sameSite := parsed.sameSite
  expiresAtEpochSeconds := parsed.expiresAtEpochSeconds
  valueSha256 := some parsed.valueSha256
  generation

/-- Revoke handles in turn, up to the first one the vault does not know. -/
def revokeHandles : List SecretHandle → InMemorySecretVault → Except VaultError Unit × InMemorySecretVault
  | [], vault => (.ok (), vault)
  | handle :: handles, vault =>
    match vault.revokeSecret handle with
    | .error e => (.error e, vault)
    | .ok vault => revokeHandles handles vault

/-- The handles of records, in the order of their keys. -/
def handlesOf (records : BTreeMap CookieKey CookieRecord) : List SecretHandle :=
  (values records).map (·.handle)

/-- `rollback_staged(..)?` followed by `return Err(error)`. -/
def rollbackStaged (vault : InMemorySecretVault) (staged : BTreeMap CookieKey CookieRecord)
    (error : CookieJarError) : CookieJarError × InMemorySecretVault :=
  match revokeHandles (handlesOf staged) vault with
  | (.error e, vault) => (.rollbackFailed e.toText, vault)
  | (.ok (), vault) => (error, vault)

/-- The staging loop of `apply_response`: store the value of every cookie that is
set. -/
def stage (binding : SecretBinding) (origin : CookieOrigin) (generation : ℕ) (nowEpochSeconds : ℤ) :
    List (CookieKey × CookieMutation) → BTreeMap CookieKey CookieRecord → InMemorySecretVault →
      Except CookieJarError (BTreeMap CookieKey CookieRecord) × InMemorySecretVault
  | [], staged, vault => (.ok staged, vault)
  | (_, .delete) :: mutations, staged, vault =>
    stage binding origin generation nowEpochSeconds mutations staged vault
  | (key, .set parsed) :: mutations, staged, vault =>
    match allowedHostsForCookie binding origin parsed with
    -- the `?` of the source: no roll-back here
    | .error e => (.error e, vault)
    | .ok allowedHosts =>
      let allowedSchemes := allowedSchemesForCookie binding parsed
      if allowedSchemes.isEmpty then
        let (e, vault) := rollbackStaged vault staged .cookieScopeEmpty
        (.error e, vault)
      else
        match vault.insert (secretInputOf binding allowedHosts allowedSchemes parsed) nowEpochSeconds with
        | (.error e, vault) =>
          let (e, vault) := rollbackStaged vault staged (.vault e)
          (.error e, vault)
        | (.ok handle, vault) =>
          stage binding origin generation nowEpochSeconds mutations
            (staged.insert key (recordOf key handle generation parsed)) vault

/-- The variables of the loop that writes the records. -/
structure CommitState where
  records : BTreeMap CookieKey CookieRecord
  staged : BTreeMap CookieKey CookieRecord
  inserted : ℕ := 0
  replaced : ℕ := 0
  deleted : ℕ := 0
  ignoredDeletions : ℕ := 0
  rotationDetected : Bool := false
  mutatedKeySha256 : List String := []

/-- One round of that loop; an error leaves the record removed. -/
def commitOne (config : CookieJarConfig) (generationBefore : ℕ) (state : CommitState)
    (key : CookieKey) : CookieMutation → Except CookieJarError Unit × CommitState
  | .delete =>
    let previous := state.records[key]?
    let state := { state with
      records := state.records.erase key
      mutatedKeySha256 := state.mutatedKeySha256 ++ [key.hash] }
    match previous with
    | some _ => (.ok (), { state with deleted := saturatingAdd state.deleted 1, rotationDetected := true })
    | none => (.ok (), { state with ignoredDeletions := saturatingAdd state.ignoredDeletions 1 })
  | .set parsed =>
    let previous := state.records[key]?
    let state := { state with
      records := state.records.erase key
      mutatedKeySha256 := state.mutatedKeySha256 ++ [key.hash] }
    match state.staged[key]? with
    | none => (.error (.commitInvariant "staged cookie missing"), state)
    | some record =>
      let state := { state with staged := state.staged.erase key }
      let state := match previous with
        | some previous => { state with
            replaced := saturatingAdd state.replaced 1
            rotationDetected := state.rotationDetected || previous.valueSha256 != some parsed.valueSha256 }
        | none => { state with
            inserted := saturatingAdd state.inserted 1
            rotationDetected := state.rotationDetected ||
              config.rotationCookieNames.contains (toAsciiLowercase parsed.name) }
      let generation := if state.rotationDetected then saturatingAdd generationBefore 1 else generationBefore
      (.ok (), { state with records := state.records.insert key { record with generation } })

/-- The loop. -/
def commitAll (config : CookieJarConfig) (generationBefore : ℕ) :
    List (CookieKey × CookieMutation) → CommitState → Except CookieJarError Unit × CommitState
  | [], state => (.ok (), state)
  | (key, mutation) :: mutations, state =>
    match commitOne config generationBefore state key mutation with
    | (.error e, state) => (.error e, state)
    | (.ok (), state) => commitAll config generationBefore mutations state

/-! ## The jar -/

namespace CookieJar

/-- `CookieJar::new`. -/
def new (jarId : String) (config : CookieJarConfig) : Except CookieJarError CookieJar := do
  validateIdentifier jarId "jar_id"
  let config ← config.validate
  pure ⟨jarId, config, ∅, 1, 1, .new jarId⟩

variable (self : CookieJar)

/-- `CookieJar::active_handles`. -/
def activeHandles : List SecretHandle := handlesOf self.records

def seedKey (cookie : CookieMetadata) : Except CookieJarError CookieKey := do
  let domain ← normalizeHost cookie.domain
  let path ← normalizeCookiePath cookie.path
  pure ⟨cookie.name, domain, path⟩

def seedRecord (key : CookieKey) (metadata : SecretMetadata) (cookie : CookieMetadata)
    (handle : SecretHandle) (generation : ℕ) : CookieRecord where
  key
  handle
  hostOnly := metadata.binding.allowedHosts.size == 1 && metadata.binding.allowedHosts.contains key.domain
  secure := cookie.secure
  httpOnly := cookie.httpOnly
  sameSite := cookie.sameSite
  expiresAtEpochSeconds := cookie.expiresAtEpochSeconds
  valueSha256 := none
  generation

/-- One handle of `seed_from_vault`: the record it adds, if it is a cookie. -/
def seedOne (vault : InMemorySecretVault) (generation : ℕ) (handle : SecretHandle) :
    Except CookieJarError (Option CookieRecord) := do
  let metadata ← (vault.metadata handle).mapError .vault
  if metadata.kind ≠ .cookie then pure none
  else
    match metadata.delivery with
    | .header _ _ => .error .vaultCookieMetadataMismatch
    | .cookie cookie => do
      let key ← seedKey cookie
      pure (some (seedRecord key metadata cookie handle generation))

/-- The loop of `seed_from_vault`; an error keeps the records added so far. -/
def seedAll (vault : InMemorySecretVault) (generation : ℕ) :
    List SecretHandle → BTreeMap CookieKey CookieRecord →
      Except CookieJarError Unit × BTreeMap CookieKey CookieRecord
  | [], records => (.ok (), records)
  | handle :: handles, records =>
    match seedOne vault generation handle with
    | .error e => (.error e, records)
    | .ok none => seedAll vault generation handles records
    | .ok (some record) => seedAll vault generation handles (records.insert record.key record)

/-- `CookieJar::seed_from_vault`. -/
def seedFromVault (handles : List SecretHandle) (vault : InMemorySecretVault) :
    Except CookieJarError Unit × CookieJar :=
  match seedAll vault self.generation handles self.records with
  | (.error e, records) => (.error e, { self with records })
  | (.ok (), records) =>
    (if records.size > self.config.maximumCookieRecords then .error .cookieRecordLimitExceeded else .ok (),
      { self with records })

/-- The mutations of a response, the last field for a key winning, and how many
fields were superseded. -/
def collectMutations (parseHttpDate : String → Option ℤ) (origin : CookieOrigin) (requestTarget : String)
    (nowEpochSeconds : ℤ) : List Bytes → BTreeMap CookieKey CookieMutation × ℕ →
      Except CookieJarError (BTreeMap CookieKey CookieMutation × ℕ)
  | [], mutations => .ok mutations
  | header :: headers, (mutations, supersededHeaders) => do
    let parsed ← parseSetCookie parseHttpDate header origin requestTarget nowEpochSeconds
    let supersededHeaders :=
      if mutations.contains parsed.key then saturatingAdd supersededHeaders 1 else supersededHeaders
    collectMutations parseHttpDate origin requestTarget nowEpochSeconds headers
      (mutations.insert parsed.key (.fromParsed parsed), supersededHeaders)

/-- How many records there will be. -/
def prospectiveCount (mutations : BTreeMap CookieKey CookieMutation) : ℕ :=
  saturatingAdd self.records.size
      (mutations.toList.countP fun (key, mutation) => mutation.isSet && !self.records.contains key) -
    mutations.toList.countP fun (key, mutation) => mutation.isDelete && self.records.contains key

/-- What a transaction has passed before it changes anything in `apply_response`: the
origin, the mutations and the number of superseded fields. -/
def plan (parseHttpDate : String → Option ℤ) (vault : InMemorySecretVault) (binding : SecretBinding)
    (origin : CookieOrigin) (requestTarget : String) (setCookieValues : List Bytes) (nowEpochSeconds : ℤ) :
    Except CookieJarError (CookieOrigin × BTreeMap CookieKey CookieMutation × ℕ) := do
  failIf (setCookieValues.length > self.config.maximumSetCookieHeaders) .setCookieHeaderLimitExceeded
  let origin ← CookieOrigin.new origin.host origin.scheme
  validateRequestTarget requestTarget
  validateBindingIdentity binding
  failIf (origin.host ∉ binding.allowedHosts ∨ origin.scheme ∉ binding.allowedSchemes) .originOutsideBinding
  let (mutations, supersededHeaders) ←
    collectMutations parseHttpDate origin requestTarget nowEpochSeconds setCookieValues (∅, 0)
  failIf (self.prospectiveCount mutations > self.config.maximumCookieRecords) .cookieRecordLimitExceeded
  mutations.toList.forM fun (key, _) =>
    match self.records[key]? with
    | some existing => ((vault.metadata existing.handle).mapError CookieJarError.vault).map fun _ => ()
    | none => .ok ()
  pure (origin, mutations, supersededHeaders)

def transactionId : String := s!"{self.jarId}-transaction-{zeroPadded 20 self.nextTransactionId}"

/-- The handles of the records that mutations touch. -/
def oldHandles (mutations : BTreeMap CookieKey CookieMutation) : List SecretHandle :=
  mutations.toList.filterMap fun (key, _) => self.records[key]?.map (·.handle)

/-- The end of `apply_response`: the generation, the audit event and
the commit. -/
def finish (vaultAuditBefore vaultAuditAfter transactionId : String) (origin : CookieOrigin)
    (supersededHeaders : ℕ) (state : CommitState) : CookieCommit × CookieJar :=
  let generationBefore := self.generation
  let generationAfter :=
    if state.rotationDetected then saturatingAdd self.generation 1 else self.generation
  let records :=
    if state.rotationDetected then
      state.records.map fun _ record => { record with generation := generationAfter }
    else state.records
  let event : CookieJarAuditEvent :=
    { action := "set_cookie_transaction"
      outcome := "committed"
      jarId := self.jarId
      transactionId := some transactionId
      generationBefore
      generationAfter
      inserted := state.inserted
      replaced := state.replaced
      deleted := state.deleted
      ignoredDeletions := state.ignoredDeletions
      supersededHeaders
      rotationDetected := state.rotationDetected
      originHost := some origin.host
      originScheme := some origin.scheme
      mutatedKeySha256 := state.mutatedKeySha256
      vaultAuditBefore
      vaultAuditAfter }
  let next : CookieJar :=
    { self with
      records
      generation := generationAfter
      audit := CookieJarAuditChain.append self.audit event }
  ({ transactionId
     generationBefore
     generationAfter
     inserted := state.inserted
     replaced := state.replaced
     deleted := state.deleted
     ignoredDeletions := state.ignoredDeletions
     supersededHeaders
     rotationDetected := state.rotationDetected
     activeHandles := handlesOf records
     auditTail := next.audit.tailHash },
    next)

/-- `CookieJar::apply_response`. -/
def applyResponse (parseHttpDate : String → Option ℤ) (vault : InMemorySecretVault) (binding : SecretBinding)
    (origin : CookieOrigin) (requestTarget : String) (setCookieValues : List Bytes)
    (nowEpochSeconds : ℤ) : Except CookieJarError CookieCommit × CookieJar × InMemorySecretVault :=
  match self.plan parseHttpDate vault binding origin requestTarget setCookieValues nowEpochSeconds with
  | .error e => (.error e, self, vault)
  | .ok (origin, mutations, supersededHeaders) =>
    let vaultAuditBefore := vault.audit.tailHash
    let transactionId := self.transactionId
    let oldHandles := self.oldHandles mutations
    let self := { self with nextTransactionId := saturatingAdd self.nextTransactionId 1 }
    match stage binding origin self.generation nowEpochSeconds mutations.toList ∅ vault with
    | (.error e, vault) => (.error e, self, vault)
    | (.ok staged, vault) =>
      match revokeHandles oldHandles vault with
      | (.error e, vault) =>
        let (e, vault) := rollbackStaged vault staged (.commitInvariant e.toText)
        (.error e, self, vault)
      | (.ok (), vault) =>
        match commitAll self.config self.generation mutations.toList { records := self.records, staged } with
        | (.error e, state) => (.error e, { self with records := state.records }, vault)
        | (.ok (), state) =>
          let (commit, self) := self.finish vaultAuditBefore vault.audit.tailHash transactionId origin
            supersededHeaders state
          (.ok commit, self, vault)

/-- `CookieJar::purge`. -/
def purge (vault : InMemorySecretVault) (reason : String) :
    Except CookieJarError CookieCommit × CookieJar × InMemorySecretVault :=
  match validateIdentifier reason "reason" with
  | .error e => (.error e, self, vault)
  | .ok () =>
    let vaultAuditBefore := vault.audit.tailHash
    let generationBefore := self.generation
    let records := self.records
    -- the records are taken out before anything is revoked
    let self := { self with records := ∅ }
    match revokeHandles (handlesOf records) vault with
    | (.error e, vault) => (.error (.vault e), self, vault)
    | (.ok (), vault) =>
      let deleted := records.size
      let generation := if deleted > 0 then saturatingAdd self.generation 1 else self.generation
      let transactionId := self.transactionId
      let event : CookieJarAuditEvent :=
        { action := "cookie_jar_purge"
          outcome := reason
          jarId := self.jarId
          transactionId := some transactionId
          generationBefore
          generationAfter := generation
          inserted := 0
          replaced := 0
          deleted
          ignoredDeletions := 0
          supersededHeaders := 0
          rotationDetected := decide (deleted > 0)
          originHost := none
          originScheme := none
          mutatedKeySha256 := records.toList.map fun (key, _) => key.hash
          vaultAuditBefore
          vaultAuditAfter := vault.audit.tailHash }
      let next : CookieJar :=
        { self with
          generation
          nextTransactionId := saturatingAdd self.nextTransactionId 1
          audit := CookieJarAuditChain.append self.audit event }
      (.ok
        { transactionId
          generationBefore
          generationAfter := generation
          inserted := 0
          replaced := 0
          deleted
          ignoredDeletions := 0
          supersededHeaders := 0
          rotationDetected := decide (deleted > 0)
          activeHandles := []
          auditTail := next.audit.tailHash },
        next, vault)

end CookieJar

end BoundSeal.Cookie

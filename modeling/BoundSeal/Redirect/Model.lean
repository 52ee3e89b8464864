import BoundSeal.Http1.Message
import BoundSeal.Transport.PinnedTransport

/-!
# The redirect coordinator (`nxb-redirect`)

`RedirectCoordinator` follows one redirect chain. `authorizeNext` takes a response,
a DNS resolution and the session after the response, decides what the next request
would be, and asks the pinned transport to authorize it.

Everything up to the transport reads the coordinator only, and is `plan` here: it
yields the next step, or an error together with whether the error ends the chain.
What follows is `commit`. Joining a location to a base URL is a parameter.
-/

namespace BoundSeal.Redirect

open Rust Lib Gateway Transport Http1

/-! ## Data (`part1.rs`) -/

/-- `MAX_LOCATION_BYTES`. -/
def maxLocationBytes : ℕ := 8 * 1024

/-- `MAX_REDIRECT_CHAIN_LENGTH`. -/
def maxRedirectChainLength : ℕ := 20

inductive RedirectError where
  | invalidLimits
  | invalidChainId
  | invalidIdentifier (name : String)
  | invalidSessionGeneration
  | invalidMethod
  | invalidDigest (name : String)
  | invalidUrl
  | userInfoForbidden
  | missingHost
  | missingPort
  | notRedirect
  | missingLocation
  | multipleLocations
  | invalidLocation (message : String)
  | httpsDowngrade
  | redirectLimitExceeded
  | redirectLoop
  | dnsContextReused
  | sessionIdentityMismatch
  | sessionGenerationMismatch
  | crossOriginBodyReplayDenied
  | chainTerminated
  | missingTransportTicket
  | transport (error : PinnedTransportError)
  deriving DecidableEq, Repr

/-- `validate_identifier` of this crate: no trimming, no colon. -/
def validateIdentifier (value name : String) : Except RedirectError Unit :=
  failIf (value = "" ∨ value.utf8ByteSize > 128 ∨
      ¬ value.toList.all fun c => c.isAlphanum || c == '-' || c == '_' || c == '.')
    (.invalidIdentifier name)

/-- `validate_sha256`: upper-case digits pass. -/
def validateSha256 (value name : String) : Except RedirectError Unit :=
  failIf (value.utf8ByteSize ≠ 64 ∨
      ¬ value.toList.all fun c => c.isDigit || ('a' ≤ c && c ≤ 'f') || ('A' ≤ c && c ≤ 'F'))
    (.invalidDigest name)

/-- `validate_http_url`. -/
def validateHttpUrl (url : Url) : Except RedirectError Unit := do
  failIf ((url.scheme ≠ "http" ∧ url.scheme ≠ "https") ∨ url.hostStr = none) .invalidUrl
  failIf (url.username ≠ "" ∨ url.password ≠ none) .userInfoForbidden

/-- `normalize_method`. -/
def normalizeMethod (method : String) : Except RedirectError String := do
  let normalized := toAsciiUppercase method
  failIf (normalized = "" ∨ normalized.utf8ByteSize > 32 ∨
      ¬ normalized.toList.all fun c => c.isUpper || c.isDigit || c == '-' || c == '_') .invalidMethod
  pure normalized

structure RedirectLimits where
  maximumRedirects : ℕ
  deriving DecidableEq, Repr

/-- `RedirectLimits::validate`. -/
def RedirectLimits.validate (self : RedirectLimits) : Except RedirectError RedirectLimits := do
  failIf (self.maximumRedirects = 0 ∨ self.maximumRedirects > maxRedirectChainLength) .invalidLimits
  pure self

structure RedirectSessionSnapshot where
  sessionId : String
  runId : String
  workerId : String
  accountId : String
  tenantId : String
  roleId : String
  generation : ℕ
  deriving DecidableEq, Repr

namespace RedirectSessionSnapshot

variable (self other : RedirectSessionSnapshot)

/-- `RedirectSessionSnapshot::validate`. -/
def validate : Except RedirectError Unit := do
  validateIdentifier self.sessionId "session_id"
  validateIdentifier self.runId "run_id"
  validateIdentifier self.workerId "worker_id"
  validateIdentifier self.accountId "account_id"
  validateIdentifier self.tenantId "tenant_id"
  validateIdentifier self.roleId "role_id"
  failIf (self.generation = 0) .invalidSessionGeneration

/-- The identity of a session: everything but its generation. -/
def identity : List String :=
  [self.sessionId, self.runId, self.workerId, self.accountId, self.tenantId, self.roleId]

/-- `identity_matches`. -/
def identityMatches : Bool := self.identity == other.identity

end RedirectSessionSnapshot

structure RedirectSessionUpdate where
  snapshot : RedirectSessionSnapshot
  responseStateChanged : Bool

structure RedirectRequestState where
  url : Url
  method : String
  bodySha256 : String
  bodyBytes : ℕ
  session : RedirectSessionSnapshot

/-- `RedirectRequestState::new`. -/
def RedirectRequestState.new (url : Url) (method bodySha256 : String) (bodyBytes : ℕ)
    (session : RedirectSessionSnapshot) : Except RedirectError RedirectRequestState := do
  validateHttpUrl url
  let url := { url with fragment := none }
  let method ← normalizeMethod method
  validateSha256 bodySha256 "body_sha256"
  session.validate
  pure { url, method, bodySha256, bodyBytes, session }

structure RedirectDnsInput where
  resolvedIps : List IpAddr
  selectedIp : IpAddr
  contextId : String
  resolverId : String
  ttlSeconds : ℕ

structure Origin where
  scheme : String
  host : String
  port : ℕ
  deriving DecidableEq, Repr

namespace Origin

/-- `Origin::from_url`. -/
def fromUrl (url : Url) : Except RedirectError Origin := do
  validateHttpUrl url
  let host ← okOr url.hostStr .missingHost
  let port ← okOr url.portOrKnownDefault .missingPort
  pure { scheme := toAsciiLowercase url.scheme, host := toAsciiLowercase host, port }

/-- `Origin::authority`. -/
def authority (self : Origin) : String :=
  let defaultPort := match self.scheme with
    | "http" => 80
    | "https" => 443
    | _ => self.port
  if self.port = defaultPort then self.host else s!"{self.host}:{self.port}"

/-- `origin_code`. -/
def code (self : Origin) : String := s!"{self.scheme}://{self.authority}"

end Origin

inductive OriginTransition where
  | sameOrigin
  | crossOrigin
  deriving DecidableEq, Repr

def OriginTransition.code : OriginTransition → String
  | .sameOrigin => "same_origin"
  | .crossOrigin => "cross_origin"

inductive RedirectBodyDisposition where
  | preserve
  | drop
  deriving DecidableEq, Repr

def RedirectBodyDisposition.code : RedirectBodyDisposition → String
  | .preserve => "preserve"
  | .drop => "drop"

inductive RedirectSecretDisposition where
  | reissueBoundSecrets
  | rematerializeCookiesOnly
  deriving DecidableEq, Repr

def RedirectSecretDisposition.code : RedirectSecretDisposition → String
  | .reissueBoundSecrets => "reissue_bound_secrets"
  | .rematerializeCookiesOnly => "rematerialize_cookies_only"

structure RedirectNextRequest where
  url : Url
  method : String
  bodyDisposition : RedirectBodyDisposition
  bodySha256 : String
  bodyBytes : ℕ

structure RedirectStep where
  redirectDepth : ℕ
  statusCode : ℕ
  fromOrigin : Origin
  toOrigin : Origin
  originTransition : OriginTransition
  secretDisposition : RedirectSecretDisposition
  sessionGeneration : ℕ
  nextRequest : RedirectNextRequest
  authorization : ConnectionAuthorization

/-- `RedirectStep::is_authorized`. -/
def RedirectStep.isAuthorized (self : RedirectStep) : Bool :=
  self.authorization.decision.outcome == .allow && self.authorization.ticket.isSome

/-! ## Hashes -/

/-- `hash`: SHA-256 in hexadecimal. -/
def hash (value : Bytes) : String := toLowerHex (Sha256.digest value)

/-- `request_identity_hash`. -/
def requestIdentityHash (url : Url) (method : String) : String :=
  hash (bytes (method ++ "\x00" ++ url.toString))

/-- `origin_form`. -/
def originForm (url : Url) : String :=
  (if url.path = "" then "/" else url.path) ++ url.query.elim "" fun query => "?" ++ query

/-- `target_hash`. -/
def targetHash (url : Url) : String := hash (bytes (originForm url))

/-- `session_identity_hash`. -/
def sessionIdentityHash (session : RedirectSessionSnapshot) : String :=
  hash (bytes (Rust.join "\x00" session.identity))

/-! ## Audit (`part2.rs`) -/

/-- `RedirectAuditEvent`. -/
structure RedirectAuditEvent where
  chainId : String
  step : ℕ
  status : String
  reason : String
  responseStatus : ℕ
  fromOrigin : String
  toOrigin : String
  fromTargetSha256 : String
  toTargetSha256 : String
  locationSha256 : String
  methodBefore : String
  methodAfter : String
  bodyDisposition : String
  originTransition : String
  secretDisposition : String
  sessionIdentitySha256 : String
  sessionGeneration : ℕ
  dnsContextId : String
  gatewayDecisionId : String
  gatewayOutcome : String
  gatewayDecisionSha256 : String
  gatewayAuditAnchor : String
  ticketId : Option String
  ticketBindingHash : Option String
  transportAuditAnchor : String

def RedirectAuditEvent.toJson (event : RedirectAuditEvent) : Json :=
  .object [("chain_id", .text event.chainId), ("step", .number event.step),
    ("status", .text event.status), ("reason", .text event.reason),
    ("response_status", .number event.responseStatus), ("from_origin", .text event.fromOrigin),
    ("to_origin", .text event.toOrigin), ("from_target_sha256", .text event.fromTargetSha256),
    ("to_target_sha256", .text event.toTargetSha256), ("location_sha256", .text event.locationSha256),
    ("method_before", .text event.methodBefore), ("method_after", .text event.methodAfter),
    ("body_disposition", .text event.bodyDisposition),
    ("origin_transition", .text event.originTransition),
    ("secret_disposition", .text event.secretDisposition),
    ("session_identity_sha256", .text event.sessionIdentitySha256),
    ("session_generation", .number event.sessionGeneration),
    ("dns_context_id", .text event.dnsContextId),
    ("gateway_decision_id", .text event.gatewayDecisionId),
    ("gateway_outcome", .text event.gatewayOutcome),
    ("gateway_decision_sha256", .text event.gatewayDecisionSha256),
    ("gateway_audit_anchor", .text event.gatewayAuditAnchor),
    ("ticket_id", .option .text event.ticketId),
    ("ticket_binding_hash", .option .text event.ticketBindingHash),
    ("transport_audit_anchor", .text event.transportAuditAnchor)]

/-- The addresses of a reason, in order. -/
def ipsJson (ips : BTreeSet IpAddr) : Json := .texts (ips.toList.map IpAddr.toString)

/-- The serialised form of a reason: its code first, then its fields. -/
def reasonJson (reason : DecisionReason) : Json :=
  .object (("code", .text reason.code) :: match reason with
    | .nonPublicDestination ip «class» => [("ip", .text ip.toString), ("class", .text «class».code)]
    | .redirectLimitExceeded maximum observed => [("maximum", .number maximum), ("observed", .number observed)]
    | .invalidDnsObservation kind => [("kind", .text kind.code)]
    | .dnsResolverChanged expected observed => [("expected", .text expected), ("observed", .text observed)]
    | .dnsRebindingDetected host pinned observed =>
      [("host", .text host), ("pinned", ipsJson pinned), ("observed", ipsJson observed)]
    | .rateLimited retryAfterMilliseconds => [("retry_after_milliseconds", .number retryAfterMilliseconds)]
    | .authorized => []
    | .urlOrMethodOutOfScope => []
    | .missingDnsResolution => []
    | .totalBudgetExhausted => []
    | .concurrencyExceeded => [])

def decisionJson (decision : GatewayDecision) : Json :=
  .object [("decision_id", .text decision.decisionId), ("outcome", .text decision.outcome.code),
    ("reason", reasonJson decision.reason)]

/-- `RedirectAuditChain`: the anchor is kept with the records. -/
structure RedirectAuditChain extends HashChain RedirectAuditEvent where
  genesisHash : String

namespace RedirectAuditChain

/-- `RedirectAuditChain::new`. -/
def new (chainId transportAnchor : String) : RedirectAuditChain :=
  let genesisHash := hash (bytes s!"nxb-redirect:{chainId}:{transportAnchor}")
  { HashChain.start genesisHash with genesisHash }

/-- The hash of a record: of the triple of number, previous hash and event. -/
def recordHash (sequence : ℕ) (previousHash : String) (event : RedirectAuditEvent) : String :=
  hash (Json.array [.number sequence, .text previousHash, event.toJson]).toVec

/-- `RedirectAuditChain::append`. -/
def append (self : RedirectAuditChain) (event : RedirectAuditEvent) : RedirectAuditChain :=
  { self with toHashChain := HashChain.append recordHash self.toHashChain event }

/-- `RedirectAuditChain::verify`. -/
def verify (self : RedirectAuditChain) : Except ChainError Unit :=
  HashChain.verify recordHash self.genesisHash self.toHashChain

end RedirectAuditChain

/-! ## Reading a response (`part3.rs`) -/

/-- `strict_location`. -/
def strictLocation (response : Http1Response) : Except RedirectError Bytes := do
  failIf (response.statusCode ∉ [301, 302, 303, 307, 308]) .notRedirect
  match response.headers.filter fun header => eqIgnoreAsciiCase header.name "location" with
  | [] => .error .missingLocation
  | [header] => do
    let value := header.value
    failIf (value = [] ∨ value.length > maxLocationBytes)
      (.invalidLocation "length is outside the supported range")
    failIf (value.head?.any isAsciiWhitespace ∨ value.getLast?.any isAsciiWhitespace ∨
        value.any fun byte => isAsciiControl byte || byte == 0x20)
      (.invalidLocation "whitespace or control bytes are forbidden")
    pure value
  | _ => .error .multipleLocations

/-- `redirect_method_plan`. -/
def redirectMethodPlan (status : ℕ) (currentMethod : String) :
    Except RedirectError (String × RedirectBodyDisposition) :=
  if status = 301 ∨ status = 302 then
    if currentMethod = "POST" then .ok ("GET", .drop) else .ok (currentMethod, .preserve)
  else if status = 303 then
    if currentMethod = "HEAD" then .ok ("HEAD", .drop) else .ok ("GET", .drop)
  else if status = 307 ∨ status = 308 then .ok (currentMethod, .preserve)
  else .error .notRedirect

/-- `validate_session_update`. -/
def validateSessionUpdate (current : RedirectSessionSnapshot) (update : RedirectSessionUpdate) :
    Except RedirectError Unit := do
  update.snapshot.validate
  failIf (¬ current.identityMatches update.snapshot) .sessionIdentityMismatch
  let expected := if update.responseStateChanged then saturatingAdd current.generation 1
    else current.generation
  failIf (update.snapshot.generation ≠ expected) .sessionGenerationMismatch

/-! ## The coordinator -/

/-- `RedirectCoordinator`. -/
structure RedirectCoordinator where
  chainId : String
  limits : RedirectLimits
  transport : PinnedTransportCoordinator
  current : RedirectRequestState
  seenRequests : BTreeSet String
  usedDnsContexts : BTreeSet String
  redirectCount : ℕ
  terminal : Bool
  audit : RedirectAuditChain

/-- What a call has settled before it asks the transport. -/
structure RedirectPlan where
  statusCode : ℕ
  locationSha256 : String
  toTargetSha256 : String
  fromOrigin : Origin
  toOrigin : Origin
  originTransition : OriginTransition
  secretDisposition : RedirectSecretDisposition
  nextRequest : RedirectNextRequest
  nextRequestHash : String
  redirectDepth : ℕ
  intent : RequestIntent

namespace RedirectCoordinator

/-- `RedirectCoordinator::new`. -/
def new (chainId : String) (transport : PinnedTransportCoordinator) (current : RedirectRequestState)
    (limits : RedirectLimits) : Except RedirectError RedirectCoordinator := do
  (validateIdentifier chainId "chain_id").mapError fun _ => .invalidChainId
  let limits ← limits.validate
  pure
    { chainId
      limits
      transport
      current
      seenRequests := Std.ExtTreeSet.ofList [requestIdentityHash current.url current.method] compare
      usedDnsContexts := ∅
      redirectCount := 0
      terminal := false
      audit := .new chainId transport.audit.tailHash }

variable (joinUrl : Url → String → Except String Url) (self : RedirectCoordinator)

/-- `resolve_location`. -/
def resolveLocation (base : Url) (location : Bytes) : Except RedirectError Url := do
  let location ← okOr (fromUtf8 location) (.invalidLocation "value is not UTF-8")
  let url ← (joinUrl base location).mapError .invalidLocation
  validateHttpUrl url
  pure url

def stay {α : Type} (x : Except RedirectError α) : Except (RedirectError × Bool) α :=
  x.mapError fun e => (e, false)

def endIf (c : Prop) [Decidable c] (e : RedirectError) : Except (RedirectError × Bool) Unit :=
  failIf c (e, true)

/-- `authorize_next` up to the transport. -/
def plan (response : Http1Response) (dns : RedirectDnsInput)
    (sessionUpdate : RedirectSessionUpdate) : Except (RedirectError × Bool) RedirectPlan := do
  failIf (self.terminal = true) (.chainTerminated, false)
  endIf (self.redirectCount ≥ self.limits.maximumRedirects) .redirectLimitExceeded
  stay (validateSessionUpdate self.current.session sessionUpdate)
  stay (validateIdentifier dns.contextId "dns_context_id")
  stay (validateIdentifier dns.resolverId "dns_resolver_id")
  endIf (dns.contextId ∈ self.usedDnsContexts) .dnsContextReused
  let locationBytes ← stay (strictLocation response)
  let nextUrl ← stay (resolveLocation joinUrl self.current.url locationBytes)
  let nextUrl := { nextUrl with fragment := none }
  let fromOrigin ← stay (Origin.fromUrl self.current.url)
  let toOrigin ← stay (Origin.fromUrl nextUrl)
  endIf (fromOrigin.scheme = "https" ∧ toOrigin.scheme = "http") .httpsDowngrade
  let (method, bodyDisposition) ← stay (redirectMethodPlan response.statusCode self.current.method)
  let originTransition := if fromOrigin = toOrigin then .sameOrigin else .crossOrigin
  endIf (originTransition = .crossOrigin ∧ bodyDisposition = .preserve ∧ self.current.bodyBytes > 0)
    .crossOriginBodyReplayDenied
  let secretDisposition := match originTransition with
    | .sameOrigin => .reissueBoundSecrets
    | .crossOrigin => .rematerializeCookiesOnly
  let nextRequest : RedirectNextRequest :=
    { url := nextUrl
      method
      bodyDisposition
      bodySha256 := match bodyDisposition with
        | .preserve => self.current.bodySha256
        | .drop => hash []
      bodyBytes := match bodyDisposition with
        | .preserve => self.current.bodyBytes
        | .drop => 0 }
  let nextRequestHash := requestIdentityHash nextUrl method
  endIf (nextRequestHash ∈ self.seenRequests) .redirectLoop
  let redirectDepth := min (self.redirectCount + 1) 255
  pure
    { statusCode := response.statusCode
      locationSha256 := hash locationBytes
      toTargetSha256 := targetHash nextUrl
      fromOrigin
      toOrigin
      originTransition
      secretDisposition
      nextRequest
      nextRequestHash
      redirectDepth
      intent :=
        { url := nextUrl
          method
          resolvedIps := dns.resolvedIps
          redirectDepth
          dnsContextId := dns.contextId
          dnsResolverId := dns.resolverId
          dnsTtlSeconds := dns.ttlSeconds } }

/-- The event `append_audit_event` records. -/
def auditEvent (plan : RedirectPlan) (session : RedirectSessionSnapshot) (dnsContextId : String)
    (authorization : ConnectionAuthorization) : RedirectAuditEvent where
  chainId := self.chainId
  step := min (self.redirectCount + 1) 255
  status := if authorization.decision.outcome = .allow then "authorized" else "gateway_denied"
  reason := "redirect_reauthorized"
  responseStatus := plan.statusCode
  fromOrigin := plan.fromOrigin.code
  toOrigin := plan.toOrigin.code
  fromTargetSha256 := targetHash self.current.url
  toTargetSha256 := plan.toTargetSha256
  locationSha256 := plan.locationSha256
  methodBefore := self.current.method
  methodAfter := plan.nextRequest.method
  bodyDisposition := plan.nextRequest.bodyDisposition.code
  originTransition := plan.originTransition.code
  secretDisposition := plan.secretDisposition.code
  sessionIdentitySha256 := sessionIdentityHash session
  sessionGeneration := session.generation
  dnsContextId := dnsContextId
  gatewayDecisionId := authorization.decision.decisionId
  gatewayOutcome := authorization.decision.outcome.code
  gatewayDecisionSha256 := hash (decisionJson authorization.decision).toVec
  gatewayAuditAnchor := self.transport.gateway.audit.tailHash
  ticketId := authorization.ticket.map (·.ticketId)
  ticketBindingHash := authorization.ticket.map (·.bindingHash)
  transportAuditAnchor := self.transport.audit.tailHash

/-- `authorize_next` after the transport. -/
def commit (plan : RedirectPlan) (dns : RedirectDnsInput) (sessionUpdate : RedirectSessionUpdate)
    (authorization : ConnectionAuthorization) : Except RedirectError RedirectStep × RedirectCoordinator :=
  if authorization.decision.outcome = .allow ∧ authorization.ticket = none then
    (.error .missingTransportTicket, { self with terminal := true })
  else
    let audit := self.audit.append
      (self.auditEvent plan sessionUpdate.snapshot dns.contextId authorization)
    let step : RedirectStep :=
      { redirectDepth := plan.redirectDepth
        statusCode := plan.statusCode
        fromOrigin := plan.fromOrigin
        toOrigin := plan.toOrigin
        originTransition := plan.originTransition
        secretDisposition := plan.secretDisposition
        sessionGeneration := sessionUpdate.snapshot.generation
        nextRequest := plan.nextRequest
        authorization }
    let self := { self with audit, usedDnsContexts := self.usedDnsContexts.insert dns.contextId }
    if step.isAuthorized then
      (.ok step, { self with
        seenRequests := self.seenRequests.insert plan.nextRequestHash
        redirectCount := plan.redirectDepth
        current :=
          { url := plan.nextRequest.url
            method := plan.nextRequest.method
            bodySha256 := plan.nextRequest.bodySha256
            bodyBytes := plan.nextRequest.bodyBytes
            session := sessionUpdate.snapshot } })
    else (.ok step, { self with terminal := true })

/-- `RedirectCoordinator::authorize_next`; `none` is a panic of the gateway. -/
def authorizeNext (response : Http1Response) (dns : RedirectDnsInput)
    (sessionUpdate : RedirectSessionUpdate) (elapsed : Duration) :
    Option (Except RedirectError RedirectStep × RedirectCoordinator) :=
  match self.plan joinUrl response dns sessionUpdate with
  | .error (e, ends) => some (.error e, { self with terminal := self.terminal || ends })
  | .ok plan =>
    match self.transport.authorizeConnection plan.intent dns.selectedIp elapsed with
    | none => none
    | some (.error e, transport) => some (.error (.transport e), { self with transport })
    | some (.ok authorization, transport) =>
      some (commit { self with transport } plan dns sessionUpdate authorization)

end RedirectCoordinator

end BoundSeal.Redirect

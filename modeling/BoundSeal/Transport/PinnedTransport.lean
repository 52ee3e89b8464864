import BoundSeal.Gateway.Runs
import BoundSeal.Transport.Tickets

/-!
# The pinned transport coordinator (`nxb-pinned-transport`)

`PinnedTransportCoordinator` joins the scope gateway to the ticket authority. An
allowed request holds one of the gateway's slots; the slot belongs to the ticket
issued for it, then to the permit the ticket is used for. It is given back when
the ticket cannot be issued, when its first use fails, when its context is
released, and when the caller completes the request.

An authorized URL has a host, and a port once its scheme is `http` or
`https`, so the two early returns that would keep the slot are never taken.
-/

namespace BoundSeal.Transport

open Rust Lib Gateway

/-! ## Data -/

/-- `DEFAULT_TICKET_TTL_MILLISECONDS`. -/
def defaultTicketTtlMilliseconds : ℕ := 5000

/-- `TRANSPORT_AUDIT_GENESIS_HASH`. -/
def transportAuditGenesisHash : String := "0000000000000000000000000000000000000000000000000000000000000000"

structure ConnectionAuthorization where
  decision : GatewayDecision
  ticket : Option ConnectionTicket

/-- `TransportAuditEvent`. -/
structure TransportAuditEvent where
  eventId : String
  action : String
  status : String
  reason : String
  gatewayAuditAnchor : String
  ticketId : Option String
  decisionId : Option String
  bindingHash : Option String
  dnsContextId : String
  host : String
  scheme : String
  selectedIp : String
  port : ℕ
  sni : Option String
  httpHost : String
  redirectDepth : ℕ
  elapsedMilliseconds : ℕ

def TransportAuditEvent.toJson (event : TransportAuditEvent) : Json :=
  .object [("event_id", .text event.eventId), ("action", .text event.action),
    ("status", .text event.status), ("reason", .text event.reason),
    ("gateway_audit_anchor", .text event.gatewayAuditAnchor),
    ("ticket_id", .option .text event.ticketId), ("decision_id", .option .text event.decisionId),
    ("binding_hash", .option .text event.bindingHash), ("dns_context_id", .text event.dnsContextId),
    ("host", .text event.host), ("scheme", .text event.scheme),
    ("selected_ip", .text event.selectedIp), ("port", .number event.port),
    ("sni", .option .text event.sni), ("http_host", .text event.httpHost),
    ("redirect_depth", .number event.redirectDepth),
    ("elapsed_milliseconds", .number event.elapsedMilliseconds)]

/-- `TransportAuditChain`: the records, the tail hash and the next event number. -/
structure TransportAuditChain extends HashChain TransportAuditEvent where
  nextEventId : ℕ

namespace TransportAuditChain

def new : TransportAuditChain := { HashChain.start transportAuditGenesisHash with nextEventId := 1 }

variable (self : TransportAuditChain)

def allocateEventId : String × TransportAuditChain :=
  (s!"transport-event-{zeroPadded 20 self.nextEventId}",
    { self with nextEventId := saturatingAdd self.nextEventId 1 })

def append (event : TransportAuditEvent) : TransportAuditChain :=
  { self with
    toHashChain := HashChain.append (recordHash TransportAuditEvent.toJson) self.toHashChain event }

/-- `TransportAuditChain::verify`. -/
def verify : Except ChainError Unit :=
  HashChain.verify (recordHash TransportAuditEvent.toJson) transportAuditGenesisHash self.toHashChain

end TransportAuditChain

inductive PinnedTransportError where
  | ticket (error : TicketIssueError)
  | selectedIpNotResolved
  | missingHost
  | missingPort
  | unsupportedScheme
  deriving DecidableEq, Repr

/-- `PinnedTransportCoordinator`. -/
structure PinnedTransportCoordinator where
  gateway : ScopeGateway
  tickets : TicketAuthority
  audit : TransportAuditChain
  ticketTtlMilliseconds : ℕ

/-! ## Audit events -/

/-- A value too long or with a character that could end an authority is not kept. -/
def sanitizeWith (maximum : ℕ) (value : String) : String :=
  if value = "" ∨ value.utf8ByteSize > maximum ∨ containsChar '/' value ∨ containsChar '\\' value ∨
      containsChar '@' value then "[invalid]"
  else value

/-- `sanitize_host`. -/
def sanitizeHost (value : String) : String := sanitizeWith 253 (normalizeHost value)

/-- `sanitize_authority`. -/
def sanitizeAuthority (value : String) : String := sanitizeWith 260 (normalizeAuthority value)

/-- The event of a selected address that was not resolved. -/
def notResolvedEvent (eventId anchor : String) (intent : RequestIntent) (selectedIp : IpAddr)
    (elapsed : Duration) : TransportAuditEvent where
  eventId := eventId
  action := "issue"
  status := "rejected"
  reason := "selected_ip_not_resolved"
  gatewayAuditAnchor := anchor
  ticketId := none
  decisionId := none
  bindingHash := none
  dnsContextId := sanitizeIdentifier intent.dnsContextId
  host := toAsciiLowercase (intent.url.hostStr.getD "[missing]")
  scheme := toAsciiLowercase intent.url.scheme
  selectedIp := selectedIp.toString
  port := intent.url.portOrKnownDefault.getD 0
  sni := none
  httpHost := "[not_issued]"
  redirectDepth := intent.redirectDepth
  elapsedMilliseconds := durationMillisecondsSaturated elapsed

/-- The event of an issued ticket (`append_issue_event`). -/
def issueEvent (eventId anchor : String) (ticket : ConnectionTicket) (elapsed : Duration) :
    TransportAuditEvent where
  eventId := eventId
  action := "issue"
  status := "issued"
  reason := "gateway_authorized"
  gatewayAuditAnchor := anchor
  ticketId := some ticket.ticketId
  decisionId := some ticket.decisionId
  bindingHash := some ticket.bindingHash
  dnsContextId := ticket.dnsContextId
  host := ticket.host
  scheme := ticket.scheme.code
  selectedIp := ticket.selectedIp.toString
  port := ticket.port
  sni := ticket.sni
  httpHost := ticket.httpHost
  redirectDepth := ticket.redirectDepth
  elapsedMilliseconds := durationMillisecondsSaturated elapsed

def useReason : TicketUseOutcome → String
  | .bindingMismatch field => s!"binding_mismatch:{field.code}"
  | other => other.code

/-- The event of a use (`append_use_event`); `anchor` is the gateway's. -/
def useEvent (eventId anchor : String) (result : TicketUseResult) (elapsed : Duration) :
    TransportAuditEvent where
  eventId := eventId
  action := "consume"
  status := result.outcome.code
  reason := useReason result.outcome
  gatewayAuditAnchor := (result.ticket.map (·.auditAnchor)).getD anchor
  ticketId := some result.attempt.ticketId
  decisionId := result.ticket.map (·.decisionId)
  bindingHash := result.ticket.map (·.bindingHash)
  dnsContextId := (result.ticket.map (·.dnsContextId)).getD (sanitizeIdentifier result.attempt.dnsContextId)
  host := (result.ticket.map (·.host)).getD "[unknown]"
  scheme := result.attempt.scheme.code
  selectedIp := result.attempt.remoteIp.toString
  port := result.attempt.port
  sni := result.attempt.sni.map sanitizeHost
  httpHost := sanitizeAuthority result.attempt.httpHost
  redirectDepth := result.attempt.redirectDepth
  elapsedMilliseconds := durationMillisecondsSaturated elapsed

/-! ## Operations -/

def schemeOf : String → Option TransportScheme
  | "http" => some .http
  | "https" => some .https
  | _ => none

/-- The issue request for an allowed intent. -/
def issueRequestOf (decision : GatewayDecision) (intent : RequestIntent) (host : String)
    (scheme : TransportScheme) (port : ℕ) (selectedIp : IpAddr) (elapsed : Duration)
    (ttlMilliseconds : ℕ) (auditAnchor : String) : TicketIssueRequest where
  binding :=
    { decisionId := decision.decisionId
      dnsContextId := intent.dnsContextId
      host := host
      scheme := scheme
      port := port
      sni := match scheme with
        | .http => none
        | .https => some host
      httpHost := expectedHttpHost host scheme port
      pinnedAddresses := addressSet intent
      selectedIp := selectedIp
      redirectDepth := intent.redirectDepth }
  issuedAtMilliseconds := durationMillisecondsSaturated elapsed
  ttlMilliseconds := ttlMilliseconds
  auditAnchor := auditAnchor

/-- The outcomes after which `consume_connection_ticket` completes the request. -/
def returnsSlot : TicketUseOutcome → Bool
  | .expired => true
  | .clockRegression => true
  | .bindingMismatch _ => true
  | _ => false

namespace PinnedTransportCoordinator

/-- `PinnedTransportCoordinator::new`. -/
def new (gateway : ScopeGateway) : PinnedTransportCoordinator where
  gateway := gateway
  tickets := .new
  audit := .new
  ticketTtlMilliseconds := defaultTicketTtlMilliseconds

variable (self : PinnedTransportCoordinator)

/-- An event appended under the next event number. -/
def record (event : String → TransportAuditEvent) : PinnedTransportCoordinator :=
  let (eventId, audit) := self.audit.allocateEventId
  { self with audit := audit.append (event eventId) }

/-- `PinnedTransportCoordinator::complete_request`. -/
def completeRequest : PinnedTransportCoordinator :=
  { self with gateway := self.gateway.completeRequest }

/-- `PinnedTransportCoordinator::authorize_connection`; `none`
is a panic of the gateway. -/
def authorizeConnection (intent : RequestIntent) (selectedIp : IpAddr) (elapsed : Duration) :
    Option (Except PinnedTransportError ConnectionAuthorization × PinnedTransportCoordinator) :=
  if selectedIp ∉ intent.resolvedIps then
    let anchor := self.gateway.audit.tailHash
    some (.error .selectedIpNotResolved,
      self.record fun eventId => notResolvedEvent eventId anchor intent selectedIp elapsed)
  else
    match self.gateway.authorize intent elapsed with
    | none => none
    | some (decision, gateway) =>
      let self := { self with gateway }
      if decision.outcome = .deny then some (.ok ⟨decision, none⟩, self)
      else
        match intent.url.hostStr with
        | none => some (.error .missingHost, self)
        | some host =>
          let host := toAsciiLowercase host
          match schemeOf intent.url.scheme with
          | none => some (.error .unsupportedScheme, self.completeRequest)
          | some scheme =>
            match intent.url.portOrKnownDefault with
            | none => some (.error .missingPort, self)
            | some port =>
              let auditAnchor := self.gateway.audit.tailHash
              let issue := issueRequestOf decision intent host scheme port selectedIp elapsed
                self.ticketTtlMilliseconds auditAnchor
              match self.tickets.issue issue with
              | .error error => some (.error (.ticket error), self.completeRequest)
              | .ok (ticket, tickets) =>
                let self := { self with tickets }
                some (.ok ⟨decision, some ticket⟩,
                  self.record fun eventId => issueEvent eventId auditAnchor ticket elapsed)

/-- `PinnedTransportCoordinator::consume_connection_ticket`. -/
def consumeConnectionTicket (attempt : ConnectionAttempt) (elapsed : Duration) :
    TicketUseResult × PinnedTransportCoordinator :=
  let (result, tickets) := self.tickets.consume attempt (durationMillisecondsSaturated elapsed)
  let self := { self with tickets }
  let self := self.record fun eventId => useEvent eventId self.gateway.audit.tailHash result elapsed
  if returnsSlot result.outcome then (result, self.completeRequest) else (result, self)

/-- `PinnedTransportCoordinator::release_context`: pins released
and tickets revoked. -/
def releaseContext (contextId : String) : (ℕ × ℕ) × PinnedTransportCoordinator :=
  let (revoked, tickets) := self.tickets.revokeContext contextId
  let gateway := ScopeGateway.completeRequest^[revoked] self.gateway
  let (dnsPins, gateway) := gateway.releaseDnsContext contextId
  ((dnsPins, revoked), { self with tickets, gateway })

end PinnedTransportCoordinator

/-! ## What an operation does -/

theorem returnsSlot_iff {outcome : TicketUseOutcome} :
    returnsSlot outcome = true ↔ TicketAuthority.IsFailedUse outcome := by
  cases outcome <;> simp [returnsSlot, TicketAuthority.IsFailedUse]

theorem portOrKnownDefault_of_schemeOf {url : Url} {scheme : TransportScheme}
    (h : schemeOf url.scheme = some scheme) : ∃ port, url.portOrKnownDefault = some port := by
  unfold schemeOf at h
  unfold Url.portOrKnownDefault Url.knownDefaultPort
  cases url.port with
  | some port => exact ⟨port, rfl⟩
  | none =>
    split at h
    · next hscheme => exact ⟨80, by simp [hscheme]⟩
    · next hscheme => exact ⟨443, by simp [hscheme]⟩
    · cases h

variable {pre post : PinnedTransportCoordinator}

/-- What the authorization of a ticket went through. -/
structure Authorized (pre : PinnedTransportCoordinator) (intent : RequestIntent) (selectedIp : IpAddr)
    (elapsed : Duration) (decision : GatewayDecision) (ticket : ConnectionTicket)
    (post : PinnedTransportCoordinator) : Prop where
  resolved : selectedIp ∈ intent.resolvedIps
  authorize : pre.gateway.authorize intent elapsed = some (decision, post.gateway)
  allow : decision.outcome = .allow
  issue : ∃ host scheme port, intent.url.hostStr = some host ∧
    schemeOf intent.url.scheme = some scheme ∧ intent.url.portOrKnownDefault = some port ∧
    pre.tickets.issue (issueRequestOf decision intent (toAsciiLowercase host) scheme port selectedIp
      elapsed pre.ticketTtlMilliseconds post.gateway.audit.tailHash) = .ok (ticket, post.tickets)

variable {intent : RequestIntent} {elapsed : Duration}

variable {selectedIp : IpAddr}

/-- **Everything `authorize_connection` can do**: a ticket is issued for an allowed
request; or no ticket is, and the gateway was not asked, has denied the request,
or has allowed it and was given the slot back. -/
theorem authorizeConnection_cases {result : Except PinnedTransportError ConnectionAuthorization}
    (h : pre.authorizeConnection intent selectedIp elapsed = some (result, post)) :
    (∃ decision ticket, result = .ok ⟨decision, some ticket⟩ ∧
      Authorized pre intent selectedIp elapsed decision ticket post) ∨
    ((∀ decision ticket, result ≠ .ok ⟨decision, some ticket⟩) ∧ post.tickets = pre.tickets ∧
      (post.gateway = pre.gateway ∨
        ∃ decision gateway, pre.gateway.authorize intent elapsed = some (decision, gateway) ∧
          ((decision.outcome = .deny ∧ post.gateway = gateway) ∨
            (decision.outcome = .allow ∧ post.gateway = gateway.completeRequest)))) := by
  unfold PinnedTransportCoordinator.authorizeConnection at h
  dsimp only at h
  split at h
  · cases h
    exact .inr ⟨by rintro _ _ ⟨⟩, rfl, .inl rfl⟩
  next hresolved =>
  split at h
  · cases h
  next decision gateway hauthorize =>
  split at h
  · next hdeny =>
    cases h
    exact .inr ⟨by rintro _ _ ⟨⟩, rfl, .inr ⟨decision, gateway, hauthorize, .inl ⟨hdeny, rfl⟩⟩⟩
  next hnotDeny =>
  have hallow : decision.outcome = .allow := by
    cases houtcome : decision.outcome with
    | allow => rfl
    | deny => exact absurd houtcome hnotDeny
  split at h
  · -- `MissingHost`: an allowed request has a host
    next hnone =>
    obtain ⟨-, ⟨-, ha⟩ | ⟨hdeny, -⟩⟩ := authorize_cases hauthorize
    · obtain ⟨host, status, hhost, -⟩ := ha.pinned
      rw [hnone] at hhost
      cases hhost
    · exact absurd hdeny hnotDeny
  next host hhost =>
  split at h
  · cases h
    exact .inr ⟨by rintro _ _ ⟨⟩, rfl, .inr ⟨decision, gateway, hauthorize, .inr ⟨hallow, rfl⟩⟩⟩
  next scheme hscheme =>
  split at h
  · -- `MissingPort`: a transport scheme has a default port
    next hnone =>
    obtain ⟨port, hport⟩ := portOrKnownDefault_of_schemeOf hscheme
    rw [hnone] at hport
    cases hport
  next port hport =>
  split at h
  · cases h
    exact .inr ⟨by rintro _ _ ⟨⟩, rfl, .inr ⟨decision, gateway, hauthorize, .inr ⟨hallow, rfl⟩⟩⟩
  · next ticket tickets hissue =>
    cases h
    exact .inl ⟨decision, ticket, rfl, not_not.mp hresolved, hauthorize, hallow, host, scheme, port,
      hhost, hscheme, hport, hissue⟩

variable {decision : GatewayDecision}

theorem isLowerHexSha256_of_authorize {pre post : ScopeGateway}
    (h : pre.authorize intent elapsed = some (decision, post)) : isLowerHexSha256 post.audit.tailHash = true := by
  obtain ⟨hrecorded, -⟩ := authorize_cases h
  obtain ⟨event, -, -, -, haudit⟩ := hrecorded.audit
  rw [haudit]
  exact isLowerHexSha256_hashSerializable _

theorem authorizeConnection_of_allow {gateway : ScopeGateway} {host : String} {scheme : TransportScheme} {port : ℕ}
    {binding : TicketBinding} {request : TicketIssueRequest} (hresolved : selectedIp ∈ intent.resolvedIps)
    (hauthorize : pre.gateway.authorize intent elapsed = some (decision, gateway))
    (hallow : decision.outcome = .allow) (hhost : intent.url.hostStr = some host)
    (hscheme : schemeOf intent.url.scheme = some scheme) (hport : intent.url.portOrKnownDefault = some port)
    (hrequest : request = issueRequestOf decision intent (toAsciiLowercase host) scheme port selectedIp elapsed
      pre.ticketTtlMilliseconds gateway.audit.tailHash)
    (hbinding : normalizeAndValidateBinding request.binding = .ok binding)
    (hpositive : pre.ticketTtlMilliseconds ≠ 0) (httl : pre.ticketTtlMilliseconds ≤ maxTicketTtlMilliseconds)
    (hexpires : durationMillisecondsSaturated elapsed + pre.ticketTtlMilliseconds ≤ u64Max) :
    ∃ ticket post, pre.authorizeConnection intent selectedIp elapsed = some (.ok ⟨decision, some ticket⟩, post) ∧
      ticket = ticketOf (ticketIdText pre.tickets.nextTicketId) binding request
        (durationMillisecondsSaturated elapsed + pre.ticketTtlMilliseconds) ∧
      post.tickets.tickets[ticket.ticketId]? = some ⟨ticket, .issued⟩ ∧
      post.gateway = gateway ∧ post.ticketTtlMilliseconds = pre.ticketTtlMilliseconds := by
  have hnotDeny : decision.outcome ≠ .deny := by
    rw [hallow]
    decide
  subst hrequest
  have hissue : pre.tickets.issue _ = .ok _ := TicketAuthority.issue_eq_ok hbinding hpositive httl
    (isLowerHexSha256_of_authorize hauthorize) hexpires
  simp only [PinnedTransportCoordinator.authorizeConnection, if_neg (not_not.mpr hresolved),
    hauthorize, if_neg hnotDeny, hhost, hscheme, hport, hissue]
  exact ⟨_, _, rfl, rfl, getElem?_insert_self _ _ _, rfl, rfl⟩

/-- **What a use does**: the tickets are used, and the slot is given back exactly
when the first use of a ticket failed. -/
theorem consumeConnectionTicket_cases {attempt : ConnectionAttempt} {result : TicketUseResult}
    (h : pre.consumeConnectionTicket attempt elapsed = (result, post)) :
    pre.tickets.consume attempt (durationMillisecondsSaturated elapsed) = (result, post.tickets) ∧
      post.gateway = if returnsSlot result.outcome then pre.gateway.completeRequest else pre.gateway := by
  unfold PinnedTransportCoordinator.consumeConnectionTicket at h
  dsimp only at h
  split at h
  · next hreturns =>
    cases h
    exact ⟨rfl, by rw [if_pos hreturns]; rfl⟩
  · next hreturns =>
    cases h
    exact ⟨rfl, by rw [if_neg hreturns]; rfl⟩

theorem consumeConnectionTicket_fst (attempt : ConnectionAttempt) (elapsed : Duration) :
    (pre.consumeConnectionTicket attempt elapsed).1 =
      (pre.tickets.consume attempt (durationMillisecondsSaturated elapsed)).1 := by
  unfold PinnedTransportCoordinator.consumeConnectionTicket
  dsimp only
  split <;> rfl

theorem iterate_completeRequest (n : ℕ) (gateway : ScopeGateway) :
    ScopeGateway.completeRequest^[n] gateway =
      { gateway with budget := { gateway.budget with inFlight := gateway.budget.inFlight - n } } := by
  induction n generalizing gateway with
  | zero => rfl
  | succ n ih =>
    rw [Function.iterate_succ_apply, ih]
    simp only [ScopeGateway.completeRequest, RequestBudget.finish, Nat.sub_sub, Nat.add_comm]

/-- **What a release does**: the issued tickets of the context are revoked and
their slots given back. -/
theorem releaseContext_cases (pre : PinnedTransportCoordinator) (contextId : String) :
    let revoked := (pre.tickets.revokeContext contextId).1
    (pre.releaseContext contextId).2.tickets = (pre.tickets.revokeContext contextId).2 ∧
      (pre.releaseContext contextId).2.gateway.policy = pre.gateway.policy ∧
      (pre.releaseContext contextId).2.gateway.budget =
        { pre.gateway.budget with inFlight := pre.gateway.budget.inFlight - revoked } := by
  refine ⟨rfl, ?_, ?_⟩
  · show (ScopeGateway.completeRequest^[_] pre.gateway).policy = pre.gateway.policy
    rw [iterate_completeRequest]
  · show (ScopeGateway.completeRequest^[_] pre.gateway).budget = _
    rw [iterate_completeRequest]
    rfl

end BoundSeal.Transport

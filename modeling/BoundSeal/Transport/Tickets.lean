import BoundSeal.Rust.Net
import BoundSeal.Rust.Result
import BoundSeal.Shared

/-!
# Connection tickets (`nxb-transport`)

A ticket binds an authorized connection: context, host, scheme, port, SNI, HTTP
host, addresses and redirect depth. The `TicketAuthority` issues tickets, lets
each be used once, and revokes the tickets of a DNS context. The first attempt to
use a ticket burns it, whether it succeeds or not.
-/

namespace BoundSeal.Transport

open Rust

/-! ## Data -/

/-- `MAX_TICKET_TTL_MILLISECONDS`. -/
def maxTicketTtlMilliseconds : ℕ := 30000

inductive TransportScheme where
  | http
  | https
  deriving DecidableEq, Repr

namespace TransportScheme

def code : TransportScheme → String
  | .http => "http"
  | .https => "https"

def defaultPort : TransportScheme → ℕ
  | .http => 80
  | .https => 443

end TransportScheme

/-- `TicketBinding`. -/
structure TicketBinding where
  decisionId : String
  dnsContextId : String
  host : String
  scheme : TransportScheme
  port : ℕ
  sni : Option String
  httpHost : String
  pinnedAddresses : BTreeSet IpAddr
  selectedIp : IpAddr
  redirectDepth : ℕ

structure TicketIssueRequest where
  binding : TicketBinding
  issuedAtMilliseconds : ℕ
  ttlMilliseconds : ℕ
  auditAnchor : String

/-- `ConnectionTicket`. -/
structure ConnectionTicket where
  ticketId : String
  decisionId : String
  dnsContextId : String
  host : String
  scheme : TransportScheme
  port : ℕ
  sni : Option String
  httpHost : String
  pinnedAddresses : BTreeSet IpAddr
  selectedIp : IpAddr
  redirectDepth : ℕ
  issuedAtMilliseconds : ℕ
  expiresAtMilliseconds : ℕ
  auditAnchor : String
  bindingHash : String

structure ConnectionAttempt where
  ticketId : String
  dnsContextId : String
  scheme : TransportScheme
  remoteIp : IpAddr
  port : ℕ
  sni : Option String
  httpHost : String
  redirectDepth : ℕ

structure TransportPermit where
  ticketId : String
  decisionId : String
  dnsContextId : String
  scheme : TransportScheme
  remoteIp : IpAddr
  port : ℕ
  sni : Option String
  httpHost : String
  redirectDepth : ℕ
  bindingHash : String

inductive BindingField where
  | dnsContextId
  | scheme
  | remoteIp
  | port
  | sni
  | httpHost
  | redirectDepth
  deriving DecidableEq, Repr

def BindingField.code : BindingField → String
  | .dnsContextId => "dns_context_id"
  | .scheme => "scheme"
  | .remoteIp => "remote_ip"
  | .port => "port"
  | .sni => "sni"
  | .httpHost => "http_host"
  | .redirectDepth => "redirect_depth"

inductive TicketUseOutcome where
  | consumed
  | unknownTicket
  | alreadyConsumed
  | revoked
  | expired
  | clockRegression
  | bindingMismatch (field : BindingField)
  deriving DecidableEq, Repr

def TicketUseOutcome.code : TicketUseOutcome → String
  | .consumed => "consumed"
  | .unknownTicket => "unknown_ticket"
  | .alreadyConsumed => "already_consumed"
  | .revoked => "revoked"
  | .expired => "expired"
  | .clockRegression => "clock_regression"
  | .bindingMismatch _ => "binding_mismatch"

structure TicketUseResult where
  outcome : TicketUseOutcome
  ticket : Option ConnectionTicket
  attempt : ConnectionAttempt
  permit : Option TransportPermit

inductive TicketIssueError where
  | invalidDecisionId
  | invalidDnsContextId
  | invalidHost
  | invalidPort
  | emptyPinnedAddressSet
  | selectedIpNotPinned
  | invalidTlsSni
  | unexpectedTlsSni
  | invalidHttpHost
  | invalidTtl
  | expiryOverflow
  | invalidAuditAnchor
  deriving DecidableEq, Repr

inductive StoredTicketState where
  | issued
  | consumed
  | revoked
  deriving DecidableEq, Repr

structure StoredTicket where
  ticket : ConnectionTicket
  state : StoredTicketState

/-- `TicketAuthority`. -/
structure TicketAuthority where
  tickets : BTreeMap String StoredTicket
  nextTicketId : ℕ

/-! ## Normalisation -/

/-- `normalize_authority`. -/
def normalizeAuthority (value : String) : String := toAsciiLowercase (trim value)

/-- `is_valid_host` of this crate. -/
def isValidHost (value : String) : Bool :=
  let host := normalizeHost value
  if host = "" ∨ host.utf8ByteSize > 253 ∨ containsChar ':' host ∨ containsChar '/' host ∨
      containsChar '\\' host then false
  else (splitChar '.' host).all isDnsLabel

/-- `expected_http_host`. -/
def expectedHttpHost (host : String) (scheme : TransportScheme) (port : ℕ) : String :=
  let host := normalizeHost host
  if port = scheme.defaultPort then host else s!"{host}:{port}"

/-- `normalize_and_validate_binding`. -/
def normalizeAndValidateBinding (binding : TicketBinding) : Except TicketIssueError TicketBinding := do
  failIf (¬ isValidIdentifier binding.decisionId) .invalidDecisionId
  failIf (¬ isValidIdentifier binding.dnsContextId) .invalidDnsContextId
  let host := normalizeHost binding.host
  failIf (¬ isValidHost host) .invalidHost
  failIf (binding.port = 0) .invalidPort
  failIf (binding.pinnedAddresses.isEmpty = true) .emptyPinnedAddressSet
  failIf (binding.selectedIp ∉ binding.pinnedAddresses) .selectedIpNotPinned
  let sni := binding.sni.map normalizeHost
  failIf (binding.scheme = .https ∧ sni ≠ some host) .invalidTlsSni
  failIf (binding.scheme = .http ∧ sni.isSome) .unexpectedTlsSni
  let httpHost := normalizeAuthority binding.httpHost
  failIf (httpHost ≠ expectedHttpHost host binding.scheme binding.port) .invalidHttpHost
  pure { binding with
    decisionId := normalizeIdentifier binding.decisionId
    dnsContextId := normalizeIdentifier binding.dnsContextId
    host
    sni
    httpHost }

/-- `binding_hash`. -/
def bindingHash (ticketId : String) (binding : TicketBinding)
    (issuedAtMilliseconds expiresAtMilliseconds : ℕ) (auditAnchor : String) : String :=
  let pinned := join "," (binding.pinnedAddresses.toList.map IpAddr.toString)
  toLowerHex (Sha256.digest (bytes (join "\n" ["nxb.transport.v1", ticketId, binding.decisionId,
    binding.dnsContextId, binding.host, binding.scheme.code, binding.port.repr, binding.sni.getD "",
    binding.httpHost, pinned, binding.selectedIp.toString, binding.redirectDepth.repr,
    issuedAtMilliseconds.repr, expiresAtMilliseconds.repr, auditAnchor])))

/-! ## Operations -/

def ticketIdText (n : ℕ) : String := s!"ticket-{zeroPadded 20 n}"

/-- The ticket an issue request is given under an id. -/
def ticketOf (ticketId : String) (binding : TicketBinding) (request : TicketIssueRequest)
    (expiresAtMilliseconds : ℕ) : ConnectionTicket where
  ticketId := ticketId
  decisionId := binding.decisionId
  dnsContextId := binding.dnsContextId
  host := binding.host
  scheme := binding.scheme
  port := binding.port
  sni := binding.sni
  httpHost := binding.httpHost
  pinnedAddresses := binding.pinnedAddresses
  selectedIp := binding.selectedIp
  redirectDepth := binding.redirectDepth
  issuedAtMilliseconds := request.issuedAtMilliseconds
  expiresAtMilliseconds := expiresAtMilliseconds
  auditAnchor := request.auditAnchor
  bindingHash := bindingHash ticketId binding request.issuedAtMilliseconds expiresAtMilliseconds
    request.auditAnchor

def permitOf (ticket : ConnectionTicket) : TransportPermit where
  ticketId := ticket.ticketId
  decisionId := ticket.decisionId
  dnsContextId := ticket.dnsContextId
  scheme := ticket.scheme
  remoteIp := ticket.selectedIp
  port := ticket.port
  sni := ticket.sni
  httpHost := ticket.httpHost
  redirectDepth := ticket.redirectDepth
  bindingHash := ticket.bindingHash

/-- `failed_use`. -/
def failedUse (outcome : TicketUseOutcome) (ticket : ConnectionTicket)
    (attempt : ConnectionAttempt) : TicketUseResult :=
  ⟨outcome, some ticket, attempt, none⟩

/-- The comparisons of an attempt with its ticket, in the order of the source. -/
def bindingChecks (attempt : ConnectionAttempt) (ticket : ConnectionTicket) : List (Bool × BindingField) :=
  [(normalizeIdentifier attempt.dnsContextId == ticket.dnsContextId, .dnsContextId),
   (attempt.scheme == ticket.scheme, .scheme),
   (attempt.remoteIp == ticket.selectedIp, .remoteIp),
   (attempt.port == ticket.port, .port),
   (attempt.sni.map normalizeHost == ticket.sni, .sni),
   (normalizeAuthority attempt.httpHost == ticket.httpHost, .httpHost),
   (attempt.redirectDepth == ticket.redirectDepth, .redirectDepth)]

def firstUse (ticket : ConnectionTicket) (attempt : ConnectionAttempt) (nowMilliseconds : ℕ) :
    TicketUseResult :=
  if nowMilliseconds < ticket.issuedAtMilliseconds then failedUse .clockRegression ticket attempt
  else if nowMilliseconds > ticket.expiresAtMilliseconds then failedUse .expired ticket attempt
  else
    match (bindingChecks attempt ticket).find? fun check => !check.1 with
    | some (_, field) => failedUse (.bindingMismatch field) ticket attempt
    | none => ⟨.consumed, some ticket, attempt, some (permitOf ticket)⟩

namespace TicketAuthority

/-- `TicketAuthority::new`. -/
def new : TicketAuthority := ⟨∅, 1⟩

variable (self : TicketAuthority)

/-- `TicketAuthority::issue`; an error leaves the authority as
it was. -/
def issue (request : TicketIssueRequest) : Except TicketIssueError (ConnectionTicket × TicketAuthority) := do
  let binding ← normalizeAndValidateBinding request.binding
  failIf (request.ttlMilliseconds = 0 ∨ request.ttlMilliseconds > maxTicketTtlMilliseconds) .invalidTtl
  failIf (¬ isLowerHexSha256 request.auditAnchor) .invalidAuditAnchor
  let expiresAtMilliseconds := request.issuedAtMilliseconds + request.ttlMilliseconds
  failIf (expiresAtMilliseconds > u64Max) .expiryOverflow
  let ticketId := ticketIdText self.nextTicketId
  let ticket := ticketOf ticketId binding request expiresAtMilliseconds
  pure (ticket, ⟨self.tickets.insert ticketId ⟨ticket, .issued⟩, saturatingAdd self.nextTicketId 1⟩)

/-- `TicketAuthority::consume`. -/
def consume (attempt : ConnectionAttempt) (nowMilliseconds : ℕ) : TicketUseResult × TicketAuthority :=
  match self.tickets[attempt.ticketId]? with
  | none => (⟨.unknownTicket, none, attempt, none⟩, self)
  | some stored =>
    match stored.state with
    | .consumed => (⟨.alreadyConsumed, some stored.ticket, attempt, none⟩, self)
    | .revoked => (⟨.revoked, some stored.ticket, attempt, none⟩, self)
    | .issued =>
      -- any first use attempt burns the ticket
      (firstUse stored.ticket attempt nowMilliseconds,
        { self with tickets := self.tickets.insert attempt.ticketId { stored with state := .consumed } })

def isIssuedIn (context : String) (stored : StoredTicket) : Bool :=
  stored.ticket.dnsContextId == context && stored.state == .issued

def revokeStored (context : String) (stored : StoredTicket) : StoredTicket :=
  if isIssuedIn context stored then { stored with state := .revoked } else stored

/-- `TicketAuthority::revoke_context`. -/
def revokeContext (contextId : String) : ℕ × TicketAuthority :=
  let normalized := normalizeIdentifier contextId
  (countValues (isIssuedIn normalized) self.tickets,
    { self with tickets := self.tickets.map fun _ stored => revokeStored normalized stored })

/-- `TicketAuthority::issued_count`. -/
def issuedCount : ℕ := countValues (fun stored => stored.state == .issued) self.tickets

end TicketAuthority

/-! ## What an operation does -/

/-- `binding` is `raw` after normalisation, and was accepted. -/
structure Normalized (raw binding : TicketBinding) : Prop where
  decisionId : binding.decisionId = normalizeIdentifier raw.decisionId
  dnsContextId : binding.dnsContextId = normalizeIdentifier raw.dnsContextId
  host : binding.host = normalizeHost raw.host
  scheme : binding.scheme = raw.scheme
  port : binding.port = raw.port
  sni : binding.sni = raw.sni.map normalizeHost
  httpHost : binding.httpHost = normalizeAuthority raw.httpHost
  pinnedAddresses : binding.pinnedAddresses = raw.pinnedAddresses
  selectedIp : binding.selectedIp = raw.selectedIp
  redirectDepth : binding.redirectDepth = raw.redirectDepth
  selected_mem : raw.selectedIp ∈ raw.pinnedAddresses

theorem normalizeAndValidateBinding_eq_ok {raw binding : TicketBinding}
    (h : normalizeAndValidateBinding raw = .ok binding) : Normalized raw binding := by
  simp only [normalizeAndValidateBinding, do_eq_ok, not_not] at h
  obtain ⟨-, -, -, -, -, hmem, -, -, -, rfl⟩ := h
  exact ⟨rfl, rfl, rfl, rfl, rfl, rfl, rfl, rfl, rfl, rfl, hmem⟩

namespace TicketAuthority

variable {self next : TicketAuthority}

variable {request : TicketIssueRequest} {ticket : ConnectionTicket} {attempt : ConnectionAttempt}

/-- **What an issue does**: the request is accepted as normalised, the ticket
carries it, and is stored under the next number. -/
theorem issue_cases (h : self.issue request = .ok (ticket, next)) : ∃ binding, Normalized request.binding binding ∧
      ticket = ticketOf (ticketIdText self.nextTicketId) binding request
        (request.issuedAtMilliseconds + request.ttlMilliseconds) ∧
      next.tickets = self.tickets.insert ticket.ticketId ⟨ticket, .issued⟩ ∧
      next.nextTicketId = saturatingAdd self.nextTicketId 1 := by
  simp only [issue, do_eq_ok] at h
  obtain ⟨binding, hbinding, -, -, -, heq⟩ := h
  obtain ⟨rfl, rfl⟩ := Prod.mk.inj heq
  exact ⟨binding, normalizeAndValidateBinding_eq_ok hbinding, rfl, rfl, rfl⟩

theorem issue_eq_ok {binding : TicketBinding} (hbinding : normalizeAndValidateBinding request.binding = .ok binding)
    (hpositive : request.ttlMilliseconds ≠ 0) (httl : request.ttlMilliseconds ≤ maxTicketTtlMilliseconds)
    (hanchor : isLowerHexSha256 request.auditAnchor = true)
    (hexpires : request.issuedAtMilliseconds + request.ttlMilliseconds ≤ u64Max) :
    let ticket := ticketOf (ticketIdText self.nextTicketId) binding request
      (request.issuedAtMilliseconds + request.ttlMilliseconds)
    self.issue request = .ok (ticket, ⟨self.tickets.insert ticket.ticketId ⟨ticket, .issued⟩,
      saturatingAdd self.nextTicketId 1⟩) := by
  simp only [issue, do_eq_ok]
  refine ⟨binding, hbinding, ?_, not_not.mpr hanchor, not_lt.mpr hexpires, rfl⟩
  rintro (hzero | hlarge)
  · exact hpositive hzero
  · exact not_lt.mpr httl hlarge

/-- The outcomes of a first use that gives no permit. -/
def IsFailedUse (outcome : TicketUseOutcome) : Prop :=
  outcome = .expired ∨ outcome = .clockRegression ∨ ∃ field, outcome = .bindingMismatch field

theorem firstUse_cases (ticket : ConnectionTicket) (attempt : ConnectionAttempt) (now : ℕ) :
    (IsFailedUse (firstUse ticket attempt now).outcome ∧ (firstUse ticket attempt now).permit = none) ∨
    ((firstUse ticket attempt now).outcome = .consumed ∧
      (firstUse ticket attempt now).permit = some (permitOf ticket) ∧
      ticket.issuedAtMilliseconds ≤ now ∧ now ≤ ticket.expiresAtMilliseconds ∧
      ∀ check ∈ bindingChecks attempt ticket, check.1 = true) := by
  unfold firstUse
  split
  · exact .inl ⟨.inr (.inl rfl), rfl⟩
  next hissued =>
  split
  · exact .inl ⟨.inl rfl, rfl⟩
  next hexpires =>
  split
  · next field _ => exact .inl ⟨.inr (.inr ⟨field, rfl⟩), rfl⟩
  · next hchecks =>
    refine .inr ⟨rfl, rfl, not_lt.mp hissued, not_lt.mp hexpires, fun check hcheck => ?_⟩
    rw [List.find?_eq_none] at hchecks
    simpa using hchecks check hcheck

variable {now : ℕ} {result : TicketUseResult} {stored : StoredTicket}

/-- **What a use does**: nothing to a ticket that is unknown, used or revoked; an
issued ticket is burnt, and its first use is the result. -/
theorem consume_cases (h : self.consume attempt now = (result, next)) :
    (next = self ∧ result.permit = none ∧ ¬ IsFailedUse result.outcome ∧
      result.outcome ≠ .consumed ∧
      ∀ stored, self.tickets[attempt.ticketId]? = some stored → stored.state ≠ .issued) ∨
    ∃ stored, self.tickets[attempt.ticketId]? = some stored ∧ stored.state = .issued ∧
      result = firstUse stored.ticket attempt now ∧
      next = { self with tickets :=
        self.tickets.insert attempt.ticketId { stored with state := .consumed } } := by
  unfold consume at h
  split at h
  · next hnone =>
    cases h
    exact .inl ⟨rfl, rfl, by simp [IsFailedUse], by simp, by simp [hnone]⟩
  · next stored hstored =>
    split at h
    · next hstate =>
      cases h
      exact .inl ⟨rfl, rfl, by simp [IsFailedUse], by simp, by simp [hstored, hstate]⟩
    · next hstate =>
      cases h
      exact .inl ⟨rfl, rfl, by simp [IsFailedUse], by simp, by simp [hstored, hstate]⟩
    · next hstate =>
      cases h
      exact .inr ⟨stored, hstored, hstate, rfl, rfl⟩

theorem consume_eq_consumed (hstored : self.tickets[attempt.ticketId]? = some ⟨ticket, .issued⟩)
    (hfrom : ticket.issuedAtMilliseconds ≤ now) (huntil : now ≤ ticket.expiresAtMilliseconds)
    (hchecks : ∀ check ∈ bindingChecks attempt ticket, check.1 = true) :
    (self.consume attempt now).1 = ⟨.consumed, some ticket, attempt, some (permitOf ticket)⟩ := by
  have hfind : ((bindingChecks attempt ticket).find? fun check => !check.1) = none := by
    rw [List.find?_eq_none]
    intro check hcheck
    simp [hchecks check hcheck]
  simp only [consume, hstored, firstUse, if_neg (not_lt.mpr hfrom), if_neg (not_lt.mpr huntil), hfind]

@[simp] theorem revokeContext_getElem? (contextId ticketId : String) :
    (self.revokeContext contextId).2.tickets[ticketId]? =
      (self.tickets[ticketId]?).map (revokeStored (normalizeIdentifier contextId)) := by
  rw [revokeContext, Std.ExtTreeMap.getElem?_map]

@[simp] theorem revokeContext_nextTicketId (contextId : String) :
    (self.revokeContext contextId).2.nextTicketId = self.nextTicketId := rfl

@[simp] theorem revokeStored_ticket (context : String) (stored : StoredTicket) :
    (revokeStored context stored).ticket = stored.ticket := by
  unfold revokeStored
  split <;> rfl

theorem revokeStored_state {context : String} (h : (revokeStored context stored).state = .issued) :
    stored.state = .issued ∧ stored.ticket.dnsContextId ≠ context := by
  unfold revokeStored at h
  split at h
  · cases h
  · next hnot =>
    refine ⟨h, fun hctx => hnot ?_⟩
    simp [isIssuedIn, hctx, h]

/-! ## Ticket numbers -/

/-- Every stored ticket has a number below the next one. -/
def Numbered (self : TicketAuthority) : Prop :=
  ∀ ticketId stored, self.tickets[ticketId]? = some stored →
    ∃ n < self.nextTicketId, ticketId = ticketIdText n

theorem ticketIdText_injective : Function.Injective ticketIdText := by
  intro m n h
  have hlist := congrArg String.toList h
  simp only [ticketIdText, String.toList_append] at hlist
  exact zeroPadded_injective 20 (String.toList_inj.mp (List.append_cancel_left hlist))

theorem numbered_new : Numbered new := by
  intro ticketId stored h
  simp [new] at h

theorem Numbered.fresh (h : self.Numbered) : self.tickets[ticketIdText self.nextTicketId]? = none := by
  by_contra hsome
  obtain ⟨stored, hstored⟩ := Option.ne_none_iff_exists'.mp hsome
  obtain ⟨n, hlt, heq⟩ := h _ stored hstored
  exact absurd (ticketIdText_injective heq) (Nat.ne_of_gt hlt)

theorem Numbered.issue (h : self.Numbered) (hlt : self.nextTicketId < u64Max)
    (hissue : self.issue request = .ok (ticket, next)) : next.Numbered := by
  obtain ⟨binding, -, rfl, htickets, hnext⟩ := issue_cases hissue
  have hsucc : next.nextTicketId = self.nextTicketId + 1 := by
    rw [hnext, saturatingAdd, Nat.min_eq_left hlt]
  intro ticketId stored hstored
  rw [htickets, Std.ExtTreeMap.getElem?_insert] at hstored
  rw [hsucc]
  split at hstored
  · next heq => exact ⟨self.nextTicketId, Nat.lt_succ_self _, (Std.LawfulEqOrd.eq_of_compare heq).symm⟩
  · obtain ⟨n, hn, heq⟩ := h ticketId stored hstored
    exact ⟨n, Nat.lt_succ_of_lt hn, heq⟩

theorem Numbered.consume (h : self.Numbered)
    (hconsume : self.consume attempt now = (result, next)) : next.Numbered := by
  rcases consume_cases hconsume with ⟨rfl, -⟩ | ⟨stored, hstored, -, -, rfl⟩
  · exact h
  · intro ticketId other hother
    rw [Std.ExtTreeMap.getElem?_insert] at hother
    split at hother
    · next heq => exact Std.LawfulEqOrd.eq_of_compare heq ▸ h _ stored hstored
    · exact h ticketId other hother

theorem Numbered.revokeContext (h : self.Numbered) (contextId : String) :
    (self.revokeContext contextId).2.Numbered := by
  intro ticketId stored hstored
  rw [revokeContext_getElem?] at hstored
  obtain ⟨old, hold, -⟩ := Option.map_eq_some_iff.mp hstored
  exact h ticketId old hold

/-! ## How many tickets are issued -/

theorem issuedCount_new : new.issuedCount = 0 := countValues_empty _

theorem Numbered.issuedCount_issue (h : self.Numbered) (hissue : self.issue request = .ok (ticket, next)) :
    next.issuedCount = self.issuedCount + 1 := by
  obtain ⟨binding, -, rfl, htickets, -⟩ := issue_cases hissue
  rw [issuedCount, htickets]
  exact countValues_insert_new _ _ h.fresh

theorem issuedCount_consume (hstored : self.tickets[attempt.ticketId]? = some stored)
    (hstate : stored.state = .issued) :
    ({ self with tickets :=
        self.tickets.insert attempt.ticketId { stored with state := .consumed } } :
      TicketAuthority).issuedCount + 1 = self.issuedCount := by
  have hcount := countValues_insert_replace (fun stored => stored.state == .issued)
    { stored with state := StoredTicketState.consumed } hstored
  simpa [hstate, issuedCount] using hcount

theorem revokeStored_isIssued (context : String) (stored : StoredTicket) :
    ((revokeStored context stored).state == .issued) =
      (stored.state == .issued && !isIssuedIn context stored) := by
  unfold revokeStored
  split
  · next h => simp [h]
  · next h => simp [h]

theorem issuedCount_revokeContext (self : TicketAuthority) (contextId : String) :
    (self.revokeContext contextId).2.issuedCount + (self.revokeContext contextId).1 =
      self.issuedCount := by
  have hrevoked : ∀ stored, (stored.state == .issued && isIssuedIn (normalizeIdentifier contextId) stored) =
      isIssuedIn (normalizeIdentifier contextId) stored := by
    intro stored
    rw [isIssuedIn, Bool.and_left_comm, Bool.and_self]
  have hsplit := countValues_split (fun stored => stored.state == .issued)
    (isIssuedIn (normalizeIdentifier contextId)) self.tickets
  simp only [hrevoked] at hsplit
  rw [issuedCount, issuedCount, hsplit, revokeContext, countValues_map]
  simp only [revokeStored_isIssued]
  exact Nat.add_comm _ _

end TicketAuthority

end BoundSeal.Transport

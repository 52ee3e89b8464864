import BoundSeal.Transport.PinnedTransport

/-!
# Slots of the pinned transport

A slot of the gateway is held by a ticket that is still issued or by a permit the
caller has not completed. `Balanced policy permits` says so of a coordinator, with
`permits` the number of permits outstanding, and each operation has one lemma
about it.

The saturating decrement of the budget hides a slot given back twice; under
`Balanced` it never saturates. `slot_guarantees` is the account over whole runs in
which `complete_request` is called at most once per permit.
-/

namespace BoundSeal.Transport

open Rust Lib Policy Gateway

/-! ## The account -/

structure Balanced (policy : CompiledPolicy) (permits : ℕ)
    (transport : PinnedTransportCoordinator) : Prop where
  numbered : transport.tickets.Numbered
  /-- Every ticket was paid for from the request budget, so its number fits. -/
  counter : transport.tickets.nextTicketId + transport.gateway.budget.remaining ≤ policy.maximumTotalRequests + 1
  slots : transport.gateway.budget.inFlight = transport.tickets.issuedCount + permits
  concurrency : transport.gateway.budget.maxConcurrency = policy.maximumConcurrency
  limit : transport.gateway.budget.inFlight ≤ policy.maximumConcurrency

section

variable {policy : CompiledPolicy} {permits : ℕ} {pre post : PinnedTransportCoordinator}

theorem balanced_new {gateway : ScopeGateway} (hidle : gateway.budget.inFlight = 0)
    (hremaining : gateway.budget.remaining ≤ policy.maximumTotalRequests)
    (hconcurrency : gateway.budget.maxConcurrency = policy.maximumConcurrency) :
    Balanced policy 0 (.new gateway) where
  numbered := TicketAuthority.numbered_new
  counter := by
    show 1 + gateway.budget.remaining ≤ policy.maximumTotalRequests + 1
    omega
  slots := by
    show gateway.budget.inFlight = TicketAuthority.new.issuedCount + 0
    rw [hidle, TicketAuthority.issuedCount_new]
  concurrency := hconcurrency
  limit := by
    show gateway.budget.inFlight ≤ policy.maximumConcurrency
    omega

/-- An authorization that issues no ticket moves no slot and spends one request at most. -/
theorem Balanced.of_budget (h : Balanced policy permits pre) (htickets : post.tickets = pre.tickets)
    (hinFlight : post.gateway.budget.inFlight = pre.gateway.budget.inFlight)
    (hremaining : post.gateway.budget.remaining ≤ pre.gateway.budget.remaining)
    (hconcurrency : post.gateway.budget.maxConcurrency = pre.gateway.budget.maxConcurrency) :
    Balanced policy permits post where
  numbered := htickets ▸ h.numbered
  counter := by
    have hcounter := h.counter
    rw [htickets]
    omega
  slots := by rw [htickets, hinFlight, h.slots]
  concurrency := hconcurrency.trans h.concurrency
  limit := hinFlight ▸ h.limit

variable {elapsed : Duration}

theorem Balanced.authorizeConnection {intent : RequestIntent} {selectedIp : IpAddr}
    {result : Except PinnedTransportError ConnectionAuthorization} (h : Balanced policy permits pre)
    (hauth : pre.authorizeConnection intent selectedIp elapsed = some (result, post)) :
    Balanced policy permits post := by
  rcases authorizeConnection_cases hauth with ⟨decision, ticket, -, ha⟩ |
    ⟨-, htickets, hgateway | ⟨decision, gateway, hauthorize, ⟨hdeny, hgateway⟩ | ⟨hallow, hgateway⟩⟩⟩
  · -- the slot goes to the new ticket
    obtain ⟨host, scheme, port, -, -, -, hissue⟩ := ha.issue
    obtain ⟨hrecorded, ⟨-, hallowed⟩ | ⟨hdeny, -⟩⟩ := authorize_cases ha.authorize
    · have hcounter := h.counter
      have htotal := policy.maximumTotalRequests_le
      have hremaining := hallowed.remaining
      have hslots := h.slots
      have hlt : pre.tickets.nextTicketId < u64Max := by
        simp only [maxTotalRequests, u64Max] at *
        omega
      have hcount := h.numbered.issuedCount_issue hissue
      have hnext : post.tickets.nextTicketId ≤ pre.tickets.nextTicketId + 1 := by
        obtain ⟨binding, -, -, -, hnext⟩ := TicketAuthority.issue_cases hissue
        rw [hnext]
        exact Nat.min_le_left _ _
      exact
        { numbered := h.numbered.issue hlt hissue
          counter := by omega
          slots := by rw [hallowed.inFlight, hcount]; omega
          concurrency := hrecorded.maxConcurrency.trans h.concurrency
          limit := by rw [hallowed.inFlight, ← h.concurrency]; exact hallowed.slot }
    · rw [ha.allow] at hdeny
      cases hdeny
  · exact h.of_budget htickets (by rw [hgateway]) (by rw [hgateway]) (by rw [hgateway])
  · obtain ⟨hrecorded, ⟨hallow, -⟩ | ⟨-, hdenied⟩⟩ := authorize_cases hauthorize
    · rw [hdeny] at hallow
      cases hallow
    · exact h.of_budget htickets (by rw [hgateway, hdenied.inFlight])
        (by rw [hgateway, hdenied.remaining]) (by rw [hgateway, hrecorded.maxConcurrency])
  · -- allowed, but no ticket could be issued: the slot was taken and given back
    obtain ⟨hrecorded, ⟨-, hallowed⟩ | ⟨hdeny, -⟩⟩ := authorize_cases hauthorize
    · have hinFlight := hallowed.inFlight
      have hremaining := hallowed.remaining
      refine h.of_budget htickets ?_ ?_ ?_
      · rw [hgateway]
        show gateway.budget.inFlight - 1 = pre.gateway.budget.inFlight
        omega
      · rw [hgateway]
        show gateway.budget.remaining ≤ pre.gateway.budget.remaining
        omega
      · rw [hgateway]
        exact hrecorded.maxConcurrency
    · rw [hallow] at hdeny
      cases hdeny

/-- A completion takes one away. -/
theorem Balanced.completeRequest (h : Balanced policy (permits + 1) pre) :
    Balanced policy permits pre.completeRequest where
  numbered := h.numbered
  counter := h.counter
  slots := by
    have hslots := h.slots
    show pre.gateway.budget.inFlight - 1 = pre.tickets.issuedCount + permits
    omega
  concurrency := h.concurrency
  limit := by
    have hlimit := h.limit
    show pre.gateway.budget.inFlight - 1 ≤ policy.maximumConcurrency
    omega

variable {attempt : ConnectionAttempt} {result : TicketUseResult}

/-- One permit more when a ticket is consumed. -/
theorem Balanced.consumeConnectionTicket
    (h : Balanced policy permits pre) (hconsume : pre.consumeConnectionTicket attempt elapsed = (result, post)) :
    Balanced policy (permits + if result.permit.isSome then 1 else 0) post := by
  obtain ⟨htickets, hgateway⟩ := consumeConnectionTicket_cases hconsume
  rcases TicketAuthority.consume_cases htickets with ⟨hsame, hnone, hnot, -, -⟩ |
    ⟨stored, hstored, hstate, rfl, hpost⟩
  · -- unknown, used or revoked: nothing moves
    rw [if_neg (mt returnsSlot_iff.mp hnot)] at hgateway
    rw [hnone]
    exact h.of_budget hsame (by rw [hgateway]) (by rw [hgateway]) (by rw [hgateway])
  · -- a first use: the ticket is no longer issued
    have hcount : post.tickets.issuedCount + 1 = pre.tickets.issuedCount := by
      rw [hpost]
      exact TicketAuthority.issuedCount_consume hstored hstate
    have hmoved : Balanced policy (permits + 1) { pre with tickets := post.tickets } :=
      { numbered := h.numbered.consume htickets
        counter := by
          rw [hpost]
          exact h.counter
        slots := by
          have hslots := h.slots
          show pre.gateway.budget.inFlight = post.tickets.issuedCount + (permits + 1)
          omega
        concurrency := h.concurrency
        limit := h.limit }
    rcases TicketAuthority.firstUse_cases stored.ticket attempt
      (durationMillisecondsSaturated elapsed) with ⟨hfailed, hnone⟩ | ⟨hconsumed, hpermit, -, -, -⟩
    · rw [if_pos (returnsSlot_iff.mpr hfailed)] at hgateway
      rw [hnone]
      exact hmoved.completeRequest.of_budget rfl (by rw [hgateway]; rfl) (by rw [hgateway]; rfl)
        (by rw [hgateway]; rfl)
    · rw [hconsumed, if_neg (by decide)] at hgateway
      rw [hpermit]
      exact hmoved.of_budget rfl (by rw [hgateway]) (by rw [hgateway]) (by rw [hgateway])

theorem Balanced.releaseContext (h : Balanced policy permits pre) (contextId : String) :
    Balanced policy permits (pre.releaseContext contextId).2 := by
  obtain ⟨htickets, -, hbudget⟩ := releaseContext_cases pre contextId
  have hcount := pre.tickets.issuedCount_revokeContext contextId
  have hslots := h.slots
  have hlimit := h.limit
  exact
    { numbered := htickets ▸ h.numbered.revokeContext contextId
      counter := by
        rw [htickets, hbudget]
        exact h.counter
      slots := by
        rw [htickets, hbudget]
        show pre.gateway.budget.inFlight - _ = _
        omega
      concurrency := by
        rw [hbudget]
        exact h.concurrency
      limit := by
        rw [hbudget]
        show pre.gateway.budget.inFlight - _ ≤ _
        omega }

theorem Balanced.failed_authorization {intent : RequestIntent} {selectedIp : IpAddr}
    {error : PinnedTransportError} (h : Balanced policy permits pre)
    (hauth : pre.authorizeConnection intent selectedIp elapsed = some (.error error, post)) :
    post.gateway.budget.inFlight = pre.gateway.budget.inFlight ∧
      post.tickets.issuedCount = pre.tickets.issuedCount := by
  have hslots := (h.authorizeConnection hauth).slots
  rcases authorizeConnection_cases hauth with ⟨decision, ticket, hok, -⟩ | ⟨-, htickets, -⟩
  · cases hok
  · rw [htickets, ← h.slots] at hslots
    exact ⟨hslots, by rw [htickets]⟩

theorem Balanced.failed_use (h : Balanced policy permits pre)
    (hconsume : pre.consumeConnectionTicket attempt elapsed = (result, post)) (hnone : result.permit = none) :
    let burnt := if returnsSlot result.outcome then 1 else 0
    post.gateway.budget.inFlight + burnt = pre.gateway.budget.inFlight ∧
      post.tickets.issuedCount + burnt = pre.tickets.issuedCount := by
  have hslots := (h.consumeConnectionTicket hconsume).slots
  have hpre := h.slots
  rw [hnone] at hslots
  obtain ⟨htickets, -⟩ := consumeConnectionTicket_cases hconsume
  have hcount : post.tickets.issuedCount + (if returnsSlot result.outcome then 1 else 0) =
      pre.tickets.issuedCount := by
    rcases TicketAuthority.consume_cases htickets with ⟨hsame, -, hnot, -, -⟩ |
      ⟨stored, hstored, hstate, rfl, hpost⟩
    · rw [hsame, if_neg (mt returnsSlot_iff.mp hnot), Nat.add_zero]
    · rcases TicketAuthority.firstUse_cases stored.ticket attempt
        (durationMillisecondsSaturated elapsed) with ⟨hfailed, -⟩ | ⟨-, hpermit, -⟩
      · rw [hpost, if_pos (returnsSlot_iff.mpr hfailed)]
        exact TicketAuthority.issuedCount_consume hstored hstate
      · rw [hpermit] at hnone
        cases hnone
  simp only [Option.isSome_none, Bool.false_eq_true, if_false, Nat.add_zero] at hslots
  exact ⟨by omega, hcount⟩

theorem permit_eq_none_of_returnsSlot
    (hconsume : pre.consumeConnectionTicket attempt elapsed = (result, post))
    (hreturns : returnsSlot result.outcome = true) : result.permit = none := by
  obtain ⟨htickets, -⟩ := consumeConnectionTicket_cases hconsume
  rcases TicketAuthority.consume_cases htickets with ⟨-, hnone, -⟩ | ⟨stored, -, -, rfl, -⟩
  · exact hnone
  · rcases TicketAuthority.firstUse_cases stored.ticket attempt
      (durationMillisecondsSaturated elapsed) with ⟨-, hnone⟩ | ⟨hconsumed, -⟩
    · exact hnone
    · rw [hconsumed] at hreturns
      cases hreturns

theorem Balanced.released (h : Balanced policy permits pre) (contextId : String) :
    let post := (pre.releaseContext contextId).2
    let revoked := (pre.tickets.revokeContext contextId).1
    post.gateway.budget.inFlight + revoked = pre.gateway.budget.inFlight ∧
      post.tickets.issuedCount + revoked = pre.tickets.issuedCount := by
  have hcount := pre.tickets.issuedCount_revokeContext contextId
  have hslots := (h.releaseContext contextId).slots
  have hpre := h.slots
  obtain ⟨htickets, -, -⟩ := releaseContext_cases pre contextId
  rw [htickets] at hslots
  dsimp only
  rw [htickets]
  exact ⟨by omega, hcount⟩

end

/-! ## Runs -/

inductive TransportCall where
  | authorizeConnection (intent : RequestIntent) (selectedIp : IpAddr) (elapsed : Duration)
  | consumeConnectionTicket (attempt : ConnectionAttempt) (elapsed : Duration)
  | completeRequest
  | releaseContext (contextId : String)

/-- What a call returns. -/
inductive TransportReply where
  | authorized (result : Except PinnedTransportError ConnectionAuthorization)
  | used (result : TicketUseResult)
  | completed
  | released (dnsPins tickets : ℕ)

def PinnedTransportCoordinator.step (self : PinnedTransportCoordinator) :
    TransportCall → Option (TransportReply × PinnedTransportCoordinator)
  | .authorizeConnection intent selectedIp elapsed =>
    (self.authorizeConnection intent selectedIp elapsed).map fun (result, next) =>
      (.authorized result, next)
  | .consumeConnectionTicket attempt elapsed =>
    let (result, next) := self.consumeConnectionTicket attempt elapsed
    some (.used result, next)
  | .completeRequest => some (.completed, self.completeRequest)
  | .releaseContext contextId =>
    let ((dnsPins, tickets), next) := self.releaseContext contextId
    some (.released dnsPins tickets, next)

abbrev TransportEvent := Event PinnedTransportCoordinator TransportCall TransportReply

def isPermit (e : TransportEvent) : Bool :=
  match e.output with
  | .used result => result.permit.isSome
  | _ => false

def isComplete (e : TransportEvent) : Bool :=
  match e.input with
  | .completeRequest => true
  | _ => false

/-- `complete_request` is called at most once per permit: whenever it is called,
more permits have been granted than completed. -/
def Disciplined (es : List TransportEvent) : Prop :=
  ∀ (k : ℕ) (e : TransportEvent), es[k]? = some e → isComplete e = true →
    (es.take k).countP isComplete < (es.take k).countP isPermit

/-- The permits granted and not completed. -/
def outstanding (es : List TransportEvent) : ℕ := es.countP isPermit - es.countP isComplete

section

variable {pre post : PinnedTransportCoordinator} {call : TransportCall} {reply : TransportReply}

theorem transportStep_cases (h : pre.step call = some (reply, post)) :
    (∃ intent selectedIp elapsed result, call = .authorizeConnection intent selectedIp elapsed ∧
      reply = .authorized result ∧
      pre.authorizeConnection intent selectedIp elapsed = some (result, post)) ∨
    (∃ attempt elapsed result, call = .consumeConnectionTicket attempt elapsed ∧
      reply = .used result ∧ pre.consumeConnectionTicket attempt elapsed = (result, post)) ∨
    (call = .completeRequest ∧ reply = .completed ∧ post = pre.completeRequest) ∨
    ∃ contextId, call = .releaseContext contextId ∧
      reply = .released (pre.releaseContext contextId).1.1 (pre.tickets.revokeContext contextId).1 ∧
      post = (pre.releaseContext contextId).2 := by
  cases call with
  | authorizeConnection intent selectedIp elapsed =>
    obtain ⟨⟨result, next⟩, hauth, heq⟩ := Option.map_eq_some_iff.mp h
    cases heq
    exact .inl ⟨intent, selectedIp, elapsed, result, rfl, rfl, hauth⟩
  | consumeConnectionTicket attempt elapsed =>
    cases h
    exact .inr (.inl ⟨attempt, elapsed, _, rfl, rfl, rfl⟩)
  | completeRequest =>
    cases h
    exact .inr (.inr (.inl ⟨rfl, rfl, rfl⟩))
  | releaseContext contextId =>
    cases h
    exact .inr (.inr (.inr ⟨contextId, rfl, rfl, rfl⟩))

theorem step_authorized {result : Except PinnedTransportError ConnectionAuthorization}
    (h : pre.step call = some (.authorized result, post)) : ∃ intent selectedIp elapsed,
      call = .authorizeConnection intent selectedIp elapsed ∧
      pre.authorizeConnection intent selectedIp elapsed = some (result, post) := by
  rcases transportStep_cases h with ⟨intent, selectedIp, elapsed, _, hcall, hreply, hauth⟩ |
    ⟨_, _, _, -, hreply, -⟩ | ⟨-, hreply, -⟩ | ⟨_, -, hreply, -⟩
  · cases hreply
    exact ⟨intent, selectedIp, elapsed, hcall, hauth⟩
  all_goals cases hreply

theorem step_used {result : TicketUseResult} (h : pre.step call = some (.used result, post)) :
    ∃ attempt elapsed, call = .consumeConnectionTicket attempt elapsed ∧
      pre.consumeConnectionTicket attempt elapsed = (result, post) := by
  rcases transportStep_cases h with ⟨_, _, _, _, -, hreply, -⟩ |
    ⟨attempt, elapsed, _, hcall, hreply, hconsume⟩ | ⟨-, hreply, -⟩ | ⟨_, -, hreply, -⟩
  · cases hreply
  · cases hreply
    exact ⟨attempt, elapsed, hcall, hconsume⟩
  all_goals cases hreply

theorem step_released {dnsPins tickets : ℕ} (h : pre.step call = some (.released dnsPins tickets, post)) :
    ∃ contextId, tickets = (pre.tickets.revokeContext contextId).1 ∧
      post = (pre.releaseContext contextId).2 := by
  rcases transportStep_cases h with ⟨_, _, _, _, -, hreply, -⟩ | ⟨_, _, _, -, hreply, -⟩ |
    ⟨-, hreply, -⟩ | ⟨contextId, -, hreply, hpost⟩
  · cases hreply
  · cases hreply
  · cases hreply
  · cases hreply
    exact ⟨contextId, rfl, hpost⟩

theorem step_completed (h : pre.step .completeRequest = some (reply, post)) :
    post = pre.completeRequest := by
  cases h
  rfl

/-- **Every call keeps the account**, a completion being for an outstanding permit. -/
theorem Balanced.step {policy : CompiledPolicy} {granted completed : ℕ}
    (h : Balanced policy (granted - completed) pre) (hle : completed ≤ granted)
    (hstep : pre.step call = some (reply, post))
    (hcomplete : isComplete ⟨pre, call, reply, post⟩ = true → completed < granted) :
    Balanced policy (granted + (if isPermit ⟨pre, call, reply, post⟩ then 1 else 0) -
      (completed + if isComplete ⟨pre, call, reply, post⟩ then 1 else 0)) post := by
  rcases transportStep_cases hstep with ⟨intent, selectedIp, elapsed, result, rfl, rfl, hauth⟩ |
    ⟨attempt, elapsed, result, rfl, rfl, hconsume⟩ | ⟨rfl, rfl, rfl⟩ | ⟨contextId, rfl, rfl, rfl⟩
  · exact h.authorizeConnection hauth
  · have hused := h.consumeConnectionTicket hconsume
    rw [← Nat.sub_add_comm hle] at hused
    exact hused
  · have hlt : completed < granted := hcomplete rfl
    have hsucc : granted - completed = granted - (completed + 1) + 1 := by omega
    rw [hsucc] at h
    exact h.completeRequest
  · exact h.releaseContext contextId

end

section

variable {policy : CompiledPolicy} {maximumRedirects : ℕ} {start gateway : ScopeGateway}
  {gs : List GatewayEvent} {es : List TransportEvent} {now : PinnedTransportCoordinator}

theorem Disciplined.of_concat {e : TransportEvent} (h : Disciplined (es ++ [e])) :
    Disciplined es ∧ (isComplete e = true → es.countP isComplete < es.countP isPermit) := by
  constructor
  · intro k f hk hf
    have hlt : k < es.length := (List.getElem?_eq_some_iff.mp hk).1
    have hprefix := h k f (by rw [List.getElem?_append_left hlt, hk]) hf
    rwa [List.take_append_of_le_length hlt.le] at hprefix
  · intro he
    simpa using h es.length e List.getElem?_concat_length he

/-- **The account of a whole run**, on a gateway that is idle at its start. -/
theorem run_balanced (hnew : ScopeGateway.new policy maximumRedirects = .ok start)
    (hgateway : Run ScopeGateway.step start gs gateway) (hidle : gateway.inFlightRequests = 0)
    (hrun : Run PinnedTransportCoordinator.step (.new gateway) es now) (hdisciplined : Disciplined es) :
    es.countP isComplete ≤ es.countP isPermit ∧ Balanced policy (outstanding es) now := by
  refine Run.invariant (fun es now => Disciplined es →
    es.countP isComplete ≤ es.countP isPermit ∧ Balanced policy (outstanding es) now) ?_ ?_ hrun
    hdisciplined
  · intro _
    obtain ⟨-, -, hconcurrency⟩ := run_limits hnew hgateway
    have hremaining := run_remaining hnew hgateway
    exact ⟨le_refl _, balanced_new hidle (by omega) hconcurrency⟩
  · intro es t i o u _ ih hstep hconcat
    obtain ⟨hes, hlast⟩ := hconcat.of_concat
    obtain ⟨hle, hbalanced⟩ := ih hes
    rw [outstanding, List.countP_append, List.countP_append, List.countP_singleton,
      List.countP_singleton]
    refine ⟨?_, hbalanced.step hle hstep hlast⟩
    by_cases hcomplete : isComplete ⟨t, i, o, u⟩ = true
    · have hlt := hlast hcomplete
      rw [if_pos hcomplete]
      omega
    · rw [if_neg hcomplete]
      omega

theorem Disciplined.take (h : Disciplined es) (n : ℕ) : Disciplined (es.take n) := by
  intro k e hk he
  have hkn : k < n := by
    have hlen := (List.getElem?_eq_some_iff.mp hk).1
    rw [List.length_take] at hlen
    omega
  rw [List.getElem?_take_of_lt hkn] at hk
  rw [List.take_take, Nat.min_eq_left hkn.le]
  exact h k e hk he

/-- **What is guaranteed about slots** over a run `es` that ends in `now`. -/
structure SlotGuarantees (policy : CompiledPolicy) (es : List TransportEvent)
    (now : PinnedTransportCoordinator) : Prop where
  /-- The slots in use are those of the issued tickets and of the permits granted
  and not completed. -/
  slots : now.gateway.inFlightRequests =
    now.tickets.issuedCount + (es.countP isPermit - es.countP isComplete)
  limit : now.gateway.inFlightRequests ≤ policy.maximumConcurrency
  /-- An authorization that fails, for whatever reason, holds nothing. -/
  failed_authorization : ∀ e ∈ es, ∀ error, e.output = .authorized (.error error) →
    e.post.gateway.inFlightRequests = e.pre.gateway.inFlightRequests ∧
      e.post.tickets.issuedCount = e.pre.tickets.issuedCount
  /-- A first use that fails gives back the one slot of its ticket. -/
  failed_use : ∀ e ∈ es, ∀ result, e.output = .used result → returnsSlot result.outcome = true →
    e.post.gateway.inFlightRequests + 1 = e.pre.gateway.inFlightRequests ∧
      e.post.tickets.issuedCount + 1 = e.pre.tickets.issuedCount
  /-- The use of an unknown, used or revoked ticket gives nothing back. -/
  refused_use : ∀ e ∈ es, ∀ result, e.output = .used result → returnsSlot result.outcome = false →
    result.permit = none →
    e.post.gateway.inFlightRequests = e.pre.gateway.inFlightRequests ∧
      e.post.tickets.issuedCount = e.pre.tickets.issuedCount
  /-- A release gives back one slot per ticket it revokes. -/
  released : ∀ e ∈ es, ∀ dnsPins tickets, e.output = .released dnsPins tickets →
    e.post.gateway.inFlightRequests + tickets = e.pre.gateway.inFlightRequests ∧
      e.post.tickets.issuedCount + tickets = e.pre.tickets.issuedCount
  /-- A completion gives back one slot, that of a permit. -/
  completed : ∀ e ∈ es, e.input = .completeRequest →
    e.post.gateway.inFlightRequests + 1 = e.pre.gateway.inFlightRequests ∧
      e.post.tickets.issuedCount = e.pre.tickets.issuedCount

/-- **Every disciplined run of a coordinator on an idle gateway has these
guarantees.** -/
theorem slot_guarantees (hnew : ScopeGateway.new policy maximumRedirects = .ok start)
    (hgateway : Run ScopeGateway.step start gs gateway) (hidle : gateway.inFlightRequests = 0)
    (hrun : Run PinnedTransportCoordinator.step (.new gateway) es now)
    (hdisciplined : Disciplined es) : SlotGuarantees policy es now := by
  obtain ⟨-, hbalanced⟩ := run_balanced hnew hgateway hidle hrun hdisciplined
  -- every call of the run starts from a balanced coordinator
  have hevent : ∀ e ∈ es, e.pre.step e.input = some (e.output, e.post) ∧
      ∃ permits, Balanced policy permits e.pre ∧
        (isComplete e = true → ∃ rest, permits = rest + 1) := by
    intro e he
    obtain ⟨k, hk⟩ := List.mem_iff_getElem?.mp he
    obtain ⟨-, hpre⟩ := run_balanced hnew hgateway hidle (hrun.before hk) (hdisciplined.take k)
    refine ⟨hrun.step_of_getElem? hk, outstanding (es.take k), hpre, fun hcomplete => ?_⟩
    have hlt := hdisciplined k e hk hcomplete
    exact ⟨outstanding (es.take k) - 1, by simp only [outstanding]; omega⟩
  refine ⟨hbalanced.slots, hbalanced.limit, ?_, ?_, ?_, ?_, ?_⟩
  · intro e he error houtput
    obtain ⟨hstep, permits, hpre, -⟩ := hevent e he
    rw [houtput] at hstep
    obtain ⟨intent, selectedIp, elapsed, -, hauth⟩ := step_authorized hstep
    exact hpre.failed_authorization hauth
  · intro e he result houtput hreturns
    obtain ⟨hstep, permits, hpre, -⟩ := hevent e he
    rw [houtput] at hstep
    obtain ⟨attempt, elapsed, -, hconsume⟩ := step_used hstep
    have hmoves := hpre.failed_use hconsume (permit_eq_none_of_returnsSlot hconsume hreturns)
    rwa [if_pos hreturns] at hmoves
  · intro e he result houtput hreturns hnone
    obtain ⟨hstep, permits, hpre, -⟩ := hevent e he
    rw [houtput] at hstep
    obtain ⟨attempt, elapsed, -, hconsume⟩ := step_used hstep
    have hmoves := hpre.failed_use hconsume hnone
    rwa [hreturns] at hmoves
  · intro e he dnsPins tickets houtput
    obtain ⟨hstep, permits, hpre, -⟩ := hevent e he
    rw [houtput] at hstep
    obtain ⟨contextId, rfl, hpost⟩ := step_released hstep
    rw [hpost]
    exact hpre.released contextId
  · intro e he hinput
    obtain ⟨hstep, permits, hpre, hrest⟩ := hevent e he
    obtain ⟨rest, rfl⟩ := hrest (by rw [isComplete, hinput])
    rw [hinput] at hstep
    have hslots := hpre.slots
    rw [step_completed hstep]
    refine ⟨?_, rfl⟩
    show e.pre.gateway.budget.inFlight - 1 + 1 = e.pre.gateway.budget.inFlight
    omega

end

/-! ## A run of the coordinator on the test gateway -/

def testIp : IpAddr := .v4 (.new 8 8 8 8)

/-- The attempt that fits the first ticket of the test intent. -/
def testConnection : ConnectionAttempt where
  ticketId := ticketIdText 1
  dnsContextId := "navigation-1"
  scheme := .https
  remoteIp := testIp
  port := 443
  sni := some "app.example.com"
  httpHost := "app.example.com"
  redirectDepth := 0

/-- What the first ticket of the test intent binds. -/
def testBinding : TicketBinding where
  decisionId := "decision-00000000000000000001"
  dnsContextId := "navigation-1"
  host := "app.example.com"
  scheme := .https
  port := 443
  sni := some "app.example.com"
  httpHost := "app.example.com"
  pinnedAddresses := addressSet (testIntent testIp)
  selectedIp := testIp
  redirectDepth := 0

theorem bindingChecks_test {binding : TicketBinding} (hn : Normalized testBinding binding)
    (request : TicketIssueRequest) (ticketId : String) (expires : ℕ) :
    ∀ check ∈ bindingChecks testConnection (ticketOf ticketId binding request expires), check.1 = true := by
  simp [bindingChecks, ticketOf, hn.dnsContextId, hn.sni, hn.httpHost, hn.scheme, hn.selectedIp,
    hn.port, hn.redirectDepth, testConnection, testBinding]

structure TestValues : Prop where
  allow : (testGateway.authorize (testIntent testIp) .zero).map (fun r => r.1.outcome) = some .allow
  decisionId : s!"decision-{zeroPadded 20 testGateway.nextDecisionId}" = testBinding.decisionId
  host : toAsciiLowercase "app.example.com" = "app.example.com"
  httpHost : expectedHttpHost "app.example.com" .https 443 = "app.example.com"
  binding : (normalizeAndValidateBinding testBinding).isOk = true

theorem testValues : TestValues := by
  constructor <;> decide +kernel

theorem binding_testHost (decision : GatewayDecision) (intent : RequestIntent) (elapsed : Duration)
    (ttlMilliseconds : ℕ) (auditAnchor : String) :
    (issueRequestOf decision intent (toAsciiLowercase "app.example.com") .https 443 testIp elapsed ttlMilliseconds
      auditAnchor).binding =
      { testBinding with
        decisionId := decision.decisionId
        dnsContextId := intent.dnsContextId
        pinnedAddresses := addressSet intent
        redirectDepth := intent.redirectDepth } := by
  rw [testValues.host, issueRequestOf, testValues.httpHost]
  rfl

theorem exists_testPermit : ∃ decision ticket authorized used,
    (PinnedTransportCoordinator.new testGateway).authorizeConnection
      (testIntent testIp) testIp .zero = some (.ok ⟨decision, some ticket⟩, authorized) ∧
    authorized.consumeConnectionTicket testConnection .zero =
      (⟨.consumed, some ticket, testConnection, some (permitOf ticket)⟩, used) := by
  obtain ⟨⟨decision, gateway⟩, hauthorize, houtcome⟩ := Option.map_eq_some_iff.mp testValues.allow
  obtain ⟨hrecorded, -⟩ := authorize_cases hauthorize
  have hid : decision.decisionId = testBinding.decisionId := hrecorded.decisionId.trans testValues.decisionId
  have hbinding := eq_ok_unwrap _ testValues.binding
  have hgateway : (PinnedTransportCoordinator.new testGateway).gateway.authorize
      (testIntent testIp) .zero = some (decision, gateway) := hauthorize
  obtain ⟨ticket, authorized, hauth, rfl, hstored, -⟩ :=
    authorizeConnection_of_allow List.mem_cons_self hgateway houtcome rfl rfl rfl rfl
      (by rw [binding_testHost, hid]; exact hbinding) (by decide) (by decide) (by decide)
  refine ⟨decision, _, authorized, _, hauth, Prod.ext ?_ rfl⟩
  rw [consumeConnectionTicket_fst]
  exact TicketAuthority.consume_eq_consumed hstored (Nat.le_refl _) (Nat.zero_le _)
    (bindingChecks_test (normalizeAndValidateBinding_eq_ok hbinding) _ _ _)

/-- A use, a completion of it and a release, after an authorization. -/
theorem slot_guarantees_testPermit : ∃ es now, es.map isPermit = [false, true, false, false] ∧
    es.map isComplete = [false, false, true, false] ∧ SlotGuarantees validCompiled es now := by
  obtain ⟨decision, ticket, authorized, used, hauth, hconsume⟩ := exists_testPermit
  let authorize : TransportEvent := ⟨.new testGateway, .authorizeConnection (testIntent testIp) testIp .zero,
    .authorized (.ok ⟨decision, some ticket⟩), authorized⟩
  let use : TransportEvent := ⟨authorized, .consumeConnectionTicket testConnection .zero,
    .used ⟨.consumed, some ticket, testConnection, some (permitOf ticket)⟩, used⟩
  let complete : TransportEvent := ⟨used, .completeRequest, .completed, used.completeRequest⟩
  let release := used.completeRequest.releaseContext "navigation-1"
  let es : List TransportEvent := [authorize, use, complete, ⟨used.completeRequest,
    .releaseContext "navigation-1", .released release.1.1 release.1.2, release.2⟩]
  have hrun : Run PinnedTransportCoordinator.step (.new testGateway) es release.2 := by
    refine Run.cons ?_ (Run.cons ?_ (Run.cons rfl (Run.cons rfl .nil)))
    · simp only [PinnedTransportCoordinator.step, hauth, Option.map_some]
    · simp only [PinnedTransportCoordinator.step, hconsume]
  have hdisciplined : Disciplined es := by
    intro k e hk hcomplete
    rcases k with _ | _ | _ | _ | k
    · cases hk
      cases hcomplete
    · cases hk
      cases hcomplete
    · exact Nat.zero_lt_one
    · cases hk
      cases hcomplete
    · cases hk
  exact ⟨es, release.2, rfl, rfl, slot_guarantees new_testGateway .nil rfl hrun hdisciplined⟩

/-! ## The request budget -/

/-- Each permit granted and each ticket still issued was paid for out of `total` requests. -/
structure Funded (total permits : ℕ) (transport : PinnedTransportCoordinator) : Prop where
  numbered : transport.tickets.Numbered
  counter : transport.tickets.nextTicketId + transport.gateway.budget.remaining ≤ total + 1
  paid : permits + transport.tickets.issuedCount + transport.gateway.budget.remaining ≤ total

section

variable {total permits : ℕ} {pre post : PinnedTransportCoordinator} {elapsed : Duration}

/-- A call that issues no ticket and spends nothing new. -/
theorem Funded.of_le {permits' : ℕ} (h : Funded total permits pre) (hnumbered : post.tickets.Numbered)
    (hnext : post.tickets.nextTicketId = pre.tickets.nextTicketId)
    (hissued : permits' + post.tickets.issuedCount ≤ permits + pre.tickets.issuedCount)
    (hremaining : post.gateway.budget.remaining ≤ pre.gateway.budget.remaining) : Funded total permits' post := by
  have hcounter := h.counter
  have hpaid := h.paid
  exact ⟨hnumbered, by omega, by omega⟩

theorem Funded.authorizeConnection {intent : RequestIntent} {selectedIp : IpAddr}
    {result : Except PinnedTransportError ConnectionAuthorization}
    (htotal : total ≤ maxTotalRequests) (h : Funded total permits pre)
    (hauth : pre.authorizeConnection intent selectedIp elapsed = some (result, post)) : Funded total permits post := by
  rcases authorizeConnection_cases hauth with ⟨decision, ticket, -, ha⟩ |
    ⟨-, htickets, hgateway⟩
  · obtain ⟨host, scheme, port, -, -, -, hissue⟩ := ha.issue
    obtain ⟨-, ⟨-, hallowed⟩ | ⟨hdeny, -⟩⟩ := authorize_cases ha.authorize
    · have hcounter := h.counter
      have hpaid := h.paid
      have hremaining := hallowed.remaining
      have hcount := h.numbered.issuedCount_issue hissue
      have hlt : pre.tickets.nextTicketId < u64Max := by
        simp only [maxTotalRequests, u64Max] at *
        omega
      obtain ⟨binding, -, -, -, hnext⟩ := TicketAuthority.issue_cases hissue
      have hnumber : post.tickets.nextTicketId ≤ pre.tickets.nextTicketId + 1 := by
        rw [hnext]
        exact Nat.min_le_left _ _
      exact ⟨h.numbered.issue hlt hissue, by omega, by omega⟩
    · rw [ha.allow] at hdeny
      cases hdeny
  · have hremaining : post.gateway.budget.remaining ≤ pre.gateway.budget.remaining := by
      rcases hgateway with hgateway | ⟨decision, gateway, hauthorize, hgateway⟩
      · rw [hgateway]
      · have hspent : gateway.budget.remaining ≤ pre.gateway.budget.remaining := by
          obtain ⟨-, ⟨-, hallowed⟩ | ⟨-, hdenied⟩⟩ := authorize_cases hauthorize
          · exact Nat.le.intro hallowed.remaining
          · exact hdenied.remaining.le
        rcases hgateway with ⟨-, hgateway⟩ | ⟨-, hgateway⟩ <;> rw [hgateway] <;> exact hspent
    exact h.of_le (htickets ▸ h.numbered) (by rw [htickets]) (by rw [htickets]) hremaining

theorem Funded.consumeConnectionTicket {attempt : ConnectionAttempt} {result : TicketUseResult}
    (h : Funded total permits pre) (hconsume : pre.consumeConnectionTicket attempt elapsed = (result, post)) :
    Funded total (permits + if result.permit.isSome then 1 else 0) post := by
  obtain ⟨htickets, hgateway⟩ := consumeConnectionTicket_cases hconsume
  have hremaining : post.gateway.budget.remaining ≤ pre.gateway.budget.remaining := by
    rw [hgateway]
    split <;> exact le_rfl
  rcases TicketAuthority.consume_cases htickets with ⟨hsame, hnone, -⟩ | ⟨stored, hstored, hstate, -, hpost⟩
  · rw [hnone]
    exact h.of_le (hsame ▸ h.numbered) (by rw [hsame]) (by rw [hsame]; rfl) hremaining
  · have hcount : post.tickets.issuedCount + 1 = pre.tickets.issuedCount := by
      rw [hpost]
      exact TicketAuthority.issuedCount_consume hstored hstate
    refine h.of_le (h.numbered.consume htickets) (by rw [hpost]) ?_ hremaining
    split <;> omega

theorem Funded.step {call : TransportCall} {reply : TransportReply} (htotal : total ≤ maxTotalRequests)
    (h : Funded total permits pre) (hstep : pre.step call = some (reply, post)) :
    Funded total (permits + if isPermit ⟨pre, call, reply, post⟩ then 1 else 0) post := by
  rcases transportStep_cases hstep with ⟨intent, selectedIp, elapsed, result, rfl, rfl, hauth⟩ |
    ⟨attempt, elapsed, result, rfl, rfl, hconsume⟩ | ⟨rfl, rfl, rfl⟩ | ⟨contextId, rfl, rfl, rfl⟩
  · exact h.authorizeConnection htotal hauth
  · exact h.consumeConnectionTicket hconsume
  · exact h.of_le h.numbered rfl le_rfl le_rfl
  · obtain ⟨htickets, -, hbudget⟩ := releaseContext_cases pre contextId
    have hcount := pre.tickets.issuedCount_revokeContext contextId
    refine h.of_le (htickets ▸ h.numbered.revokeContext contextId) (by rw [htickets]; rfl) ?_ (by rw [hbudget])
    show permits + _ ≤ _
    rw [htickets]
    omega

end

/-- **Permits are paid for**: over every run of a coordinator, disciplined or not, the requests its
gateway had allowed before, the permits granted, the tickets that may still become one and the
requests remaining are no more than the policy's total. -/
theorem permits_le_total {policy : CompiledPolicy} {maximumRedirects : ℕ} {start gateway : ScopeGateway}
    {gs : List GatewayEvent} {es : List TransportEvent} {now : PinnedTransportCoordinator}
    (hnew : ScopeGateway.new policy maximumRedirects = .ok start) (hgateway : Run ScopeGateway.step start gs gateway)
    (hrun : Run PinnedTransportCoordinator.step (.new gateway) es now) :
    gs.countP isAllow + es.countP isPermit + now.tickets.issuedCount +
      now.gateway.remainingRequests ≤ policy.maximumTotalRequests := by
  have hsum := run_remaining hnew hgateway
  have htotal : gateway.budget.remaining ≤ maxTotalRequests := by
    have hmax := policy.maximumTotalRequests_le
    omega
  have hstart : Funded gateway.budget.remaining 0 (.new gateway) := by
    refine ⟨TicketAuthority.numbered_new, (Nat.add_comm _ _).le, ?_⟩
    show 0 + TicketAuthority.new.issuedCount + gateway.budget.remaining ≤ gateway.budget.remaining
    rw [TicketAuthority.issuedCount_new]
    omega
  have hend : Funded gateway.budget.remaining (es.countP isPermit) now := by
    refine hrun.invariant (fun es now => Funded gateway.budget.remaining (es.countP isPermit) now) hstart ?_
    intro es t call reply u _ ih hstep
    rw [List.countP_append, List.countP_singleton]
    exact ih.step htotal hstep
  have hpaid := hend.paid
  show _ + _ + _ + now.gateway.budget.remaining ≤ _
  omega

theorem permits_le_total_testPermit : ∃ es now, Run PinnedTransportCoordinator.step
    (.new testGateway) es now ∧ es.countP isPermit = 1 ∧
      es.countP isPermit + now.tickets.issuedCount +
      now.gateway.remainingRequests ≤ validCompiled.maximumTotalRequests := by
  obtain ⟨decision, ticket, authorized, used, hauth, hconsume⟩ := exists_testPermit
  have hrun : Run PinnedTransportCoordinator.step (.new testGateway)
      [⟨.new testGateway, .authorizeConnection (testIntent testIp) testIp .zero,
        .authorized (.ok ⟨decision, some ticket⟩), authorized⟩,
      ⟨authorized, .consumeConnectionTicket testConnection .zero,
        .used ⟨.consumed, some ticket, testConnection, some (permitOf ticket)⟩, used⟩] used := by
    refine Run.cons ?_ (Run.cons ?_ .nil)
    · simp only [PinnedTransportCoordinator.step, hauth, Option.map_some]
    · simp only [PinnedTransportCoordinator.step, hconsume]
  have hpaid := permits_le_total new_testGateway .nil hrun
  exact ⟨_, used, hrun, rfl, by simpa using hpaid⟩

end BoundSeal.Transport

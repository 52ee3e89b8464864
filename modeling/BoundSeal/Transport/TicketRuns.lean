import BoundSeal.Lib.Run
import BoundSeal.Transport.Tickets

/-!
# Runs of the ticket authority

Any interleaving of `issue`, `consume` and `revoke_context`, with any attempts and
clock values. Ticket numbers are counted up with a saturating addition, so the
results are about runs that issue fewer than `2 ^ 64 - 1` tickets.
-/

namespace BoundSeal.Transport

open Rust Lib TicketAuthority

/-! ## Calls and events -/

inductive TicketCall where
  | issue (request : TicketIssueRequest)
  | consume (attempt : ConnectionAttempt) (nowMilliseconds : ℕ)
  | revokeContext (contextId : String)

inductive TicketReply where
  | issued (ticket : Except TicketIssueError ConnectionTicket)
  | used (result : TicketUseResult)
  | revoked (tickets : ℕ)

/-- One call; an issue that fails leaves the authority as it was. -/
def TicketAuthority.step (self : TicketAuthority) : TicketCall → Option (TicketReply × TicketAuthority)
  | .issue request =>
    match self.issue request with
    | .ok (ticket, next) => some (.issued (.ok ticket), next)
    | .error e => some (.issued (.error e), self)
  | .consume attempt nowMilliseconds =>
    let (result, next) := self.consume attempt nowMilliseconds
    some (.used result, next)
  | .revokeContext contextId =>
    let (revoked, next) := self.revokeContext contextId
    some (.revoked revoked, next)

abbrev TicketEvent := Event TicketAuthority TicketCall TicketReply

def Issues (e : TicketEvent) (request : TicketIssueRequest) (ticket : ConnectionTicket) : Prop :=
  e.input = .issue request ∧ e.output = .issued (.ok ticket)

def Uses (e : TicketEvent) (ticketId : String) : Prop :=
  ∃ attempt now, e.input = .consume attempt now ∧ attempt.ticketId = ticketId

def Revokes (e : TicketEvent) (context : String) : Prop :=
  ∃ contextId, e.input = .revokeContext contextId ∧ normalizeIdentifier contextId = context

/-- The event is a use at a time that gives a permit. -/
def Permits (e : TicketEvent) (now : ℕ) (permit : TransportPermit) : Prop :=
  ∃ attempt result, e.input = .consume attempt now ∧ e.output = .used result ∧
    result.permit = some permit

def isIssue (e : TicketEvent) : Bool :=
  match e.output with
  | .issued (.ok _) => true
  | _ => false

/-! ## One call -/

variable {e : TicketEvent}

section

variable {pre post : TicketAuthority} {call : TicketCall} {reply : TicketReply}

theorem TicketAuthority.step_cases (h : pre.step call = some (reply, post)) :
    (∃ request ticket, call = .issue request ∧ reply = .issued (.ok ticket) ∧
      pre.issue request = .ok (ticket, post)) ∨
    (∃ request e, call = .issue request ∧ reply = .issued (.error e) ∧ post = pre) ∨
    (∃ attempt now result, call = .consume attempt now ∧ reply = .used result ∧
      pre.consume attempt now = (result, post)) ∨
    ∃ contextId, call = .revokeContext contextId ∧
      reply = .revoked (pre.revokeContext contextId).1 ∧ post = (pre.revokeContext contextId).2 := by
  cases call with
  | issue request =>
    unfold TicketAuthority.step at h
    dsimp only at h
    cases hissue : pre.issue request with
    | ok issued =>
      rw [hissue] at h
      cases h
      exact .inl ⟨request, issued.1, rfl, rfl, hissue⟩
    | error e =>
      rw [hissue] at h
      cases h
      exact .inr (.inl ⟨request, e, rfl, rfl, rfl⟩)
  | consume attempt now =>
    cases h
    exact .inr (.inr (.inl ⟨attempt, now, _, rfl, rfl, rfl⟩))
  | revokeContext contextId =>
    cases h
    exact .inr (.inr (.inr ⟨contextId, rfl, rfl, rfl⟩))

theorem Permits.stored {now : ℕ} {permit : TransportPermit}
    (hpermit : Permits e now permit) (h : e.pre.step e.input = some (e.output, e.post)) :
    ∃ attempt stored, e.input = .consume attempt now ∧
      e.pre.tickets[attempt.ticketId]? = some stored ∧ stored.state = .issued ∧
      permit = permitOf stored.ticket ∧ stored.ticket.issuedAtMilliseconds ≤ now ∧
      now ≤ stored.ticket.expiresAtMilliseconds := by
  obtain ⟨attempt, result, hinput, houtput, hsome⟩ := hpermit
  rw [hinput, houtput] at h
  rcases step_cases h with ⟨_, _, hcall, -⟩ | ⟨_, _, hcall, -⟩ |
    ⟨attempt', now', result', hcall, hreply, hconsume⟩ | ⟨_, hcall, -⟩
  · cases hcall
  · cases hcall
  · cases hcall
    cases hreply
    rcases consume_cases hconsume with ⟨-, hnone, -⟩ | ⟨stored, hstored, hstate, rfl, -⟩
    · rw [hnone] at hsome
      cases hsome
    · rcases firstUse_cases stored.ticket attempt now with ⟨-, hnone⟩ |
        ⟨-, hpermit, hfrom, huntil, -⟩
      · rw [hnone] at hsome
        cases hsome
      · rw [hpermit, Option.some.injEq] at hsome
        exact ⟨attempt, stored, hinput, hstored, hstate, hsome.symm, hfrom, huntil⟩
  · cases hcall

end

/-! ## The store and the history -/

/-- Nothing after position `i` tried to use the ticket or revoked its context. -/
def Untouched (es : List TicketEvent) (i : ℕ) (ticket : ConnectionTicket) : Prop :=
  ∀ (k : ℕ) e, i < k → es[k]? = some e → ¬ Uses e ticket.ticketId ∧ ¬ Revokes e ticket.dnsContextId

/-- A stored ticket is the reply of an issue, untouched since while it is issued. -/
def IssuedBy (es : List TicketEvent) (stored : StoredTicket) : Prop :=
  ∃ (i : ℕ) (e : TicketEvent) (request : TicketIssueRequest), es[i]? = some e ∧
    Issues e request stored.ticket ∧ (stored.state = .issued → Untouched es i stored.ticket)

/-- The store is what the history made it. -/
structure Accounted (es : List TicketEvent) (authority : TicketAuthority) : Prop where
  counter : authority.nextTicketId = es.countP isIssue + 1
  key : ∀ (ticketId : String) (stored : StoredTicket), authority.tickets[ticketId]? = some stored →
    stored.ticket.ticketId = ticketId
  issuedBy : ∀ (ticketId : String) (stored : StoredTicket),
    authority.tickets[ticketId]? = some stored → IssuedBy es stored

variable {request : TicketIssueRequest}

section

variable {es : List TicketEvent} {e : TicketEvent} {stored old : StoredTicket}

theorem IssuedBy.concat (h : IssuedBy es stored)
    (htouch : stored.state = .issued → ¬ Uses e stored.ticket.ticketId ∧
      ¬ Revokes e stored.ticket.dnsContextId) : IssuedBy (es ++ [e]) stored := by
  obtain ⟨i, f, request, hi, hissues, huntouched⟩ := h
  have hlt : i < es.length := (List.getElem?_eq_some_iff.mp hi).1
  refine ⟨i, f, request, by rwa [List.getElem?_append_left hlt], hissues, fun hstate k g hik hk => ?_⟩
  rcases getElem?_concat_cases hk with ⟨-, hold⟩ | ⟨-, rfl⟩
  · exact huntouched hstate k g hik hold
  · exact htouch hstate

theorem IssuedBy.retire (h : IssuedBy es old) (hticket : stored.ticket = old.ticket)
    (hstate : stored.state = .issued → old.state = .issued) : IssuedBy es stored := by
  obtain ⟨i, f, request, hi, hissues, huntouched⟩ := h
  exact ⟨i, f, request, hi, hticket ▸ hissues, fun hissued => hticket ▸ huntouched (hstate hissued)⟩

theorem not_touches_of_issue (h : e.input = .issue request)
    (ticketId context : String) : ¬ Uses e ticketId ∧ ¬ Revokes e context := by
  refine ⟨?_, ?_⟩
  · rintro ⟨attempt, now, hinput, -⟩
    rw [h] at hinput
    cases hinput
  · rintro ⟨contextId, hinput, -⟩
    rw [h] at hinput
    cases hinput

end

theorem accounted_new : Accounted [] .new where
  counter := rfl
  key ticketId stored h := by simp [TicketAuthority.new] at h
  issuedBy ticketId stored h := by simp [TicketAuthority.new] at h

variable {ticket : ConnectionTicket}

section

variable {es : List TicketEvent} {pre post : TicketAuthority} {call : TicketCall} {reply : TicketReply}

theorem Accounted.issue (h : Accounted es pre) (hlt : es.countP isIssue + 1 < u64Max)
    (hissue : pre.issue request = .ok (ticket, post)) :
    Accounted (es ++ [⟨pre, .issue request, .issued (.ok ticket), post⟩]) post := by
  obtain ⟨binding, -, hticket, htickets, hnext⟩ := issue_cases hissue
  refine ⟨?_, fun ticketId stored hstored => ?_, fun ticketId stored hstored => ?_⟩
  · rw [hnext, saturatingAdd, h.counter, Nat.min_eq_left hlt, List.countP_append]
    rfl
  · rw [htickets, Std.ExtTreeMap.getElem?_insert] at hstored
    split at hstored
    · next heq =>
      cases hstored
      exact Std.LawfulEqOrd.eq_of_compare heq
    · exact h.key ticketId stored hstored
  · rw [htickets, Std.ExtTreeMap.getElem?_insert] at hstored
    split at hstored
    · -- the new ticket: this event issued it, and nothing comes after it
      cases hstored
      refine ⟨es.length, _, request, List.getElem?_concat_length, ⟨rfl, rfl⟩, fun _ k f hk hf => ?_⟩
      rw [List.getElem?_eq_none (by simp; omega)] at hf
      cases hf
    · exact (h.issuedBy ticketId stored hstored).concat fun _ => not_touches_of_issue rfl _ _

theorem Accounted.consume {attempt : ConnectionAttempt} {now : ℕ} {result : TicketUseResult}
    (h : Accounted es pre) (hconsume : pre.consume attempt now = (result, post)) :
    Accounted (es ++ [⟨pre, .consume attempt now, .used result, post⟩]) post := by
  -- the event uses the ticket of its attempt only, and revokes nothing
  have hconcat : ∀ stored, IssuedBy es stored →
      (stored.state = .issued → attempt.ticketId ≠ stored.ticket.ticketId) →
      IssuedBy (es ++ [⟨pre, .consume attempt now, .used result, post⟩]) stored := by
    intro stored hissued hne
    refine hissued.concat fun hstate => ⟨?_, ?_⟩
    · rintro ⟨attempt', now', hinput, hid⟩
      cases hinput
      exact hne hstate hid
    · rintro ⟨contextId, hinput, -⟩
      cases hinput
  have hcount : (es ++ [(⟨pre, .consume attempt now, .used result, post⟩ : TicketEvent)]).countP isIssue =
      es.countP isIssue := by
    rw [List.countP_append]
    rfl
  rcases consume_cases hconsume with ⟨rfl, -, -, -, hnot⟩ | ⟨stored, hstored, hstate, -, rfl⟩
  · refine ⟨by rw [hcount, h.counter], h.key, fun ticketId other hother => ?_⟩
    refine hconcat other (h.issuedBy ticketId other hother) fun hissued hid => ?_
    rw [h.key ticketId other hother] at hid
    exact hnot other (hid ▸ hother) hissued
  · refine ⟨by rw [hcount, ← h.counter], fun ticketId other hother => ?_, fun ticketId other hother => ?_⟩
    · rw [Std.ExtTreeMap.getElem?_insert] at hother
      split at hother
      · next heq =>
        cases hother
        exact Std.LawfulEqOrd.eq_of_compare heq ▸ h.key _ stored hstored
      · exact h.key ticketId other hother
    · rw [Std.ExtTreeMap.getElem?_insert] at hother
      split at hother
      · -- the used ticket is no longer issued
        cases hother
        refine hconcat _ ((h.issuedBy _ stored hstored).retire rfl fun hissued => ?_) fun hissued => ?_
        · cases hissued
        · cases hissued
      · next hne =>
        refine hconcat other (h.issuedBy ticketId other hother) fun _ hid => hne ?_
        rw [h.key ticketId other hother] at hid
        rw [hid, Std.ReflOrd.compare_self]

theorem Accounted.revokeContext (h : Accounted es pre) (contextId : String) :
    Accounted (es ++ [⟨pre, .revokeContext contextId, .revoked (pre.revokeContext contextId).1,
      (pre.revokeContext contextId).2⟩]) (pre.revokeContext contextId).2 := by
  refine ⟨?_, fun ticketId stored hstored => ?_, fun ticketId stored hstored => ?_⟩
  · rw [revokeContext_nextTicketId, h.counter, List.countP_append]
    rfl
  all_goals
    rw [revokeContext_getElem?] at hstored
    obtain ⟨old, hold, rfl⟩ := Option.map_eq_some_iff.mp hstored
  · rw [revokeStored_ticket]
    exact h.key ticketId old hold
  · refine ((h.issuedBy ticketId old hold).retire (revokeStored_ticket _ _)
      fun hissued => (revokeStored_state hissued).1).concat fun hissued => ⟨?_, ?_⟩
    · rintro ⟨attempt, now, hinput, -⟩
      cases hinput
    · rintro ⟨contextId', hinput, hcontext⟩
      cases hinput
      rw [revokeStored_ticket] at hcontext
      exact (revokeStored_state hissued).2 hcontext.symm

/-- **Every call keeps the account**, while the ticket counter does not saturate. -/
theorem Accounted.step (h : Accounted es pre) (hstep : pre.step call = some (reply, post))
    (hlt : (es ++ [(⟨pre, call, reply, post⟩ : TicketEvent)]).countP isIssue < u64Max) :
    Accounted (es ++ [⟨pre, call, reply, post⟩]) post := by
  rcases step_cases hstep with ⟨request, ticket, rfl, rfl, hissue⟩ |
    ⟨request, e, rfl, rfl, rfl⟩ | ⟨attempt, now, result, rfl, rfl, hconsume⟩ |
    ⟨contextId, rfl, rfl, rfl⟩
  · rw [List.countP_append] at hlt
    exact h.issue hlt hissue
  · refine ⟨?_, h.key, fun ticketId stored hstored => ?_⟩
    · rw [h.counter, List.countP_append]
      rfl
    · exact (h.issuedBy ticketId stored hstored).concat fun _ => not_touches_of_issue rfl _ _
  · exact h.consume hconsume
  · exact h.revokeContext contextId

theorem run_accounted (hrun : Run TicketAuthority.step .new es post)
    (hissues : es.countP isIssue < u64Max) : Accounted es post := by
  refine Run.invariant (fun es authority => es.countP isIssue < u64Max → Accounted es authority)
    (fun _ => accounted_new) ?_ hrun hissues
  intro es t i o u _ ih hstep hlt
  refine (ih ?_).step hstep hlt
  rw [List.countP_append] at hlt
  omega

end

/-! ## Whole runs -/

/-- A permit carries what was asked for when its ticket was issued, normalised. -/
structure Honours (permit : TransportPermit) (request : TicketIssueRequest) : Prop where
  decisionId : permit.decisionId = normalizeIdentifier request.binding.decisionId
  dnsContextId : permit.dnsContextId = normalizeIdentifier request.binding.dnsContextId
  scheme : permit.scheme = request.binding.scheme
  remoteIp : permit.remoteIp = request.binding.selectedIp
  port : permit.port = request.binding.port
  sni : permit.sni = request.binding.sni.map normalizeHost
  httpHost : permit.httpHost = normalizeAuthority request.binding.httpHost
  redirectDepth : permit.redirectDepth = request.binding.redirectDepth
  bindingHash : ∃ binding, Normalized request.binding binding ∧
    permit.bindingHash = Transport.bindingHash permit.ticketId binding request.issuedAtMilliseconds
      (request.issuedAtMilliseconds + request.ttlMilliseconds) request.auditAnchor
  remoteIp_mem : permit.remoteIp ∈ request.binding.pinnedAddresses

theorem honours_of_issue {pre post : TicketAuthority} (h : pre.issue request = .ok (ticket, post)) :
    Honours (permitOf ticket) request := by
  obtain ⟨binding, hn, rfl, -, -⟩ := issue_cases h
  have hmem : binding.selectedIp ∈ request.binding.pinnedAddresses := by
    rw [hn.selectedIp]
    exact hn.selected_mem
  exact ⟨hn.decisionId, hn.dnsContextId, hn.scheme, hn.selectedIp, hn.port, hn.sni, hn.httpHost,
    hn.redirectDepth, ⟨binding, hn, rfl⟩, hmem⟩

section

variable {es : List TicketEvent} {authority : TicketAuthority}

theorem Issues.issue
    (h : Issues e request ticket) (hstep : e.pre.step e.input = some (e.output, e.post)) :
    e.pre.issue request = .ok (ticket, e.post) := by
  obtain ⟨hinput, houtput⟩ := h
  rw [hinput, houtput] at hstep
  rcases step_cases hstep with ⟨_, _, hcall, hreply, hissue⟩ | ⟨_, _, -, hreply, -⟩ |
    ⟨_, _, _, hcall, -⟩ | ⟨_, hcall, -⟩
  · cases hcall
    cases hreply
    exact hissue
  · cases hreply
  · cases hcall
  · cases hcall

section

variable (hrun : Run TicketAuthority.step .new es authority) (hissues : es.countP isIssue < u64Max)

include hrun hissues

theorem issues_unique {i j : ℕ} {e f : TicketEvent}
    {request request' : TicketIssueRequest} {ticket ticket' : ConnectionTicket}
    (hi : es[i]? = some e) (hj : es[j]? = some f) (he : Issues e request ticket)
    (hf : Issues f request' ticket') (hid : ticket.ticketId = ticket'.ticketId) : i = j := by
  -- the number of an issue is how many came before it
  have hnumber : ∀ (k : ℕ) (g : TicketEvent) (r : TicketIssueRequest) (t : ConnectionTicket),
      es[k]? = some g → Issues g r t → t.ticketId = ticketIdText ((es.take k).countP isIssue + 1) := by
    intro k g r t hk hg
    have hle : (es.take k).countP isIssue ≤ es.countP isIssue := (List.take_sublist k es).countP_le
    have hacc := run_accounted (hrun.before hk) (by omega)
    obtain ⟨binding, -, rfl, -, -⟩ := issue_cases (hg.issue (hrun.step_of_getElem? hk))
    rw [← hacc.counter]
    rfl
  have hcount : (es.take i).countP isIssue = (es.take j).countP isIssue := by
    have := ticketIdText_injective
      ((hnumber i e request ticket hi he).symm.trans (hid.trans (hnumber j f request' ticket' hj hf)))
    omega
  -- an issue raises the count, so equal counts are equal positions
  have hlt : ∀ (k l : ℕ) (g : TicketEvent) (r : TicketIssueRequest) (t : ConnectionTicket), k < l →
      es[k]? = some g → Issues g r t → (es.take k).countP isIssue < (es.take l).countP isIssue := by
    intro k l g r t hkl hk hg
    have hle : (es.take (k + 1)).countP isIssue ≤ (es.take l).countP isIssue :=
      (List.take_sublist_take_left hkl).countP_le
    rw [List.take_add_one, hk, List.countP_append] at hle
    have hone : [g].countP isIssue = 1 := by
      rw [List.countP_singleton, isIssue, hg.2]
      rfl
    rw [Option.toList_some, hone] at hle
    omega
  rcases Nat.lt_trichotomy i j with hij | heq | hji
  · exact absurd hcount (Nat.ne_of_lt (hlt i j e request ticket hij hi he))
  · exact heq
  · exact absurd hcount.symm (Nat.ne_of_lt (hlt j i f request' ticket' hji hj hf))

theorem permit_issued {j : ℕ} {now : ℕ}
    {permit : TransportPermit} (hj : es[j]? = some e) (hpermit : Permits e now permit) :
    Uses e permit.ticketId ∧ ∃ (i : ℕ) (f : TicketEvent) (request : TicketIssueRequest)
      (ticket : ConnectionTicket), i < j ∧ es[i]? = some f ∧ Issues f request ticket ∧
      permit = permitOf ticket ∧ Honours permit request ∧ request.issuedAtMilliseconds ≤ now ∧
      now ≤ request.issuedAtMilliseconds + request.ttlMilliseconds ∧
      ∀ (k : ℕ) (g : TicketEvent), i < k → k < j → es[k]? = some g →
        ¬ Uses g permit.ticketId ∧ ¬ Revokes g permit.dnsContextId := by
  obtain ⟨attempt, stored, hinput, hstored, hstate, rfl, hfrom, huntil⟩ :=
    hpermit.stored (hrun.step_of_getElem? hj)
  have hle : (es.take j).countP isIssue ≤ es.countP isIssue := (List.take_sublist j es).countP_le
  have hacc := run_accounted (hrun.before hj) (by omega)
  obtain ⟨i, f, request, hi, hissue, huntouched⟩ := hacc.issuedBy _ stored hstored
  have hij : i < j := by
    have hlen := (List.getElem?_eq_some_iff.mp hi).1
    rw [List.length_take] at hlen
    omega
  rw [List.getElem?_take_of_lt hij] at hi
  have hok := hissue.issue (hrun.step_of_getElem? hi)
  have htimes : stored.ticket.issuedAtMilliseconds = request.issuedAtMilliseconds ∧
      stored.ticket.expiresAtMilliseconds = request.issuedAtMilliseconds + request.ttlMilliseconds := by
    obtain ⟨binding, -, hticket, -⟩ := issue_cases hok
    rw [hticket]
    exact ⟨rfl, rfl⟩
  refine ⟨⟨attempt, now, hinput, (hacc.key _ stored hstored).symm⟩, i, f, request, stored.ticket,
    hij, hi, hissue, rfl, honours_of_issue hok, htimes.1 ▸ hfrom, htimes.2 ▸ huntil, ?_⟩
  intro k g hik hkj hk
  exact huntouched hstate k g hik (by rw [List.getElem?_take_of_lt hkj, hk])

end

/-- **The guarantees of the ticket authority** over a run. -/
structure TicketGuarantees (es : List TicketEvent) : Prop where
  /-- A permit is for a ticket issued before it, within its time, that nobody tried
  to use and whose context nobody revoked in between; it honours the issue. -/
  permit : ∀ (j : ℕ) (e : TicketEvent) (now : ℕ) (permit : TransportPermit), es[j]? = some e →
    Permits e now permit → ∃ (i : ℕ) (f : TicketEvent) (request : TicketIssueRequest)
      (ticket : ConnectionTicket), i < j ∧ es[i]? = some f ∧ Issues f request ticket ∧
      ticket.ticketId = permit.ticketId ∧ Honours permit request ∧
      request.issuedAtMilliseconds ≤ now ∧
      now ≤ request.issuedAtMilliseconds + request.ttlMilliseconds ∧
      ∀ (k : ℕ) (g : TicketEvent), i < k → k < j → es[k]? = some g →
        ¬ Uses g permit.ticketId ∧ ¬ Revokes g permit.dnsContextId
  issue_unique : ∀ (i j : ℕ) (e f : TicketEvent) (request request' : TicketIssueRequest)
    (ticket ticket' : ConnectionTicket), es[i]? = some e → es[j]? = some f →
    Issues e request ticket → Issues f request' ticket' → ticket.ticketId = ticket'.ticketId → i = j
  permit_unique : ∀ (i j : ℕ) (e f : TicketEvent) (now now' : ℕ) (permit permit' : TransportPermit),
    es[i]? = some e → es[j]? = some f → Permits e now permit → Permits f now' permit' →
    permit.ticketId = permit'.ticketId → i = j

/-- **Every run of a new authority that issues fewer than `2 ^ 64 - 1` tickets has
these guarantees.** -/
theorem ticket_guarantees (hrun : Run TicketAuthority.step .new es authority)
    (hissues : es.countP isIssue < 2 ^ 64 - 1) : TicketGuarantees es where
  permit j e now permit hj hpermit := by
    obtain ⟨-, i, f, request, ticket, hij, hi, hissue, rfl, hrest⟩ :=
      permit_issued hrun hissues hj hpermit
    exact ⟨i, f, request, ticket, hij, hi, hissue, rfl, hrest⟩
  issue_unique i j e f request request' ticket ticket' hi hj he hf hid :=
    issues_unique hrun hissues hi hj he hf hid
  permit_unique i j e f now now' permit permit' hi hj he hf hid := by
    -- both permits are for one issue, and the earlier one is a use between it and the later one
    obtain ⟨huse, a, g, r, t, hai, ha, hg, rfl, -, -, -, hbetween⟩ := permit_issued hrun hissues hi he
    obtain ⟨huse', b, g', r', t', hbj, hb, hg', rfl, -, -, -, hbetween'⟩ :=
      permit_issued hrun hissues hj hf
    have hab : a = b := issues_unique hrun hissues ha hb hg hg' hid
    rw [hid] at huse
    rw [← hid] at huse'
    rcases Nat.lt_trichotomy i j with hij | heq | hji
    · exact absurd huse (hbetween' i e (by omega) hij hi).1
    · exact heq
    · exact absurd huse' (hbetween j f (by omega) hji hj).1

end

/-! ## A run of the crate's test tickets -/

def testRequest : TicketIssueRequest where
  binding :=
    { decisionId := "decision-0001"
      dnsContextId := "navigation-1"
      host := "app.example.com"
      scheme := .https
      port := 443
      sni := some "app.example.com"
      httpHost := "app.example.com"
      pinnedAddresses := Std.ExtTreeSet.ofList [IpAddr.v4 (.new 1 1 1 1), .v4 (.new 8 8 8 8)] compare
      selectedIp := .v4 (.new 8 8 8 8)
      redirectDepth := 0 }
  issuedAtMilliseconds := 100
  ttlMilliseconds := 5000
  auditAnchor := "".pushn 'a' 64

/-- The test attempt on a ticket, from an address. -/
def testAttempt (ticketNumber : ℕ) (remoteIp : IpAddr) : ConnectionAttempt where
  ticketId := ticketIdText ticketNumber
  dnsContextId := "navigation-1"
  scheme := .https
  remoteIp := remoteIp
  port := 443
  sni := some "app.example.com"
  httpHost := "app.example.com"
  redirectDepth := 0

/-- A mismatch and a correct use after it; another ticket, a use and its replay. -/
def testTicketCalls : List TicketCall :=
  [.issue testRequest, .consume (testAttempt 1 (.v4 (.new 1 1 1 1))) 200,
   .consume (testAttempt 1 (.v4 (.new 8 8 8 8))) 201, .issue testRequest,
   .consume (testAttempt 2 (.v4 (.new 8 8 8 8))) 200, .consume (testAttempt 2 (.v4 (.new 8 8 8 8))) 201]

def givesPermit (e : TicketEvent) : Bool :=
  match e.output with
  | .used result => result.permit.isSome
  | _ => false

theorem ticket_guarantees_testTicketCalls :
    ∃ es, es.map givesPermit = [false, false, false, false, true, false] ∧ TicketGuarantees es := by
  have heval : (runCalls TicketAuthority.step .new testTicketCalls).map (fun r =>
      r.1.map givesPermit) = some [false, false, false, false, true, false] := by decide +kernel
  obtain ⟨es, now, hrun, hpermit⟩ := exists_run_of_map_runCalls heval
  refine ⟨es, hpermit, ticket_guarantees hrun ?_⟩
  -- six calls issue at most six tickets
  have hlength : es.length = 6 := by
    rw [← List.length_map givesPermit, hpermit]
    rfl
  have hle : es.countP isIssue ≤ es.length := List.countP_le_length
  omega

end BoundSeal.Transport

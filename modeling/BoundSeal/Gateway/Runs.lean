import BoundSeal.Gateway.Model
import BoundSeal.Lib.Run

/-!
# Runs of the scope gateway

The gateway is driven by three calls: `authorize`, `complete_request` and
`release_dns_context`, in any order. `authorize_cases` says once what an
authorization can do; the rest follows from it over whole runs.
-/

namespace BoundSeal.Gateway

open Rust Lib Policy Destination Audit

/-! ## One call -/

/-- What an allowed request has passed, from one gateway state to the next. -/
structure Allowed (pre : ScopeGateway) (intent : RequestIntent) (elapsed : Duration)
    (post : ScopeGateway) : Prop where
  redirect : intent.redirectDepth ≤ pre.maximumRedirects
  request : pre.policy.allowsRequest intent.url intent.method = true
  resolved : intent.resolvedIps ≠ []
  isPublic : ∀ ip ∈ intent.resolvedIps, (assessDestination ip).class = .public
  pinned : ∃ host status, intent.url.hostStr = some host ∧
    pre.dnsPins.pinOrValidate (ScopeGateway.observationOf intent host elapsed) =
      .ok (status, post.dnsPins)
  slot : pre.budget.inFlight < pre.budget.maxConcurrency
  remaining : post.budget.remaining + 1 = pre.budget.remaining
  inFlight : post.budget.inFlight = pre.budget.inFlight + 1

/-- What a denied request changes: the pins, at most, by an accepted observation. -/
structure Denied (pre post : ScopeGateway) : Prop where
  remaining : post.budget.remaining = pre.budget.remaining
  inFlight : post.budget.inFlight = pre.budget.inFlight
  pins : post.dnsPins = pre.dnsPins ∨
    ∃ observation status, pre.dnsPins.pinOrValidate observation = .ok (status, post.dnsPins)

/-- What every authorization keeps and adds. -/
structure Recorded (pre : ScopeGateway) (decision : GatewayDecision) (post : ScopeGateway) : Prop where
  policy : post.policy = pre.policy
  maximumRedirects : post.maximumRedirects = pre.maximumRedirects
  maxConcurrency : post.budget.maxConcurrency = pre.budget.maxConcurrency
  nextDecisionId : post.nextDecisionId = saturatingAdd pre.nextDecisionId 1
  decisionId : decision.decisionId = s!"decision-{zeroPadded 20 pre.nextDecisionId}"
  audit : ∃ event, event.decisionId = decision.decisionId ∧
    event.outcome = decision.outcome.code ∧ event.reasonCode = decision.reason.code ∧
    post.audit = pre.audit.append event

theorem isPublic_of_isAllowed {assessment : DestinationAssessment}
    (h : assessment.isAllowed = true) : assessment.class = .public := by
  unfold DestinationAssessment.isAllowed DestinationClass.isAllowed at h
  split at h
  · assumption
  · cases h

structure Evaluated (pre : ScopeGateway) (decision : GatewayDecision) (post : ScopeGateway) : Prop where
  policy : post.policy = pre.policy
  maximumRedirects : post.maximumRedirects = pre.maximumRedirects
  maxConcurrency : post.budget.maxConcurrency = pre.budget.maxConcurrency
  nextDecisionId : post.nextDecisionId = saturatingAdd pre.nextDecisionId 1
  decisionId : decision.decisionId = s!"decision-{zeroPadded 20 pre.nextDecisionId}"
  audit : post.audit = pre.audit

section

variable {pre post : ScopeGateway} {intent : RequestIntent} {elapsed : Duration}
  {decision : GatewayDecision}

theorem evaluate_cases {pinStatus : AuditPinStatus}
    (h : pre.evaluate intent elapsed (intent.resolvedIps.map assessDestination) =
      some ((decision, pinStatus), post)) :
    Evaluated pre decision post ∧
      ((decision.outcome = .allow ∧ Allowed pre intent elapsed post) ∨
        (decision.outcome = .deny ∧ Denied pre post)) := by
  unfold ScopeGateway.evaluate ScopeGateway.allocateDecisionId at h
  dsimp only at h
  split at h
  · cases h
    exact ⟨⟨rfl, rfl, rfl, rfl, rfl, rfl⟩, .inr ⟨rfl, rfl, rfl, .inl rfl⟩⟩
  next hredirect =>
  split at h
  · cases h
    exact ⟨⟨rfl, rfl, rfl, rfl, rfl, rfl⟩, .inr ⟨rfl, rfl, rfl, .inl rfl⟩⟩
  next hrequest =>
  split at h
  · cases h
    exact ⟨⟨rfl, rfl, rfl, rfl, rfl, rfl⟩, .inr ⟨rfl, rfl, rfl, .inl rfl⟩⟩
  next hresolved =>
  split at h
  · cases h
    exact ⟨⟨rfl, rfl, rfl, rfl, rfl, rfl⟩, .inr ⟨rfl, rfl, rfl, .inl rfl⟩⟩
  next hpublic =>
  split at h
  · cases h
  next host hhost =>
  split at h
  · cases h
    exact ⟨⟨rfl, rfl, rfl, rfl, rfl, rfl⟩, .inr ⟨rfl, rfl, rfl, .inl rfl⟩⟩
  next status dnsPins hpin =>
  -- the observation is pinned from here on, whatever the budget says
  split at h
  · cases h
  · next budget hstart =>
    cases h
    obtain ⟨hconcurrency, hok | ⟨⟨e, he, -⟩, -⟩⟩ := RequestBudget.tryStart_cases hstart
    · obtain ⟨-, -, hslot, hremaining, hinFlight⟩ := hok
      refine ⟨⟨rfl, rfl, hconcurrency, rfl, rfl, rfl⟩, .inl ⟨rfl, ?_⟩⟩
      rw [List.find?_eq_none] at hpublic
      exact
        { redirect := not_lt.mp hredirect
          request := not_not.mp hrequest
          resolved := fun hnil => hresolved (by rw [hnil]; rfl)
          isPublic := fun ip hip => isPublic_of_isAllowed
            (by simpa using hpublic _ (List.mem_map_of_mem hip))
          pinned := ⟨host, status, hhost, hpin⟩
          slot := hslot
          remaining := hremaining
          inFlight := hinFlight }
    · cases he
  · next error budget hstart =>
    obtain ⟨reason, -, hreason⟩ := Option.map_eq_some_iff.mp h
    cases hreason
    obtain ⟨hconcurrency, ⟨he, -⟩ | ⟨-, hremaining, hinFlight⟩⟩ := RequestBudget.tryStart_cases hstart
    · cases he
    · exact ⟨⟨rfl, rfl, hconcurrency, rfl, rfl, rfl⟩,
        .inr ⟨rfl, hremaining, hinFlight, .inr ⟨_, status, hpin⟩⟩⟩

/-- **Everything `authorize` can do.** -/
theorem authorize_cases (h : pre.authorize intent elapsed = some (decision, post)) :
    Recorded pre decision post ∧
      ((decision.outcome = .allow ∧ Allowed pre intent elapsed post) ∨
        (decision.outcome = .deny ∧ Denied pre post)) := by
  unfold ScopeGateway.authorize at h
  dsimp only at h
  split at h
  · cases h
  next decision pinStatus mid heval =>
  cases h
  obtain ⟨hkeep, hcases⟩ := evaluate_cases heval
  refine ⟨⟨hkeep.policy, hkeep.maximumRedirects, hkeep.maxConcurrency, hkeep.nextDecisionId,
    hkeep.decisionId, _, rfl, rfl, rfl, by rw [hkeep.audit]⟩, ?_⟩
  -- the counters and pins are those of the evaluation
  rcases hcases with ⟨hallow, ha⟩ | ⟨hdeny, hd⟩
  · exact .inl ⟨hallow, ha.redirect, ha.request, ha.resolved, ha.isPublic, ha.pinned, ha.slot,
      ha.remaining, ha.inFlight⟩
  · exact .inr ⟨hdeny, hd.remaining, hd.inFlight, hd.pins⟩

end

/-! ## Runs -/

inductive GatewayCall where
  | authorize (intent : RequestIntent) (elapsed : Duration)
  | completeRequest
  | releaseDnsContext (contextId : String)

/-- What a call returns. -/
inductive GatewayReply where
  | decision (decision : GatewayDecision)
  | completed
  | released (pins : ℕ)

def ScopeGateway.step (self : ScopeGateway) : GatewayCall → Option (GatewayReply × ScopeGateway)
  | .authorize intent elapsed =>
    (self.authorize intent elapsed).map fun (decision, next) => (.decision decision, next)
  | .completeRequest => some (.completed, self.completeRequest)
  | .releaseDnsContext contextId =>
    let (released, next) := self.releaseDnsContext contextId
    some (.released released, next)

abbrev GatewayEvent := Event ScopeGateway GatewayCall GatewayReply

def Decides (e : GatewayEvent) (intent : RequestIntent) (elapsed : Duration)
    (decision : GatewayDecision) : Prop :=
  e.input = .authorize intent elapsed ∧ e.output = .decision decision

def isAllow (e : GatewayEvent) : Bool :=
  match e.output with
  | .decision decision => decision.outcome == .allow
  | _ => false

def Releases (e : GatewayEvent) (context : String) : Prop :=
  ∃ contextId, e.input = .releaseDnsContext contextId ∧ normalizeIdentifier contextId = context

def addressSet (intent : RequestIntent) : BTreeSet IpAddr := Std.ExtTreeSet.ofList intent.resolvedIps compare

def keyOf (intent : RequestIntent) : Option (Lex (String × String)) :=
  intent.url.hostStr.map (pinKey intent.dnsContextId)

variable {key : Lex (String × String)}

section

variable {pre post : ScopeGateway} {call : GatewayCall} {reply : GatewayReply}
  (h : pre.step call = some (reply, post))

include h

theorem step_cases :
    (∃ intent elapsed decision, call = .authorize intent elapsed ∧ reply = .decision decision ∧
      pre.authorize intent elapsed = some (decision, post)) ∨
    (call = .completeRequest ∧ reply = .completed ∧ post = pre.completeRequest) ∨
    ∃ contextId, call = .releaseDnsContext contextId ∧
      reply = .released (pre.releaseDnsContext contextId).1 ∧ post = (pre.releaseDnsContext contextId).2 := by
  cases call with
  | authorize intent elapsed =>
    obtain ⟨⟨decision, next⟩, hauth, heq⟩ := Option.map_eq_some_iff.mp h
    cases heq
    exact .inl ⟨intent, elapsed, decision, rfl, rfl, hauth⟩
  | completeRequest =>
    cases h
    exact .inr (.inl ⟨rfl, rfl, rfl⟩)
  | releaseDnsContext contextId =>
    cases h
    exact .inr (.inr ⟨contextId, rfl, rfl, rfl⟩)

theorem step_limits : post.policy = pre.policy ∧ post.maximumRedirects = pre.maximumRedirects ∧
      post.budget.maxConcurrency = pre.budget.maxConcurrency := by
  rcases step_cases h with ⟨intent, elapsed, decision, -, -, hauth⟩ | ⟨-, -, rfl⟩ | ⟨c, -, -, rfl⟩
  · obtain ⟨hrec, -⟩ := authorize_cases hauth
    exact ⟨hrec.policy, hrec.maximumRedirects, hrec.maxConcurrency⟩
  · exact ⟨rfl, rfl, rfl⟩
  · exact ⟨rfl, rfl, rfl⟩

theorem step_audit :
    (∃ decision record, reply = .decision decision ∧ record.event.decisionId = decision.decisionId ∧
      record.event.outcome = decision.outcome.code ∧
      post.audit.records = pre.audit.records ++ [record]) ∨
    ((∀ decision, reply ≠ .decision decision) ∧ post.audit = pre.audit) := by
  rcases step_cases h with ⟨intent, elapsed, decision, -, rfl, hauth⟩ | ⟨-, rfl, rfl⟩ | ⟨c, -, rfl, rfl⟩
  · obtain ⟨hrec, -⟩ := authorize_cases hauth
    obtain ⟨event, hid, houtcome, -, haudit⟩ := hrec.audit
    exact .inl ⟨decision, _, rfl, hid, houtcome, by rw [haudit]; rfl⟩
  · exact .inr ⟨by rintro _ ⟨⟩, rfl⟩
  · exact .inr ⟨by rintro _ ⟨⟩, rfl⟩

theorem step_verify (hpre : pre.verifyAuditChain = .ok ()) : post.verifyAuditChain = .ok () := by
  rcases step_cases h with ⟨intent, elapsed, decision, -, -, hauth⟩ | ⟨-, -, rfl⟩ | ⟨c, -, -, rfl⟩
  · obtain ⟨hrec, -⟩ := authorize_cases hauth
    obtain ⟨event, -, -, -, haudit⟩ := hrec.audit
    rw [ScopeGateway.verifyAuditChain, haudit]
    exact HashChain.verify_append _ event hpre
  · exact hpre
  · exact hpre

theorem step_remaining :
    post.budget.remaining + (if isAllow ⟨pre, call, reply, post⟩ then 1 else 0) =
      pre.budget.remaining := by
  rcases step_cases h with ⟨intent, elapsed, decision, -, rfl, hauth⟩ | ⟨-, rfl, rfl⟩ | ⟨c, -, rfl, rfl⟩
  · obtain ⟨-, ⟨hallow, ha⟩ | ⟨hdeny, hd⟩⟩ := authorize_cases hauth
    · simpa [isAllow, hallow] using ha.remaining
    · simpa [isAllow, hdeny] using hd.remaining
  · rfl
  · rfl

theorem step_pinnedTo {addresses : BTreeSet IpAddr} {resolverId : String}
    (hpin : pre.dnsPins.PinnedTo key addresses resolverId)
    (hnot : ¬ Releases ⟨pre, call, reply, post⟩ (ofLex key).1) :
    post.dnsPins.PinnedTo key addresses resolverId := by
  rcases step_cases h with ⟨intent, elapsed, decision, -, -, hauth⟩ | ⟨-, -, rfl⟩ | ⟨c, rfl, -, rfl⟩
  · obtain ⟨-, ⟨-, ha⟩ | ⟨-, hd⟩⟩ := authorize_cases hauth
    · obtain ⟨host, status, -, hok⟩ := ha.pinned
      exact hpin.pinOrValidate hok
    · rcases hd.pins with hsame | ⟨observation, status, hok⟩
      · rwa [hsame]
      · exact hpin.pinOrValidate hok
  · exact hpin
  · refine hpin.releaseContext fun hctx => hnot ⟨c, rfl, hctx.symm⟩

end

section

variable {e : GatewayEvent} {intent : RequestIntent} {elapsed : Duration}
  {decision : GatewayDecision} (hdecides : Decides e intent elapsed decision)
  (h : e.pre.step e.input = some (e.output, e.post))

include hdecides h

theorem Decides.authorize : e.pre.authorize intent elapsed = some (decision, e.post) := by
  obtain ⟨hinput, houtput⟩ := hdecides
  rw [hinput, houtput] at h
  obtain ⟨⟨d, next⟩, hauth, heq⟩ := Option.map_eq_some_iff.mp h
  cases heq
  exact hauth

theorem Decides.allowed (hallow : decision.outcome = .allow) :
    Allowed e.pre intent elapsed e.post := by
  obtain ⟨-, ⟨-, ha⟩ | ⟨hdeny, -⟩⟩ := authorize_cases (hdecides.authorize h)
  · exact ha
  · rw [hallow] at hdeny
    cases hdeny

theorem Decides.pinned (hallow : decision.outcome = .allow) (hkey : keyOf intent = some key) :
    e.post.dnsPins.PinnedTo key (addressSet intent) (normalizeIdentifier intent.dnsResolverId) ∧
      ∀ addresses resolver, e.pre.dnsPins.PinnedTo key addresses resolver →
        addresses = addressSet intent ∧ resolver = normalizeIdentifier intent.dnsResolverId := by
  obtain ⟨host, status, hhost, hok⟩ := (hdecides.allowed h hallow).pinned
  have hkey' : key = pinKey intent.dnsContextId host := by
    rw [keyOf, hhost, Option.map_some, Option.some.injEq] at hkey
    exact hkey.symm
  subst hkey'
  obtain ⟨hnew, hold, -⟩ := DnsPinSet.pinOrValidate_spec hok
  exact ⟨hnew, hold⟩

end

/-! ## Whole runs -/

section

variable {policy : CompiledPolicy} {maximumRedirects : ℕ} {start now : ScopeGateway}
  {es : List GatewayEvent}

theorem new_eq_ok (h : ScopeGateway.new policy maximumRedirects = .ok start) :
    start.policy = policy ∧ start.maximumRedirects = maximumRedirects ∧
      start.budget.remaining = policy.maximumTotalRequests ∧ start.budget.inFlight = 0 ∧
      start.budget.maxConcurrency = policy.maximumConcurrency ∧
      start.verifyAuditChain = .ok () := by
  simp only [ScopeGateway.new, do_eq_ok] at h
  obtain ⟨-, budget, hbudget, rfl⟩ := h
  cases hnew : RequestBudget.new policy.maximumTotalRequests policy.maximumConcurrency
      policy.maximumRequestsPerSecond with
  | error e =>
    rw [hnew] at hbudget
    cases hbudget
  | ok b =>
    rw [hnew] at hbudget
    cases hbudget
    obtain ⟨hremaining, hinFlight, hconcurrency⟩ := RequestBudget.new_eq_ok hnew
    exact ⟨rfl, rfl, hremaining, hinFlight, hconcurrency,
      HashChain.verify_start hashMaterial genesisHash⟩

section

variable (hnew : ScopeGateway.new policy maximumRedirects = .ok start)
  (hrun : Run ScopeGateway.step start es now)

include hnew hrun

theorem run_limits : now.policy = policy ∧ now.maximumRedirects = maximumRedirects ∧
      now.budget.maxConcurrency = policy.maximumConcurrency := by
  refine Run.invariant (fun _ g => g.policy = policy ∧ g.maximumRedirects = maximumRedirects ∧
    g.budget.maxConcurrency = policy.maximumConcurrency) ?_ ?_ hrun
  · obtain ⟨hpolicy, hredirects, -, -, hconcurrency, -⟩ := new_eq_ok hnew
    exact ⟨hpolicy, hredirects, hconcurrency⟩
  · intro es t i o u _ ⟨hpolicy, hredirects, hconcurrency⟩ hstep
    obtain ⟨h₁, h₂, h₃⟩ := step_limits hstep
    exact ⟨h₁.trans hpolicy, h₂.trans hredirects, h₃.trans hconcurrency⟩

theorem run_verify : now.verifyAuditChain = .ok () := by
  refine Run.invariant (fun _ g => g.verifyAuditChain = .ok ()) ?_ ?_ hrun
  · exact (new_eq_ok hnew).2.2.2.2.2
  · intro es t i o u _ hverify hstep
    exact step_verify hstep hverify

/-- **Conservation**: allowed requests and remaining requests add up to the budget. -/
theorem run_remaining : es.countP isAllow + now.budget.remaining = policy.maximumTotalRequests := by
  refine Run.invariant (fun es g => es.countP isAllow + g.budget.remaining =
    policy.maximumTotalRequests) ?_ ?_ hrun
  · simpa using (new_eq_ok hnew).2.2.1
  · intro es t i o u _ hsum hstep
    have hspent := step_remaining hstep
    rw [List.countP_append, List.countP_singleton]
    omega

end

theorem run_pinnedTo (hrun : Run ScopeGateway.step start es now) {i : ℕ} {e : GatewayEvent}
    {intent : RequestIntent} {elapsed : Duration} {decision : GatewayDecision}
    (hi : es[i]? = some e) (hdecides : Decides e intent elapsed decision)
    (hallow : decision.outcome = .allow) (hkey : keyOf intent = some key)
    (hnot : ∀ k e', i < k → es[k]? = some e' → ¬ Releases e' (ofLex key).1) :
    now.dnsPins.PinnedTo key (addressSet intent) (normalizeIdentifier intent.dnsResolverId) := by
  induction hrun with
  | nil => simp at hi
  | @snoc es t u call reply hrun hstep ih =>
    rcases getElem?_concat_cases hi with ⟨hlt, hold⟩ | ⟨rfl, rfl⟩
    · -- an earlier decision: its pin stood before this call, and this call releases nothing of it
      have hpin := ih hold fun k e' hik hk =>
        hnot k e' hik (by rw [List.getElem?_append_left (List.getElem?_eq_some_iff.mp hk).1, hk])
      exact step_pinnedTo hstep hpin (hnot es.length _ hlt (by simp))
    · -- this call is the decision
      exact (hdecides.pinned hstep hallow hkey).1

/-- **The guarantees of the scope gateway** over a run `es` that ends in `now`. -/
structure GatewayGuarantees (policy : CompiledPolicy) (maximumRedirects : ℕ)
    (es : List GatewayEvent) (now : ScopeGateway) : Prop where
  /-- An allowed request is in scope, within the redirect limit, and goes to
  public addresses only. -/
  allowed : ∀ e ∈ es, ∀ intent elapsed decision, Decides e intent elapsed decision →
    decision.outcome = .allow → policy.allowsRequest intent.url intent.method = true ∧
      intent.redirectDepth ≤ maximumRedirects ∧ intent.resolvedIps ≠ [] ∧
      ∀ ip ∈ intent.resolvedIps, (assessDestination ip).class = .public
  /-- Two allowed requests of one (context, host) with no release of the context
  between them carry one address set and one resolver. -/
  pinned : ∀ (i j : ℕ) e e' intent intent' elapsed elapsed' decision decision' key, i < j →
    es[i]? = some e → es[j]? = some e' → Decides e intent elapsed decision →
    Decides e' intent' elapsed' decision' → decision.outcome = .allow → decision'.outcome = .allow →
    keyOf intent = some key → keyOf intent' = some key →
    (∀ (k : ℕ) f, i < k → k < j → es[k]? = some f → ¬ Releases f (ofLex key).1) →
    addressSet intent = addressSet intent' ∧
      normalizeIdentifier intent.dnsResolverId = normalizeIdentifier intent'.dnsResolverId
  /-- No more requests are allowed than the policy's total. -/
  total : es.countP isAllow ≤ policy.maximumTotalRequests
  denied : ∀ e ∈ es, ∀ intent elapsed decision, Decides e intent elapsed decision →
    decision.outcome = .deny → e.post.remainingRequests = e.pre.remainingRequests ∧
      e.post.inFlightRequests = e.pre.inFlightRequests
  /-- A decision appends one record, its own, and nothing else appends any. -/
  recorded : ∀ e ∈ es,
    (∀ decision, e.output = .decision decision → ∃ record,
      record.event.decisionId = decision.decisionId ∧
      record.event.outcome = decision.outcome.code ∧
      e.post.audit.records = e.pre.audit.records ++ [record]) ∧
    ((∀ decision, e.output ≠ .decision decision) → e.post.audit.records = e.pre.audit.records)
  verified : now.verifyAuditChain = .ok ()

/-- **Every run of a new gateway has these guarantees.** -/
theorem gateway_guarantees (hnew : ScopeGateway.new policy maximumRedirects = .ok start)
    (hrun : Run ScopeGateway.step start es now) :
    GatewayGuarantees policy maximumRedirects es now where
  allowed e he intent elapsed decision hdecides hallow := by
    obtain ⟨k, hk⟩ := List.mem_iff_getElem?.mp he
    have ha := hdecides.allowed (hrun.step_of_getElem? hk) hallow
    obtain ⟨hpolicy, hredirects, -⟩ := run_limits hnew (hrun.before hk)
    exact ⟨hpolicy ▸ ha.request, hredirects ▸ ha.redirect, ha.resolved, ha.isPublic⟩
  pinned i j e e' intent intent' elapsed elapsed' decision decision' key hij hi hj hd hd' hallow
      hallow' hkey hkey' hnot := by
    -- the earlier request's pin stands in the state before the later one
    have hpin : e'.pre.dnsPins.PinnedTo key (addressSet intent)
        (normalizeIdentifier intent.dnsResolverId) := by
      refine run_pinnedTo (hrun.before hj) (by rw [List.getElem?_take_of_lt hij, hi]) hd hallow hkey ?_
      intro k f hik hk
      have hkj : k < j := by
        have hlen := (List.getElem?_eq_some_iff.mp hk).1
        rw [List.length_take] at hlen
        omega
      rw [List.getElem?_take_of_lt hkj] at hk
      exact hnot k f hik hkj hk
    exact (hd'.pinned (hrun.step_of_getElem? hj) hallow' hkey').2 _ _ hpin
  total := by
    have hsum := run_remaining hnew hrun
    omega
  denied e he intent elapsed decision hdecides hdeny := by
    obtain ⟨k, hk⟩ := List.mem_iff_getElem?.mp he
    obtain ⟨-, ⟨hallow, -⟩ | ⟨-, hd⟩⟩ :=
      authorize_cases (hdecides.authorize (hrun.step_of_getElem? hk))
    · rw [hdeny] at hallow
      cases hallow
    · exact ⟨hd.remaining, hd.inFlight⟩
  recorded e he := by
    obtain ⟨k, hk⟩ := List.mem_iff_getElem?.mp he
    rcases step_audit (hrun.step_of_getElem? hk) with ⟨d, record, hout, hid, houtcome, haudit⟩ |
      ⟨hnone, haudit⟩
    · refine ⟨fun decision hdecision => ?_, fun hnone => absurd hout (hnone d)⟩
      rw [hout] at hdecision
      cases hdecision
      exact ⟨record, hid, houtcome, haudit⟩
    · exact ⟨fun decision hdecision => absurd hdecision (hnone decision), fun _ => by rw [haudit]⟩
  verified := run_verify hnew hrun

end

/-! ## A run of the crate's test gateway -/

def testGateway : ScopeGateway where
  policy := validCompiled
  budget :=
    { remaining := validCompiled.maximumTotalRequests
      maxConcurrency := validCompiled.maximumConcurrency
      inFlight := 0
      tokens := f64Max validCompiled.maximumRequestsPerSecond 1.0
      tokenCapacity := f64Max validCompiled.maximumRequestsPerSecond 1.0
      refillPerSecond := validCompiled.maximumRequestsPerSecond
      lastRefill := .zero }
  dnsPins := .new
  audit := .start genesisHash
  maximumRedirects := 5
  nextDecisionId := 1

theorem new_testGateway : ScopeGateway.new validCompiled 5 = .ok testGateway := by
  rfl

def testIntent (ip : IpAddr) : RequestIntent where
  url :=
    { scheme := "https"
      username := ""
      password := none
      hostStr := some "app.example.com"
      port := none
      path := "/api/me"
      query := none
      fragment := none }
  method := "GET"
  resolvedIps := [ip]
  redirectDepth := 0
  dnsContextId := "navigation-1"
  dnsResolverId := "system-resolver"
  dnsTtlSeconds := 60

/-- An allowed request, one over the rate, a completion, an allowed request two
seconds later, a rebinding attempt and a release. -/
def testCalls : List GatewayCall :=
  let ip := IpAddr.v4 (.new 8 8 8 8)
  let later := Duration.fromMillis 2000 (by decide)
  [.authorize (testIntent ip) .zero, .authorize (testIntent ip) .zero, .completeRequest,
    .authorize (testIntent ip) later, .authorize (testIntent (.v4 (.new 1 1 1 1))) later,
    .releaseDnsContext "navigation-1"]

theorem gateway_guarantees_testCalls :
    ∃ es now, es.map isAllow = [true, false, false, true, false, false] ∧
      GatewayGuarantees validCompiled 5 es now := by
  have heval : (runCalls ScopeGateway.step testGateway testCalls).map (fun r => r.1.map isAllow) =
      some [true, false, false, true, false, false] := by decide +kernel
  obtain ⟨es, now, hrun, hallow⟩ := exists_run_of_map_runCalls heval
  exact ⟨es, now, hallow, gateway_guarantees new_testGateway hrun⟩

end BoundSeal.Gateway

import BoundSeal.Redirect.Chain

/-!
# DNS contexts of a redirect chain

`authorize_next` refuses a context id it has used before, as a text. The gateway
keys its pins on the id in lower case. The two notions of a fresh context agree
on a chain exactly when no two of its authorized ids differ in letter case only;
`nav-2` and `NAV-2` are both accepted and name the same pins.
-/

namespace BoundSeal.Redirect

open Rust Lib Gateway Transport

section

variable {joinUrl : Url → String → Except String Url} {limits : RedirectLimits}
  {initial : RedirectRequestState} {es : List RedirectEvent} {chainId : String}
  {transport : PinnedTransportCoordinator} {start now : RedirectCoordinator}

theorem trim_of_validateIdentifier {value name : String}
    (h : validateIdentifier value name = .ok ()) : trim value = value := by
  rw [validateIdentifier, failIf_eq_ok, not_or, not_or, not_not] at h
  obtain ⟨-, -, hall⟩ := h
  refine trim_eq_self ?_
  intro c hc
  have hchar := List.all_eq_true.mp hall c hc
  simp only [Bool.or_eq_true, beq_iff_eq] at hchar
  rcases hchar with ((halnum | rfl) | rfl) | rfl
  · exact isWhitespace_of_isAlphanum halnum
  all_goals decide

/-- The authorized events of a chain and their places. -/
def AuthorizedAt (es : List RedirectEvent) (i : ℕ) (e : RedirectEvent) : Prop :=
  es[i]? = some e ∧ isAuthorizing e = true

theorem AuthorizedAt.exists_step {i : ℕ} {e : RedirectEvent} (h : AuthorizedAt es i e) :
    ∃ step, Authorizes e step := by
  have hauthorizing := h.2
  rw [isAuthorizing] at hauthorizing
  split at hauthorizing
  · next step houtput => exact ⟨step, houtput, hauthorizing⟩
  · cases hauthorizing

theorem AuthorizedAt.normalizeIdentifier (hrun : Run (RedirectCoordinator.step joinUrl) start es now)
    {i : ℕ} {e : RedirectEvent} (h : AuthorizedAt es i e) :
    normalizeIdentifier e.input.dns.contextId = toAsciiLowercase e.input.dns.contextId := by
  obtain ⟨step, hstep⟩ := h.exists_step
  obtain ⟨plan, ha⟩ := hstep.advanced (hrun.step_of_getElem? h.1)
  rw [BoundSeal.normalizeIdentifier, trim_of_validateIdentifier ha.planned.context]

theorem contextId_injective (hnew : RedirectCoordinator.new chainId transport initial limits = .ok start)
    (hrun : Run (RedirectCoordinator.step joinUrl) start es now) {i j : ℕ} {e f : RedirectEvent}
    (he : AuthorizedAt es i e) (hf : AuthorizedAt es j f)
    (heq : e.input.dns.contextId = f.input.dns.contextId) : i = j := by
  -- the later of the two would find its id among the used ones
  have hdiffer : ∀ {i j : ℕ} {e f : RedirectEvent}, i < j → AuthorizedAt es i e →
      AuthorizedAt es j f → e.input.dns.contextId ≠ f.input.dns.contextId := by
    intro i j e f hij he hf hsame
    obtain ⟨s, hs⟩ := he.exists_step
    obtain ⟨t, ht⟩ := hf.exists_step
    obtain ⟨plan, ha⟩ := ht.advanced (hrun.step_of_getElem? hf.1)
    refine ha.planned.context_fresh ?_
    rw [← hsame]
    exact (run_chain hnew (hrun.before hf.1)).used e (mem_take_of_lt hij he.1) s hs
  rcases Nat.lt_trichotomy i j with hlt | hsame | hgt
  · exact absurd heq (hdiffer hlt he hf)
  · exact hsame
  · exact absurd heq.symm (hdiffer hgt hf he)

/-- Every authorized hop has a context of its own, as the pin set sees it. -/
def FreshContexts (es : List RedirectEvent) : Prop :=
  ∀ (i j : ℕ) (e f : RedirectEvent), AuthorizedAt es i e → AuthorizedAt es j f →
    normalizeIdentifier e.input.dns.contextId = normalizeIdentifier f.input.dns.contextId → i = j

/-- **Contexts are fresh exactly when** no two authorized ids differ in letter case
only. -/
theorem freshContexts_iff (hnew : RedirectCoordinator.new chainId transport initial limits = .ok start)
    (hrun : Run (RedirectCoordinator.step joinUrl) start es now) :
    FreshContexts es ↔ ∀ (i j : ℕ) (e f : RedirectEvent), AuthorizedAt es i e →
      AuthorizedAt es j f → eqIgnoreAsciiCase e.input.dns.contextId f.input.dns.contextId = true →
        e.input.dns.contextId = f.input.dns.contextId := by
  constructor
  · intro hfresh i j e f he hf hcase
    have hsame : i = j := by
      refine hfresh i j e f he hf ?_
      rw [he.normalizeIdentifier hrun, hf.normalizeIdentifier hrun]
      exact beq_iff_eq.mp hcase
    have hef : e = f := Option.some.inj (he.1.symm.trans (hsame ▸ hf.1))
    rw [hef]
  · intro hcase i j e f he hf hnormal
    rw [he.normalizeIdentifier hrun, hf.normalizeIdentifier hrun] at hnormal
    exact contextId_injective hnew hrun he hf (hcase i j e f he hf (beq_iff_eq.mpr hnormal))

end

/-- What the contexts `nav-2`, `NAV-2` and `nav-3` evaluate to. -/
structure TestContexts : Prop where
  normal : normalizeIdentifier "NAV-2" = "nav-2" ∧ normalizeIdentifier "nav-2" = "nav-2"
  valid : isValidIdentifier "NAV-2" = isValidIdentifier "nav-2"
  accepted : validateIdentifier "NAV-2" "dns_context_id" = .ok ()
  binding : (normalizeAndValidateBinding (hopBinding (decisionText 2) "NAV-2" 2)).isOk = true
  allows : hopsAllowed "nav-2" = some [true, true]
  cases : ∀ a ∈ ["nav-2", "nav-3"], ∀ b ∈ ["nav-2", "nav-3"], eqIgnoreAsciiCase a b = true → a = b

theorem testContexts : TestContexts := by
  constructor
  case cases =>
    decide +kernel
  all_goals decide +kernel

theorem normalizeIdentifier_nav2 : normalizeIdentifier "NAV-2" = normalizeIdentifier "nav-2" := by
  rw [testContexts.normal.1, testContexts.normal.2]

theorem authorizedAt_of_map {es : List RedirectEvent} (h : es.map isAuthorizing = [true, true]) :
    ∃ e f, es = [e, f] ∧ AuthorizedAt es 0 e ∧ AuthorizedAt es 1 f := by
  have hlength : es.length = 2 := by simpa using congrArg List.length h
  obtain ⟨e, f, rfl⟩ := List.length_eq_two.mp hlength
  simp only [List.map_cons, List.map_nil, List.cons.injEq, and_true] at h
  exact ⟨e, f, rfl, ⟨rfl, h.1⟩, ⟨rfl, h.2⟩⟩

/-- The test chain through `nav-2` and `nav-3` has fresh contexts. -/
theorem freshContexts_testChain : ∃ es, contexts es = ["nav-2", "nav-3"] ∧
    es.map isAuthorizing = [true, true] ∧ FreshContexts es := by
  obtain ⟨es, now, hrun, hauthorizing, hcontexts⟩ := exists_testChain_nav3
  have hmem : ∀ {k : ℕ} {g : RedirectEvent}, AuthorizedAt es k g →
      g.input.dns.contextId ∈ ["nav-2", "nav-3"] := by
    intro k g hg
    rw [← hcontexts]
    exact List.mem_map_of_mem (List.mem_of_getElem? hg.1)
  refine ⟨es, hcontexts, hauthorizing, (freshContexts_iff new_testStart hrun).mpr ?_⟩
  intro i j e f he hf
  exact testContexts.cases _ (hmem he) _ (hmem hf)

/-! ## What the gateway sees of a context id -/

section

variable (context : String)

theorem pinOrValidate_contextId (pins : DnsPinSet) (observation : DnsObservation)
    (hvalid : isValidIdentifier context = isValidIdentifier observation.contextId)
    (hnormal : normalizeIdentifier context = normalizeIdentifier observation.contextId) :
    pins.pinOrValidate { observation with contextId := context } = pins.pinOrValidate observation := by
  simp only [DnsPinSet.pinOrValidate, validateObservation, hvalid, hnormal]

theorem authorize_contextId (gateway : ScopeGateway) (intent : RequestIntent) (elapsed : Duration)
    (hvalid : isValidIdentifier context = isValidIdentifier intent.dnsContextId)
    (hnormal : normalizeIdentifier context = normalizeIdentifier intent.dnsContextId) :
    (gateway.authorize { intent with dnsContextId := context } elapsed).map Prod.fst =
      (gateway.authorize intent elapsed).map Prod.fst := by
  have hobservation : ∀ host, ScopeGateway.observationOf { intent with dnsContextId := context } host elapsed =
      { ScopeGateway.observationOf intent host elapsed with contextId := context } := fun _ => rfl
  have hevaluate : ∀ assessments,
      gateway.evaluate { intent with dnsContextId := context } elapsed assessments =
        gateway.evaluate intent elapsed assessments := by
    intro assessments
    have hpins := fun (pins : DnsPinSet) (host : String) =>
      pinOrValidate_contextId context pins (ScopeGateway.observationOf intent host elapsed) hvalid hnormal
    simp only [ScopeGateway.evaluate, hobservation, hpins]
  simp only [ScopeGateway.authorize, hevaluate]
  cases gateway.evaluate intent elapsed (intent.resolvedIps.map Destination.assessDestination) with
  | none => rfl
  | some r => simp only [Option.map_some]

end

theorem allowsHops_upper : AllowsHops "NAV-2" := by
  obtain ⟨decision₁, gateway₁, decision₂, gateway₂, hauthorize₁, hauthorize₂, hallow₁, hallow₂⟩ :=
    allowsHops_of_hopsAllowed testContexts.allows
  have hdecision : (gateway₁.authorize (hopIntent "/c" "NAV-2" 2) later).map Prod.fst = some decision₂ := by
    have hcontext := authorize_contextId "NAV-2" gateway₁ (hopIntent "/c" "nav-2" 2) later
      testContexts.valid normalizeIdentifier_nav2
    rw [hauthorize₂] at hcontext
    exact hcontext
  obtain ⟨⟨decision, gateway⟩, hauthorize, rfl⟩ := Option.map_eq_some_iff.mp hdecision
  exact ⟨decision₁, gateway₁, decision, gateway, hauthorize₁, hauthorize, hallow₁, hallow₂⟩

/-- **The counterexample**: a chain whose two hops are authorized in `nav-2` and in
`NAV-2`, one context to the pin set. -/
theorem not_freshContexts : ∃ es now, Run (RedirectCoordinator.step joinPath) testStart es now ∧
    RedirectCoordinator.new "chain-1" (.new testGateway) (testRequest "/a") ⟨5⟩ = .ok testStart ∧
    contexts es = ["nav-2", "NAV-2"] ∧ es.map isAuthorizing = [true, true] ∧ ¬ FreshContexts es := by
  obtain ⟨es, now, hrun, hauthorizing, hcontexts⟩ :=
    exists_testChain allowsHops_upper testContexts.accepted (by decide) testContexts.binding
  refine ⟨es, now, hrun, new_testStart, hcontexts, hauthorizing, ?_⟩
  intro hfresh
  obtain ⟨e, f, rfl, he, hf⟩ := authorizedAt_of_map hauthorizing
  simp only [contexts, List.map_cons, List.map_nil, List.cons.injEq, and_true] at hcontexts
  obtain ⟨hfirst, hsecond⟩ := hcontexts
  have hzero : 0 = 1 := hfresh 0 1 e f he hf (by rw [hfirst, hsecond, normalizeIdentifier_nav2])
  cases hzero

end BoundSeal.Redirect

import BoundSeal.Lib.Run
import BoundSeal.Redirect.Model
import BoundSeal.Transport.SlotAccounting

/-!
# Redirect chains

A chain is a run of `authorize_next` calls on a new coordinator, with any
responses, DNS inputs, session updates and clock values.
-/

namespace BoundSeal.Redirect

open Rust Lib Gateway Transport Http1 RedirectCoordinator

/-! ## One call -/

variable {plan : RedirectPlan}

section

variable {joinUrl : Url → String → Except String Url} {pre post : RedirectCoordinator}
  {response : Http1Response} {dns : RedirectDnsInput} {update : RedirectSessionUpdate}
  {elapsed : Duration} {result : Except RedirectError RedirectStep}

structure Planned (pre : RedirectCoordinator) (dns : RedirectDnsInput)
    (update : RedirectSessionUpdate) (plan : RedirectPlan) : Prop where
  open_chain : pre.terminal = false
  below : pre.redirectCount < pre.limits.maximumRedirects
  identity : update.snapshot.identity = pre.current.session.identity
  generation : update.snapshot.generation = pre.current.session.generation ∨
    update.snapshot.generation = saturatingAdd pre.current.session.generation 1
  context : validateIdentifier dns.contextId "dns_context_id" = .ok ()
  context_fresh : dns.contextId ∉ pre.usedDnsContexts
  fromOrigin : Origin.fromUrl pre.current.url = .ok plan.fromOrigin
  toOrigin : Origin.fromUrl plan.nextRequest.url = .ok plan.toOrigin
  no_downgrade : ¬ (plan.fromOrigin.scheme = "https" ∧ plan.toOrigin.scheme = "http")
  /-- A body goes on only within the origin, and unchanged. -/
  body : 0 < plan.nextRequest.bodyBytes → plan.fromOrigin = plan.toOrigin ∧
    0 < pre.current.bodyBytes ∧ plan.nextRequest.bodySha256 = pre.current.bodySha256
  request_hash : plan.nextRequestHash = requestIdentityHash plan.nextRequest.url plan.nextRequest.method
  request_fresh : plan.nextRequestHash ∉ pre.seenRequests
  depth : plan.redirectDepth ≤ pre.redirectCount + 1

theorem stay_eq_ok {α : Type} {x : Except RedirectError α} {a : α} :
    RedirectCoordinator.stay x = .ok a ↔ x = .ok a := by
  cases x <;> simp [stay, Except.mapError]

theorem endIf_eq_ok {c : Prop} [Decidable c] {e : RedirectError} {u : Unit} :
    RedirectCoordinator.endIf c e = .ok u ↔ ¬ c := failIf_eq_ok

theorem validateSessionUpdate_eq_ok {current : RedirectSessionSnapshot}
    (h : validateSessionUpdate current update = .ok ()) :
    update.snapshot.identity = current.identity ∧
      (update.snapshot.generation = current.generation ∨
        update.snapshot.generation = saturatingAdd current.generation 1) := by
  simp only [validateSessionUpdate, do_eq_ok, not_not, ne_eq] at h
  obtain ⟨-, hidentity, hgeneration⟩ := h
  refine ⟨(beq_iff_eq.mp hidentity).symm, ?_⟩
  split at hgeneration
  · exact .inr hgeneration
  · exact .inl hgeneration

/-- **Everything a planned hop has passed.** -/
theorem plan_cases (h : pre.plan joinUrl response dns update = .ok plan) :
    Planned pre dns update plan := by
  simp only [RedirectCoordinator.plan, do_eq_ok, stay_eq_ok, endIf_eq_ok, Prod.exists] at h
  obtain ⟨hopen, hbelow, hsession, hcontext, -, hused, location, -, nextUrl, -, fromOrigin, hfrom,
    toOrigin, hto, hdowngrade, method, disposition, -, hbody, hseen, rfl⟩ := h
  obtain ⟨hidentity, hgeneration⟩ := validateSessionUpdate_eq_ok hsession
  refine
    { open_chain := Bool.eq_false_iff.mpr hopen
      below := not_le.mp hbelow
      identity := hidentity
      generation := hgeneration
      context := hcontext
      context_fresh := hused
      fromOrigin := hfrom
      toOrigin := hto
      no_downgrade := hdowngrade
      body := ?_
      request_hash := rfl
      request_fresh := hseen
      depth := Nat.min_le_left _ _ }
  -- a dropped body is empty; a preserved one stays within the origin
  cases disposition with
  | drop =>
    intro hpositive
    exact absurd hpositive (Nat.lt_irrefl 0)
  | preserve =>
    intro hpositive
    refine ⟨?_, hpositive, rfl⟩
    by_contra hne
    exact hbody ⟨if_neg hne, rfl, hpositive⟩

/-- The chain went on: the planned request is authorized and is now current. -/
structure Advanced (pre : RedirectCoordinator) (dns : RedirectDnsInput) (update : RedirectSessionUpdate)
    (plan : RedirectPlan) (step : RedirectStep) (post : RedirectCoordinator) : Prop where
  planned : Planned pre dns update plan
  authorized : step.isAuthorized = true
  nextRequest : step.nextRequest = plan.nextRequest
  limits : post.limits = pre.limits
  count : post.redirectCount = plan.redirectDepth
  seen : post.seenRequests = pre.seenRequests.insert plan.nextRequestHash
  used : post.usedDnsContexts = pre.usedDnsContexts.insert dns.contextId
  current : post.current =
    { url := plan.nextRequest.url
      method := plan.nextRequest.method
      bodySha256 := plan.nextRequest.bodySha256
      bodyBytes := plan.nextRequest.bodyBytes
      session := update.snapshot }

structure Stayed (pre post : RedirectCoordinator) : Prop where
  limits : post.limits = pre.limits
  count : post.redirectCount = pre.redirectCount
  seen : post.seenRequests = pre.seenRequests
  used : ∀ context ∈ pre.usedDnsContexts, context ∈ post.usedDnsContexts
  current : post.current = pre.current
  terminal : pre.terminal = true → post.terminal = true

/-- **Everything `authorize_next` can do.** -/
theorem authorizeNext_cases
    (h : pre.authorizeNext joinUrl response dns update elapsed = some (result, post)) :
    (∃ plan step, result = .ok step ∧ Advanced pre dns update plan step post) ∨
    ((∀ step, result = .ok step → step.isAuthorized = false) ∧ Stayed pre post) := by
  unfold authorizeNext at h
  split at h
  · -- an error before the transport
    cases h
    refine .inr ⟨by rintro _ ⟨⟩, rfl, rfl, rfl, fun _ hc => hc, rfl, fun hterminal => ?_⟩
    show (pre.terminal || _) = true
    rw [hterminal, Bool.true_or]
  next plan hplan =>
  have hplanned := plan_cases hplan
  split at h
  · cases h
  · cases h
    exact .inr ⟨by rintro _ ⟨⟩, rfl, rfl, rfl, fun _ hc => hc, rfl, id⟩
  next authorization transport _ =>
  rw [Option.some.injEq] at h
  unfold commit at h
  dsimp only at h
  split at h
  · cases h
    exact .inr ⟨by rintro _ ⟨⟩, rfl, rfl, rfl, fun _ hc => hc, rfl, fun _ => rfl⟩
  · split at h
    · next hauthorized =>
      cases h
      exact .inl ⟨plan, _, rfl, hplanned, hauthorized, rfl, rfl, rfl, rfl, rfl, rfl⟩
    · next hauthorized =>
      cases h
      refine .inr ⟨?_, rfl, rfl, rfl, fun _ hc => ?_, rfl, fun _ => rfl⟩
      · rintro _ ⟨⟩
        exact Bool.eq_false_iff.mpr hauthorized
      · exact Std.ExtTreeSet.mem_insert.mpr (.inr hc)

end

/-! ## Runs -/

structure RedirectCall where
  response : Http1Response
  dns : RedirectDnsInput
  sessionUpdate : RedirectSessionUpdate
  elapsed : Duration

def RedirectCoordinator.step (joinUrl : Url → String → Except String Url) (self : RedirectCoordinator)
    (call : RedirectCall) : Option (Except RedirectError RedirectStep × RedirectCoordinator) :=
  self.authorizeNext joinUrl call.response call.dns call.sessionUpdate call.elapsed

abbrev RedirectEvent := Event RedirectCoordinator RedirectCall (Except RedirectError RedirectStep)

def Authorizes (e : RedirectEvent) (step : RedirectStep) : Prop :=
  e.output = .ok step ∧ step.isAuthorized = true

def isAuthorizing (e : RedirectEvent) : Bool :=
  match e.output with
  | .ok step => step.isAuthorized
  | .error _ => false

/-- The request a step authorizes; URLs are compared by their text. -/
def RedirectStep.request (step : RedirectStep) : String × String :=
  (step.nextRequest.method, step.nextRequest.url.toString)

def contexts (es : List RedirectEvent) : List String := es.map fun e => e.input.dns.contextId

variable {pre : RedirectCoordinator}

section

variable {joinUrl : Url → String → Except String Url} {e : RedirectEvent} {step : RedirectStep}

theorem Authorizes.advanced (h : Authorizes e step)
    (hstep : e.pre.step joinUrl e.input = some (e.output, e.post)) :
    ∃ plan, Advanced e.pre e.input.dns e.input.sessionUpdate plan step e.post := by
  obtain ⟨houtput, hauthorized⟩ := h
  rw [houtput] at hstep
  rcases authorizeNext_cases hstep with ⟨plan, _, hresult, hadvanced⟩ | ⟨hnot, -⟩
  · cases hresult
    exact ⟨plan, hadvanced⟩
  · rw [hnot step rfl] at hauthorized
    cases hauthorized

theorem event_cases (hstep : e.pre.step joinUrl e.input = some (e.output, e.post)) :
    (∃ plan step, Authorizes e step ∧
      Advanced e.pre e.input.dns e.input.sessionUpdate plan step e.post) ∨
    ((∀ step, ¬ Authorizes e step) ∧ Stayed e.pre e.post) := by
  rcases authorizeNext_cases hstep with ⟨plan, step, hresult, hadvanced⟩ | ⟨hnot, hstayed⟩
  · exact .inl ⟨plan, step, ⟨hresult, hadvanced.authorized⟩, hadvanced⟩
  · refine .inr ⟨?_, hstayed⟩
    rintro step ⟨houtput, hauthorized⟩
    rw [hnot step houtput] at hauthorized
    cases hauthorized

theorem fromUrl_scheme {url : Url} {origin : Origin} (h : Origin.fromUrl url = .ok origin) :
    (url.scheme = "http" ∨ url.scheme = "https") ∧ origin.scheme = url.scheme := by
  simp only [Origin.fromUrl, validateHttpUrl, do_eq_ok, not_or, not_and, not_not] at h
  obtain ⟨⟨⟨hscheme, -⟩, -⟩, host, -, port, -, rfl⟩ := h
  by_cases hhttp : url.scheme = "http"
  · refine ⟨.inl hhttp, ?_⟩
    show toAsciiLowercase url.scheme = url.scheme
    rw [hhttp]
    decide +kernel
  · refine ⟨.inr (hscheme hhttp), ?_⟩
    show toAsciiLowercase url.scheme = url.scheme
    rw [hscheme hhttp]
    decide +kernel

theorem Planned.https {dns : RedirectDnsInput}
    {update : RedirectSessionUpdate} (h : Planned pre dns update plan)
    (hhttps : pre.current.url.scheme = "https") : plan.nextRequest.url.scheme = "https" := by
  obtain ⟨-, hfrom⟩ := fromUrl_scheme h.fromOrigin
  obtain ⟨hhttp | hdone, hto⟩ := fromUrl_scheme h.toOrigin
  · exact absurd ⟨hfrom.trans hhttps, hto.trans hhttp⟩ h.no_downgrade
  · exact hdone

end

/-! ## The invariant of a chain -/

/-- What holds of a coordinator after the calls `es`. -/
structure ChainInvariant (limits : RedirectLimits) (initial : RedirectRequestState)
    (es : List RedirectEvent) (now : RedirectCoordinator) : Prop where
  sameLimits : now.limits = limits
  count : now.redirectCount ≤ limits.maximumRedirects
  seen_initial : requestIdentityHash initial.url initial.method ∈ now.seenRequests
  seen : ∀ e ∈ es, ∀ step, Authorizes e step →
    requestIdentityHash step.nextRequest.url step.nextRequest.method ∈ now.seenRequests
  used : ∀ e ∈ es, ∀ step, Authorizes e step → e.input.dns.contextId ∈ now.usedDnsContexts
  https : ∀ e ∈ es, e.pre.current.url.scheme = "https" → now.current.url.scheme = "https"
  body : 0 < now.current.bodyBytes → Origin.fromUrl now.current.url = Origin.fromUrl initial.url ∧
    now.current.bodySha256 = initial.bodySha256
  identity : now.current.session.identity = initial.session.identity
  generation : now.current.session.generation ≤ initial.session.generation + es.countP isAuthorizing
  terminal : ∀ e ∈ es, e.post.terminal = true → now.terminal = true

variable {transport : PinnedTransportCoordinator}

section

variable {joinUrl : Url → String → Except String Url} {limits : RedirectLimits}
  {initial : RedirectRequestState} {es : List RedirectEvent} {e : RedirectEvent}

theorem saturatingAdd_le (a b : ℕ) : saturatingAdd a b ≤ a + b := Nat.min_le_left _ _

theorem ChainInvariant.advance (h : ChainInvariant limits initial es e.pre)
    {step : RedirectStep} (hauthorizes : Authorizes e step)
    (ha : Advanced e.pre e.input.dns e.input.sessionUpdate plan step e.post) :
    ChainInvariant limits initial (es ++ [e]) e.post := by
  have hp := ha.planned
  have hseen : ∀ key ∈ e.pre.seenRequests, key ∈ e.post.seenRequests := by
    intro key hkey
    rw [ha.seen]
    exact Std.ExtTreeSet.mem_insert.mpr (.inr hkey)
  have hhttps : e.pre.current.url.scheme = "https" → e.post.current.url.scheme = "https" := by
    intro hpre
    rw [ha.current]
    exact hp.https hpre
  refine
    { sameLimits := ha.limits.trans h.sameLimits
      count := ?_
      seen_initial := hseen _ h.seen_initial
      seen := ?_
      used := ?_
      https := ?_
      body := ?_
      identity := ?_
      generation := ?_
      terminal := ?_ }
  · have hbelow := hp.below
    have hdepth := hp.depth
    rw [h.sameLimits] at hbelow
    rw [ha.count]
    omega
  · intro f hf step' hstep'
    rcases List.mem_append.mp hf with hold | hnew
    · exact hseen _ (h.seen f hold step' hstep')
    · -- the step just authorized
      rw [List.mem_singleton.mp hnew] at hstep'
      have hsame : step' = step := Except.ok.inj (hstep'.1.symm.trans hauthorizes.1)
      rw [hsame, ha.nextRequest, ha.seen, ← hp.request_hash]
      exact Std.ExtTreeSet.mem_insert_self
  · intro f hf step' hstep'
    rw [ha.used]
    rcases List.mem_append.mp hf with hold | hnew
    · exact Std.ExtTreeSet.mem_insert.mpr (.inr (h.used f hold step' hstep'))
    · rw [List.mem_singleton.mp hnew]
      exact Std.ExtTreeSet.mem_insert_self
  · intro f hf hpre
    rcases List.mem_append.mp hf with hold | hnew
    · exact hhttps (h.https f hold hpre)
    · rw [List.mem_singleton.mp hnew] at hpre
      exact hhttps hpre
  · intro hpositive
    rw [ha.current] at hpositive ⊢
    obtain ⟨hsame, hbefore, hdigest⟩ := hp.body hpositive
    obtain ⟨horigin, hsha⟩ := h.body hbefore
    refine ⟨?_, hdigest.trans hsha⟩
    calc Origin.fromUrl plan.nextRequest.url
      _ = .ok plan.toOrigin := hp.toOrigin
      _ = .ok plan.fromOrigin := by rw [hsame]
      _ = Origin.fromUrl e.pre.current.url := hp.fromOrigin.symm
      _ = Origin.fromUrl initial.url := horigin
  · rw [ha.current]
    exact hp.identity.trans h.identity
  · have hone : [e].countP isAuthorizing = 1 := by
      rw [List.countP_singleton, isAuthorizing, hauthorizes.1]
      simp [hauthorizes.2]
    have hgeneration := h.generation
    have hle : e.input.sessionUpdate.snapshot.generation ≤ e.pre.current.session.generation + 1 := by
      rcases hp.generation with heq | heq
      · omega
      · rw [heq]
        exact saturatingAdd_le _ _
    rw [List.countP_append, hone, ha.current]
    show e.input.sessionUpdate.snapshot.generation ≤ _
    omega
  · intro f hf hterminal
    rcases List.mem_append.mp hf with hold | hnew
    · -- a terminal chain does not go on
      have hopen := hp.open_chain
      rw [h.terminal f hold hterminal] at hopen
      cases hopen
    · rwa [List.mem_singleton.mp hnew] at hterminal

theorem ChainInvariant.stay (h : ChainInvariant limits initial es e.pre)
    (hnot : ∀ step, ¬ Authorizes e step) (hs : Stayed e.pre e.post) :
    ChainInvariant limits initial (es ++ [e]) e.post where
  sameLimits := hs.limits.trans h.sameLimits
  count := hs.count ▸ h.count
  seen_initial := hs.seen ▸ h.seen_initial
  seen := by
    intro f hf step hstep
    rcases List.mem_append.mp hf with hold | hnew
    · exact hs.seen ▸ h.seen f hold step hstep
    · exact absurd (List.mem_singleton.mp hnew ▸ hstep) (hnot step)
  used := by
    intro f hf step hstep
    rcases List.mem_append.mp hf with hold | hnew
    · exact hs.used _ (h.used f hold step hstep)
    · exact absurd (List.mem_singleton.mp hnew ▸ hstep) (hnot step)
  https := by
    intro f hf hpre
    rw [hs.current]
    rcases List.mem_append.mp hf with hold | hnew
    · exact h.https f hold hpre
    · rwa [List.mem_singleton.mp hnew] at hpre
  body := by
    rw [hs.current]
    exact h.body
  identity := by
    rw [hs.current]
    exact h.identity
  generation := by
    have hgeneration := h.generation
    rw [hs.current, List.countP_append]
    omega
  terminal := by
    intro f hf hterminal
    rcases List.mem_append.mp hf with hold | hnew
    · exact hs.terminal (h.terminal f hold hterminal)
    · rwa [List.mem_singleton.mp hnew] at hterminal

theorem RedirectCoordinator.new_eq_ok {chainId : String}
    {start : RedirectCoordinator} (h : RedirectCoordinator.new chainId transport initial limits = .ok start) :
    start.limits = limits ∧ start.current = initial ∧ start.redirectCount = 0 ∧
      start.seenRequests =
        Std.ExtTreeSet.ofList [requestIdentityHash initial.url initial.method] compare := by
  simp only [new, RedirectLimits.validate, do_eq_ok] at h
  obtain ⟨-, _, ⟨-, rfl⟩, rfl⟩ := h
  exact ⟨rfl, rfl, rfl, rfl⟩

/-- **The invariant holds along every chain.** -/
theorem run_chain {chainId : String} {start now : RedirectCoordinator}
    (hnew : RedirectCoordinator.new chainId transport initial limits = .ok start)
    (hrun : Run (RedirectCoordinator.step joinUrl) start es now) :
    ChainInvariant limits initial es now := by
  refine Run.invariant (fun es now => ChainInvariant limits initial es now) ?_ ?_ hrun
  · obtain ⟨hlimits, hcurrent, hcount, hseen⟩ := new_eq_ok hnew
    refine ⟨hlimits, by omega, ?_, ?_, ?_, ?_, ?_, ?_, ?_, ?_⟩
    · rw [hseen, Std.ExtTreeSet.mem_ofList]
      simp
    · intro e he
      cases he
    · intro e he
      cases he
    · intro e he
      cases he
    · intro _
      rw [hcurrent]
      exact ⟨rfl, rfl⟩
    · rw [hcurrent]
    · rw [hcurrent]
      exact Nat.le_add_right _ _
    · intro e he
      cases he
  · intro es t i o u _ h hstep
    rcases event_cases (e := ⟨t, i, o, u⟩) hstep with ⟨plan, step, hauthorizes, ha⟩ | ⟨hnot, hs⟩
    · exact h.advance hauthorizes ha
    · exact h.stay hnot hs

theorem requestIdentityHash_congr {url url' : Url} {method method' : String}
    (h : (method, url.toString) = (method', url'.toString)) :
    requestIdentityHash url method = requestIdentityHash url' method' := by
  obtain ⟨hmethod, hurl⟩ := Prod.mk.inj h
  rw [requestIdentityHash, requestIdentityHash, hmethod, hurl]

theorem Authorizes.fresh {step : RedirectStep} (h : Authorizes e step)
    (hstep : e.pre.step joinUrl e.input = some (e.output, e.post)) :
    requestIdentityHash step.nextRequest.url step.nextRequest.method ∉ e.pre.seenRequests := by
  obtain ⟨plan, ha⟩ := h.advanced hstep
  rw [ha.nextRequest, ← ha.planned.request_hash]
  exact ha.planned.request_fresh

/-! ## What a chain guarantees -/

/-- What holds of every chain that started at `initial`. -/
structure ChainGuarantees (limits : RedirectLimits) (initial : RedirectRequestState)
    (es : List RedirectEvent) (now : RedirectCoordinator) : Prop where
  count : now.redirectCount ≤ limits.maximumRedirects
  once : ∀ (i j : ℕ) (e f : RedirectEvent) (s t : RedirectStep), es[i]? = some e → es[j]? = some f →
    Authorizes e s → Authorizes f t → s.request = t.request → i = j
  notInitial : ∀ e ∈ es, ∀ s, Authorizes e s → s.request ≠ (initial.method, initial.url.toString)
  https : ∀ e ∈ es, e.pre.current.url.scheme = "https" → now.current.url.scheme = "https"
  body : 0 < now.current.bodyBytes → Origin.fromUrl now.current.url = Origin.fromUrl initial.url ∧
    now.current.bodySha256 = initial.bodySha256
  identity : now.current.session.identity = initial.session.identity
  /-- Only an authorized hop moves the generation, and by one (`saturating_add`). -/
  generation : ∀ e ∈ es, e.post.current.session.generation = e.pre.current.session.generation ∨
    isAuthorizing e = true ∧
      e.post.current.session.generation = saturatingAdd e.pre.current.session.generation 1
  growth : now.current.session.generation ≤ initial.session.generation + es.countP isAuthorizing
  /-- After the end of the chain nothing is authorized. -/
  terminal : ∀ (i j : ℕ) (e f : RedirectEvent), i < j → es[i]? = some e → es[j]? = some f →
    e.post.terminal = true → isAuthorizing f = false ∧ f.post.terminal = true

/-- Of two calls the earlier one is among those before the later one. -/
theorem mem_take_of_lt {i j : ℕ} (hij : i < j) (hi : es[i]? = some e) : e ∈ es.take j := by
  refine List.mem_of_getElem? (i := i) ?_
  rwa [List.getElem?_take_of_lt hij]

/-- **Redirect chains**: the count is bounded, requests are not repeated, `https`
is kept, a body stays with its origin, the session stays the same up to its
generation, and a chain that has ended authorizes nothing. -/
theorem chain_guarantees {chainId : String} {transport : PinnedTransportCoordinator}
    {start now : RedirectCoordinator}
    (hnew : RedirectCoordinator.new chainId transport initial limits = .ok start)
    (hrun : Run (RedirectCoordinator.step joinUrl) start es now) :
    ChainGuarantees limits initial es now := by
  have hchain := run_chain hnew hrun
  -- a request authorized at `j` differs from those authorized before it
  have hdiffer : ∀ (i j : ℕ) (e f : RedirectEvent) (s t : RedirectStep), i < j → es[i]? = some e →
      es[j]? = some f → Authorizes e s → Authorizes f t → s.request ≠ t.request := by
    intro i j e f s t hij hi hj hs ht heq
    have hbefore := run_chain hnew (hrun.before hj)
    refine ht.fresh (hrun.step_of_getElem? hj) ?_
    rw [← requestIdentityHash_congr heq]
    exact hbefore.seen e (mem_take_of_lt hij hi) s hs
  refine ⟨hchain.count, ?_, ?_, hchain.https, hchain.body, hchain.identity, ?_, hchain.generation, ?_⟩
  · intro i j e f s t hi hj hs ht heq
    rcases Nat.lt_trichotomy i j with hlt | hsame | hgt
    · exact absurd heq (hdiffer i j e f s t hlt hi hj hs ht)
    · exact hsame
    · exact absurd heq.symm (hdiffer j i f e t s hgt hj hi ht hs)
  · intro e he s hs heq
    obtain ⟨k, hk⟩ := List.mem_iff_getElem?.mp he
    refine hs.fresh (hrun.step_of_getElem? hk) ?_
    rw [requestIdentityHash_congr heq]
    exact (run_chain hnew (hrun.before hk)).seen_initial
  · intro e he
    obtain ⟨k, hk⟩ := List.mem_iff_getElem?.mp he
    rcases event_cases (hrun.step_of_getElem? hk) with ⟨plan, step, hauthorizes, ha⟩ | ⟨-, hs⟩
    · have hauthorizing : isAuthorizing e = true := by
        rw [isAuthorizing, hauthorizes.1]
        exact hauthorizes.2
      rw [ha.current]
      exact ha.planned.generation.imp id fun heq => ⟨hauthorizing, heq⟩
    · rw [hs.current]
      exact .inl rfl
  · intro i j e f hij hi hj hterminal
    have hended : f.pre.terminal = true :=
      (run_chain hnew (hrun.before hj)).terminal e (mem_take_of_lt hij hi) hterminal
    rcases event_cases (hrun.step_of_getElem? hj) with ⟨plan, step, -, ha⟩ | ⟨hnot, hs⟩
    · have hopen := ha.planned.open_chain
      rw [hended] at hopen
      cases hopen
    · refine ⟨?_, hs.terminal hended⟩
      by_contra hauthorizing
      rw [Bool.not_eq_false, isAuthorizing] at hauthorizing
      split at hauthorizing
      · next step houtput => exact hnot step ⟨houtput, hauthorizing⟩
      · cases hauthorizing

end

/-! ## A chain of two hops on the test gateway -/

def joinPath (base : Url) (location : String) : Except String Url :=
  .ok { base with path := location, query := none, fragment := none }

def testUrl (path : String) : Url := { (testIntent testIp).url with path }

def testSession : RedirectSessionSnapshot where
  sessionId := "session-1"
  runId := "run-1"
  workerId := "worker-1"
  accountId := "account-1"
  tenantId := "tenant-1"
  roleId := "role-1"
  generation := 1

def testRequest (path : String) : RedirectRequestState where
  url := testUrl path
  method := "GET"
  bodySha256 := "e3b0c44298fc1c149afbf4c8996fb92427ae41e4649b934ca495991b7852b855"
  bodyBytes := 0
  session := testSession

def testCall (location contextId : String) (elapsed : Duration) : RedirectCall where
  response :=
    { version := .http11
      statusCode := 302
      reason := []
      headers := [⟨"Location", bytes location⟩]
      trailers := []
      body := []
      framing := .noBody
      interimResponses := 0 }
  dns := ⟨[testIp], testIp, contextId, "system-resolver", 60⟩
  sessionUpdate := ⟨testSession, false⟩
  elapsed := elapsed

def hopIntent (path contextId : String) (depth : ℕ) : RequestIntent :=
  { testIntent testIp with url := testUrl path, redirectDepth := depth, dnsContextId := contextId }

def decisionText (n : ℕ) : String := s!"decision-{zeroPadded 20 n}"

def hopBinding (decisionId contextId : String) (depth : ℕ) : TicketBinding :=
  { testBinding with decisionId, dnsContextId := contextId, redirectDepth := depth }

/-- The coordinator at `/a`. -/
def testStart : RedirectCoordinator where
  chainId := "chain-1"
  limits := ⟨5⟩
  transport := .new testGateway
  current := testRequest "/a"
  seenRequests := Std.ExtTreeSet.ofList [requestIdentityHash (testUrl "/a") "GET"] compare
  usedDnsContexts := ∅
  redirectCount := 0
  terminal := false
  audit := .new "chain-1" (PinnedTransportCoordinator.new testGateway).audit.tailHash

def later : Duration := Duration.fromMillis (2 * 1000) (by decide)

/-- Whether the gateway allows the hop to `/b` in `nav-2` and then the one to `/c` in
`second`. -/
def hopsAllowed (second : String) : Option (List Bool) :=
  (runCalls ScopeGateway.step testGateway
    [.authorize (hopIntent "/b" "nav-2" 1) .zero, .authorize (hopIntent "/c" second 2) later]).map
      fun r => r.1.map isAllow

/-- What the requests of the test chain evaluate to. -/
structure TestRequests : Prop where
  chainId : validateIdentifier "chain-1" "chain_id" = .ok ()
  session : validateSessionUpdate testSession ⟨testSession, false⟩ = .ok ()
  resolver : validateIdentifier "system-resolver" "dns_resolver_id" = .ok ()
  scheme : toAsciiLowercase "https" = "https"
  location : ∀ path ∈ ["/b", "/c"], strictLocation (testCall path "" .zero).response = .ok (bytes path)
  utf8 : ∀ path ∈ ["/b", "/c"], fromUtf8 (bytes path) = some path
  hashes : (["/a", "/b", "/c"].map fun path => requestIdentityHash (testUrl path) "GET").Nodup
  contexts : ∀ context ∈ ["nav-2", "nav-3"], validateIdentifier context "dns_context_id" = .ok ()
  bindings : ∀ hop ∈ [("nav-2", 1), ("nav-3", 2)],
    (normalizeAndValidateBinding (hopBinding (decisionText hop.2) hop.1 hop.2)).isOk = true
  allows : hopsAllowed "nav-3" = some [true, true]

theorem testRequests : TestRequests := by
  constructor
  case location =>
    -- names are compared without regard to case, which is slow on texts
    simp only [strictLocation, eqIgnoreAsciiCase_eq]
    decide +kernel
  all_goals decide +kernel

theorem new_testStart :
    RedirectCoordinator.new "chain-1" (.new testGateway) (testRequest "/a") ⟨5⟩ = .ok testStart := by
  rw [new, testRequests.chainId]
  rfl

theorem fromUrl_testUrl (path : String) :
    Origin.fromUrl (testUrl path) = .ok ⟨"https", "app.example.com", 443⟩ := by
  have horigin : Origin.fromUrl (testUrl path) =
      .ok ⟨toAsciiLowercase "https", toAsciiLowercase "app.example.com", 443⟩ := rfl
  rw [horigin, testRequests.scheme, testValues.host]

/-- The plan of a hop to `path`. -/
def hopPlan (path contextId : String) (depth : ℕ) : RedirectPlan where
  statusCode := 302
  locationSha256 := hash (bytes path)
  toTargetSha256 := targetHash (testUrl path)
  fromOrigin := ⟨"https", "app.example.com", 443⟩
  toOrigin := ⟨"https", "app.example.com", 443⟩
  originTransition := .sameOrigin
  secretDisposition := .reissueBoundSecrets
  nextRequest := ⟨testUrl path, "GET", .preserve, (testRequest path).bodySha256, 0⟩
  nextRequestHash := requestIdentityHash (testUrl path) "GET"
  redirectDepth := depth
  intent := hopIntent path contextId depth

theorem plan_testCall {source path context : String} (elapsed : Duration)
    (hpath : path ∈ ["/b", "/c"]) (hopen : pre.terminal = false)
    (hbelow : pre.redirectCount < pre.limits.maximumRedirects)
    (hcurrent : pre.current = testRequest source) (hfresh : context ∉ pre.usedDnsContexts)
    (hseen : requestIdentityHash (testUrl path) "GET" ∉ pre.seenRequests)
    (hcontext : validateIdentifier context "dns_context_id" = .ok ()) :
    pre.plan joinPath (testCall path context elapsed).response (testCall path context elapsed).dns
      ⟨testSession, false⟩ = .ok (hopPlan path context (min (pre.redirectCount + 1) 255)) := by
  have hurl : resolveLocation joinPath (testUrl source) (bytes path) =
      .ok (testUrl path) := by
    rw [resolveLocation, testRequests.utf8 path hpath]
    rfl
  simp only [plan, do_eq_ok, stay_eq_ok, endIf_eq_ok, Prod.exists]
  rw [hcurrent]
  exact ⟨by rw [hopen]; decide, not_le.mpr hbelow, testRequests.session, hcontext, testRequests.resolver, hfresh,
    bytes path, testRequests.location path hpath, testUrl path, hurl, _, fromUrl_testUrl source, _,
    fromUrl_testUrl path, by decide, "GET", .preserve, rfl, by rintro ⟨-, -, ⟨⟩⟩, hseen, rfl⟩

theorem step_eq_ok {joinUrl : Url → String → Except String Url}
    {call : RedirectCall} {decision : GatewayDecision} {ticket : ConnectionTicket}
    (hplan : pre.plan joinUrl call.response call.dns call.sessionUpdate = .ok plan)
    (hauthorize : pre.transport.authorizeConnection plan.intent call.dns.selectedIp call.elapsed =
      some (.ok ⟨decision, some ticket⟩, transport))
    (hallow : decision.outcome = .allow) :
    ∃ step audit, step.isAuthorized = true ∧ pre.step joinUrl call = some (.ok step,
      { pre with
        transport
        audit
        usedDnsContexts := pre.usedDnsContexts.insert call.dns.contextId
        seenRequests := pre.seenRequests.insert plan.nextRequestHash
        redirectCount := plan.redirectDepth
        current := ⟨plan.nextRequest.url, plan.nextRequest.method, plan.nextRequest.bodySha256,
          plan.nextRequest.bodyBytes, call.sessionUpdate.snapshot⟩ }) := by
  have hcommit : pre.step joinUrl call = some (commit { pre with transport } plan
      call.dns call.sessionUpdate ⟨decision, some ticket⟩) := by
    simp only [step, authorizeNext, hplan, hauthorize]
  have hticket : ¬ (decision.outcome = .allow ∧ some ticket = none) := by
    rintro ⟨-, ⟨⟩⟩
  have hauthorized : ∀ step : RedirectStep, step.authorization = ⟨decision, some ticket⟩ →
      step.isAuthorized = true := by
    intro step hstep
    rw [RedirectStep.isAuthorized, hstep, hallow]
    rfl
  rw [hcommit, commit, if_neg hticket]
  dsimp only
  rw [if_pos (hauthorized _ rfl)]
  exact ⟨_, _, hauthorized _ rfl, rfl⟩

/-- **A hop of the test chain.** -/
theorem exists_hop (pre : RedirectCoordinator) (source path context : String) (elapsed : Duration)
    {decision : GatewayDecision} {gateway : ScopeGateway} {binding : TicketBinding} {depth : ℕ}
    (hpath : path ∈ ["/b", "/c"]) (hopen : pre.terminal = false)
    (hbelow : pre.redirectCount < pre.limits.maximumRedirects) (hdepth : min (pre.redirectCount + 1) 255 = depth)
    (hcurrent : pre.current = testRequest source) (hfresh : context ∉ pre.usedDnsContexts)
    (hseen : requestIdentityHash (testUrl path) "GET" ∉ pre.seenRequests)
    (hcontext : validateIdentifier context "dns_context_id" = .ok ())
    (hauthorize : pre.transport.gateway.authorize (hopIntent path context depth) elapsed =
      some (decision, gateway))
    (hallow : decision.outcome = .allow)
    (hbinding : normalizeAndValidateBinding (hopBinding decision.decisionId context depth) = .ok binding)
    (httl : pre.transport.ticketTtlMilliseconds = defaultTicketTtlMilliseconds)
    (hclock : durationMillisecondsSaturated elapsed + defaultTicketTtlMilliseconds ≤ u64Max) :
    ∃ step transport audit, step.isAuthorized = true ∧ transport.gateway = gateway ∧
      transport.ticketTtlMilliseconds = defaultTicketTtlMilliseconds ∧
      pre.step joinPath (testCall path context elapsed) = some (.ok step,
        { pre with
          transport
          audit
          usedDnsContexts := pre.usedDnsContexts.insert context
          seenRequests := pre.seenRequests.insert (requestIdentityHash (testUrl path) "GET")
          redirectCount := depth
          current := testRequest path }) := by
  have hplan := plan_testCall elapsed hpath hopen hbelow hcurrent hfresh hseen hcontext
  rw [hdepth] at hplan
  obtain ⟨ticket, transport, hconnection, -, -, hgateway, hkept⟩ :=
    authorizeConnection_of_allow List.mem_cons_self hauthorize hallow rfl rfl rfl rfl
      (by rw [binding_testHost]; exact hbinding) (by rw [httl]; decide) (by rw [httl]; decide)
      (by rw [httl]; exact hclock)
  obtain ⟨step, audit, hauthorized, hstep⟩ := step_eq_ok hplan hconnection hallow
  exact ⟨step, transport, audit, hauthorized, hgateway, hkept.trans httl, hstep⟩

/-- The gateway allows the hop to `/b` in `nav-2` and then the one to `/c` in `second`. -/
def AllowsHops (second : String) : Prop :=
  ∃ decision₁ gateway₁ decision₂ gateway₂,
    testGateway.authorize (hopIntent "/b" "nav-2" 1) .zero = some (decision₁, gateway₁) ∧
    gateway₁.authorize (hopIntent "/c" second 2) later = some (decision₂, gateway₂) ∧
    decision₁.outcome = .allow ∧ decision₂.outcome = .allow

theorem allowsHops_of_hopsAllowed {second : String} (h : hopsAllowed second = some [true, true]) :
    AllowsHops second := by
  rw [hopsAllowed] at h
  cases hfirst : testGateway.authorize (hopIntent "/b" "nav-2" 1) .zero with
  | none => simp [runCalls, ScopeGateway.step, hfirst] at h
  | some r₁ =>
    cases hsecond : r₁.2.authorize (hopIntent "/c" second 2) later with
    | none => simp [runCalls, ScopeGateway.step, hfirst, hsecond] at h
    | some r₂ =>
      simp only [runCalls, ScopeGateway.step, hfirst, hsecond, Option.map_some, List.map_cons,
        List.map_nil, isAllow, Option.some.injEq, List.cons.injEq, beq_iff_eq, and_true] at h
      exact ⟨r₁.1, r₁.2, r₂.1, r₂.2, hfirst, hsecond, h.1, h.2⟩

/-- **From `/a` over `/b` to `/c`**, in the context `nav-2` and then in `second`,
when the gateway allows both hops and `second` is another text than `nav-2`. -/
theorem exists_testChain {second : String} (hallow : AllowsHops second)
    (hsecond : validateIdentifier second "dns_context_id" = .ok ()) (hne : second ≠ "nav-2")
    (hbinding : (normalizeAndValidateBinding (hopBinding (decisionText 2) second 2)).isOk = true) :
    ∃ es now, Run (RedirectCoordinator.step joinPath) testStart es now ∧
      es.map isAuthorizing = [true, true] ∧ contexts es = ["nav-2", second] := by
  obtain ⟨decision₁, gateway₁, decision₂, gateway₂, hauthorize₁, hauthorize₂, hallow₁, hallow₂⟩ := hallow
  obtain ⟨hrecorded₁, -⟩ := authorize_cases hauthorize₁
  obtain ⟨hrecorded₂, -⟩ := authorize_cases hauthorize₂
  have hid₁ : decision₁.decisionId = decisionText 1 := hrecorded₁.decisionId
  have hid₂ : decision₂.decisionId = decisionText 2 := by
    have hnext : gateway₁.nextDecisionId = 2 := hrecorded₁.nextDecisionId.trans (by decide)
    rw [hrecorded₂.decisionId, hnext, decisionText]
  -- the requests at `/a`, `/b` and `/c` have different hashes
  have hhashes := testRequests.hashes
  simp only [List.map_cons, List.map_nil, List.nodup_cons, List.mem_cons, List.not_mem_nil, or_false, not_or] at hhashes
  obtain ⟨⟨hab, hac⟩, hbc, -⟩ := hhashes
  -- the coordinator at `/b`
  obtain ⟨step₁, transport₁, audit₁, hauthorized₁, hgateway₁, httl₁, hstep₁⟩ :=
    exists_hop testStart "/a" "/b" "nav-2" .zero (by decide) rfl (Nat.zero_lt_succ 4) rfl rfl
      Std.ExtTreeSet.not_mem_empty (by simp [testStart, hab]) (testRequests.contexts _ (by decide)) hauthorize₁ hallow₁
      (by rw [hid₁]; exact eq_ok_unwrap _ (testRequests.bindings ("nav-2", 1) (by decide))) rfl (by decide)
  let atB : RedirectCoordinator := { testStart with
    transport := transport₁
    audit := audit₁
    usedDnsContexts := testStart.usedDnsContexts.insert "nav-2"
    seenRequests := testStart.seenRequests.insert (requestIdentityHash (testUrl "/b") "GET")
    redirectCount := 1
    current := testRequest "/b" }
  obtain ⟨step₂, transport₂, audit₂, hauthorized₂, hgateway₂, httl₂, hstep₂⟩ :=
    exists_hop atB "/b" "/c" second later (by decide) rfl (Nat.succ_lt_succ (Nat.zero_lt_succ 3)) rfl rfl
      (by simp [atB, testStart, hne.symm]) (by simp [atB, testStart, hac, hbc]) hsecond
      (by rw [hgateway₁]; exact hauthorize₂) hallow₂ (by rw [hid₂]; exact eq_ok_unwrap _ hbinding) httl₁ (by decide)
  refine ⟨_, _, Run.cons hstep₁ (Run.cons hstep₂ .nil), ?_, rfl⟩
  simp only [List.map_cons, List.map_nil, isAuthorizing, hauthorized₁, hauthorized₂]

theorem exists_testChain_nav3 : ∃ es now, Run (RedirectCoordinator.step joinPath) testStart es now ∧
    es.map isAuthorizing = [true, true] ∧ contexts es = ["nav-2", "nav-3"] := by
  exact exists_testChain (allowsHops_of_hopsAllowed testRequests.allows) (testRequests.contexts _ (by decide))
    (by decide) (testRequests.bindings ("nav-3", 2) (by decide))

/-- Both hops of the test chain keep what a chain guarantees. -/
theorem chain_guarantees_testChain : ∃ es now, es.map isAuthorizing = [true, true] ∧
    ChainGuarantees ⟨5⟩ (testRequest "/a") es now := by
  obtain ⟨es, now, hrun, hauthorizing, -⟩ := exists_testChain_nav3
  exact ⟨es, now, hauthorizing, chain_guarantees new_testStart hrun⟩

end BoundSeal.Redirect

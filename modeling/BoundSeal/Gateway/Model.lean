import BoundSeal.Audit.Chain
import BoundSeal.Destination.Model
import BoundSeal.Gateway.Budget
import BoundSeal.Gateway.Dns

/-!
# The scope gateway (`nxb-gateway`)

Every request goes through `ScopeGateway.authorize`: redirect depth, policy,
destination classes, DNS pins and the budget are checked in this order, and the
decision is recorded in a hash chain before it is returned.

Serialising an audit event cannot fail (its fields are texts, numbers and maps
with text keys), so `append` is total here. What can fail to return is
`try_start`; `none` is its panic.
-/

namespace BoundSeal.Gateway

open Rust Lib Policy Destination Audit

/-! ## Requests and decisions -/

/-- `RequestIntent`. -/
structure RequestIntent where
  url : Url
  method : String
  resolvedIps : List IpAddr
  redirectDepth : ℕ
  dnsContextId : String
  dnsResolverId : String
  dnsTtlSeconds : ℕ

inductive DecisionOutcome where
  | allow
  | deny
  deriving DecidableEq, Repr

def DecisionOutcome.code : DecisionOutcome → String
  | .allow => "allow"
  | .deny => "deny"

inductive DnsObservationErrorKind where
  | invalidContextId
  | invalidResolverId
  | invalidHost
  | emptyAddressSet
  | clockRegression
  deriving DecidableEq, Repr

def DnsObservationErrorKind.code : DnsObservationErrorKind → String
  | .invalidContextId => "invalid_context_id"
  | .invalidResolverId => "invalid_resolver_id"
  | .invalidHost => "invalid_host"
  | .emptyAddressSet => "empty_address_set"
  | .clockRegression => "clock_regression"

/-- `DecisionReason`. -/
inductive DecisionReason where
  | authorized
  | urlOrMethodOutOfScope
  | missingDnsResolution
  | nonPublicDestination (ip : IpAddr) («class» : DestinationClass)
  | redirectLimitExceeded (maximum observed : ℕ)
  | invalidDnsObservation (kind : DnsObservationErrorKind)
  | dnsResolverChanged (expected observed : String)
  | dnsRebindingDetected (host : String) (pinned observed : BTreeSet IpAddr)
  | totalBudgetExhausted
  | concurrencyExceeded
  | rateLimited (retryAfterMilliseconds : ℕ)

/-- `join_ips`. -/
def joinIps (ips : BTreeSet IpAddr) : String := join "," (ips.toList.map IpAddr.toString)

namespace DecisionReason

def code : DecisionReason → String
  | .authorized => "authorized"
  | .urlOrMethodOutOfScope => "url_or_method_out_of_scope"
  | .missingDnsResolution => "missing_dns_resolution"
  | .nonPublicDestination _ _ => "non_public_destination"
  | .redirectLimitExceeded _ _ => "redirect_limit_exceeded"
  | .invalidDnsObservation _ => "invalid_dns_observation"
  | .dnsResolverChanged _ _ => "dns_resolver_changed"
  | .dnsRebindingDetected _ _ _ => "dns_rebinding_detected"
  | .totalBudgetExhausted => "total_budget_exhausted"
  | .concurrencyExceeded => "concurrency_exceeded"
  | .rateLimited _ => "rate_limited"

/-- `DecisionReason::details`. -/
def details : DecisionReason → BTreeMap String String
  | .nonPublicDestination ip «class» =>
    ((∅ : BTreeMap String String).insert "ip" ip.toString).insert "class" «class».code
  | .redirectLimitExceeded maximum observed =>
    ((∅ : BTreeMap String String).insert "maximum" maximum.repr).insert "observed" observed.repr
  | .invalidDnsObservation kind => (∅ : BTreeMap String String).insert "kind" kind.code
  | .dnsResolverChanged expected observed =>
    ((∅ : BTreeMap String String).insert "expected" expected).insert "observed" observed
  | .dnsRebindingDetected host pinned observed =>
    (((∅ : BTreeMap String String).insert "host" host).insert "pinned" (joinIps pinned)).insert
      "observed" (joinIps observed)
  | .rateLimited retryAfterMilliseconds =>
    (∅ : BTreeMap String String).insert "retry_after_milliseconds" retryAfterMilliseconds.repr
  | .authorized => ∅
  | .urlOrMethodOutOfScope => ∅
  | .missingDnsResolution => ∅
  | .totalBudgetExhausted => ∅
  | .concurrencyExceeded => ∅

end DecisionReason

structure GatewayDecision where
  decisionId : String
  outcome : DecisionOutcome
  reason : DecisionReason

inductive AuditPinStatus where
  | notEvaluated
  | pinned
  | matched
  | rejected
  deriving DecidableEq, Repr

def AuditPinStatus.code : AuditPinStatus → String
  | .notEvaluated => "not_evaluated"
  | .pinned => "pinned"
  | .matched => "matched"
  | .rejected => "rejected"

/-- `map_dns_error`. -/
def mapDnsError : DnsPinError → DecisionReason
  | .invalidContextId => .invalidDnsObservation .invalidContextId
  | .invalidResolverId => .invalidDnsObservation .invalidResolverId
  | .invalidHost => .invalidDnsObservation .invalidHost
  | .emptyAddressSet => .invalidDnsObservation .emptyAddressSet
  | .clockRegression => .invalidDnsObservation .clockRegression
  | .resolverChanged expected observed => .dnsResolverChanged expected observed
  | .rebindingDetected host pinned observed => .dnsRebindingDetected host pinned observed

/-- `deny`. -/
def deny (decisionId : String) (reason : DecisionReason) : GatewayDecision :=
  ⟨decisionId, .deny, reason⟩

/-- `sanitized_audit_url`: without query and fragment. -/
def sanitizedAuditUrl (url : Url) : String := Url.toString { url with query := none, fragment := none }

/-- `audit_event`. -/
def auditEvent (intent : RequestIntent) (elapsed : Duration) (assessments : List DestinationAssessment)
    (decision : GatewayDecision) (pinStatus : AuditPinStatus) : AuditEvent where
  decisionId := decision.decisionId
  outcome := decision.outcome.code
  reasonCode := decision.reason.code
  reasonDetails := decision.reason.details
  method := toAsciiUppercase (trim intent.method)
  url := sanitizedAuditUrl intent.url
  resolvedDestinations := assessments.map fun assessment =>
    ⟨assessment.ip.toString, assessment.class.code, assessment.isAllowed⟩
  dns := ⟨sanitizeIdentifier intent.dnsContextId, sanitizeIdentifier intent.dnsResolverId,
    intent.dnsTtlSeconds, pinStatus.code⟩
  redirectDepth := intent.redirectDepth
  elapsedMilliseconds := durationMillisecondsSaturated elapsed

/-! ## The gateway -/

/-- `ScopeGateway`. -/
structure ScopeGateway where
  policy : CompiledPolicy
  budget : RequestBudget
  dnsPins : DnsPinSet
  audit : AuditChain
  maximumRedirects : ℕ
  nextDecisionId : ℕ

inductive GatewayError where
  | budget (error : BudgetError)
  | invalidRedirectLimit

namespace ScopeGateway

/-- `ScopeGateway::new`. -/
def new (policy : CompiledPolicy) (maximumRedirects : ℕ) : Except GatewayError ScopeGateway := do
  failIf (maximumRedirects = 0) .invalidRedirectLimit
  let budget ← (RequestBudget.new policy.maximumTotalRequests policy.maximumConcurrency
    policy.maximumRequestsPerSecond).mapError .budget
  pure
    { policy
      budget
      dnsPins := .new
      audit := .start genesisHash
      maximumRedirects
      nextDecisionId := 1 }

variable (self : ScopeGateway)

/-- `allocate_decision_id`. -/
def allocateDecisionId : String × ScopeGateway :=
  (s!"decision-{zeroPadded 20 self.nextDecisionId}",
    { self with nextDecisionId := saturatingAdd self.nextDecisionId 1 })

/-- The reason a budget error is reported with; configuration errors were ruled
out when the budget was made (`unreachable!`). -/
def budgetReason : BudgetError → Option DecisionReason
  | .exhausted => some .totalBudgetExhausted
  | .concurrencyExceeded => some .concurrencyExceeded
  | .rateLimited retryAfter => some (.rateLimited (durationMillisecondsSaturated retryAfter))
  | .invalidConfiguration _ => none

def observationOf (intent : RequestIntent) (host : String) (elapsed : Duration) : DnsObservation where
  contextId := intent.dnsContextId
  host := host
  addresses := Std.ExtTreeSet.ofList intent.resolvedIps compare
  resolverId := intent.dnsResolverId
  ttlSeconds := intent.dnsTtlSeconds
  observedAtMilliseconds := durationMillisecondsSaturated elapsed

/-- `evaluate`: the decision, how the pins were evaluated, and
the gateway after it. -/
def evaluate (intent : RequestIntent) (elapsed : Duration) (assessments : List DestinationAssessment) :
    Option ((GatewayDecision × AuditPinStatus) × ScopeGateway) :=
  let (decisionId, self) := self.allocateDecisionId
  if intent.redirectDepth > self.maximumRedirects then
    some ((deny decisionId (.redirectLimitExceeded self.maximumRedirects intent.redirectDepth),
      .notEvaluated), self)
  else if ¬ self.policy.allowsRequest intent.url intent.method then
    some ((deny decisionId .urlOrMethodOutOfScope, .notEvaluated), self)
  else if assessments.isEmpty then
    some ((deny decisionId .missingDnsResolution, .notEvaluated), self)
  else
    match assessments.find? fun value => !value.isAllowed with
    | some assessment =>
      some ((deny decisionId (.nonPublicDestination assessment.ip assessment.class), .notEvaluated), self)
    | none =>
      match intent.url.hostStr with
      -- `expect("an allowed request always has a host")`
      | none => none
      | some host =>
        match self.dnsPins.pinOrValidate (observationOf intent host elapsed) with
        | .error error => some ((deny decisionId (mapDnsError error), .rejected), self)
        | .ok (status, dnsPins) =>
          let self := { self with dnsPins }
          let pinStatus := match status with
            | .pinned => .pinned
            | .matched => .matched
          match self.budget.tryStart elapsed with
          | none => none
          | some (.ok (), budget) =>
            some ((⟨decisionId, .allow, .authorized⟩, pinStatus), { self with budget })
          | some (.error error, budget) =>
            (budgetReason error).map fun reason =>
              ((deny decisionId reason, pinStatus), { self with budget })

/-- `ScopeGateway::authorize`: the decision is recorded before
it is returned. -/
def authorize (intent : RequestIntent) (elapsed : Duration) : Option (GatewayDecision × ScopeGateway) :=
  let assessments := intent.resolvedIps.map assessDestination
  match self.evaluate intent elapsed assessments with
  | none => none
  | some ((decision, pinStatus), self) =>
    let event := auditEvent intent elapsed assessments decision pinStatus
    some (decision, { self with audit := self.audit.append event })

/-- `ScopeGateway::complete_request`. -/
def completeRequest : ScopeGateway := { self with budget := self.budget.finish }

/-- `ScopeGateway::release_dns_context`. -/
def releaseDnsContext (contextId : String) : ℕ × ScopeGateway :=
  let (released, dnsPins) := self.dnsPins.releaseContext contextId
  (released, { self with dnsPins })

def remainingRequests : ℕ := self.budget.remaining
def inFlightRequests : ℕ := self.budget.inFlight

/-- `ScopeGateway::verify_audit_chain`. -/
def verifyAuditChain : Except ChainError Unit := self.audit.verify

end ScopeGateway

end BoundSeal.Gateway

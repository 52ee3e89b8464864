import BoundSeal.Rust.Float
import BoundSeal.Rust.Result
import BoundSeal.Rust.Url
import BoundSeal.Shared

/-!
# The target policy (`nxb-policy`)

A target policy says which hosts, schemes and methods may be requested, how fast
and until when. `TargetPolicy.compile` validates and normalises it into a
`CompiledPolicy`; `CompiledPolicy.narrow` derives a child policy from it.

A `CompiledPolicy` has private fields in the source and is built by `compile`
only. The model's structure carries what that guarantees as proof fields, so a
compiled policy that was not compiled cannot be written down.
-/

namespace BoundSeal.Policy

open Rust Std

/-! ## Data -/

def policySchemaVersion : ℕ := 1
def maxRequestsPerSecond : Float := 5.0
def maxConcurrency : ℕ := 8
def maxTotalRequests : ℕ := 100000
def allowedMethodNames : List String := ["GET", "HEAD", "OPTIONS", "POST", "PUT", "PATCH", "DELETE"]

structure ProgramPolicy where
  name : String
  platform : String
  policyUrl : Option String

structure ScopePolicy where
  includeHosts : BTreeSet String
  excludeHosts : BTreeSet String
  allowedSchemes : BTreeSet String
  allowedMethods : BTreeSet String
  allowSubdomains : Bool

structure AutomationPolicy where
  activeTesting : Bool
  credentialBruteforce : Bool
  destructiveTesting : Bool
  oobCallbacks : Bool
  maxRequestsPerSecond : Float
  maxConcurrency : ℕ
  maxTotalRequests : ℕ

structure AuthorizationPolicy where
  confirmed : Bool
  researcher : String
  policySnapshotSha256 : String
  expiresAt : DateTime

/-- The policy as written by its author. -/
structure TargetPolicy where
  schemaVersion : ℕ
  program : ProgramPolicy
  scope : ScopePolicy
  automation : AutomationPolicy
  authorization : AuthorizationPolicy

/-- The changes a child policy asks for; what it leaves out is inherited. -/
structure ChildPolicy where
  includeHosts : Option (BTreeSet String) := none
  excludeHosts : BTreeSet String := ∅
  allowedSchemes : Option (BTreeSet String) := none
  allowedMethods : Option (BTreeSet String) := none
  allowSubdomains : Option Bool := none
  activeTesting : Option Bool := none
  oobCallbacks : Option Bool := none
  maxRequestsPerSecond : Option Float := none
  maxConcurrency : Option ℕ := none
  maxTotalRequests : Option ℕ := none
  expiresAt : Option DateTime := none

inductive PolicyError where
  | parse (message : String)
  | invalid (message : String)
  | broadening (message : String)
  deriving DecidableEq, Repr

/-! ## Normalisation and validation -/

/-- `normalize_dns_host`. -/
def normalizeDnsHost (host fieldName : String) : Except PolicyError String := do
  let normalized := normalizeHost host
  failIf (normalized = "" ∨ normalized.utf8ByteSize > 253 ∨ containsStr "://" normalized ∨
      containsChar '/' normalized ∨ containsChar '\\' normalized ∨ containsChar '*' normalized ∨
      containsChar ':' normalized)
    (.invalid s!"{fieldName} contains an invalid DNS host: {host}")
  failIf (∃ label ∈ splitChar '.' normalized, ¬ isDnsLabel label)
    (.invalid s!"{fieldName} contains an invalid DNS label in host: {host}")
  pure normalized

/-- `normalize_host_set`. -/
def normalizeHostSet (hosts : BTreeSet String) (fieldName : String) :
    Except PolicyError (BTreeSet String) :=
  collectSet (fun host => normalizeDnsHost host fieldName) hosts

/-- A set of names that may not be empty, each normalised. -/
def normalizeNames (empty : String) (normalize : String → Except PolicyError String)
    (names : BTreeSet String) : Except PolicyError (BTreeSet String) := do
  failIf (names.isEmpty = true) (.invalid empty)
  collectSet normalize names

/-- The check of one scheme in `normalize_schemes`. -/
def normalizeScheme (scheme : String) : Except PolicyError String := do
  let normalized := toAsciiLowercase (trim scheme)
  failIf (normalized ≠ "http" ∧ normalized ≠ "https") (.invalid s!"unsupported scheme: {scheme}")
  pure normalized

/-- `normalize_schemes`. -/
def normalizeSchemes : BTreeSet String → Except PolicyError (BTreeSet String) :=
  normalizeNames "allowed_schemes must not be empty" normalizeScheme

/-- The check of one method in `normalize_methods`. -/
def normalizeMethod (method : String) : Except PolicyError String := do
  let normalized := toAsciiUppercase (trim method)
  failIf (normalized ∉ allowedMethodNames) (.invalid s!"unsupported HTTP method: {method}")
  pure normalized

/-- `normalize_methods`. -/
def normalizeMethods : BTreeSet String → Except PolicyError (BTreeSet String) :=
  normalizeNames "allowed_methods must not be empty" normalizeMethod

/-- `require_finite_positive`. -/
def requireFinitePositive (field : String) (value : Float) : Except PolicyError Unit :=
  failIf (¬ value.isFinite ∨ value ≤ 0.0) (.invalid s!"{field} must be finite and greater than zero")

/-- `require_subset`: the first member, in order, that the parent lacks is named. -/
def requireSubset (fieldName : String) (child parent : BTreeSet String) : Except PolicyError Unit :=
  match child.toList.find? fun value => !parent.contains value with
  | some value => .error (.broadening s!"child {fieldName} {value} is not permitted by the parent")
  | none => .ok ()

/-- `validate_top_level`. -/
def validateTopLevel (policy : TargetPolicy) (now : DateTime) : Except PolicyError Unit := do
  failIf (policy.schemaVersion ≠ policySchemaVersion)
    (.invalid s!"unsupported schema_version {policy.schemaVersion}; expected {policySchemaVersion}")
  failIf (trim policy.program.name = "" ∨ trim policy.program.platform = "")
    (.invalid "program name and platform must be non-empty")
  failIf (policy.scope.includeHosts.isEmpty = true)
    (.invalid "at least one include host is required")
  failIf (¬ policy.authorization.confirmed)
    (.invalid "explicit authorization confirmation is required")
  failIf (trim policy.authorization.researcher = "")
    (.invalid "authorization researcher must be non-empty")
  failIf (policy.authorization.expiresAt ≤ now)
    (.invalid "authorization has expired or is not in the future")
  failIf (¬ isLowerHexSha256 policy.authorization.policySnapshotSha256)
    (.invalid "policy_snapshot_sha256 must be exactly 64 lowercase hexadecimal characters")
  failIf (policy.automation.credentialBruteforce = true)
    (.invalid "credential brute force is hard-denied")
  failIf (policy.automation.destructiveTesting = true)
    (.invalid "destructive testing is hard-denied")
  requireFinitePositive "max_requests_per_second" policy.automation.maxRequestsPerSecond
  failIf (policy.automation.maxRequestsPerSecond > maxRequestsPerSecond)
    (.invalid "max_requests_per_second must be at most 5")
  failIf (policy.automation.maxConcurrency = 0 ∨ policy.automation.maxConcurrency > maxConcurrency)
    (.invalid s!"max_concurrency must be between 1 and {maxConcurrency}")
  failIf (policy.automation.maxTotalRequests = 0 ∨
      policy.automation.maxTotalRequests > maxTotalRequests)
    (.invalid s!"max_total_requests must be between 1 and {maxTotalRequests}")

/-! ## The compiled policy -/

/-- A policy with its normalised sets, together with what
`compile` checked to build it. -/
structure CompiledPolicy where
  inner : TargetPolicy
  includeHosts : BTreeSet String
  excludeHosts : BTreeSet String
  allowedSchemes : BTreeSet String
  allowedMethods : BTreeSet String
  validated : ∃ now, validateTopLevel inner now = .ok ()
  includeHosts_eq : normalizeHostSet inner.scope.includeHosts "include_hosts" = .ok includeHosts
  excludeHosts_eq : normalizeHostSet inner.scope.excludeHosts "exclude_hosts" = .ok excludeHosts
  allowedSchemes_eq : normalizeSchemes inner.scope.allowedSchemes = .ok allowedSchemes
  allowedMethods_eq : normalizeMethods inner.scope.allowedMethods = .ok allowedMethods
  disjoint : ¬ ∃ host ∈ includeHosts.toList, host ∈ excludeHosts

/-- `TargetPolicy::compile`. -/
def TargetPolicy.compile (policy : TargetPolicy) (now : DateTime) :
    Except PolicyError CompiledPolicy :=
  match hv : validateTopLevel policy now with
  | .error e => .error e
  | .ok () =>
    match hi : normalizeHostSet policy.scope.includeHosts "include_hosts" with
    | .error e => .error e
    | .ok includeHosts =>
      match he : normalizeHostSet policy.scope.excludeHosts "exclude_hosts" with
      | .error e => .error e
      | .ok excludeHosts =>
        match hs : normalizeSchemes policy.scope.allowedSchemes with
        | .error e => .error e
        | .ok allowedSchemes =>
          match hm : normalizeMethods policy.scope.allowedMethods with
          | .error e => .error e
          | .ok allowedMethods =>
            if hd : ∃ host ∈ includeHosts.toList, host ∈ excludeHosts then
              .error (.invalid "a host cannot be present in both include_hosts and exclude_hosts")
            else
              .ok ⟨policy, includeHosts, excludeHosts, allowedSchemes, allowedMethods,
                ⟨now, hv⟩, hi, he, hs, hm, hd⟩

/-- `matches_host_set`; lengths and positions are of bytes. -/
def matchesHostSet (candidate : String) (hosts : BTreeSet String) (allowSubdomains : Bool) : Bool :=
  hosts.toList.any fun host =>
    candidate == host ||
      (allowSubdomains && decide ((bytes candidate).length > (bytes host).length) &&
        (bytes host).isSuffixOf (bytes candidate) &&
        (bytes candidate)[(bytes candidate).length - (bytes host).length - 1]? == some 0x2e)

namespace CompiledPolicy

variable (self : CompiledPolicy)

def maximumRequestsPerSecond : Float := self.inner.automation.maxRequestsPerSecond
def maximumConcurrency : ℕ := self.inner.automation.maxConcurrency
def maximumTotalRequests : ℕ := self.inner.automation.maxTotalRequests
def activeTestingEnabled : Bool := self.inner.automation.activeTesting
def oobCallbacksEnabled : Bool := self.inner.automation.oobCallbacks
def authorizationExpiresAt : DateTime := self.inner.authorization.expiresAt

/-- `CompiledPolicy::allows_host`. -/
def allowsHost (candidate : String) : Bool :=
  let candidate := normalizeHost candidate
  if matchesHostSet candidate self.excludeHosts true then false
  else matchesHostSet candidate self.includeHosts self.inner.scope.allowSubdomains

/-- `CompiledPolicy::allows_request`. -/
def allowsRequest (url : Url) (method : String) : Bool :=
  if url.username ≠ "" ∨ url.password.isSome then false
  else
    match url.hostStr with
    | none => false
    | some host =>
      self.allowedSchemes.contains url.scheme &&
        self.allowedMethods.contains (toAsciiUppercase method) && self.allowsHost host

theorem maximumTotalRequests_le : self.maximumTotalRequests ≤ maxTotalRequests := by
  obtain ⟨now, hvalid⟩ := self.validated
  simp only [validateTopLevel, do_eq_ok, not_or] at hvalid
  obtain ⟨-, -, -, -, -, -, -, -, -, -, -, -, -, hle⟩ := hvalid
  exact Nat.le_of_not_lt hle

/-! ## Narrowing (`CompiledPolicy::narrow`)

Each part of a child policy either is left out, and the parent's value stands,
or must pass against the parent's. -/

/-- The hosts of the child: each must be allowed by the parent. -/
def narrowIncludeHosts (child : ChildPolicy) : Except PolicyError (BTreeSet String) :=
  match child.includeHosts with
  | none => .ok self.inner.scope.includeHosts
  | some includeHosts => do
    failIf (includeHosts.isEmpty = true)
      (.invalid "child include_hosts must not be empty when supplied")
    let normalized ← normalizeHostSet includeHosts "child include_hosts"
    match normalized.toList.find? fun host => !self.allowsHost host with
    | some host => .error (.broadening s!"host {host} is not permitted by the parent")
    | none => .ok normalized

/-- The exclusions of the child are added to the parent's. -/
def narrowExcludeHosts (child : ChildPolicy) : Except PolicyError (BTreeSet String) :=
  if child.excludeHosts.isEmpty then .ok self.inner.scope.excludeHosts
  else do
    let exclusions ← normalizeHostSet child.excludeHosts "child exclude_hosts"
    pure (self.inner.scope.excludeHosts ∪ exclusions)

/-- A set of names (schemes, methods) must be a subset of the parent's. -/
def narrowNames (fieldName : String)
    (normalize : BTreeSet String → Except PolicyError (BTreeSet String))
    (raw parent : BTreeSet String) : Option (BTreeSet String) → Except PolicyError (BTreeSet String)
  | none => .ok raw
  | some names => do
    let normalized ← normalize names
    requireSubset fieldName normalized parent
    pure normalized

/-- A switch can be kept or turned off. -/
def narrowFlag (message : String) (parent : Bool) : Option Bool → Except PolicyError Bool
  | none => .ok parent
  | some value => do
    failIf (value = true ∧ parent = false) (.broadening message)
    pure value

def narrowBound (zero exceeds : String) (parent : ℕ) : Option ℕ → Except PolicyError ℕ
  | none => .ok parent
  | some value => do
    failIf (value = 0) (.invalid zero)
    failIf (value > parent) (.broadening exceeds)
    pure value

def narrowRate (parent : Float) : Option Float → Except PolicyError Float
  | none => .ok parent
  | some value => do
    requireFinitePositive "max_requests_per_second" value
    failIf (value > parent) (.broadening "child request rate exceeds the parent")
    pure value

def narrowExpiry (now parent : DateTime) : Option DateTime → Except PolicyError DateTime
  | none => .ok parent
  | some expiresAt => do
    failIf (expiresAt ≤ now) (.invalid "child authorization has expired or is not in the future")
    failIf (expiresAt > parent) (.broadening "child authorization outlives the parent")
    pure expiresAt

/-- `CompiledPolicy::narrow`: the checks in the order of the source, then the
changed policy is compiled again. -/
def narrow (child : ChildPolicy) (now : DateTime) : Except PolicyError CompiledPolicy := do
  let includeHosts ← self.narrowIncludeHosts child
  let excludeHosts ← self.narrowExcludeHosts child
  let allowedSchemes ← narrowNames "scheme" normalizeSchemes self.inner.scope.allowedSchemes
    self.allowedSchemes child.allowedSchemes
  let allowedMethods ← narrowNames "HTTP method" normalizeMethods self.inner.scope.allowedMethods
    self.allowedMethods child.allowedMethods
  let allowSubdomains ← narrowFlag "child cannot enable subdomains when the parent disables them"
    self.inner.scope.allowSubdomains child.allowSubdomains
  let activeTesting ← narrowFlag "child cannot enable active testing"
    self.inner.automation.activeTesting child.activeTesting
  let oobCallbacks ← narrowFlag "child cannot enable out-of-band callbacks"
    self.inner.automation.oobCallbacks child.oobCallbacks
  let maxRequestsPerSecond ← narrowRate self.maximumRequestsPerSecond child.maxRequestsPerSecond
  let maxConcurrency ← narrowBound "child max_concurrency must be greater than zero"
    "child concurrency exceeds the parent" self.maximumConcurrency child.maxConcurrency
  let maxTotalRequests ← narrowBound "child max_total_requests must be greater than zero"
    "child request budget exceeds the parent" self.maximumTotalRequests child.maxTotalRequests
  let expiresAt ← narrowExpiry now self.authorizationExpiresAt child.expiresAt
  TargetPolicy.compile
    { self.inner with
      scope := ⟨includeHosts, excludeHosts, allowedSchemes, allowedMethods, allowSubdomains⟩
      automation := { self.inner.automation with
        activeTesting, oobCallbacks, maxRequestsPerSecond, maxConcurrency, maxTotalRequests }
      authorization := { self.inner.authorization with expiresAt } }
    now

def narrowAll (self : CompiledPolicy) (children : List (ChildPolicy × DateTime)) :
    Except PolicyError CompiledPolicy :=
  children.foldlM (fun policy step => policy.narrow step.1 step.2) self

end CompiledPolicy

/-! ## The policy of the crate's tests -/

def validPolicy : TargetPolicy where
  schemaVersion := 1
  program := ⟨"Example Program", "hackerone", some "https://hackerone.com/example"⟩
  scope :=
    { includeHosts := ExtTreeSet.ofList ["app.example.com"] compare
      excludeHosts := ExtTreeSet.ofList ["status.app.example.com"] compare
      allowedSchemes := ExtTreeSet.ofList ["https"] compare
      allowedMethods := ExtTreeSet.ofList ["GET", "HEAD"] compare
      allowSubdomains := true }
  automation :=
    { activeTesting := false
      credentialBruteforce := false
      destructiveTesting := false
      oobCallbacks := false
      maxRequestsPerSecond := 1.0
      maxConcurrency := 2
      maxTotalRequests := 1000 }
  authorization :=
    { confirmed := true
      researcher := "test-researcher"
      policySnapshotSha256 := "aaaaaaaaaaaaaaaaaaaaaaaaaaaaaaaaaaaaaaaaaaaaaaaaaaaaaaaaaaaaaaaa"
      expiresAt := 7 }

def validCompiled : CompiledPolicy where
  inner := validPolicy
  includeHosts := validPolicy.scope.includeHosts
  excludeHosts := validPolicy.scope.excludeHosts
  allowedSchemes := validPolicy.scope.allowedSchemes
  allowedMethods := validPolicy.scope.allowedMethods
  validated := ⟨0, by decide +kernel⟩
  includeHosts_eq := by decide +kernel
  excludeHosts_eq := by decide +kernel
  allowedSchemes_eq := by decide +kernel
  allowedMethods_eq := by decide +kernel
  disjoint := by decide +kernel

end BoundSeal.Policy

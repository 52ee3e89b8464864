import BoundSeal.Gateway.Runs

/-!
# When the rate limiter answers

`try_start` turns the time to wait for a token into a `Duration`, and that panics
when the wait does not fit. The budget is read with exact numbers here: the rate and
the tokens are rationals. `Mirrors` relates it to the budget of the code.
-/

namespace BoundSeal.Gateway

open Rust Policy Lib

def exactValue (x : Float) : ℚ :=
  match x.toModel.unpack with
  | .finite .positive m e _ => m * 2 ^ e
  | .finite .negative m e _ => -(m * 2 ^ e)
  | _ => 0

/-- `Duration::from_secs_f64` at an exact number of seconds: the nearest nanosecond. -/
def durationOfSecs (secs : ℚ) : Option Duration :=
  if secs < 0 then none else Duration.ofNanos (round (secs * nanosPerSec)).toNat

/-- `RequestBudget`, with exact numbers. -/
structure ExactBudget where
  remaining : ℕ
  maxConcurrency : ℕ
  inFlight : ℕ
  tokens : ℚ
  tokenCapacity : ℚ
  refillPerSecond : ℚ
  lastRefill : Duration

inductive BudgetCall where
  | authorize (elapsed : Duration)
  | completeRequest

namespace ExactBudget

/-- `RequestBudget::new`, for the numbers of a policy that compiles. -/
def new (policy : CompiledPolicy) : ExactBudget where
  remaining := policy.maximumTotalRequests
  maxConcurrency := policy.maximumConcurrency
  inFlight := 0
  tokens := max (exactValue policy.maximumRequestsPerSecond) 1
  tokenCapacity := max (exactValue policy.maximumRequestsPerSecond) 1
  refillPerSecond := exactValue policy.maximumRequestsPerSecond
  lastRefill := .zero

variable (self : ExactBudget)

/-- `RequestBudget::refill`. -/
def refill (elapsed : Duration) : ExactBudget :=
  if elapsed.nanos ≤ self.lastRefill.nanos then self
  else
    let delta := elapsed.sub self.lastRefill
    { self with
      tokens := min (self.tokens + delta.nanos / nanosPerSec * self.refillPerSecond) self.tokenCapacity
      lastRefill := elapsed }

/-- `RequestBudget::try_start`; `none` is the panic. -/
def tryStart (elapsed : Duration) : Option (Except BudgetError Unit × ExactBudget) :=
  let self := self.refill elapsed
  if self.remaining = 0 then some (.error .exhausted, self)
  else if self.inFlight ≥ self.maxConcurrency then some (.error .concurrencyExceeded, self)
  else if self.tokens < 1 then
    (durationOfSecs ((1 - self.tokens) / self.refillPerSecond)).map fun retryAfter =>
      (.error (.rateLimited retryAfter), self)
  else
    some (.ok (), { self with
      tokens := self.tokens - 1
      remaining := self.remaining - 1
      inFlight := self.inFlight + 1 })

def step : BudgetCall → Option ExactBudget
  | .authorize elapsed => (self.tryStart elapsed).map (·.2)
  | .completeRequest => some { self with inFlight := self.inFlight - 1 }

end ExactBudget

/-! ## The budget of the code beside it -/

/-- The exact budget beside that of the code: the same counters, and tokens that may differ by what
the code has rounded. -/
structure Mirrors (budget : RequestBudget) (ideal : ExactBudget) : Prop where
  remaining : ideal.remaining = budget.remaining
  maxConcurrency : ideal.maxConcurrency = budget.maxConcurrency
  inFlight : ideal.inFlight = budget.inFlight
  rate : ideal.refillPerSecond = exactValue budget.refillPerSecond
  lastRefill : ideal.lastRefill = budget.lastRefill

namespace Mirrors

variable {budget : RequestBudget} {ideal : ExactBudget}

theorem new (policy : CompiledPolicy) (h : RequestBudget.new policy.maximumTotalRequests policy.maximumConcurrency
    policy.maximumRequestsPerSecond = .ok budget) : Mirrors budget (.new policy) := by
  simp only [RequestBudget.new, do_eq_ok] at h
  obtain ⟨-, -, -, rfl⟩ := h
  exact ⟨rfl, rfl, rfl, rfl, rfl⟩

variable (h : Mirrors budget ideal)

include h

theorem finish : ∃ ideal', ideal.step .completeRequest = some ideal' ∧ Mirrors budget.finish ideal' :=
  ⟨_, rfl, h.remaining, h.maxConcurrency, congrArg (· - 1) h.inFlight, h.rate, h.lastRefill⟩

theorem refill (elapsed : Duration) : Mirrors (budget.refill elapsed) (ideal.refill elapsed) := by
  rw [RequestBudget.refill, ExactBudget.refill, h.lastRefill]
  split_ifs
  · exact h
  · exact ⟨h.remaining, h.maxConcurrency, h.inFlight, h.rate, rfl⟩

/-- **The code follows the exact budget** as long as their tokens give the same answer: both start
the request, or neither does. -/
theorem tryStart {elapsed : Duration} {result result' : Except BudgetError Unit} {next : RequestBudget}
    {next' : ExactBudget} (hcode : budget.tryStart elapsed = some (result, next))
    (hideal : ideal.tryStart elapsed = some (result', next')) (hsame : result.isOk = result'.isOk) :
    Mirrors next next' := by
  have hrefilled := h.refill elapsed
  rw [RequestBudget.tryStart] at hcode
  rw [ExactBudget.tryStart] at hideal
  generalize budget.refill elapsed = refilled at hcode hrefilled
  generalize ideal.refill elapsed = refilled' at hideal hrefilled
  dsimp only at hcode hideal
  rw [hrefilled.remaining, hrefilled.inFlight, hrefilled.maxConcurrency] at hideal
  by_cases hnone : refilled.remaining = 0
  · rw [if_pos hnone] at hcode hideal
    cases hcode
    cases hideal
    exact hrefilled
  rw [if_neg hnone] at hcode hideal
  by_cases hslots : refilled.inFlight ≥ refilled.maxConcurrency
  · rw [if_pos hslots] at hcode hideal
    cases hcode
    cases hideal
    exact hrefilled
  rw [if_neg hslots] at hcode hideal
  split_ifs at hcode with htokens
  · split at hcode
    next retryAfter _ =>
      cases hcode
      split_ifs at hideal with htokens'
      · obtain ⟨retryAfter', -, heq⟩ := Option.map_eq_some_iff.mp hideal
        cases heq
        exact hrefilled
      · cases hideal
        cases hsame
    · cases hcode
  · cases hcode
    split_ifs at hideal with htokens'
    · obtain ⟨retryAfter', -, heq⟩ := Option.map_eq_some_iff.mp hideal
      cases heq
      cases hsame
    · cases hideal
      exact ⟨rfl, rfl, rfl, hrefilled.rate, hrefilled.lastRefill⟩

end Mirrors

/-! ## Waits that fit -/

/-- The seconds from which on the conversion panics: half a nanosecond below `2 ^ 64`. -/
def secsLimit : ℚ := 2 ^ 64 - 1 / (2 * nanosPerSec)

theorem durationOfSecs_isSome {secs : ℚ} (h : 0 ≤ secs) : (durationOfSecs secs).isSome ↔ secs < secsLimit := by
  have hfits : (durationOfSecs secs).isSome ↔ (round (secs * nanosPerSec)).toNat < 2 ^ 64 * nanosPerSec := by
    rw [durationOfSecs, if_neg (not_lt.mpr h), Duration.ofNanos, ← Nat.div_lt_iff_lt_mul (by decide)]
    split_ifs with hlt
    · exact iff_of_true rfl hlt
    · exact iff_of_false Bool.false_ne_true hlt
  rw [hfits, Int.toNat_lt' (by decide), round_eq, Int.floor_lt, secsLimit]
  push_cast [nanosPerSec]
  constructor <;> intro hlt <;> linarith

/-! ## Sequences of calls -/

section

variable {policy : CompiledPolicy}

theorem automation_pos (policy : CompiledPolicy) : 0 < exactValue policy.maximumRequestsPerSecond ∧
    policy.maximumTotalRequests ≠ 0 ∧ policy.maximumConcurrency ≠ 0 := by
  obtain ⟨now, hvalid⟩ := policy.validated
  simp only [validateTopLevel, requireFinitePositive, do_eq_ok, not_or, not_not] at hvalid
  obtain ⟨-, -, -, -, -, -, -, -, -, ⟨hfinite, hpositive⟩, -, ⟨hconcurrency, -⟩, ⟨htotal, -⟩⟩ := hvalid
  refine ⟨?_, htotal, hconcurrency⟩
  have hfinite' : policy.inner.automation.maxRequestsPerSecond.toModel.unpack.isFinite = true := hfinite
  have hzero : orderKey (Float.toModel 0.0).unpack = toLex (0, toLex (0, 0)) := by decide +kernel
  rw [float_le_iff, le_iff_orderKey, hzero] at hpositive
  unfold exactValue CompiledPolicy.maximumRequestsPerSecond
  generalize policy.inner.automation.maxRequestsPerSecond.toModel.unpack = rate at hfinite' hpositive
  rcases rate with _ | _ | _ | ⟨_ | _, m, e, hm⟩
  · cases hfinite'
  · cases hfinite'
  · exact absurd ⟨rfl, rfl, le_rfl⟩ hpositive
  · exact absurd ⟨rfl, rfl, Prod.Lex.toLex_le_toLex.mpr (.inl neg_one_lt_zero)⟩ hpositive
  · positivity

namespace ExactBudget

/-- What every sequence of calls keeps. -/
structure Inv (policy : CompiledPolicy) (budget : ExactBudget) : Prop where
  rate : budget.refillPerSecond = exactValue policy.maximumRequestsPerSecond
  capacity : 1 ≤ budget.tokenCapacity
  tokens : 0 ≤ budget.tokens
  /-- Where one request is all, no other waits for a token. -/
  single : policy.maximumTotalRequests = 1 → budget.remaining = 0 ∨ budget.remaining = 1 ∧ 1 ≤ budget.tokens

variable {budget : ExactBudget}

theorem Inv.refill (h : Inv policy budget) (elapsed : Duration) : Inv policy (budget.refill elapsed) := by
  rw [ExactBudget.refill]
  split_ifs
  · exact h
  · have hadded : 0 ≤ ((elapsed.sub budget.lastRefill).nanos / nanosPerSec * budget.refillPerSecond : ℚ) := by
      rw [h.rate]
      exact mul_nonneg (by positivity) (automation_pos policy).1.le
    have htokens := h.tokens
    have hcapacity := h.capacity
    refine ⟨h.rate, hcapacity, le_min (by linarith) (by linarith), fun hsingle => ?_⟩
    refine (h.single hsingle).imp_right fun hfull => ⟨hfull.1, le_min (by linarith [hfull.2]) hcapacity⟩

/-- **A call returns** and keeps the invariant if no wait is too long. -/
theorem Inv.step (h : Inv policy budget)
    (hfits : policy.maximumTotalRequests = 1 ∨ 1 / exactValue policy.maximumRequestsPerSecond < secsLimit)
    (call : BudgetCall) : ∃ next, budget.step call = some next ∧ Inv policy next := by
  cases call with
  | completeRequest => exact ⟨_, rfl, h.rate, h.capacity, h.tokens, h.single⟩
  | authorize elapsed =>
    have hrefilled := h.refill elapsed
    rw [ExactBudget.step, tryStart]
    generalize budget.refill elapsed = refilled at hrefilled
    split_ifs with hnone hslots htokens
    · exact ⟨_, rfl, hrefilled⟩
    · exact ⟨_, rfl, hrefilled⟩
    · -- the wait is at most that of an empty bucket
      have hrate := (automation_pos policy).1
      have hwait : (durationOfSecs ((1 - refilled.tokens) / refilled.refillPerSecond)).isSome := by
        rw [hrefilled.rate, durationOfSecs_isSome (div_nonneg (by linarith) hrate.le)]
        rcases hfits with hsingle | hfits
        · rcases hrefilled.single hsingle with hzero | hfull
          · exact absurd hzero hnone
          · exact absurd hfull.2 (not_le.mpr htokens)
        · exact (div_le_div_of_nonneg_right (by linarith [hrefilled.tokens]) hrate.le).trans_lt hfits
      obtain ⟨retryAfter, hsome⟩ := Option.isSome_iff_exists.mp hwait
      rw [hsome]
      exact ⟨_, rfl, hrefilled⟩
    · refine ⟨_, rfl, hrefilled.rate, hrefilled.capacity, by simpa using htokens, fun hsingle => .inl ?_⟩
      show refilled.remaining - 1 = 0
      rcases hrefilled.single hsingle with hzero | hfull <;> omega

end ExactBudget

end

/-- **Authorization is total** on a policy exactly when it allows one request, or when
the wait for a whole token fits a `Duration`. -/
theorem tryStart_total_iff (policy : CompiledPolicy) :
    (∀ calls : List BudgetCall, (calls.foldlM ExactBudget.step (.new policy)).isSome) ↔
      policy.maximumTotalRequests = 1 ∨ 1 / exactValue policy.maximumRequestsPerSecond < secsLimit := by
  constructor
  · intro htotal
    by_contra hslow
    rw [not_or, not_lt] at hslow
    obtain ⟨hrate, htotals, hslots⟩ := automation_pos policy
    have hwait : durationOfSecs (1 / exactValue policy.maximumRequestsPerSecond) = none :=
      Option.not_isSome_iff_eq_none.mp ((durationOfSecs_isSome (by positivity)).not.mpr (not_lt.mpr hslow.2))
    have hcapacity : max (exactValue policy.maximumRequestsPerSecond) 1 = 1 := by
      have hlong : (1 : ℚ) ≤ 1 / exactValue policy.maximumRequestsPerSecond :=
        le_trans (by norm_num [secsLimit, nanosPerSec]) hslow.2
      exact max_eq_right ((one_le_div hrate).mp hlong)
    -- the second request finds the bucket empty
    have hpanic := htotal [.authorize .zero, .completeRequest, .authorize .zero]
    have hmore : policy.maximumTotalRequests - 1 ≠ 0 := by omega
    simp [ExactBudget.step, ExactBudget.tryStart, ExactBudget.refill, ExactBudget.new, hcapacity,
      htotals, hslots, hmore] at hpanic
    rw [one_div] at hwait
    simp [hwait] at hpanic
  · intro hfits calls
    have hstart : ExactBudget.Inv policy (.new policy) := by
      exact ⟨rfl, le_max_right _ _, zero_le_one.trans (le_max_right _ _), fun hsingle =>
        .inr ⟨hsingle, le_max_right _ _⟩⟩
    generalize ExactBudget.new policy = budget at hstart
    induction calls generalizing budget with
    | nil => rfl
    | cons call calls ih =>
      obtain ⟨next, hnext, hinv⟩ := hstart.step hfits call
      rw [List.foldlM_cons, hnext]
      exact ih next hinv

/-! ## A slow gateway -/

/-- The test policy at a rate of `1e-30`. -/
def slowPolicy : TargetPolicy :=
  { validPolicy with automation := { validPolicy.automation with maxRequestsPerSecond := 1e-30 } }

theorem isOk_slowPolicy : (slowPolicy.compile 0).isOk = true := by decide +kernel

theorem isOk_slowGateway : (ScopeGateway.new (unwrap _ isOk_slowPolicy) 5).isOk = true := by decide +kernel

/-- The policy compiles, the first request is answered and completed, and the next
`authorize` panics. -/
theorem slow_rate_panics :
    ∃ policy gateway, slowPolicy.compile 0 = .ok policy ∧ ScopeGateway.new policy 5 = .ok gateway ∧
      let first := GatewayCall.authorize (testIntent (.v4 (.new 8 8 8 8))) .zero
      (runCalls ScopeGateway.step gateway [first, .completeRequest]).isSome ∧
        runCalls ScopeGateway.step gateway [first, .completeRequest, first] = none := by
  refine ⟨_, _, eq_ok_unwrap _ isOk_slowPolicy, eq_ok_unwrap _ isOk_slowGateway, by decide +kernel, ?_⟩
  exact Option.isNone_iff_eq_none.mp (by decide +kernel)

end BoundSeal.Gateway

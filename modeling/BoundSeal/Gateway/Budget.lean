import BoundSeal.Policy.Model

/-!
# The request budget (`nxb-budget`)

A budget counts the requests that may still start, the requests in flight and
the tokens of a rate limiter that refills with time.

`RequestBudget.tryStart` can fail to return: the time to wait for a token is
turned into a `Duration`, and that conversion panics when the configured rate is
so small that the wait does not fit. The model returns `none` there.
-/

namespace BoundSeal.Gateway

open Rust

/-- `RequestBudget`. -/
structure RequestBudget where
  remaining : ℕ
  maxConcurrency : ℕ
  inFlight : ℕ
  tokens : Float
  tokenCapacity : Float
  refillPerSecond : Float
  lastRefill : Duration

inductive BudgetError where
  | exhausted
  | concurrencyExceeded
  | rateLimited (retryAfter : Duration)
  | invalidConfiguration (message : String)

namespace RequestBudget

/-- `RequestBudget::new`. -/
def new (maximumTotalRequests maximumConcurrency : ℕ) (requestsPerSecond : Float) :
    Except BudgetError RequestBudget := do
  failIf (maximumTotalRequests = 0)
    (.invalidConfiguration "maximum_total_requests must be greater than zero")
  failIf (maximumConcurrency = 0)
    (.invalidConfiguration "maximum_concurrency must be greater than zero")
  failIf (¬ requestsPerSecond.isFinite ∨ requestsPerSecond ≤ 0.0)
    (.invalidConfiguration "requests_per_second must be finite and greater than zero")
  let tokenCapacity := f64Max requestsPerSecond 1.0
  pure
    { remaining := maximumTotalRequests
      maxConcurrency := maximumConcurrency
      inFlight := 0
      tokens := tokenCapacity
      tokenCapacity := tokenCapacity
      refillPerSecond := requestsPerSecond
      lastRefill := .zero }

variable (self : RequestBudget)

/-- `RequestBudget::refill`. -/
def refill (elapsed : Duration) : RequestBudget :=
  if elapsed.nanos ≤ self.lastRefill.nanos then self
  else
    let delta := elapsed.sub self.lastRefill
    { self with
      tokens := f64Min (self.tokens + delta.asSecsF64 * self.refillPerSecond) self.tokenCapacity
      lastRefill := elapsed }

/-- `RequestBudget::try_start`: the result and the budget after
it, or `none` for a panic. -/
def tryStart (elapsed : Duration) : Option (Except BudgetError Unit × RequestBudget) :=
  let self := self.refill elapsed
  if self.remaining = 0 then some (.error .exhausted, self)
  else if self.inFlight ≥ self.maxConcurrency then some (.error .concurrencyExceeded, self)
  else if self.tokens < 1.0 then
    let missing := 1.0 - self.tokens
    let retrySeconds := missing / self.refillPerSecond
    match Duration.fromSecsF64 retrySeconds with
    | some retryAfter => some (.error (.rateLimited retryAfter), self)
    | none => none
  else
    some (.ok (), { self with
      tokens := self.tokens - 1.0
      remaining := self.remaining - 1
      inFlight := self.inFlight + 1 })

/-- `RequestBudget::finish`: a saturating decrement. -/
def finish : RequestBudget := { self with inFlight := self.inFlight - 1 }

/-! ## What an operation does to the counters -/

variable {self}

section

variable (elapsed : Duration)

@[simp] theorem refill_remaining : (self.refill elapsed).remaining = self.remaining := by
  unfold refill
  split <;> rfl

@[simp] theorem refill_inFlight : (self.refill elapsed).inFlight = self.inFlight := by
  unfold refill
  split <;> rfl

@[simp] theorem refill_maxConcurrency :
    (self.refill elapsed).maxConcurrency = self.maxConcurrency := by
  unfold refill
  split <;> rfl

end

theorem tryStart_cases {elapsed : Duration} {result : Except BudgetError Unit}
    {next : RequestBudget} (h : self.tryStart elapsed = some (result, next)) :
    next.maxConcurrency = self.maxConcurrency ∧
    ((result = .ok () ∧ 0 < self.remaining ∧ self.inFlight < self.maxConcurrency ∧
        next.remaining + 1 = self.remaining ∧ next.inFlight = self.inFlight + 1) ∨
      ((∃ e, result = .error e ∧ ∀ m, e ≠ .invalidConfiguration m) ∧
        next.remaining = self.remaining ∧ next.inFlight = self.inFlight)) := by
  unfold tryStart at h
  dsimp only at h
  split at h
  · cases h
    exact ⟨by simp, .inr ⟨⟨_, rfl, by simp⟩, by simp, by simp⟩⟩
  · next hremaining =>
    split at h
    · cases h
      exact ⟨by simp, .inr ⟨⟨_, rfl, by simp⟩, by simp, by simp⟩⟩
    · next hslots =>
      split at h
      · split at h
        · cases h
          exact ⟨by simp, .inr ⟨⟨_, rfl, by simp⟩, by simp, by simp⟩⟩
        · cases h
      · cases h
        simp only [refill_remaining, refill_inFlight, refill_maxConcurrency] at hremaining hslots
        refine ⟨refill_maxConcurrency elapsed, .inl ⟨rfl, by omega, by omega, ?_, ?_⟩⟩
        · show (self.refill elapsed).remaining - 1 + 1 = self.remaining
          rw [refill_remaining]
          omega
        · show (self.refill elapsed).inFlight + 1 = self.inFlight + 1
          rw [refill_inFlight]

theorem new_eq_ok {total concurrency : ℕ} {rate : Float} {budget : RequestBudget}
    (h : new total concurrency rate = .ok budget) :
    budget.remaining = total ∧ budget.inFlight = 0 ∧ budget.maxConcurrency = concurrency := by
  simp only [new, do_eq_ok] at h
  obtain ⟨-, -, -, rfl⟩ := h
  exact ⟨rfl, rfl, rfl⟩

end RequestBudget

end BoundSeal.Gateway

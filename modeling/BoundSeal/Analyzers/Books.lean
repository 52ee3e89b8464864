import BoundSeal.Analyzers.Coverage

/-!
# What a call on the coverage tracker can do, and the books over a run

Over every run the totals beside the outcome map agree with it. A total that does not
fit a `u64` stays at the largest one.
-/

namespace BoundSeal.Analyzers

open Rust Lib
open Method (after wp wp_bind wp_check wp_check_bind wp_get wp_modify wp_mono wp_ofExcept)

variable {call : CoverageCall}

namespace CoverageTracker

/-! ## One call -/

/-- The pair may be recorded as executed: everything `record_execution` checks before it writes. -/
structure Recordable (t : CoverageTracker) (endpoint rule : String) (metrics : ExecutionMetrics) : Prop where
  running : t.stopReason = none
  valid : metrics.validate = .ok ()
  pair : t.validatePair endpoint rule = .ok ⟨endpoint, rule⟩
  new : preflightNewPair ⟨endpoint, rule⟩ t = .ok ()
  affordable : t.budget.firstExceeded (t.resourceUse.checkedAdd metrics.resourceDelta) = none

/-- Everything a call can do, refusals included. -/
inductive Stepped (t : CoverageTracker) :
    CoverageCall → Except CoverageError CoverageReply → CoverageTracker → Prop
  | refused {call : CoverageCall} {e : CoverageError}
    (he : ∀ reason, e ≠ .resourceBoundary reason) : Stepped t call (.error e) t
  | known {call : CoverageCall} : Stepped t call (.ok (.added false)) t
  | endpointAdded {endpoint : String} (hnew : endpoint ∉ t.admittedEndpoints) (hcheck : t.preflightEndpoint = .ok ()) :
    Stepped t (.admitEndpoint endpoint) (.ok (.added true))
      { t with admittedEndpoints := t.admittedEndpoints.insert endpoint }
  | ruleAdded {rule : String} (hnew : rule ∉ t.enabledRules) (hcheck : t.preflightRule = .ok ()) :
    Stepped t (.enableRule rule) (.ok (.added true)) { t with enabledRules := t.enabledRules.insert rule }
  | telemetry (telemetry : QueueTelemetry) :
    Stepped t (.setQueueTelemetry telemetry) (.ok .done) { t with queueTelemetry := telemetry }.evaluateSaturation
  | boundary {endpoint rule : String} {metrics : ExecutionMetrics} (reason : RunStopReason) :
    Stepped t (.recordExecution endpoint rule metrics) (.error (.resourceBoundary reason))
      { t with stopReason := some reason }
  | windowRefused {endpoint rule : String} {metrics : ExecutionMetrics} (hrec : t.Recordable endpoint rule metrics)
      (hfull : (t.commitExecution ⟨endpoint, rule⟩ metrics).windowFull = true)
      (hexhausted : t.windowBudgetExhausted = true) :
    Stepped t (.recordExecution endpoint rule metrics)
      (.error (.invalidConfig "saturation window budget was exhausted")) (t.commitExecution ⟨endpoint, rule⟩ metrics)
  | windowClosed {endpoint rule : String} {metrics : ExecutionMetrics}
      (hrec : t.Recordable endpoint rule metrics) (hopen : t.windowBudgetExhausted = false) :
    Stepped t (.recordExecution endpoint rule metrics) (.ok .done)
      (t.commitExecution ⟨endpoint, rule⟩ metrics).pushWindow.evaluateSaturation
  | executed {endpoint rule : String} {metrics : ExecutionMetrics} (hrec : t.Recordable endpoint rule metrics)
      (hfull : (t.commitExecution ⟨endpoint, rule⟩ metrics).windowFull = false) :
    Stepped t (.recordExecution endpoint rule metrics) (.ok .done)
      (t.commitExecution ⟨endpoint, rule⟩ metrics).evaluateSaturation
  | skipped {endpoint rule : String} {reason : PairSkipReason}
      (hpair : t.validatePair endpoint rule = .ok ⟨endpoint, rule⟩)
      (hnew : preflightNewPair ⟨endpoint, rule⟩ t = .ok ()) :
    Stepped t (.recordSkip endpoint rule reason) (.ok .done) (t.commitSkip ⟨endpoint, rule⟩ reason)
  | stopped {call : CoverageCall} (reason : RunStopReason) :
    Stepped t call (.ok .done) { t with stopReason := some reason }

/-- The errors of a check are no resource boundary. -/
def Plain {α : Type} (x : Except CoverageError α) : Prop :=
  ∀ e, x = .error e → ∀ reason, e ≠ .resourceBoundary reason

theorem plain_failIf {c : Prop} [Decidable c] {e : CoverageError}
    (he : ∀ reason, e ≠ .resourceBoundary reason) : Plain (failIf c e) := by
  intro e' h
  obtain ⟨-, rfl⟩ := failIf_eq_error.mp h
  exact he

theorem Plain.bind {α β : Type} {x : Except CoverageError α} {f : α → Except CoverageError β}
    (hx : Plain x) (hf : ∀ a, Plain (f a)) : Plain (x >>= f) := by
  intro e h
  rcases bind_eq_error.mp h with h | ⟨a, -, h⟩
  · exact hx e h
  · exact hf a e h

theorem plain_pure {α : Type} (a : α) : Plain (pure a) := by
  intro e h
  cases h

theorem plain_validatePair (t : CoverageTracker) (endpoint rule : String) : Plain (t.validatePair endpoint rule) := by
  have hkey : Plain (PairKey.new endpoint rule) :=
    (plain_failIf (by simp)).bind fun _ => (plain_failIf (by simp)).bind fun _ => plain_pure _
  exact hkey.bind fun _ => (plain_failIf (by simp)).bind fun _ => (plain_failIf (by simp)).bind fun _ => plain_pure _

theorem plain_preflightNewPair (t : CoverageTracker) (key : PairKey) : Plain (preflightNewPair key t) :=
  (plain_failIf (by simp)).bind fun _ => plain_failIf (by simp)

variable {t : CoverageTracker}

variable {endpoint rule : String} {key : PairKey}

theorem eq_of_validatePair (h : t.validatePair endpoint rule = .ok key) :
    key = ⟨endpoint, rule⟩ ∧ endpoint ∈ t.admittedEndpoints ∧ rule ∈ t.enabledRules := by
  simp only [validatePair, PairKey.new, do_eq_ok, not_not] at h
  obtain ⟨key', ⟨-, -, rfl⟩, hendpoint, hrule, rfl⟩ := h
  exact ⟨rfl, hendpoint, hrule⟩

theorem wp_checked {α β : Type} {f : CoverageTracker → Except CoverageError α}
    {g : α → CoverageMethod β} {post : Except CoverageError β → CoverageTracker → Prop}
    (hplain : Plain (f t)) (hrefused : ∀ e, (∀ reason, e ≠ .resourceBoundary reason) → post (.error e) t)
    (hok : ∀ a, f t = .ok a → wp (g a) post t) : wp (Method.check f >>= g) post t :=
  wp_check_bind (fun e he => hrefused e (hplain e he)) hok

theorem plain_ensureRunning (t : CoverageTracker) : Plain t.ensureRunning := plain_failIf (by simp)

/-- What a call must establish, for a method before its reply is built. -/
def Replies {α : Type} (t : CoverageTracker) (call : CoverageCall) (reply : α → CoverageReply)
    (r : Except CoverageError α) (t' : CoverageTracker) : Prop :=
  Stepped t call (r.map reply) t'

variable {α : Type} {reply : α → CoverageReply}

theorem wp_method {p : CoverageMethod α} (h : wp p (Replies t call reply) t) :
    wp (p >>= fun a => pure (reply a)) (Stepped t call) t := by
  rw [wp_bind]
  refine wp_mono h ?_
  rintro (e | a) t' hstep
  · exact hstep
  · exact hstep

theorem replies_refused (e : CoverageError)
    (he : ∀ reason, e ≠ .resourceBoundary reason) : Replies t call reply (.error e) t :=
  .refused he

section

variable (t : CoverageTracker)

theorem wp_admitEndpoint (endpoint : String) :
    wp (admitEndpoint endpoint) (Replies t (.admitEndpoint endpoint) .added) t := by
  refine wp_checked (plain_ensureRunning t) replies_refused fun _ _ => ?_
  refine wp_checked (plain_failIf (by simp)) replies_refused fun _ _ => ?_
  rw [wp_bind, wp_get, after]
  cases hknown : t.admittedEndpoints.contains endpoint with
  | true => exact Stepped.known
  | false =>
    refine wp_checked ((plain_failIf (by simp)).bind fun _ => plain_failIf (by simp)) replies_refused fun _ hcheck => ?_
    refine Stepped.endpointAdded ?_ hcheck
    rw [Std.ExtTreeSet.mem_iff_contains, hknown]
    exact Bool.false_ne_true

theorem wp_enableRule (rule : String) :
    wp (enableRule rule) (Replies t (.enableRule rule) .added) t := by
  refine wp_checked (plain_ensureRunning t) replies_refused fun _ _ => ?_
  refine wp_checked (plain_failIf (by simp)) replies_refused fun _ _ => ?_
  rw [wp_bind, wp_get, after]
  cases hknown : t.enabledRules.contains rule with
  | true => exact Stepped.known
  | false =>
    refine wp_checked ((plain_failIf (by simp)).bind fun _ => plain_failIf (by simp)) replies_refused fun _ hcheck => ?_
    refine Stepped.ruleAdded ?_ hcheck
    rw [Std.ExtTreeSet.mem_iff_contains, hknown]
    exact Bool.false_ne_true

theorem wp_closeFullWindow : wp closeFullWindow (fun r t' =>
      (t.windowFull = false ∧ r = .ok () ∧ t' = t) ∨
      (t.windowFull = true ∧ t.windowBudgetExhausted = false ∧ r = .ok () ∧ t' = t.pushWindow) ∨
      (t.windowFull = true ∧ t.windowBudgetExhausted = true ∧
        r = .error (.invalidConfig "saturation window budget was exhausted") ∧ t' = t)) t := by
  rw [closeFullWindow, wp_bind, wp_get, after]
  cases hfull : t.windowFull with
  | false => exact .inl ⟨rfl, rfl, rfl⟩
  | true =>
    refine wp_check_bind (fun e he => ?_) (fun _ hok => ?_)
    · obtain ⟨hexhausted, rfl⟩ := failIf_eq_error.mp he
      exact .inr (.inr ⟨rfl, hexhausted, rfl, rfl⟩)
    · rw [failIf_eq_ok, Bool.not_eq_true] at hok
      exact .inr (.inl ⟨rfl, hok, rfl, rfl⟩)

theorem wp_chargeResources (delta : ResourceUse) : wp (chargeResources delta) (fun r t' =>
      (∃ reason, r = .error (.resourceBoundary reason) ∧ t' = { t with stopReason := some reason }) ∨
      (t.budget.firstExceeded (t.resourceUse.checkedAdd delta) = none ∧ r = .ok () ∧ t' = t)) t := by
  rw [wp, chargeResources]
  cases t.budget.firstExceeded (t.resourceUse.checkedAdd delta) with
  | some reason => exact .inl ⟨reason, rfl, rfl⟩
  | none => exact .inr ⟨rfl, rfl, rfl⟩

theorem wp_recordExecution (endpoint rule : String) (metrics : ExecutionMetrics) :
    wp (recordExecution endpoint rule metrics)
      (Replies t (.recordExecution endpoint rule metrics) fun _ => .done) t := by
  refine wp_checked (plain_ensureRunning t) replies_refused fun _ hrunning => ?_
  refine wp_checked (plain_failIf (by simp)) replies_refused fun _ hvalid => ?_
  refine wp_checked (plain_validatePair t endpoint rule) replies_refused fun key hpair => ?_
  obtain ⟨rfl, -, -⟩ := eq_of_validatePair hpair
  refine wp_checked (plain_preflightNewPair t _) replies_refused fun _ hnew => ?_
  rw [wp_bind]
  refine wp_mono (wp_chargeResources t _) ?_
  rintro r t' (⟨reason, rfl, rfl⟩ | ⟨hbudget, rfl, rfl⟩)
  · exact Stepped.boundary reason
  have hrec : t'.Recordable endpoint rule metrics := by
    refine ⟨?_, hvalid, hpair, hnew, hbudget⟩
    rwa [ensureRunning, failIf_eq_ok, not_not] at hrunning
  rw [after, wp_bind, wp_modify, after, wp_bind]
  refine wp_mono (wp_closeFullWindow _) ?_
  -- the budget of windows is not touched by the commit
  rintro r t'' (⟨hfull, rfl, rfl⟩ | ⟨-, hopen, rfl, rfl⟩ | ⟨hfull, hexhausted, rfl, rfl⟩)
  · exact Stepped.executed hrec hfull
  · exact Stepped.windowClosed hrec hopen
  · exact Stepped.windowRefused hrec hfull hexhausted

theorem wp_recordSkip (endpoint rule : String) (reason : PairSkipReason) :
    wp (recordSkip endpoint rule reason) (Replies t (.recordSkip endpoint rule reason) fun _ => .done) t := by
  refine wp_checked (plain_ensureRunning t) replies_refused fun _ _ => ?_
  refine wp_checked (plain_validatePair t endpoint rule) replies_refused fun key hpair => ?_
  obtain ⟨rfl, -, -⟩ := eq_of_validatePair hpair
  refine wp_checked (plain_preflightNewPair t _) replies_refused fun _ hnew => ?_
  exact Stepped.skipped hpair hnew

theorem stepped (call : CoverageCall) : wp call.method (Stepped t call) t := by
  cases call with
  | admitEndpoint endpoint => exact wp_method (wp_admitEndpoint t endpoint)
  | enableRule rule => exact wp_method (wp_enableRule t rule)
  | setQueueTelemetry telemetry =>
    refine wp_method (wp_checked (plain_ensureRunning t) replies_refused fun _ _ => ?_)
    exact Stepped.telemetry telemetry
  | recordExecution endpoint rule metrics => exact wp_method (wp_recordExecution t endpoint rule metrics)
  | recordSkip endpoint rule reason => exact wp_method (wp_recordSkip t endpoint rule reason)
  | markCompleted =>
    refine wp_method (wp_checked (plain_ensureRunning t) replies_refused fun _ _ => ?_)
    refine wp_checked (plain_failIf (by simp)) replies_refused fun _ _ => ?_
    exact Stepped.stopped .completed
  | cancel =>
    refine wp_method (wp_checked (plain_ensureRunning t) replies_refused fun _ _ => ?_)
    exact Stepped.stopped .cancelled
  | emergencyStop =>
    refine wp_method (wp_checked (plain_ensureRunning t) replies_refused fun _ _ => ?_)
    exact Stepped.stopped .emergencyStop

end

/-! ## Calls that fail -/

/-- A call that fails leaves the tracker as it was; at a resource boundary only the stop reason is
new. -/
def Atomic (t : CoverageTracker) (call : CoverageCall) : Prop :=
  ∀ e t', call.method t = (.error e, t') →
    ((∀ reason, e ≠ .resourceBoundary reason) → t' = t) ∧
    ∀ reason, e = .resourceBoundary reason → t' = { t with stopReason := some reason }

/-- An execution that passes every check and completes a window, when no further window may be
closed. -/
def OverrunsWindows (t : CoverageTracker) (call : CoverageCall) : Prop :=
  ∃ endpoint rule metrics, call = .recordExecution endpoint rule metrics ∧ t.Recordable endpoint rule metrics ∧
    saturatingAdd t.currentWindowChecks 1 = t.saturationPolicy.checksPerWindow ∧
    t.limits.maximumWindows ≤ t.saturationWindows.length

variable {metrics : ExecutionMetrics}

theorem windowFull_commitExecution : (t.commitExecution key metrics).windowFull = true ↔
      saturatingAdd t.currentWindowChecks 1 = t.saturationPolicy.checksPerWindow := beq_iff_eq

theorem windowBudgetExhausted_iff :
    t.windowBudgetExhausted = true ↔ t.limits.maximumWindows ≤ t.saturationWindows.length := decide_eq_true_iff

theorem not_mem_of_preflightNewPair (h : preflightNewPair key t = .ok ()) :
    t.pairOutcomes[key]? = none ∧ t.pairOutcomes.size < t.limits.maximumRecordedPairs := by
  simp only [preflightNewPair, do_eq_ok, not_le] at h
  exact ⟨Std.ExtTreeMap.getElem?_eq_none h.1, h.2⟩

theorem commitExecution_ne
    (hrec : t.Recordable endpoint rule metrics) : t.commitExecution ⟨endpoint, rule⟩ metrics ≠ t := by
  intro heq
  have hmap : t.pairOutcomes.insert ⟨endpoint, rule⟩ (.executed metrics) = t.pairOutcomes :=
    congrArg CoverageTracker.pairOutcomes heq
  have hnew := (not_mem_of_preflightNewPair hrec.new).1
  rw [← hmap, getElem?_insert_self] at hnew
  cases hnew

theorem method_of_overrunsWindows (hrec : t.Recordable endpoint rule metrics)
    (hfull : saturatingAdd t.currentWindowChecks 1 = t.saturationPolicy.checksPerWindow)
    (hexhausted : t.limits.maximumWindows ≤ t.saturationWindows.length) :
    (CoverageCall.recordExecution endpoint rule metrics).method t =
      (.error (.invalidConfig "saturation window budget was exhausted"),
        t.commitExecution ⟨endpoint, rule⟩ metrics) := by
  have hrunning : t.ensureRunning = .ok () := by
    rw [ensureRunning, failIf_eq_ok, not_not]
    exact hrec.running
  have hcharge : chargeResources metrics.resourceDelta t = (.ok (), t) := by
    rw [chargeResources, hrec.affordable]
  have hclose : closeFullWindow (t.commitExecution ⟨endpoint, rule⟩ metrics) =
      (.error (.invalidConfig "saturation window budget was exhausted"),
        t.commitExecution ⟨endpoint, rule⟩ metrics) := by
    have hwp := wp_closeFullWindow (t.commitExecution ⟨endpoint, rule⟩ metrics)
    rw [windowFull_commitExecution.mpr hfull] at hwp
    rw [show (t.commitExecution ⟨endpoint, rule⟩ metrics).windowBudgetExhausted = true from
      windowBudgetExhausted_iff.mpr hexhausted] at hwp
    obtain ⟨h, -⟩ | ⟨-, h, -⟩ | ⟨-, -, hresult, hstate⟩ := hwp
    · cases h
    · cases h
    · exact Prod.ext hresult hstate
  have hpost : wp (CoverageCall.recordExecution endpoint rule metrics).method (fun r t' => (r, t') =
      (.error (.invalidConfig "saturation window budget was exhausted"),
        t.commitExecution ⟨endpoint, rule⟩ metrics)) t := by
    rw [CoverageCall.method, CoverageTracker.recordExecution]
    simp only [wp_bind, wp_check, wp_ofExcept, after, hrunning, hrec.valid, hrec.pair,
      hrec.new]
    rw [wp, hcharge]
    simp only [after, wp_bind, wp_modify]
    rw [wp, hclose]
    rfl
  exact hpost

/-- **Failing calls**: they leave no trace, but for one that overruns the budget of windows. -/
theorem atomic_iff (t : CoverageTracker) (call : CoverageCall) : t.Atomic call ↔ ¬ t.OverrunsWindows call := by
  constructor
  · rintro hatomic ⟨endpoint, rule, metrics, rfl, hrec, hfull, hexhausted⟩
    refine commitExecution_ne hrec ((hatomic _ _ (method_of_overrunsWindows hrec hfull hexhausted)).1 ?_)
    exact fun _ h => nomatch h
  · intro hwindows e t' hcall
    have hstep : Stepped t call (call.method t).1 (call.method t).2 := stepped t call
    rw [hcall] at hstep
    cases hstep with
    | refused he => exact ⟨fun _ => rfl, fun reason h => absurd h (he reason)⟩
    | boundary reason =>
      refine ⟨fun h => absurd rfl (h reason), fun reason' h => ?_⟩
      cases h
      rfl
    | windowRefused hrec hfull hexhausted =>
      exact absurd ⟨_, _, _, rfl, hrec, windowFull_commitExecution.mp hfull,
        windowBudgetExhausted_iff.mp hexhausted⟩ hwindows

/-- One window of one check may be closed; a yield of zero is not below the threshold. -/
def exampleTracker : CoverageTracker :=
  unwrap (new ⟨4, 4, 16, 1⟩ (fun _ => u64Max) ⟨1, 1, 1, 0, 1⟩) (by decide +kernel)

def exampleMetrics (unique : ℕ) : ExecutionMetrics where
  findings
    | .unique => unique
    | _ => 0
  resourceDelta := fun _ => 1

/-- Two endpoints and a rule, and the first of them executed. -/
def exampleCalls (unique : ℕ) : List CoverageCall :=
  [.admitEndpoint (digestOf '1'), .admitEndpoint (digestOf '2'), .enableRule "rule",
    .recordExecution (digestOf '1') "rule" (exampleMetrics unique)]

/-- The error of a call and the number of pairs it leaves. -/
def failure (t : CoverageTracker) (call : CoverageCall) : Option (CoverageError × ℕ) :=
  match call.method t with
  | (.error e, t') => some (e, t'.pairOutcomes.size)
  | (.ok _, _) => none

/-- The second execution completes a second window: it fails, and the pair is recorded. -/
theorem not_atomic_example : ∃ limits budget policy t₀ es t call,
    new limits budget policy = .ok t₀ ∧ Run step t₀ es t ∧ ¬ t.Atomic call := by
  have hcalls : (runCalls step exampleTracker (exampleCalls 1)).map (fun run =>
      (failure run.2 (.recordExecution (digestOf '2') "rule" (exampleMetrics 1)), run.2.pairOutcomes.size)) =
      some (some (.invalidConfig "saturation window budget was exhausted", 2), 1) := by
    decide +kernel
  obtain ⟨es, t, hrun, hobserved⟩ := exists_run_of_map_runCalls hcalls
  obtain ⟨hfailure, hsize⟩ := Prod.mk.inj hobserved
  refine ⟨_, _, _, exampleTracker, es, t, .recordExecution (digestOf '2') "rule" (exampleMetrics 1),
    eq_ok_unwrap _ _, hrun, fun hatomic => ?_⟩
  unfold failure at hfailure
  split at hfailure
  · next e t' hmethod =>
    obtain ⟨rfl, hsize'⟩ := Prod.mk.inj (Option.some.inj hfailure)
    have hsame : t' = t := (hatomic _ _ hmethod).1 (fun _ h => nomatch h)
    rw [hsame] at hsize'
    exact absurd (hsize'.symm.trans hsize) (by decide)
  · cases hfailure

/-! ## The books -/

end CoverageTracker

/-- What an outcome adds to a total: nothing when the pair was skipped. -/
def PairOutcome.weigh (w : ExecutionMetrics → ℕ) : PairOutcome → ℕ
  | executed metrics => w metrics
  | skipped _ => 0

namespace CoverageTracker

def total (t : CoverageTracker) (w : ExecutionMetrics → ℕ) : ℕ := sumValues (PairOutcome.weigh w) t.pairOutcomes

/-- The checks counted in windows, closed and current. -/
def windowChecks (t : CoverageTracker) : ℕ :=
  (t.saturationWindows.map (·.completedChecks)).sum + t.currentWindowChecks

/-- The unique findings counted in windows, closed and current. -/
def windowFindings (t : CoverageTracker) : ℕ :=
  (t.saturationWindows.map (·.newUniqueFindings)).sum + t.currentWindowUniqueFindings

/-- The totals of a tracker agree with its outcomes. -/
structure Books (t : CoverageTracker) : Prop where
  limits : t.limits.maximumRecordedPairs ≤ maxCoveragePairs
  product : t.admittedEndpoints.size * t.enabledRules.size ≤ t.limits.maximumRecordedPairs
  pairs : ∀ (key : PairKey) outcome, t.pairOutcomes[key]? = some outcome →
    key.endpointSha256 ∈ t.admittedEndpoints ∧ key.ruleId ∈ t.enabledRules
  considered : ∀ endpoint, endpoint ∈ t.consideredEndpoints ↔
    ∃ (key : PairKey) (outcome : PairOutcome), t.pairOutcomes[key]? = some outcome ∧ key.endpointSha256 = endpoint
  skipped : sumValues id t.skippedByReason + t.executedPairs = t.pairOutcomes.size
  findings : ∀ c, t.findings c = min (t.total (·.findings c)) u64Max
  resources : ∀ r, t.resourceUse r = min (t.total (·.resourceDelta r)) u64Max
  affordable : ∀ r, t.resourceUse r ≤ t.budget r
  checks : t.windowChecks = t.executedPairs
  unique : min t.windowFindings u64Max = t.findings .unique

variable {t : CoverageTracker}

variable {budget : CoverageResourceBudget}

variable {limits : CoverageLimits} {policy : SaturationPolicy} {outcome : PairOutcome}
  {key : PairKey} {r : Except CoverageError CoverageReply}

theorem books_new (h : new limits budget policy = .ok t) : Books t := by
  simp only [new, CoverageLimits.validate, do_eq_ok, not_or] at h
  obtain ⟨⟨-, -, -, -, -, hpairs, -⟩, -, -, rfl⟩ := h
  exact {
    limits := not_lt.mp hpairs
    product := Nat.zero_le _
    pairs := by simp
    considered := by simp
    skipped := rfl
    findings := fun _ => rfl
    resources := fun _ => rfl
    affordable := fun _ => Nat.zero_le _
    checks := rfl
    unique := rfl }

section

variable (h : Books t)

include h

theorem Books.stop (reason : Option RunStopReason) : Books { t with stopReason := reason } :=
  ⟨h.limits, h.product, h.pairs, h.considered, h.skipped, h.findings, h.resources, h.affordable, h.checks, h.unique⟩

theorem Books.telemetry (telemetry : QueueTelemetry) :
    Books { t with queueTelemetry := telemetry } :=
  ⟨h.limits, h.product, h.pairs, h.considered, h.skipped, h.findings, h.resources, h.affordable, h.checks, h.unique⟩

theorem Books.evaluateSaturation : Books t.evaluateSaturation := by
  unfold CoverageTracker.evaluateSaturation
  split
  · exact h.stop _
  · exact h

theorem mul_le_of_preflight {endpoints rules : ℕ}
    (hcheck : preflightTheoreticalPairs endpoints rules t = .ok ()) :
    endpoints * rules ≤ t.limits.maximumRecordedPairs := by
  rw [preflightTheoreticalPairs, failIf_eq_ok, not_lt] at hcheck
  have hlimits : t.limits.maximumRecordedPairs ≤ 100000000 := h.limits
  simp only [saturatingMul, u64Max] at hcheck
  omega

theorem Books.insertEndpoint {endpoint : String} (hnew : endpoint ∉ t.admittedEndpoints)
    (hcheck : t.preflightEndpoint = .ok ()) :
    Books { t with admittedEndpoints := t.admittedEndpoints.insert endpoint } := by
  simp only [preflightEndpoint, do_eq_ok] at hcheck
  refine { h with
    product := ?_
    pairs := fun key outcome hkey => ?_ }
  · show (t.admittedEndpoints.insert endpoint).size * _ ≤ _
    rw [size_insert_new_set hnew]
    exact mul_le_of_preflight h hcheck.2
  · exact ⟨Std.ExtTreeSet.mem_insert.mpr (.inr (h.pairs key outcome hkey).1), (h.pairs key outcome hkey).2⟩

theorem Books.insertRule {rule : String} (hnew : rule ∉ t.enabledRules)
    (hcheck : t.preflightRule = .ok ()) : Books { t with enabledRules := t.enabledRules.insert rule } := by
  simp only [preflightRule, do_eq_ok] at hcheck
  refine { h with
    product := ?_
    pairs := fun key outcome hkey => ?_ }
  · show _ * (t.enabledRules.insert rule).size ≤ _
    rw [size_insert_new_set hnew]
    exact mul_le_of_preflight h hcheck.2
  · exact ⟨(h.pairs key outcome hkey).1, Std.ExtTreeSet.mem_insert.mpr (.inr (h.pairs key outcome hkey).2)⟩

end

theorem le_budget_of_firstExceeded {usage : ResourceUse}
    (h : budget.firstExceeded usage = none) (r : Resource) : usage r ≤ budget r := by
  rw [CoverageResourceBudget.firstExceeded, Option.map_eq_none_iff, List.find?_eq_none] at h
  exact not_lt.mp fun hlt => h r r.mem_all (decide_eq_true hlt)

theorem Books.executedPairs_le (h : Books t) : t.executedPairs ≤ t.pairOutcomes.size := by
  have := h.skipped
  omega

variable {endpoint rule : String}

theorem Books.pairs_insert (h : Books t)
    (hpair : t.validatePair endpoint rule = .ok ⟨endpoint, rule⟩) (key : PairKey) (o : PairOutcome)
    (hkey : (t.pairOutcomes.insert ⟨endpoint, rule⟩ outcome)[key]? = some o) :
    key.endpointSha256 ∈ t.admittedEndpoints ∧ key.ruleId ∈ t.enabledRules := by
  rcases getElem?_insert_eq_some.mp hkey with ⟨rfl, -⟩ | ⟨-, hold⟩
  · exact (eq_of_validatePair hpair).2
  · exact h.pairs key o hold

theorem Books.considered_insert (h : Books t) (outcome : PairOutcome)
    (hnew : t.pairOutcomes[key]? = none) (endpoint : String) :
    endpoint ∈ t.consideredEndpoints.insert key.endpointSha256 ↔
      ∃ (k : PairKey) (o : PairOutcome), (t.pairOutcomes.insert key outcome)[k]? = some o ∧
        k.endpointSha256 = endpoint := by
  rw [Std.ExtTreeSet.mem_insert, Std.LawfulEqOrd.compare_eq_iff_eq, h.considered]
  constructor
  · rintro (rfl | ⟨k, o, hk, rfl⟩)
    · exact ⟨key, outcome, getElem?_insert_self _ _ _, rfl⟩
    · refine ⟨k, o, ?_, rfl⟩
      rwa [getElem?_insert_of_ne]
      rintro rfl
      rw [hnew] at hk
      cases hk
  · rintro ⟨k, o, hk, rfl⟩
    rcases getElem?_insert_eq_some.mp hk with ⟨rfl, -⟩ | ⟨-, hold⟩
    · exact .inl rfl
    · exact .inr ⟨k, o, hold, rfl⟩

theorem total_commitExecution (metrics : ExecutionMetrics) (hnew : t.pairOutcomes[key]? = none)
    (w : ExecutionMetrics → ℕ) : (t.commitExecution key metrics).total w = t.total w + w metrics :=
  (sumValues_insert_new (PairOutcome.weigh w) (.executed metrics) hnew).trans (Nat.add_comm _ _)

theorem Books.commitExecution (h : Books t) {metrics : ExecutionMetrics}
    (hrec : t.Recordable endpoint rule metrics) : Books (t.commitExecution ⟨endpoint, rule⟩ metrics) := by
  obtain ⟨hnew, hsize⟩ := not_mem_of_preflightNewPair hrec.new
  have hexecuted : (t.commitExecution ⟨endpoint, rule⟩ metrics).executedPairs = t.executedPairs + 1 :=
    countValues_insert_new PairOutcome.isExecuted (.executed metrics) hnew
  have hrecorded : (t.commitExecution ⟨endpoint, rule⟩ metrics).pairOutcomes.size = t.pairOutcomes.size + 1 :=
    size_insert_new _ hnew
  refine {
    limits := h.limits
    product := h.product
    pairs := h.pairs_insert hrec.pair
    considered := h.considered_insert _ hnew
    skipped := ?_
    findings := fun c => ?_
    resources := fun r => ?_
    affordable := le_budget_of_firstExceeded hrec.affordable
    checks := ?_
    unique := ?_ }
  · have := h.skipped
    rw [hexecuted, hrecorded, ← this]
    rfl
  · rw [total_commitExecution metrics hnew, ← saturatingAdd_min, ← h.findings]
    rfl
  · rw [total_commitExecution metrics hnew, ← saturatingAdd_min, ← h.resources]
    rfl
  · -- the current window holds no more checks than pairs are recorded, so the count is exact
    have hchecks := h.checks
    have hle := h.executedPairs_le
    have hlimits : t.limits.maximumRecordedPairs ≤ 100000000 := h.limits
    rw [hexecuted, windowChecks]
    show _ + saturatingAdd t.currentWindowChecks 1 = _
    rw [windowChecks] at hchecks
    rw [saturatingAdd_eq_add (by unfold u64Max; omega), ← hchecks]
    rfl
  · have hunique := h.unique
    show min (_ + saturatingAdd t.currentWindowUniqueFindings _) _ = saturatingAdd (t.findings .unique) _
    rw [← hunique, saturatingAdd_min, windowFindings, saturatingAdd]
    show min (_ + min (_ + metrics.findings .unique) _) _ = _
    generalize metrics.findings .unique = new
    show min ((t.saturationWindows.map (·.newUniqueFindings)).sum + _) _ = _
    omega

theorem Books.pushWindow (h : Books t) : Books t.pushWindow := by
  refine { h with
    checks := ?_
    unique := ?_ }
  · rw [show t.pushWindow.executedPairs = t.executedPairs from rfl, ← h.checks]
    simp [windowChecks, CoverageTracker.pushWindow]
  · rw [show t.pushWindow.findings = t.findings from rfl, ← h.unique]
    simp [windowFindings, CoverageTracker.pushWindow]

theorem sum_skippedByReason {m : BTreeMap PairSkipReason ℕ} (reason : PairSkipReason)
    (h : sumValues id m < u64Max) :
    sumValues id (m.insert reason (saturatingAdd (m[reason]?.getD 0) 1)) = sumValues id m + 1 := by
  cases hcount : m[reason]? with
  | none =>
    rw [sumValues_insert_new id _ hcount]
    show saturatingAdd 0 1 + _ = _
    rw [saturatingAdd_eq_add (by decide)]
    omega
  | some n =>
    have hle : n ≤ sumValues id m := le_sumValues id hcount
    have hreplace := sumValues_insert_replace id (saturatingAdd n 1) hcount
    simp only [id_eq, Option.getD_some] at hreplace ⊢
    rw [saturatingAdd_eq_add (by omega)] at hreplace ⊢
    omega

theorem Books.commitSkip (h : Books t) {reason : PairSkipReason}
    (hpair : t.validatePair endpoint rule = .ok ⟨endpoint, rule⟩)
    (hcheck : preflightNewPair ⟨endpoint, rule⟩ t = .ok ()) : Books (t.commitSkip ⟨endpoint, rule⟩ reason) := by
  obtain ⟨hnew, hsize⟩ := not_mem_of_preflightNewPair hcheck
  have htotal : ∀ w, (t.commitSkip ⟨endpoint, rule⟩ reason).total w = t.total w := fun w =>
    (sumValues_insert_new (PairOutcome.weigh w) (.skipped reason) hnew).trans (Nat.zero_add _)
  have hexecuted : (t.commitSkip ⟨endpoint, rule⟩ reason).executedPairs = t.executedPairs :=
    countValues_insert_new PairOutcome.isExecuted (.skipped reason) hnew
  have hrecorded : (t.commitSkip ⟨endpoint, rule⟩ reason).pairOutcomes.size = t.pairOutcomes.size + 1 :=
    size_insert_new _ hnew
  have hskipped := h.skipped
  have hlimits : t.limits.maximumRecordedPairs ≤ 100000000 := h.limits
  refine { h with
    pairs := h.pairs_insert hpair
    considered := h.considered_insert _ hnew
    skipped := ?_
    findings := fun c => ?_
    resources := fun r => ?_
    checks := ?_ }
  · rw [hexecuted, hrecorded]
    show sumValues id (t.skippedByReason.insert reason _) + _ = _
    rw [sum_skippedByReason reason (by unfold u64Max; omega)]
    omega
  · rw [htotal]
    exact h.findings c
  · rw [htotal]
    exact h.resources r
  · rw [hexecuted]
    exact h.checks

theorem Books.step {t' : CoverageTracker} (h : Books t)
    (hstep : CoverageTracker.step t call = some (r, t')) : Books t' := by
  have hcases : Stepped t call (call.method t).1 (call.method t).2 := stepped t call
  rw [Option.some.inj hstep] at hcases
  cases hcases with
  | refused _ => exact h
  | known => exact h
  | endpointAdded hnew hcheck => exact h.insertEndpoint hnew hcheck
  | ruleAdded hnew hcheck => exact h.insertRule hnew hcheck
  | telemetry telemetry => exact (h.telemetry telemetry).evaluateSaturation
  | boundary reason => exact h.stop _
  | windowRefused hrec _ _ => exact h.commitExecution hrec
  | windowClosed hrec _ => exact (h.commitExecution hrec).pushWindow.evaluateSaturation
  | executed hrec _ => exact (h.commitExecution hrec).evaluateSaturation
  | skipped hpair hnew => exact h.commitSkip hpair hnew
  | stopped reason => exact h.stop _

theorem books_of_run
    {t₀ : CoverageTracker} {es : List (Event CoverageTracker CoverageCall (Except CoverageError CoverageReply))}
    (hnew : new limits budget policy = .ok t₀) (hrun : Run CoverageTracker.step t₀ es t) : Books t :=
  hrun.invariant (fun _ t => Books t) (books_new hnew) fun _ _ _ _ _ _ h hstep => h.step hstep

theorem Books.size_le (h : Books t) : t.pairOutcomes.size ≤ t.admittedEndpoints.size * t.enabledRules.size := by
  have hnodup : (t.pairOutcomes.toList.map fun e => (e.1.endpointSha256, e.1.ruleId)).Nodup := by
    have hinj : Function.Injective fun key : PairKey => (key.endpointSha256, key.ruleId) := by
      rintro ⟨e, r⟩ ⟨e', r'⟩ heq
      obtain ⟨rfl, rfl⟩ := Prod.mk.inj heq
      rfl
    have hkeys := (nodup_keys_toList t.pairOutcomes).map hinj
    rwa [List.map_map] at hkeys
  have hsubset : (t.pairOutcomes.toList.map fun e => (e.1.endpointSha256, e.1.ruleId)) ⊆
      t.admittedEndpoints.toList ×ˢ t.enabledRules.toList := by
    intro p hp
    obtain ⟨⟨key, outcome⟩, hmem, rfl⟩ := List.mem_map.mp hp
    have hpair := h.pairs key outcome (Std.ExtTreeMap.mem_toList_iff_getElem?_eq_some.mp hmem)
    exact List.mem_product.mpr ⟨Std.ExtTreeSet.mem_toList.mpr hpair.1, Std.ExtTreeSet.mem_toList.mpr hpair.2⟩
  have hlength := (hnodup.subperm hsubset).length_le
  rwa [List.length_map, Std.ExtTreeMap.length_toList, List.length_product,
    Std.ExtTreeSet.length_toList, Std.ExtTreeSet.length_toList] at hlength

/-- The products and differences of the receipt are exact. -/
theorem Books.theoreticalPairs_eq (h : Books t) :
    t.theoreticalPairs = t.admittedEndpoints.size * t.enabledRules.size := by
  have hlimits : t.limits.maximumRecordedPairs ≤ 100000000 := h.limits
  exact min_eq_left (h.product.trans (hlimits.trans (by decide)))

/-! ## The receipt -/

/-- The books of a receipt balance, and agree with the outcomes of the tracker. A total is cut
off at the largest `u64`. -/
structure Balanced (t : CoverageTracker) : Prop where
  theoretical : t.receipt.theoreticalPairs = t.admittedEndpoints.size * t.enabledRules.size
  recorded : t.receipt.recordedPairs + t.receipt.untestedPairs = t.receipt.theoreticalPairs
  executed : t.receipt.executedPairs + t.receipt.skippedPairs = t.receipt.recordedPairs
  skipped : sumValues id t.receipt.skippedByReason = t.receipt.skippedPairs
  findings : ∀ c, t.receipt.findings c = min (t.total (·.findings c)) u64Max
  resources : ∀ r, t.receipt.resourceUse r = min (t.total (·.resourceDelta r)) u64Max
  affordable : ∀ r, t.receipt.resourceUse r ≤ t.budget r
  considered : ∀ endpoint, endpoint ∈ t.consideredEndpoints ↔
    ∃ (key : PairKey) (outcome : PairOutcome), t.pairOutcomes[key]? = some outcome ∧ key.endpointSha256 = endpoint
  checks : t.windowChecks = t.receipt.executedPairs
  unique : min t.windowFindings u64Max = t.receipt.findings .unique

/-- **The receipt balances** in every reachable state. -/
theorem receipt_balanced {limits : CoverageLimits} {budget : CoverageResourceBudget} {policy : SaturationPolicy}
    {t₀ t : CoverageTracker} {es : List (Event CoverageTracker CoverageCall (Except CoverageError CoverageReply))}
    (hnew : new limits budget policy = .ok t₀) (hrun : Run CoverageTracker.step t₀ es t) : Balanced t := by
  have h := books_of_run hnew hrun
  have hsize := h.size_le
  have htheoretical := h.theoreticalPairs_eq
  have hskipped := h.skipped
  exact {
    theoretical := htheoretical
    recorded := by
      show t.pairOutcomes.size + (t.theoreticalPairs - t.pairOutcomes.size) = t.theoreticalPairs
      omega
    executed := by
      show t.executedPairs + (t.pairOutcomes.size - t.executedPairs) = t.pairOutcomes.size
      omega
    skipped := by
      show sumValues id t.skippedByReason = t.pairOutcomes.size - t.executedPairs
      omega
    findings := h.findings
    resources := h.resources
    affordable := h.affordable
    considered := h.considered
    checks := h.checks
    unique := h.unique }

theorem receipt_balanced_example : ∃ es t, Run CoverageTracker.step exampleTracker es t ∧
    t.pairOutcomes.size = 1 ∧ Balanced t := by
  have hcalls : (runCalls CoverageTracker.step exampleTracker (exampleCalls 1)).map
    (·.2.pairOutcomes.size) = some 1 := by
    decide +kernel
  obtain ⟨es, t, hrun, hsize⟩ := exists_run_of_map_runCalls hcalls
  exact ⟨es, t, hrun, hsize, receipt_balanced (eq_ok_unwrap _ _) hrun⟩

def roomyTracker : CoverageTracker :=
  unwrap (new ⟨4, 4, 16, 4⟩ (fun _ => u64Max) ⟨1, 1, 1, 0, 1⟩) (by decide +kernel)

/-- Two executions with the largest number of findings: the total of the receipt is not their sum.
-/
theorem findings_cut_off_example : ∃ limits budget policy t₀ es t,
    new limits budget policy = .ok t₀ ∧ Run CoverageTracker.step t₀ es t ∧
      t.receipt.findings .unique ≠ t.total (·.findings .unique) := by
  have hcalls : (runCalls CoverageTracker.step roomyTracker (exampleCalls u64Max ++
      [.recordExecution (digestOf '2') "rule" (exampleMetrics u64Max)])).map
        (fun run => (run.2.findings .unique, run.2.total (·.findings .unique))) =
      some (u64Max, u64Max + u64Max) := by
    decide +kernel
  obtain ⟨es, t, hrun, hobserved⟩ := exists_run_of_map_runCalls hcalls
  obtain ⟨hfindings, htotal⟩ := Prod.mk.inj hobserved
  refine ⟨_, _, _, roomyTracker, es, t, eq_ok_unwrap _ _, hrun, fun heq => ?_⟩
  exact absurd (hfindings.symm.trans (heq.trans htotal)) (by decide)

/-! ## What is recorded stays -/

/-- What `t` has admitted and recorded is so in `t'`. -/
structure Kept (t t' : CoverageTracker) : Prop where
  endpoints : ∀ endpoint ∈ t.admittedEndpoints, endpoint ∈ t'.admittedEndpoints
  rules : ∀ rule ∈ t.enabledRules, rule ∈ t'.enabledRules
  outcomes : ∀ (key : PairKey) (outcome : PairOutcome), t.pairOutcomes[key]? = some outcome →
    t'.pairOutcomes[key]? = some outcome

variable {t t' t'' : CoverageTracker}

theorem Kept.trans (h : Kept t t') (h' : Kept t' t'') : Kept t t'' where
  endpoints endpoint hmem := h'.endpoints endpoint (h.endpoints endpoint hmem)
  rules rule hmem := h'.rules rule (h.rules rule hmem)
  outcomes key outcome hkey := h'.outcomes key outcome (h.outcomes key outcome hkey)

theorem kept_of_eq (hendpoints : t'.admittedEndpoints = t.admittedEndpoints) (hrules : t'.enabledRules = t.enabledRules)
    (houtcomes : t'.pairOutcomes = t.pairOutcomes) : Kept t t' :=
  ⟨fun _ h => hendpoints ▸ h, fun _ h => hrules ▸ h, fun _ _ h => houtcomes ▸ h⟩

theorem Kept.evaluateSaturation (h : Kept t t') : Kept t t'.evaluateSaturation := by
  unfold CoverageTracker.evaluateSaturation
  split
  · exact h.trans (kept_of_eq rfl rfl rfl)
  · exact h

/-- A new outcome replaces none. -/
theorem kept_of_insert (hnew : preflightNewPair key t = .ok ())
    (hendpoints : t'.admittedEndpoints = t.admittedEndpoints) (hrules : t'.enabledRules = t.enabledRules)
    (houtcomes : t'.pairOutcomes = t.pairOutcomes.insert key outcome) : Kept t t' := by
  refine ⟨fun _ h => hendpoints ▸ h, fun _ h => hrules ▸ h, fun other old hold => ?_⟩
  have hne : key ≠ other := by
    rintro rfl
    rw [(not_mem_of_preflightNewPair hnew).1] at hold
    cases hold
  rw [houtcomes, getElem?_insert_of_ne _ _ hne, hold]

theorem Stepped.kept (h : Stepped t call r t') : Kept t t' := by
  cases h with
  | refused | known | boundary | stopped => exact kept_of_eq rfl rfl rfl
  | endpointAdded | ruleAdded =>
    refine ⟨fun _ hmem => ?_, fun _ hmem => ?_, fun _ _ hkey => hkey⟩ <;>
      first | exact hmem | exact Std.ExtTreeSet.mem_insert.mpr (.inr hmem)
  | telemetry => exact Kept.evaluateSaturation (kept_of_eq rfl rfl rfl)
  | windowRefused hrec => exact kept_of_insert hrec.new rfl rfl rfl
  | windowClosed hrec | executed hrec => exact Kept.evaluateSaturation (kept_of_insert hrec.new rfl rfl rfl)
  | skipped _ hnew => exact kept_of_insert hnew rfl rfl rfl

/-- After a stop every call is refused. -/
theorem method_of_stopped (hstopped : t.stopReason ≠ none) (call : CoverageCall) :
    call.method t = (.error .runStopped, t) := by
  have hcheck : ensureRunning t = .error .runStopped := failIf_eq_error.mpr ⟨hstopped, rfl⟩
  cases call <;> exact Method.bind_of_error (Method.check_bind_error hcheck)

/-- **Coverage is append-only**: over every run from any state, no endpoint, rule or outcome of a
pair is taken back or changed, and after a stop every call is refused and nothing changes. -/
theorem coverage_append_only {es : List (Event CoverageTracker CoverageCall (Except CoverageError CoverageReply))}
    (hrun : Run CoverageTracker.step t es t') :
    Kept t t' ∧ (t.stopReason ≠ none → t' = t ∧ ∀ event ∈ es, event.output = .error .runStopped) := by
  refine hrun.invariant (fun es t' => Kept t t' ∧ (t.stopReason ≠ none → t' = t ∧ ∀ event ∈ es,
    event.output = .error .runStopped)) ⟨kept_of_eq rfl rfl rfl, fun _ => ⟨rfl, by simp⟩⟩ ?_
  intro es u call r v _ ih hstep
  have hmethod : call.method u = (r, v) := Option.some.inj hstep
  constructor
  · have hcases : Stepped u call (call.method u).1 (call.method u).2 := stepped u call
    rw [hmethod] at hcases
    exact ih.1.trans hcases.kept
  · intro hstopped
    obtain ⟨rfl, hes⟩ := ih.2 hstopped
    obtain ⟨rfl, rfl⟩ := Prod.mk.inj ((method_of_stopped hstopped call).symm.trans hmethod)
    exact ⟨rfl, fun event hevent => (List.mem_append.mp hevent).elim (hes event) fun hlast =>
      List.mem_singleton.mp hlast ▸ rfl⟩

theorem coverage_append_only_example : ∃ es t, Run CoverageTracker.step exampleTracker es t ∧
    t.pairOutcomes.size = 1 ∧ t.stopReason = some .emergencyStop ∧ Kept exampleTracker t ∧
    ∀ es' t', Run CoverageTracker.step t es' t' → t' = t := by
  have hcalls : (runCalls CoverageTracker.step exampleTracker (exampleCalls 1 ++ [.emergencyStop])).map
      (fun run => (run.2.pairOutcomes.size, run.2.stopReason)) = some (1, some .emergencyStop) := by
    decide +kernel
  obtain ⟨es, t, hrun, hobserved⟩ := exists_run_of_map_runCalls hcalls
  obtain ⟨hsize, hstop⟩ := Prod.mk.inj hobserved
  exact ⟨es, t, hrun, hsize, hstop, (coverage_append_only hrun).1, fun es' t' hlater =>
    ((coverage_append_only hlater).2 (ne_of_eq_of_ne hstop (by decide))).1⟩

end CoverageTracker

end BoundSeal.Analyzers

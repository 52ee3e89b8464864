import BoundSeal.Lib.Method
import BoundSeal.Lib.Run
import BoundSeal.Workflow.Definition

/-!
# The workflow engine (`nxb-workflow-graph`, `part4.rs`)

Workers take *leases* on steps and report each as completed or failed. When a workflow
is cancelled, or a step that has a compensation step fails, the compensation steps are
leased instead.

The methods are those of `WorkflowEngine`; the engine of an accepted definition has a
runtime for every step, so the lookups with `[]` and `expect` of the source do not
fail (`Inv.keys` in `Workflow.Runs`). A caller passes to `complete` and `fail` a lease
that `lease_next` gave it: the state of a run is the engine with the leases handed out.
-/

namespace BoundSeal.Workflow

open Rust Lib Audit

inductive WorkflowState where
  | created
  | running
  | paused
  | cancelling
  | completed
  | failed
  | emergencyStopped
  deriving DecidableEq

/-- `WorkflowState::is_terminal`. -/
def WorkflowState.isTerminal : WorkflowState → Bool
  | completed | failed | emergencyStopped => true
  | _ => false

inductive WorkflowStepState where
  | pending
  | leased
  | succeeded
  | failed
  | skipped
  | compensating
  | compensated
  deriving DecidableEq

/-- The name of a state as `Debug` writes it, in lower case. -/
def WorkflowStepState.debugName : WorkflowStepState → String
  | pending => "pending"
  | leased => "leased"
  | succeeded => "succeeded"
  | failed => "failed"
  | skipped => "skipped"
  | compensating => "compensating"
  | compensated => "compensated"

structure WorkflowStepRuntime where
  stepId : String
  state : WorkflowStepState
  attempts : ℕ
  activeLeaseId : Option String
  evidenceSha256 : Option String
  deriving DecidableEq

structure WorkflowLease where
  leaseId : String
  workflowId : String
  definitionSha256 : String
  stepId : String
  workerId : String
  attempt : ℕ
  issuedAtMilliseconds : ℕ
  expiresAtMilliseconds : ℕ
  compensation : Bool

structure WorkflowStepReceipt where
  leaseId : String
  stepId : String
  finalState : WorkflowStepState
  evidenceSha256 : String
  workflowState : WorkflowState
  auditTailHash : String

structure WorkflowEngine where
  definition : WorkflowDefinition
  state : WorkflowState
  steps : BTreeMap String WorkflowStepRuntime
  compensationTargets : BTreeSet String
  consumedLeases : BTreeSet String
  nextLeaseSequence : ℕ
  audit : SubjectChain

namespace WorkflowEngine

def freshRuntime (stepId : String) : WorkflowStepRuntime := ⟨stepId, .pending, 0, none, none⟩

/-- `WorkflowEngine::new`. -/
def new (definition : WorkflowDefinition) (auditGenesis : String) : Except WorkflowError WorkflowEngine := do
  validateSha256 auditGenesis "audit genesis"
  pure {
    definition
    state := .created
    steps := definition.steps.map fun stepId _ => freshRuntime stepId
    compensationTargets := definition.compensationTargets
    consumedLeases := ∅
    nextLeaseSequence := 1
    audit := .start auditGenesis }

def stateOf (e : WorkflowEngine) (id : String) : Option WorkflowStepState := e.steps[id]?.map (·.state)

def compensationOf (e : WorkflowEngine) (id : String) : Option String :=
  e.definition.steps[id]?.bind WorkflowStep.compensationStepId

/-- An audit event. -/
def record (action subjectId outcome : String) (metadata : List (String × String))
    (e : WorkflowEngine) : WorkflowEngine :=
  { e with audit := e.audit.append ⟨action, subjectId, outcome, textMap metadata⟩ }

/-- `record_state`. -/
def recordState (action outcome : String) (e : WorkflowEngine) : WorkflowEngine :=
  record action e.definition.workflowId outcome [] e

def updateStep (id : String) (f : WorkflowStepRuntime → WorkflowStepRuntime) (e : WorkflowEngine) : WorkflowEngine :=
  { e with steps := e.steps.map fun other runtime => if other = id then f runtime else runtime }

/-- A transition of the workflow that is recorded. -/
def moveTo (state : WorkflowState) (action outcome : String) (e : WorkflowEngine) : WorkflowEngine :=
  recordState action outcome { e with state }

def anyLeased (e : WorkflowEngine) : Bool := (values e.steps).any fun runtime => runtime.state == .leased

/-- `WorkflowEngine::start`. -/
def start : Method WorkflowError WorkflowEngine Unit := do
  Method.check fun e => failIf (e.state ≠ .created) .invalidWorkflowState
  Method.modify (moveTo .running "workflow_started" "running")

/-- `WorkflowEngine::pause`. -/
def pause : Method WorkflowError WorkflowEngine Unit := do
  Method.check fun e => failIf (e.state ≠ .running ∨ e.anyLeased) .invalidWorkflowState
  Method.modify (moveTo .paused "workflow_paused" "paused")

/-- `WorkflowEngine::resume`. -/
def resume : Method WorkflowError WorkflowEngine Unit := do
  Method.check fun e => failIf (e.state ≠ .paused) .invalidWorkflowState
  Method.modify (moveTo .running "workflow_resumed" "running")

/-- Every step that is no compensation step has succeeded. -/
def allNormalSucceeded (e : WorkflowEngine) : Bool :=
  e.steps.toList.all fun entry => e.compensationTargets.contains entry.1 || entry.2.state == .succeeded

def compensationOutstanding (e : WorkflowEngine) : Bool :=
  e.compensationTargets.toList.any fun id =>
    e.stateOf id == some .compensating || e.stateOf id == some .leased

/-- `advance_terminal_state`. -/
def advanceTerminalState (e : WorkflowEngine) : WorkflowEngine :=
  if e.state = .running then
    if e.allNormalSucceeded then moveTo .completed "workflow_completed" "completed" e else e
  else if e.state = .cancelling then
    if e.compensationOutstanding then e else moveTo .failed "workflow_cancelled" "compensated_and_stopped" e
  else e

/-- The first loop of `cancel`: a step that has not been leased is skipped. -/
def skipPending (e : WorkflowEngine) : WorkflowEngine :=
  { e with steps := e.steps.map fun id runtime =>
      if e.compensationTargets.contains id then runtime
      else if runtime.state = .pending then { runtime with state := .skipped } else runtime }

/-- The compensation steps of the steps that have succeeded. -/
def compensationToStart (e : WorkflowEngine) : List String :=
  e.steps.toList.filterMap fun entry =>
    if e.compensationTargets.contains entry.1 then none
    else if entry.2.state = .succeeded then e.compensationOf entry.1 else none

def compensate (id : String) (e : WorkflowEngine) : WorkflowEngine :=
  updateStep id (fun runtime => { runtime with state := .compensating }) e

/-- `WorkflowEngine::cancel`. -/
def cancel : Method WorkflowError WorkflowEngine Unit := do
  Method.check fun e => failIf (e.state ≠ .running ∧ e.state ≠ .paused) .invalidWorkflowState
  Method.check fun e => failIf (e.anyLeased = true) .invalidWorkflowState
  Method.modify fun e => { e with state := .cancelling }
  Method.modify fun e => (compensationToStart e).foldl (fun e id => compensate id e) (skipPending e)
  Method.modify (recordState "workflow_cancel_requested" "cancelling")
  Method.modify advanceTerminalState

def stopStep (runtime : WorkflowStepRuntime) : WorkflowStepRuntime :=
  if runtime.state = .pending ∨ runtime.state = .leased ∨ runtime.state = .compensating then
    { runtime with state := .skipped, activeLeaseId := none }
  else runtime

/-- `WorkflowEngine::emergency_stop`. -/
def emergencyStop : Method WorkflowError WorkflowEngine Unit := do
  Method.check fun e => failIf (e.state.isTerminal = true) .invalidWorkflowState
  Method.modify fun e => { e with state := .emergencyStopped, steps := e.steps.map fun _ runtime => stopStep runtime }
  Method.modify (recordState "workflow_emergency_stopped" "emergency_stopped")

/-- A step that may be leased while the workflow is running. -/
def normalCandidate (e : WorkflowEngine) (id : String) : Bool :=
  e.state == .running && e.stateOf id == some .pending && !e.compensationTargets.contains id &&
    (e.definition.steps[id]?.elim [] fun step => step.dependencies.toList).all fun dependency =>
      e.stateOf dependency == some .succeeded

def compensationCandidate (e : WorkflowEngine) (id : String) : Bool :=
  e.state == .cancelling && e.stateOf id == some .compensating

/-- The first step that may be leased. -/
def selected (e : WorkflowEngine) : Option String :=
  e.definition.topologicalOrder.find? fun id => e.normalCandidate id || e.compensationCandidate id

def nextLeaseId (e : WorkflowEngine) : String := numberedName "workflow-lease-" "" e.nextLeaseSequence

def markLeased (id : String) (e : WorkflowEngine) : WorkflowEngine :=
  { updateStep id (fun runtime => { runtime with
      attempts := saturatingAdd runtime.attempts 1
      state := .leased
      activeLeaseId := some e.nextLeaseId }) e with
    nextLeaseSequence := saturatingAdd e.nextLeaseSequence 1 }

/-- How often a step was leased. -/
def attemptsOf (e : WorkflowEngine) (id : String) : ℕ := (e.steps[id]?.map (·.attempts)).getD 0

/-- `WorkflowEngine::lease_next`. -/
def leaseNext (workerId : String) (now duration : ℕ) : Method WorkflowError WorkflowEngine (Option WorkflowLease) := do
  Method.check fun e => failIf ((e.state ≠ .running ∧ e.state ≠ .cancelling) ∨ duration = 0 ∨
    duration > 60000) .invalidWorkflowState
  Method.ofExcept (validateIdentifier workerId "worker_id")
  let before ← Method.get fun e => e
  match before.selected with
  | none => do
    Method.modify advanceTerminalState
    pure none
  | some stepId => do
    let compensation := before.compensationCandidate stepId
    Method.check fun e => failIf (e.attemptsOf stepId ≥ maxStepAttempts) .stepNotReady
    Method.modify (markLeased stepId)
    let expiresAtMilliseconds ← Method.ofExcept (okOr (checkedAdd now duration) .invalidLease)
    Method.modify (record "workflow_step_leased" stepId (if compensation then "compensation_leased" else "leased")
      [("lease_id", before.nextLeaseId)])
    let attempt ← Method.get fun e => e.attemptsOf stepId
    pure (some {
      leaseId := before.nextLeaseId
      workflowId := before.definition.workflowId
      definitionSha256 := before.definition.definitionSha256
      stepId, workerId, attempt
      issuedAtMilliseconds := now
      expiresAtMilliseconds, compensation })

/-- `validate_lease`. -/
def validateLease (e : WorkflowEngine) (lease : WorkflowLease) (now : ℕ) : Except WorkflowError Unit :=
  failIf (lease.workflowId ≠ e.definition.workflowId ∨ lease.definitionSha256 ≠ e.definition.definitionSha256 ∨
    now ≥ lease.expiresAtMilliseconds ∨ e.consumedLeases.contains lease.leaseId ∨
    e.steps[lease.stepId]?.bind (·.activeLeaseId) ≠ some lease.leaseId) .invalidLease

/-- A lease is used up, and its step has its result. -/
def consume (lease : WorkflowLease) (state : WorkflowStepState) (evidenceSha256 : String)
    (e : WorkflowEngine) : WorkflowEngine :=
  { updateStep lease.stepId (fun runtime => { runtime with
      state, activeLeaseId := none, evidenceSha256 := some evidenceSha256 }) e with
    consumedLeases := e.consumedLeases.insert lease.leaseId }

def receipt (lease : WorkflowLease) (finalState : WorkflowStepState) (evidenceSha256 : String)
    (e : WorkflowEngine) : WorkflowStepReceipt :=
  ⟨lease.leaseId, lease.stepId, finalState, evidenceSha256, e.state, e.audit.tailHash⟩

def doneState (lease : WorkflowLease) : WorkflowStepState := if lease.compensation then .compensated else .succeeded

/-- `WorkflowEngine::complete`. -/
def complete (lease : WorkflowLease) (now : ℕ) (evidenceSha256 : String) :
    Method WorkflowError WorkflowEngine WorkflowStepReceipt := do
  Method.ofExcept (validateSha256 evidenceSha256 "workflow step evidence")
  Method.check fun e => e.validateLease lease now
  Method.modify (consume lease (doneState lease) evidenceSha256)
  Method.modify (record "workflow_step_completed" lease.stepId (doneState lease).debugName
    [("evidence_sha256", evidenceSha256)])
  Method.modify advanceTerminalState
  Method.get (receipt lease (doneState lease) evidenceSha256)

/-- What follows from a failed step: its compensation, or the end. -/
def afterFailure (lease : WorkflowLease) (e : WorkflowEngine) : WorkflowEngine :=
  if lease.compensation then { e with state := .failed }
  else
    match e.compensationOf lease.stepId with
    | some compensationStepId => compensate compensationStepId { e with state := .cancelling }
    | none => { e with state := .failed }

/-- `WorkflowEngine::fail`. -/
def fail (lease : WorkflowLease) (now : ℕ) (evidenceSha256 : String) :
    Method WorkflowError WorkflowEngine WorkflowStepReceipt := do
  Method.ofExcept (validateSha256 evidenceSha256 "workflow failure evidence")
  Method.check fun e => e.validateLease lease now
  Method.modify (consume lease .failed evidenceSha256)
  Method.modify (afterFailure lease)
  Method.modify (record "workflow_step_failed" lease.stepId "failed" [("evidence_sha256", evidenceSha256)])
  Method.get (receipt lease .failed evidenceSha256)

end WorkflowEngine

/-! ## Calls -/

/-- The engine, and the leases that `lease_next` has returned. -/
structure Held where
  engine : WorkflowEngine
  leases : List WorkflowLease

/-- The calls; a lease is given by its place among those that were returned. -/
inductive WorkflowCall where
  | start
  | pause
  | resume
  | cancel
  | emergencyStop
  | leaseNext (workerId : String) (now duration : ℕ)
  | complete (lease : ℕ) (now : ℕ) (evidenceSha256 : String)
  | fail (lease : ℕ) (now : ℕ) (evidenceSha256 : String)

/-- What the calls return with `Ok`. -/
inductive WorkflowReply where
  | done
  | leased (lease : Option WorkflowLease)
  | receipt (receipt : WorkflowStepReceipt)

/-- The method of a call, if the caller holds the lease it names. -/
def WorkflowCall.method (leases : List WorkflowLease) : WorkflowCall →
    Option (Method WorkflowError WorkflowEngine WorkflowReply)
  | .start => some ((fun _ => .done) <$> WorkflowEngine.start)
  | .pause => some ((fun _ => .done) <$> WorkflowEngine.pause)
  | .resume => some ((fun _ => .done) <$> WorkflowEngine.resume)
  | .cancel => some ((fun _ => .done) <$> WorkflowEngine.cancel)
  | .emergencyStop => some ((fun _ => .done) <$> WorkflowEngine.emergencyStop)
  | .leaseNext workerId now duration => some (.leased <$> WorkflowEngine.leaseNext workerId now duration)
  | .complete lease now evidenceSha256 =>
    leases[lease]?.map fun lease => .receipt <$> WorkflowEngine.complete lease now evidenceSha256
  | .fail lease now evidenceSha256 =>
    leases[lease]?.map fun lease => .receipt <$> WorkflowEngine.fail lease now evidenceSha256

def newLease : Except WorkflowError WorkflowReply → List WorkflowLease
  | .ok (.leased (some lease)) => [lease]
  | _ => []

def Held.step (h : Held) (call : WorkflowCall) : Option (Except WorkflowError WorkflowReply × Held) :=
  (call.method h.leases).map fun method =>
    let (reply, engine) := method h.engine
    (reply, ⟨engine, h.leases ++ newLease reply⟩)

end BoundSeal.Workflow

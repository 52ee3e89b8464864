import BoundSeal.Audit.Subject
import BoundSeal.Lib.TopologicalSort
import BoundSeal.Rust.MapSum

/-!
# Workflow definitions (`nxb-workflow-graph`)

A workflow is a set of steps, each with the steps it depends on. A step may name a
*compensation step* that undoes what it did; the named step has to be a cleanup step.
`WorkflowDefinition::new` checks the references and sorts the steps.
-/

namespace BoundSeal.Workflow

open Rust Lib Audit

/-- `MAX_WORKFLOW_STEPS`. -/
def maxWorkflowSteps : ℕ := 10000

/-- `MAX_STEP_DEPENDENCIES`. -/
def maxStepDependencies : ℕ := 128

/-- `MAX_STEP_ATTEMPTS`. -/
def maxStepAttempts : ℕ := 3

inductive WorkflowError where
  | invalidIdentifier (name : String)
  | invalidSha256 (name : String)
  | invalidWorkflow (message : String)
  | invalidWorkflowState
  | stepNotReady
  | invalidLease
  deriving DecidableEq

/-- `validate_identifier`. -/
def validateIdentifier (value name : String) : Except WorkflowError Unit :=
  failIf (isBoundedIdentifier value = false) (.invalidIdentifier name)

/-- `validate_sha256`. -/
def validateSha256 (value name : String) : Except WorkflowError Unit :=
  failIf (isLowerHexSha256 value = false) (.invalidSha256 name)

inductive WorkflowAction where
  | observe
  | generateInertMutation
  | compareDifferential
  | evaluateOracle
  | registerOwnedObject
  | cleanupOwnedObject
  | storeEvidence
  | buildReport
  | certifyRun
  deriving DecidableEq

def WorkflowAction.name : WorkflowAction → String
  | observe => "observe"
  | generateInertMutation => "generate_inert_mutation"
  | compareDifferential => "compare_differential"
  | evaluateOracle => "evaluate_oracle"
  | registerOwnedObject => "register_owned_object"
  | cleanupOwnedObject => "cleanup_owned_object"
  | storeEvidence => "store_evidence"
  | buildReport => "build_report"
  | certifyRun => "certify_run"

structure WorkflowStep where
  stepId : String
  action : WorkflowAction
  dependencies : BTreeSet String
  capabilityId : Option String
  requestCost : ℕ
  mutationCost : ℕ
  createsOwnedObject : Bool
  compensationStepId : Option String

namespace WorkflowStep

def toJson (step : WorkflowStep) : Json :=
  .object [("step_id", .text step.stepId), ("action", .text step.action.name),
    ("dependencies", .texts step.dependencies.toList), ("capability_id", .option .text step.capabilityId),
    ("request_cost", .number step.requestCost), ("mutation_cost", .number step.mutationCost),
    ("creates_owned_object", .bool step.createsOwnedObject),
    ("compensation_step_id", .option .text step.compensationStepId)]

/-- `WorkflowStep::new`. -/
def new (stepId : String) (action : WorkflowAction) (dependencies : BTreeSet String)
    (capabilityId : Option String) (requestCost mutationCost : ℕ) (createsOwnedObject : Bool)
    (compensationStepId : Option String) : Except WorkflowError WorkflowStep := do
  validateIdentifier stepId "step_id"
  failIf (dependencies.size > maxStepDependencies ∨ dependencies.contains stepId ∨
      dependencies.toList.any (fun dependency => !isBoundedIdentifier dependency) ∨
      capabilityId.any (fun value => !isBoundedIdentifier value) ∨
      compensationStepId.any (fun value => !isBoundedIdentifier value) ∨
      requestCost > 100000 ∨ mutationCost > 10000)
    (.invalidWorkflow "step bounds")
  failIf ((action = .generateInertMutation ∨ action = .registerOwnedObject ∨ action = .cleanupOwnedObject) ∧
      capabilityId = none)
    (.invalidWorkflow "active or cleanup steps require a capability")
  failIf (mutationCost > 0 ∧ action ≠ .generateInertMutation)
    (.invalidWorkflow "only inert-mutation steps may consume mutation budget")
  failIf (createsOwnedObject ∧ action ≠ .registerOwnedObject)
    (.invalidWorkflow "owned objects must be registered by a dedicated step")
  pure { stepId, action, dependencies, capabilityId, requestCost, mutationCost, createsOwnedObject, compensationStepId }

end WorkflowStep

structure WorkflowDefinition where
  workflowId : String
  runId : String
  policySnapshotSha256 : String
  steps : BTreeMap String WorkflowStep
  topologicalOrder : List String
  totalRequestBudget : ℕ
  totalMutationBudget : ℕ
  definitionSha256 : String

namespace WorkflowDefinition

/-- A step more, which may not have the name of another. -/
def addStep (map : BTreeMap String WorkflowStep) (step : WorkflowStep) :
    Except WorkflowError (BTreeMap String WorkflowStep) := do
  failIf (step.stepId ∈ map) (.invalidWorkflow "duplicate step identifier")
  pure (map.insert step.stepId step)

def stepMap (steps : List WorkflowStep) : Except WorkflowError (BTreeMap String WorkflowStep) :=
  steps.foldlM addStep ∅

def checkReferences (steps : BTreeMap String WorkflowStep) (step : WorkflowStep) : Except WorkflowError Unit := do
  failIf (step.dependencies.toList.any fun dependency => !steps.contains dependency)
    (.invalidWorkflow "unknown dependency")
  match step.compensationStepId with
  | none => pure ()
  | some compensationStepId => do
    let compensation ← okOr steps[compensationStepId]? (.invalidWorkflow "unknown compensation step")
    failIf (compensation.action ≠ .cleanupOwnedObject ∨ compensationStepId = step.stepId)
      (.invalidWorkflow "compensation must reference a cleanup step")

def dependencyGraph (steps : BTreeMap String WorkflowStep) : BTreeMap String (BTreeSet String) :=
  steps.map fun _ step => step.dependencies

/-- `topological_sort`. -/
def topologicalSort (steps : BTreeMap String WorkflowStep) : Except WorkflowError (List String) := do
  let order := Lib.topologicalOrder (dependencyGraph steps)
  failIf (order.length ≠ steps.size) (.invalidWorkflow "workflow dependency cycle")
  pure order

def totalBudget (steps : BTreeMap String WorkflowStep) (cost : WorkflowStep → ℕ)
    (message : String) : Except WorkflowError ℕ :=
  (values steps).foldlM (fun total step => okOr (checkedAdd total (cost step)) (.invalidWorkflow message)) 0

def digest (workflowId runId policySnapshotSha256 : String) (steps : BTreeMap String WorkflowStep)
    (order : List String) (totalRequestBudget totalMutationBudget : ℕ) : String :=
  toLowerHex (Sha256.digest (Json.array [.text workflowId, .text runId, .text policySnapshotSha256,
    .object (steps.toList.map fun entry => (entry.1, entry.2.toJson)), .texts order, .number totalRequestBudget,
    .number totalMutationBudget]).toVec)

/-- `WorkflowDefinition::new`. -/
def new (workflowId runId policySnapshotSha256 : String) (steps : List WorkflowStep) :
    Except WorkflowError WorkflowDefinition := do
  validateIdentifier workflowId "workflow_id"
  validateIdentifier runId "run_id"
  validateSha256 policySnapshotSha256 "workflow policy snapshot"
  failIf (steps = [] ∨ steps.length > maxWorkflowSteps) (.invalidWorkflow "step count")
  let steps ← stepMap steps
  (values steps).forM (checkReferences steps)
  let topologicalOrder ← topologicalSort steps
  let totalRequestBudget ← totalBudget steps WorkflowStep.requestCost "request budget overflow"
  let totalMutationBudget ← totalBudget steps WorkflowStep.mutationCost "mutation budget overflow"
  failIf (totalRequestBudget > 1000000 ∨ totalMutationBudget > 100000) (.invalidWorkflow "workflow aggregate budget")
  pure {
    workflowId, runId, policySnapshotSha256, steps, topologicalOrder, totalRequestBudget, totalMutationBudget
    definitionSha256 := digest workflowId runId policySnapshotSha256 steps topologicalOrder totalRequestBudget
      totalMutationBudget }

/-- The steps that are named as compensation by others. -/
def compensationTargets (definition : WorkflowDefinition) : BTreeSet String :=
  Std.ExtTreeSet.ofList ((values definition.steps).filterMap WorkflowStep.compensationStepId) compare

/-! ## The order of the steps -/

theorem size_dependencyGraph (steps : BTreeMap String WorkflowStep) : (dependencyGraph steps).size = steps.size :=
  Std.ExtTreeMap.size_map

variable {steps : BTreeMap String WorkflowStep}

theorem needs_dependencyGraph {id d : String} :
    Needs (dependencyGraph steps) id d ↔ ∃ step : WorkflowStep, steps[id]? = some step ∧ d ∈ step.dependencies := by
  simp [Needs, dependencyGraph]

theorem isOrder_of_length (h : (Lib.topologicalOrder (dependencyGraph steps)).length = steps.size) :
    IsOrder (dependencyGraph steps) (Lib.topologicalOrder (dependencyGraph steps)) :=
  isOrder_topologicalOrder fun _ hid => mem_topologicalOrder (h.trans (size_dependencyGraph steps).symm) hid

/-- **`topological_sort`** ends, returns `Ok` just when the steps depend on known steps and not on
themselves, and then the least order of all steps in which each comes after its dependencies. -/
theorem topologicalSort_correct (steps : BTreeMap String WorkflowStep) :
    (∀ id, id ∉ (finishSorting (dependencyGraph steps)).ready) ∧
      ((∃ order, topologicalSort steps = .ok order) ↔ (∀ id d, Needs (dependencyGraph steps) id d → d ∈ steps) ∧
        ∀ id, ¬ Relation.TransGen (Needs (dependencyGraph steps)) id id) ∧
      ∀ order, topologicalSort steps = .ok order → IsOrder (dependencyGraph steps) order ∧
        ∀ other, IsOrder (dependencyGraph steps) other → order = other ∨ order < other := by
  have hmem : ∀ id, id ∈ dependencyGraph steps ↔ id ∈ steps := fun _ => Std.ExtTreeMap.mem_map
  simp only [topologicalSort, do_eq_ok, not_not]
  refine ⟨not_mem_ready_finishSorting _, ⟨?_, ?_⟩, ?_⟩
  · rintro ⟨order, hlength, -⟩
    have h := isOrder_of_length hlength
    exact ⟨fun id d hneeds => (hmem d).mp (h.known hneeds), h.acyclic⟩
  · rintro ⟨hknown, hacyclic⟩
    have h := isOrder_topologicalOrder
      (mem_topologicalOrder_of_acyclic (fun hneeds => (hmem _).mpr (hknown _ _ hneeds)) hacyclic)
    refine ⟨_, ?_, rfl⟩
    rw [h.perm.length_eq, Std.ExtTreeMap.length_keys, size_dependencyGraph]
  · rintro order ⟨hlength, rfl⟩
    have h := isOrder_of_length hlength
    refine ⟨h, fun other hother => (topologicalOrder_least h hother).imp_right ?_⟩
    rintro ⟨l, a, b, t, u, hfound, rfl, hlt⟩
    rw [hfound, ← List.lex_lt]
    exact .append_left _ (.rel (compare_lt_iff_lt.mp hlt)) l

/-! ## Accepted definitions -/

def DependsOn (definition : WorkflowDefinition) (id dependency : String) : Prop :=
  ∃ step : WorkflowStep, definition.steps[id]? = some step ∧ dependency ∈ step.dependencies

/-- What `new` has checked. -/
structure Accepted (definition : WorkflowDefinition) : Prop where
  size : definition.steps.size ≤ maxWorkflowSteps
  known : ∀ id dependency, definition.DependsOn id dependency → dependency ∈ definition.steps
  compensation : ∀ (id : String) (step : WorkflowStep) c, definition.steps[id]? = some step →
    step.compensationStepId = some c →
    c ∈ definition.steps
  nodup : definition.topologicalOrder.Nodup
  order : ∀ id, id ∈ definition.topologicalOrder ↔ id ∈ definition.steps
  before : ∀ l id l', definition.topologicalOrder = l ++ id :: l' → ∀ dependency,
    definition.DependsOn id dependency → dependency ∈ l

theorem checkReferences_eq_ok {steps : BTreeMap String WorkflowStep} {step : WorkflowStep}
    (h : checkReferences steps step = .ok ()) :
    (∀ dependency ∈ step.dependencies, dependency ∈ steps) ∧
      ∀ c, step.compensationStepId = some c → c ∈ steps := by
  simp only [checkReferences, do_eq_ok, List.any_eq_true, not_exists, not_and, Bool.not_eq_true,
    Bool.not_eq_false', Std.ExtTreeSet.mem_toList] at h
  obtain ⟨hknown, hcompensation⟩ := h
  refine ⟨fun dependency hmem => Std.ExtTreeMap.mem_iff_contains.mpr (hknown dependency hmem), ?_⟩
  intro c hc
  simp only [hc, do_eq_ok] at hcompensation
  obtain ⟨compensation, hget, -⟩ := hcompensation
  exact mem_of_getElem? hget

theorem size_stepMap {steps : List WorkflowStep} {map : BTreeMap String WorkflowStep}
    (h : stepMap steps = .ok map) : map.size ≤ steps.length := by
  have hfold : ∀ (steps : List WorkflowStep) (map map' : BTreeMap String WorkflowStep),
      steps.foldlM addStep map = .ok map' → map'.size ≤ map.size + steps.length := by
    intro steps
    induction steps with
    | nil =>
      rintro map map' h
      cases h
      exact Nat.le_refl _
    | cons step steps ih =>
      intro map map' h
      simp only [List.foldlM_cons, addStep, do_eq_ok] at h
      obtain ⟨_, ⟨-, rfl⟩, hrest⟩ := h
      have hrest := ih _ _ hrest
      have hinsert : (map.insert step.stepId step).size ≤ map.size + 1 := Std.ExtTreeMap.size_insert_le
      rw [List.length_cons]
      omega
  have hsize := hfold steps ∅ map h
  simpa using hsize

variable {definition : WorkflowDefinition}

/-- **`new` accepts** only definitions with known references and a topological order. -/
theorem accepted_of_new {workflowId runId policySnapshotSha256 : String} {steps : List WorkflowStep}
    (h : new workflowId runId policySnapshotSha256 steps = .ok definition) :
    definition.Accepted := by
  simp only [new, topologicalSort, do_eq_ok, forM_eq_ok, not_not, not_or, not_lt] at h
  obtain ⟨-, -, -, ⟨-, hcount⟩, map, hmap, hreferences, order, ⟨hlength, rfl⟩, -, -, -, -, -, rfl⟩ := h
  have hstep : ∀ {id : String} {step : WorkflowStep}, map[id]? = some step →
      checkReferences map step = .ok () := fun hget =>
    hreferences _ (mem_values.mpr ⟨_, hget⟩)
  have horder := isOrder_of_length hlength
  exact {
    size := (size_stepMap hmap).trans hcount
    known := by
      rintro id dependency ⟨step, hget, hdependency⟩
      exact (checkReferences_eq_ok (hstep hget)).1 dependency hdependency
    compensation := fun id step c hget hc => (checkReferences_eq_ok (hstep hget)).2 c hc
    nodup := horder.nodup
    order := fun id => horder.mem.trans Std.ExtTreeMap.mem_map
    before := fun l id l' hsplit d hd => horder.before l id l' hsplit d (needs_dependencyGraph.mpr hd) }

theorem mem_compensationTargets {c : String} :
    c ∈ definition.compensationTargets ↔ ∃ id : String, ∃ step : WorkflowStep,
      definition.steps[id]? = some step ∧ step.compensationStepId = some c := by
  rw [compensationTargets, Std.ExtTreeSet.mem_ofList, List.contains_iff_mem, List.mem_filterMap]
  simp only [mem_values]
  constructor
  · rintro ⟨step, ⟨id, hget⟩, hc⟩
    exact ⟨id, step, hget, hc⟩
  · rintro ⟨id, step, hget, hc⟩
    exact ⟨step, ⟨id, hget⟩, hc⟩

end WorkflowDefinition

end BoundSeal.Workflow

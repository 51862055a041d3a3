import InferForge.Py.Json

/-! The recovery loop: run, fail, decide, act, rerun, under a budget. Brain, actions and rerun are
oracles that may answer by everything that happened before. -/
namespace InferForge
open Py

/-- What the failed node left behind. -/
structure FailureEvidence where
  node : Text
  state : Text
  reason : Text
  artifacts : List Text
  environment : Dict

/-- A decider's answer. -/
structure Decision where
  nextAction : Text
  diagnosis : Text
  facts : List Text
  hypotheses : List Text
  params : Dict
  confidence : Double
  evidenceRefs : List Text

namespace Decision

def blocked (reason : Text) : Decision where
  nextAction := "BLOCKED"
  diagnosis := reason
  facts := []
  hypotheses := []
  params := []
  confidence := .fin 1
  evidenceRefs := []

def toDict (decision : Decision) : Json :=
  .obj [("next_action", .str decision.nextAction), ("diagnosis", .str decision.diagnosis),
    ("facts", .arr (decision.facts.map Json.str)),
    ("hypotheses", .arr (decision.hypotheses.map Json.str)), ("params", .obj decision.params),
    ("confidence", .float decision.confidence),
    ("evidence_refs", .arr (decision.evidenceRefs.map Json.str))]

end Decision

/-- Everything a decider is allowed to know. -/
structure DecisionRequest where
  model : Text
  backend : Text
  failure : FailureEvidence
  /-- Prior decisions and their outcomes for this node. -/
  history : List Dict
  availableActions : List Text
  attemptsRemaining : Nat
  context : Dict
  skill : Dict

/-- `sorted(NEXT_ACTIONS)`. -/
def decisionActions : List Text :=
  ["BLOCKED", "DISPATCH_OPERATOR_TASK", "PLACE_PATCH", "REDISCOVER", "RETRY", "RETRY_WITH_PARAMS",
    "ROLLBACK", "RUN_TRIAGE"]

def rerunActions : List Text := ["RETRY", "RETRY_WITH_PARAMS"]

def Decision.reruns (decision : Decision) : Bool := rerunActions.contains decision.nextAction

/-- A call of an oracle, with its answer. -/
inductive OracleCall where
  | asked (request : DecisionRequest) (decision : Decision)
  /-- An action that raised has its message instead of a result. -/
  | acted (decision : Decision) (result : Except Text Json)
  | reran (decision : Decision) (passed : Bool) (state : Text)

structure RecoveryOutcome where
  status : Text
  attempts : List Dict
  finalState : Text
  lastDecision : Option Decision

/-- What happened so far, and the outcome as it stands. -/
structure Course where
  calls : List OracleCall
  outcome : RecoveryOutcome

structure RecoveryController where
  /-- `brain.decide`: an exception ends the recovery. -/
  brain : List OracleCall → DecisionRequest → Except Text Decision
  /-- The registry: the actions that this deployment can perform. -/
  actions : Text → Option (List OracleCall → Decision → Except Text Json)
  rerun : List OracleCall → Decision → Bool × Text
  budget : Nat
  positive : 1 ≤ budget

def decideWithBudget (brain : DecisionRequest → Except Text Decision) (request : DecisionRequest) :
    Except Text Decision := do
  let decision ← brain request
  if request.attemptsRemaining ≤ 0 ∧ decision.nextAction ≠ "BLOCKED" then
    return .blocked "recovery budget exhausted before this decision"
  else return decision

/-! Entries of the history. -/

def blockedEntry (decision : Decision) : Dict :=
  [("decision", decision.toDict), ("outcome", .str "blocked")]

def missingEntry (decision : Decision) : Dict :=
  [("decision", decision.toDict), ("outcome", .str "no_executor_registered")]

def actionEntry (decision : Decision) : Except Text Json → Dict
  | .ok result => [("decision", decision.toDict), ("outcome", .str "action_complete"),
      ("result", result)]
  | .error message => [("decision", decision.toDict), ("outcome", .str "action_failed"),
      ("error", .str message)]

def rerunEntry (decision : Decision) (passed : Bool) (state : Text) : Dict :=
  [("decision", decision.toDict),
    ("outcome", .str (if passed then "node_passed" else "node_still_failing")), ("state", .str state)]

namespace Course

def calling (course : Course) (call : OracleCall) : Course :=
  { course with calls := course.calls ++ [call] }

/-- `history.append`. -/
def recording (course : Course) (entry : Dict) : Course :=
  { course with outcome :=
    { course.outcome with attempts := course.outcome.attempts ++ [entry] } }

end Course

/-- How a round of the loop ends. -/
inductive Turn where
  | again
  | returned
  | raised (message : Text)
deriving DecidableEq

namespace RecoveryController
variable (controller : RecoveryController) (request : DecisionRequest)

/-- The request of a round. -/
def ask (history : List Dict) (remaining : Nat) : DecisionRequest :=
  { request with history, availableActions := decisionActions, attemptsRemaining := remaining }

/-- The rerun that is the action of a decision. -/
def performRerun (decision : Decision) (course : Course) : Course × Turn :=
  let (passed, state) := controller.rerun course.calls decision
  let course := course.calling (.reran decision passed state)
  let course := { course with outcome := { course.outcome with
    status := if passed then "RECOVERED" else course.outcome.status
    finalState := state } }
  (course.recording (rerunEntry decision passed state), if passed then .returned else .again)

/-- An action that fails is the next input. -/
def performAction (decision : Decision)
    (executor : List OracleCall → Decision → Except Text Json) (course : Course) : Course × Turn :=
  let result := executor course.calls decision
  ((course.calling (.acted decision result)).recording (actionEntry decision result), .again)

/-- What follows a decision. -/
def perform (decision : Decision) (course : Course) : Course × Turn :=
  if decision.nextAction = "BLOCKED" then (course.recording (blockedEntry decision), .returned)
  else if decision.reruns then controller.performRerun decision course
  else
    match controller.actions decision.nextAction with
    | none => (course.recording (missingEntry decision), .returned)
    | some executor => performAction decision executor course

/-- One round of the loop. -/
def round (remaining : Nat) (course : Course) : Course × Turn :=
  let asking := ask request course.outcome.attempts remaining
  match decideWithBudget (controller.brain course.calls) asking with
  | .error message => (course, .raised message)
  | .ok decision =>
      let course := course.calling (.asked asking decision)
      controller.perform decision
        { course with outcome := { course.outcome with lastDecision := some decision } }

/-- `while remaining > 0`; an exception of the brain comes out as its message. -/
def rounds : Nat → Course → Course × Option Text
  | 0, course => (course, none)
  | remaining + 1, course =>
      match controller.round request (remaining + 1) course with
      | (course, .again) => rounds remaining course
      | (course, .returned) => (course, none)
      | (course, .raised message) => (course, some message)

def recover : Course × Option Text :=
  controller.rounds request controller.budget
    ⟨[], ⟨"BLOCKED", [], request.failure.state, none⟩⟩

end RecoveryController
end InferForge

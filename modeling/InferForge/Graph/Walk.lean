import InferForge.Graph.Nodes
import Mathlib.Logic.Function.Basic

/-! The walk of a task graph: `_run` from its loop on. What the loop calls in other modules, and
what the commands of a node do, is the answer of a `Round`, one for each iteration. -/
namespace InferForge.Graph
open Py

/-- What a call may raise, as far as the walk's handlers tell it apart. -/
inductive GraphFault where
  | unresolved (message : Text)
  | skill (message : Text)
  | raised (e : Exn)
  | other (message : Text)

namespace GraphFault

/-- `except (OSError, SkillResolutionError)`. -/
def unskilled : GraphFault → Bool
  | .skill _ => true
  | .raised e => e.kind == .osError
  | _ => false

/-- `except WritePolicyError: raise` before `except (Unresolved, KeyError, ValueError, OSError)`. -/
def unplanned : GraphFault → Bool
  | .unresolved _ => true
  | .raised e => e.kind != .writePolicyError &&
      (e.kind == .keyError || e.isValueError || e.kind == .osError)
  | _ => false

/-- `except (OSError, ValueError)`. -/
def refused : GraphFault → Bool
  | .raised e => e.kind == .osError || e.isValueError
  | _ => false

/-- `except (OSError, ValueError, KeyError, TypeError)`. -/
def rejected : GraphFault → Bool
  | .raised e => e.isRejection
  | _ => false

/-- `except (OSError, ValueError, KeyError, TypeError, AttributeError)` of `run`. -/
def blocked : GraphFault → Bool
  | .raised e => e.isRejection || e.kind == .attributeError
  | _ => false

end GraphFault

/-! Workflows. -/

/-- `node["id"]`. -/
def nodeId (node : Dict) : Text :=
  match Dict.getD node "id" .null with
  | .str id => id
  | _ => ⟨[]⟩

/-- Nodes with unique nonempty identities. -/
structure Workflow where
  nodes : List Dict
  nonempty : nodes ≠ []
  named : ∀ node ∈ nodes, (nodeId node).blank = false
  unique : (nodes.map nodeId).Nodup

/-- `load_workflow`, from the parsed document; `none` is a `YAMLError`. -/
def loadWorkflow (document : Option Json) : Except Exn Workflow :=
  match document.elim (.error (.value "")) fun document => do (← document.item "spec").item "nodes" with
  | .error _ => .error (.value "workflow must declare spec.nodes")
  | .ok nodes =>
      match nodes with
      | .arr items =>
          let dicts := items.filterMap Json.dict?
          if valid : dicts ≠ [] ∧ dicts.length = items.length ∧
              (∀ node ∈ dicts, (nodeId node).blank = false) ∧ (dicts.map nodeId).Nodup then
            .ok ⟨dicts, valid.1, valid.2.2.1, valid.2.2.2⟩
          else .error (.value "workflow nodes must have unique nonempty identities")
      | _ => .error (.value "workflow nodes must have unique nonempty identities")

namespace Workflow
variable (workflow : Workflow)

/-- `order`. -/
def ids : List Text := workflow.nodes.map nodeId

/-- `by_id.get(current)`. -/
def byId (id : Text) : Option Dict := workflow.nodes.find? fun node => nodeId node == id

/-- `target in by_id`, and the target: a list or a dict is not hashable. -/
def target (value : Json) : Except GraphFault (Option Text) :=
  match value with
  | .str id => .ok (if id ∈ workflow.ids then some id else none)
  | .arr _ | .obj _ => .error (.raised (.type "unhashable type"))
  | _ => .ok none

end Workflow

/-! One iteration. -/

structure Args where
  execute : Bool
  resume : Bool
  autoRecover : Bool
  /-- Whether a scheduler bridge is open. -/
  bridge : Bool
  fromNode : Option Text
  untilNode : Option Text

/-- The receipt of a delivery, and how it is recorded. -/
structure Delivery where
  /-- `evidence_mode == "simulation"`. -/
  simulation : Bool
  /-- Collecting the facts. -/
  facts : Except GraphFault Unit
  /-- The gates, the fact checks and the writing of the receipt in `_finalize`. -/
  verdict : Except GraphFault Unit
  /-- Recording the receipt, and the commit of the transaction around it. -/
  recorded : Except GraphFault Unit
  /-- Recording the failure of a delivery. -/
  withdrawn : Except GraphFault Unit
  /-- The entry in the task memory. -/
  remembered : Except GraphFault Unit

/-- What one command of a node does. -/
structure CommandRound where
  /-- `target.mkdir(...)`. -/
  directory : Except GraphFault Unit
  /-- `command_skill_contract_path`. -/
  contract : Except GraphFault Unit
  /-- The log directory and the watch. -/
  watch : Except GraphFault Unit
  /-- `run_logged`: the exit code. -/
  ran : Except GraphFault Int
  /-- Registering a blocked attempt after an exception. -/
  registered : Except GraphFault Unit

/-- The answers of one iteration, in the order in which the walk may ask for them. -/
structure Round where
  /-- `node_task_type`; an empty task has none. -/
  taskType : Except GraphFault (Option Text)
  /-- `resolve_for_context` and `execution_contract`. -/
  skill : Except GraphFault Unit
  /-- `reusable_fact(...) is not None`. -/
  prior : Except GraphFault Bool
  inputsCurrent : Except GraphFault Bool
  /-- `bridge.delivery_status()["state"]`. -/
  deliveryState : Except GraphFault Json
  /-- The block of a reused fact in the task memory. -/
  reuse : Except GraphFault Unit
  /-- `resolve` or `fan_out_plan`, with the attempt of a fan-out. -/
  plan : Except GraphFault Unit
  /-- The attempt, its snapshot and its block in the task memory. -/
  start : Except GraphFault Unit
  commands : List CommandRound
  /-- `read_status(artifacts, spec)` after the commands. -/
  payload : Except GraphFault Dict
  /-- The failure record, the manifest, the fact and the finished block. -/
  record : Except GraphFault Unit
  /-- `torch_shim_registry.json` exists. -/
  registry : Bool
  /-- `bridge.dispatch_shims(artifacts)["state"]`. -/
  dispatch : Except GraphFault Json
  /-- The block of a shim dispatch in the task memory. -/
  dispatched : Except GraphFault Unit
  /-- `bridge.bind_environment(artifacts)`. -/
  bind : Except GraphFault Unit
  /-- `attempt_recovery`: the status payload and the exit code of its last rerun. It reruns the node
  until it passes or its budget is spent. -/
  recovery : Except GraphFault (Option (Dict × Int))
  /-- The recovered block in the task memory. -/
  recovered : Except GraphFault Unit
  /-- The observed issue in the task memory. -/
  issue : Except GraphFault Unit
  /-- `bind_proven_environment`. -/
  rebind : Except GraphFault Unit
  delivery : Delivery

/-- How the work of an iteration ended for its node. -/
inductive Work where
  | planned
  | reused
  | passed
  | recovered
  | failed
  /-- Executed, and the walk ended before its outcome was used. -/
  | stopped
deriving DecidableEq, Repr

/-- How the walk ends: a `break` or the end of the loop, a `return`, or an exception. -/
inductive Ending where
  | leave (reason : Text)
  | exit (code : Int) (reason : Text)
  | delivered (state : Text)
  | raised (fault : GraphFault)

/-- What an iteration does next: another node, or the end of the walk. -/
abbrev Next := Except Ending (Option Text)

/-- A call without a handler of its own. -/
def call (result : Except GraphFault α) : Except Ending α := result.mapError .raised

def leave (reason : String) : Except Ending α := .error (.leave reason)
def exit (code : Int) (reason : String) : Except Ending α := .error (.exit code reason)

/-- A delivery that failed: `finalize` withdraws it and raises the exception again. -/
def Delivery.withdraw (delivery : Delivery) (fault : GraphFault) : Except Ending α := do
  call (if fault.rejected then delivery.withdrawn else .ok ())
  if fault.refused then exit 2 "DELIVERY_GATE" else call (.error fault)

/-- `finish_scheduled_graph`, with `finalize`. -/
def Delivery.finish (delivery : Delivery) : Except Ending α := do
  call delivery.facts
  match (do delivery.verdict; delivery.recorded) with
  | .error fault => delivery.withdraw fault
  | .ok () => do
      call delivery.remembered
      .error (.delivered (if delivery.simulation then "SIMULATION_PASS" else "FUNCTIONAL_READY"))

section Iteration
variable (workflow : Workflow) (args : Args) (current : Text) (node : Dict) (round : Round)

def onSuccess : Json := Dict.getD node "on_success" .null
def onFailure : Json := Dict.getD node "on_failure" (.str "NEEDS_HUMAN")

def untilReached : Bool := args.untilNode == some current

/-- The end of the run at `--until-node`. -/
def stopAtUntil : Except Ending Unit :=
  if untilReached args current then
    exit 0 (if args.execute then "UNTIL_NODE_REACHED" else "PLAN_COMPLETE")
  else .ok ()

/-- The target `DELIVERED` of a scheduled graph that is executed. -/
def delivers (target : Json) : Bool := args.bridge && args.execute && target.eq (.str "DELIVERED")

/-- The success edge of a reused node: a delivery goes before a node of that name. -/
def followReused (target : Json) : Next :=
  if delivers args target then round.delivery.finish else call (workflow.target target)

/-- The success edge of an executed node: a node goes before a delivery. -/
def followPassed (target : Json) : Next := do
  match ← call (workflow.target target) with
  | some id => return some id
  | none => if delivers args target then round.delivery.finish else leave "WORKFLOW_STOPPED"

/-- A fact is reused if its inputs are current; the width of a fan-out is not compared. -/
def freshFact (spec : NodeSpec) (found : Bool) : Except Ending Bool :=
  if spec.fanOut.isSome then .ok false
  else if found then call round.inputsCurrent
  else .ok false

/-- `prior`, after the conditions under which a fact is not reused. -/
def priorFact (spec : NodeSpec) : Except Ending Bool := do
  let found ← call round.prior
  let fresh ← freshFact round spec found
  let live := args.bridge && [Text.ofString "OperatorTaskDispatch", "OperatorIntegration",
    "TorchShimRegistry"].contains spec.produces
  if args.bridge && [Text.ofString "DeploymentProof", "AccuracyDifferential",
      "SupportMatrixEntry"].contains spec.produces then do
    let state ← call round.deliveryState
    return fresh && !live && !state.eq (.str "OPERATORS_READY")
  else return fresh && !live

/-- The reuse branch. -/
def reuseNode : Next := do
  call round.reuse
  stopAtUntil args current
  followReused workflow args round (onSuccess node)

/-- The commands of a node, up to the first exception. -/
def runCommands : Int → List CommandRound → Except Ending Int
  | returncode, [] => .ok returncode
  | returncode, command :: rest => do
      call command.directory
      match command.contract with
      | .error fault =>
          if fault.unskilled then exit 2 "SKILL_UNRESOLVED" else call (.error fault)
      | .ok () => do
          call command.watch
          match command.ran with
          | .error fault => do
              call (if fault.refused then command.registered else .ok ())
              call (.error fault)
          | .ok code => runCommands (if returncode = 0 then code else returncode) rest

/-- The dispatch of a shim registry to the scheduler. -/
def dispatchShims (spec : NodeSpec) : Except Ending Unit :=
  if args.bridge && spec.produces == "TorchShimRegistry" && round.registry then do
    let state ← call round.dispatch
    call round.dispatched
    if state.eq (.str "DISPATCHED") || state.eq (.str "DISPATCH_SKIPPED") then .ok ()
    else exit 2 "SHIM_DISPATCH_BLOCKED"
  else .ok ()

/-- A scheduled operator node that did not pass ends the walk. -/
def operatorGate (spec : NodeSpec) (state : Text) (passed : Bool) : Except Ending Unit :=
  if args.bridge && [Text.ofString "OperatorTaskDispatch", "OperatorIntegration"].contains
      spec.produces && !passed then
    if state = "WAITING_FOR_OPERATORS" then .error (.exit 3 state) else .error (.exit 2 state)
  else .ok ()

/-- A failed environment node goes to the bridge, and the walk ends whatever it says. -/
def environmentFailed : Except Ending Unit :=
  match round.bind with
  | .error (.raised e) =>
      if e.isValueError then exit 2 "ENVIRONMENT_FAILED" else call (.error (.raised e))
  | .error fault => call (.error fault)
  | .ok () => exit 2 "ENVIRONMENT_COMMAND_FAILED"

def environmentGate (spec : NodeSpec) (passed : Bool) : Except Ending Unit :=
  if spec.produces = "EnvironmentProof" ∧ !passed then
    if args.bridge then environmentFailed round else exit 2 "ENVIRONMENT_FAILED"
  else .ok ()

def triageGate (spec : NodeSpec) (state : Text) : Except Ending Unit :=
  if spec.produces = "FailureTriage" ∧ state = "NEEDS_HUMAN" then exit 2 "FAILURE_DIAGNOSIS_REQUIRED"
  else .ok ()

/-- A new environment proof replaces the bound one. -/
def bindProof (spec : NodeSpec) : Except Ending Unit :=
  if spec.produces = "EnvironmentProof" then do
    call (if args.bridge then round.bind else .ok ())
    match round.rebind with
    | .error (.unresolved _) => exit 2 "ENVIRONMENT_MISMATCH"
    | .error fault => call (.error fault)
    | .ok () => .ok ()
  else .ok ()

/-- A node that did not pass may be recovered; otherwise the issue is recorded. -/
def recover : Except Ending Work := do
  let last ← call (if args.autoRecover then round.recovery else .ok none)
  if last.any fun rerun => nodePassed rerun.1 rerun.2 then do
    call round.recovered
    return .recovered
  else do
    call round.issue
    return .failed

/-- The commands and what follows from their outcome. -/
def executeNode (spec : NodeSpec) : Except Ending Work := do
  call round.start
  let returncode ← runCommands 0 round.commands
  let payload ← call round.payload
  let passed := nodePassed payload returncode
  call round.record
  dispatchShims args round spec
  operatorGate args spec (readState payload) passed
  environmentGate args round spec passed
  triageGate spec (readState payload)
  if passed then return .passed else recover args round

/-- The body of the loop behind the visit guard: the work done on the node, if any, and what
comes next. -/
def visit : Option Work × Next :=
  match call round.taskType with
  | .error ending => (none, .error ending)
  | .ok taskType =>
      match taskType with
      | none => (none, call (.error (.raised (.type "'NoneType' object is not subscriptable"))))
      | some taskType =>
          match round.skill with
          | .error fault =>
              (none, if fault.unskilled then leave "SKILL_UNRESOLVED" else call (.error fault))
          | .ok () =>
              match nodes.lookup taskType with
              | none => (none, leave "NO_EXECUTOR")
              | some spec =>
                  match priorFact args round spec with
                  | .error ending => (none, .error ending)
                  | .ok prior =>
                      if args.resume && prior then
                        (some .reused, reuseNode workflow args current node round)
                      else match round.plan with
                        | .error fault =>
                            (none, if fault.unplanned then exit 2 "INPUT_UNRESOLVED"
                              else call (.error fault))
                        | .ok () =>
                            if args.execute then
                              match executeNode args round spec with
                              | .error ending => (some .stopped, .error ending)
                              | .ok .failed =>
                                  (some .failed, call (workflow.target (onFailure node)))
                              | .ok work => (some work, do
                                  bindProof args round spec
                                  stopAtUntil args current
                                  followPassed workflow args round (onSuccess node))
                            else (some .planned, do
                              stopAtUntil args current
                              followPassed workflow args round (onSuccess node))

end Iteration

/-! The loop. -/

structure State where
  current : Option Text
  /-- `visits`. -/
  visits : Text → Nat
  /-- What was executed, reused or planned, the newest first. -/
  log : List (Text × Work)
  iterations : Nat

/-- One iteration of the loop at `current`, or how the walk ends there. -/
def iterate (workflow : Workflow) (args : Args) (round : Round) (current : Text) (s : State) :
    State × Option Ending :=
  let s := { s with iterations := s.iterations + 1 }
  let node := workflow.byId current
  let task := (node.map fun node => Dict.getD node "task" .null).getD .null
  if task.isNull || task.eq (.str "PLANNED") then (s, some (.leave "NO_CONTRACT"))
  else
    let s := { s with visits := Function.update s.visits current (s.visits current + 1) }
    if 3 < s.visits current then (s, some (.leave "FAILURE_EDGE_CYCLE"))
    else
      let (work, next) := visit workflow args current (node.getD []) round
      let s := { s with log := (work.map fun work => (current, work)).toList ++ s.log }
      match next with
      | .error ending => (s, some ending)
      | .ok target => ({ s with current := target }, none)

/-- `while current:`, for at most `fuel` iterations; round `n` answers iteration `n`. -/
def loop (workflow : Workflow) (args : Args) (rounds : Nat → Round) (fuel : Nat) (s : State) :
    Option (Ending × State) :=
  match s.current, fuel with
  | none, _ => some (.leave "WORKFLOW_STOPPED", s)
  | some _, 0 => none
  | some current, fuel + 1 =>
      match iterate workflow args (rounds s.iterations) current s with
      | (s, some ending) => some (ending, s)
      | (s, none) => loop workflow args rounds fuel s

/-- `order[order.index(args.from_node)]`, or the first node. -/
def begin (workflow : Workflow) (args : Args) : Except Exn State :=
  match args.fromNode with
  | none => .ok ⟨workflow.ids.head?, fun _ => 0, [], 0⟩
  | some id =>
      if id ∈ workflow.ids then .ok ⟨some id, fun _ => 0, [], 0⟩
      else .error (.value "is not in list")

/-- The exit code of `run`; `none` is an exception it does not catch. -/
def Ending.code (args : Args) : Ending → Option Int
  | .leave _ => some (if args.bridge && args.execute then 2 else 0)
  | .exit code _ => some code
  | .delivered _ => some 0
  | .raised fault => if fault.blocked then some 2 else none

end InferForge.Graph

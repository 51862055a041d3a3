import InferForge.Coerce
import InferForge.Lifecycle

/-! The persisted records of an adaptation run, and the report a failure becomes.
Times that only document a record (a run's `created_at`, every `updated_at`) and
schema versions nothing reads are left out; `created_at` of tasks and the timestamps
of events stay, because queries are ordered by them. -/
namespace InferForge
open Py

inductive Stage where
  | torch | xpu | integration | diagnosis
deriving DecidableEq, Repr

namespace Stage

def text : Stage → Text
  | .torch => "torch"
  | .xpu => "xpu"
  | .integration => "integration"
  | .diagnosis => "diagnosis"

theorem text_injective {a b : Stage} (same : a.text = b.text) : a = b := by
  cases a <;> cases b <;> first | rfl | exact absurd same (by decide)

/-- The stage after this one in `_STAGES`. -/
def next? : Stage → Option Stage
  | .torch => some .xpu
  | .xpu => some .integration
  | .integration | .diagnosis => none

/-- The stage before this one in `_STAGES`. -/
def prev? : Stage → Option Stage
  | .xpu => some .torch
  | .integration => some .xpu
  | .torch | .diagnosis => none

def ofText? (t : Text) : Option Stage :=
  [Stage.torch, .xpu, .integration, .diagnosis].find? fun stage => stage.text = t

end Stage

export Lifecycle (Status)

def statusText : Status → Text
  | .pending => "pending"
  | .running => "running"
  | .succeeded => "succeeded"
  | .failed => "failed"

/-- The keys `record_graph_transition` accepts; each is also an event type. -/
inductive GraphKey where
  | environmentRequired | environment | discovery | shimDiscovery | delivery | progress
deriving DecidableEq, Repr

namespace GraphKey

def text : GraphKey → Text
  | .environmentRequired => "graph_environment_required"
  | .environment => "graph_environment"
  | .discovery => "graph_discovery"
  | .shimDiscovery => "graph_shim_discovery"
  | .delivery => "graph_delivery"
  | .progress => "graph_progress"

def ofText? (t : Text) : Option GraphKey :=
  [GraphKey.environmentRequired, .environment, .discovery, .shimDiscovery, .delivery,
    .progress].find? fun key => key.text = t

end GraphKey

inductive EventType where
  | runCreated | environmentBound | environmentFailed | graph (key : GraphKey)
  | operatorDiscovered | taskCreated | runWorkspaceBound | taskClaimed | leaseRenewed
  | taskSucceeded | diagnosticCompleted | taskFailed
  | diagnosisTaskCreated | diagnosisTaskReopened | diagnosisApplied | runReconciled
deriving DecidableEq, Repr

structure TaskEvent where
  runId : Text
  eventType : EventType
  taskId : Option Text
  payload : Dict
  timestamp : Time

structure AdaptationRun where
  runId : Text
  modelId : Text
  modelRevision : Text
  pluginRevision : Text
  backend : Text
  status : Text
  environment : Dict
  metadata : Dict

/-- A report may give any JSON value for a field. -/
structure IOSpec where
  name : Json
  dtype : Json
  shape : Json
  layout : Json

namespace IOSpec

def toDict (spec : IOSpec) : Json :=
  .obj [("name", spec.name), ("dtype", spec.dtype), ("shape", spec.shape), ("layout", spec.layout)]

/-- `not str(value).strip()`: only a string can be blank. -/
def blank : Json → Bool
  | .str t => t.blank
  | _ => false

/-- `__post_init__`: names must not be blank and a shape must be given. -/
def Valid (spec : IOSpec) : Prop :=
  blank spec.name = false ∧ blank spec.dtype = false ∧ blank spec.layout = false ∧
    spec.shape.isNull = false

instance (spec : IOSpec) : Decidable spec.Valid :=
  inferInstanceAs (Decidable (_ ∧ _ ∧ _ ∧ _))

def sample : IOSpec := ⟨.str "x", .str "float32", .arr [], .str "nd"⟩

theorem sample_valid : sample.Valid := by
  unfold Valid
  decide +kernel

end IOSpec

/-- A measured operator contract. Construction runs `__post_init__`, so a specification
that reaches the scheduler has passed its checks. -/
structure OperatorSpec where
  operatorId : Text
  modelId : Text
  modelRevision : Text
  pluginRevision : Text
  backend : Text
  inputs : List IOSpec
  outputs : List IOSpec
  semantics : Dict
  evidence : Dict
  environment : Dict
  named : operatorId.isEmpty = false ∧ modelId.isEmpty = false ∧ backend.isEmpty = false
  shaped : inputs ≠ [] ∧ outputs ≠ [] ∧ semantics ≠ []
  io : (∀ x ∈ inputs, x.Valid) ∧ ∀ x ∈ outputs, x.Valid

namespace OperatorSpec

def toDict (spec : OperatorSpec) : Json :=
  .obj [("operator_id", .str spec.operatorId), ("model_id", .str spec.modelId),
    ("model_revision", .str spec.modelRevision), ("plugin_revision", .str spec.pluginRevision),
    ("backend", .str spec.backend), ("inputs", .arr (spec.inputs.map IOSpec.toDict)),
    ("outputs", .arr (spec.outputs.map IOSpec.toDict)), ("semantics", .obj spec.semantics),
    ("evidence", .obj spec.evidence), ("environment", .obj spec.environment),
    ("schema_version", .int 1)]

/-- The fields an operator key is derived from. -/
def identity (spec : OperatorSpec) : Json :=
  .obj [("model_id", .str spec.modelId), ("model_revision", .str spec.modelRevision),
    ("plugin_revision", .str spec.pluginRevision), ("backend", .str spec.backend),
    ("environment", .obj spec.environment), ("semantics", .obj spec.semantics),
    ("inputs", .arr (spec.inputs.map IOSpec.toDict)),
    ("outputs", .arr (spec.outputs.map IOSpec.toDict))]

def sample : OperatorSpec where
  operatorId := "op"
  modelId := "model"
  modelRevision := "1"
  pluginRevision := "1"
  backend := "xpu"
  inputs := [IOSpec.sample]
  outputs := [IOSpec.sample]
  semantics := [("op", .str "add")]
  evidence := []
  environment := []
  named := by decide +kernel
  shaped := by decide +kernel
  io := by simpa using IOSpec.sample_valid

/-- The SHA-256 of the canonical specification; encoding it can fail on a lone surrogate. -/
def operatorKey (host : Host) (spec : OperatorSpec) : Except Exn Text :=
  if spec.identity.encodable then .ok (host.sha256 (host.dumps spec.identity).utf8)
  else .error (.unicode "surrogates not allowed")

end OperatorSpec

structure Lease where
  token : Text
  worker : Text
  expires : Time
deriving DecidableEq

/-- A row of the `tasks` table. The three lease columns are written together. -/
structure TaskRow where
  taskId : Text
  runId : Text
  operatorKey : Text
  stage : Stage
  status : Status
  attempt : Nat
  input : Dict
  output : Dict
  lease : Option Lease
  createdAt : Time

/-- What `EventStore._task` shows of a row. A diagnosis row shows the operator key and
the source task of its input. -/
structure Task where
  taskId : Text
  runId : Text
  operatorKey : Json
  sourceTaskId : Json
  stage : Stage
  status : Status
  attempt : Nat
  input : Dict
  output : Dict
  lease : Option Lease

def TaskRow.view (row : TaskRow) : Task where
  taskId := row.taskId
  runId := row.runId
  operatorKey :=
    if row.stage = .diagnosis then Dict.getD row.input "operator_key" (.str row.operatorKey)
    else .str row.operatorKey
  sourceTaskId :=
    if row.stage = .diagnosis then Dict.getD row.input "source_task_id" (.str "") else .null
  stage := row.stage
  status := row.status
  attempt := row.attempt
  input := row.input
  output := row.output
  lease := row.lease

/-- Structured evidence passed to a diagnostic worker. -/
structure BugReport where
  sourceTaskId : Text
  errorType : Text
  message : Text
  traceback : Json
  context : Mapping
  occurredAt : Double
  metadata : Mapping
  schemaVersion : Int

namespace BugReport

/-- `BugReport.from_error`; `now` is the reading behind the default `occurred_at`. -/
def fromError (host : Host) (now : Time) (sourceTaskId : Text) (error : Json) :
    Except Exn BugReport :=
  match error with
  | .obj payload => do
      let source := host.str (Dict.getD payload "source_task_id" (.str sourceTaskId))
      let payload := Dict.erase payload "source_task_id"
      let kind := host.str
        (Dict.getD payload "error_type" (Dict.getD payload "type" (.str "unknown")))
      let payload := Dict.erase (Dict.erase payload "type") "error_type"
      let given := Dict.getD payload "message" .null
      let payload := Dict.erase payload "message"
      let message := if given.isNull then Dict.getD payload "error" (.str "") else given
      let payload := if given.isNull then Dict.erase payload "error" else payload
      let traceback := Dict.getD payload "traceback" .null
      let payload := Dict.erase payload "traceback"
      let context ← Json.toMappingOr (Dict.getD payload "context" (.obj []))
      let payload := Dict.erase payload "context"
      let occurredAt ← Json.toDouble host (Dict.getD payload "occurred_at" (.float (.fin now)))
      let payload := Dict.erase payload "occurred_at"
      let schemaVersion ← Json.toInt host (Dict.getD payload "schema_version" (.int 1))
      let payload := Dict.erase payload "schema_version"
      let metadata ← Json.toMappingOr (Dict.getD payload "metadata" (.obj []))
      let payload := Dict.erase payload "metadata"
      return {
        sourceTaskId := source, errorType := kind, message := host.str message,
        traceback, context, occurredAt, schemaVersion
        metadata := Mapping.merge metadata (Mapping.ofDict payload) }
  | _ => .ok {
      sourceTaskId, errorType := "unknown"
      message := if error.truthy then host.str error else ""
      traceback := .null, context := [], occurredAt := .fin now, metadata := []
      schemaVersion := 1 }

/-- `to_dict`, as the document `json.dumps` makes of it. -/
def dumped (host : Host) (report : BugReport) : Except Exn Json := do
  let context ← report.context.dumped host
  let metadata ← report.metadata.dumped host
  return .obj [("source_task_id", .str report.sourceTaskId),
    ("error_type", .str report.errorType), ("message", .str report.message),
    ("traceback", report.traceback), ("context", .obj context),
    ("occurred_at", .float report.occurredAt), ("metadata", .obj metadata),
    ("schema_version", .int report.schemaVersion)]

/-- No key of the two free-form parts is a `NaN` or an infinity. -/
def finiteKeys (report : BugReport) : Bool :=
  report.context.finiteKeys && report.metadata.finiteKeys

end BugReport
end InferForge

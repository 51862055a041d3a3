import InferForge.Bridge.Delivery
import InferForge.Validators.Accuracy
import InferForge.Validators.Shim

/-! The evidence a delivery is compared with: the frozen serving baseline and the integration
report. -/
namespace InferForge
open Py Effect Sched ResultValidation

/-- `"; ".join(errors)`, raised if there are any. -/
def refuseAll (errors : List Text) : Except Exn Unit :=
  refuse (!errors.isEmpty) (.value (Text.join "; " errors))

def accuracyErrors (host : Host) (report : Dict) : Except Exn (List Text) :=
  match Dict.getD report "cases" .null, Dict.getD report "reference" .null,
      Dict.getD report "candidate" .null with
  | .arr cases, .obj _, .obj _ =>
      if cases.all Json.isDict then
        validateAccuracyReport host report [("require_top1_match_on_all_cases", .bool true)]
      else .ok ["accuracy evidence requires case objects and reference/candidate objects"]
  | _, _, _ => .ok ["accuracy evidence requires case objects and reference/candidate objects"]

def deploymentErrors (report : Dict) : Except Exn (List Text) :=
  if (Dict.getD report "checks" .null).isDict && (Dict.getD report "artifacts" .null).isList then
    validateDeploymentStatus report
  else .ok ["deployment evidence requires checks and an artifact list"]

namespace Bridge

section Baseline
variable (host : Host) (disk : Disk) (bridge : Bridge) (run : AdaptationRun)

def checkService (path : Path) (report : Dict) : Except Exn Unit := do
  refuseAll (← deploymentErrors report)
  let names ← (Dict.getD report "artifacts" (.arr [])).elements
  let _ ← artifactFiles host disk path.parent names

/-- `report.get("revision") in (None, run.model_revision)`. -/
def revisionMatches (report : Dict) : Bool :=
  let revision := Dict.getD report "revision" .null
  revision.eq .null || revision.eq (.str run.modelRevision)

def referencePath (baselinePath : Path) (artifact : Json) : Except Exn Path := do
  let path ← pathOf artifact
  if path.isAbsolute then return path else return baselinePath.parent.join path

/-- One round of `validate_baseline`, over `service` and `accuracy`. -/
def checkReference (baselinePath : Path) (baseline : Dict) (field expected : Text) : Except Exn Unit := do
  let reference := Dict.getD baseline field (.obj [])
  let state ← reference.field "state"
  let artifact ← reference.field "artifact"
  refuse (!state.eq (.str expected) || !artifact.truthy)
    (.value ("baseline " ++ field ++ " must reference passed evidence"))
  let path ← referencePath baselinePath artifact
  let resolved ← disk.resolve path
  refuse (!resolved.isRelativeTo bridge.artifactRoot)
    (.value ("baseline " ++ field ++ " evidence belongs to another run"))
  let owner ← locateAttempt host disk path
  refuse (!owner.any fun attempt => attempt.runId == bridge.runId)
    (.value ("baseline " ++ field ++ " evidence lacks managed run provenance"))
  let report ← loadObject host disk path
  bridge.checkIdentity run (.obj report) false false
  refuse (field = "accuracy" && !revisionMatches run report)
    (.value "baseline accuracy model revision does not match run")
  refuse (!(Dict.getD report "state" (Dict.getD report "status" .null)).eq (.str expected))
    (.value ("baseline " ++ field ++ " evidence is not passing"))
  let file ← fileEvidence host disk path
  refuse (!(← reference.field "sha256").eq (.str file.sha256))
    (.value ("baseline " ++ field ++ " evidence hash changed"))
  if field = "service" then checkService host disk path report
  else refuseAll (← accuracyErrors host report)

def validateBaseline (baselinePath : Path) : Except Exn Dict := do
  let baseline ← loadObject host disk baselinePath
  bridge.checkIdentity run (.obj baseline) false false
  bridge.checkIdentity run (Dict.getD baseline "environment" (.obj [])) false false
  refuse (!(Dict.getD baseline "status" .null).eq (.str "FROZEN") ||
      !(Dict.getD baseline "baseline_id" .null).truthy) (.value "serving baseline must be FROZEN")
  refuse (!(Dict.getD baseline "subject" .null).eq (.str bridge.subject))
    (.value "serving baseline subject does not match run")
  checkReference host disk bridge run baselinePath baseline "service" "DEPLOYMENT_READY"
  checkReference host disk bridge run baselinePath baseline "accuracy" "ACCURACY_PASS"
  return baseline

end Baseline

section Integration
variable (host : Host) (disk : Disk)

/-- `EventStore(path, readonly=True)`, for the databases there are. -/
abbrev Stores := Path → Except Exn Store

/-- The read-only bridge that `validate_integration` opens, with its checks of the run. -/
def openIntegration (stores : Stores) (report : Dict) : Except Exn (Bridge × Store × AdaptationRun) := do
  let state ← pathOf (← (Json.obj report).item "scheduler_state")
  let runId ← (Json.obj report).item "run_id"
  let subject ← (Json.obj report).item "subject"
  let root ← pathOf (← (Json.obj report).item "artifact_root")
  let state ← ensureExternal disk state
  let root ← ensureExternal disk root
  let db ← stores state
  match runId, subject with
  | .str runId, .str subject =>
      match db.run? runId with
      | none => throw (.value ("unknown adaptation run: " ++ runId))
      | some run => do
          refuse (run.modelId ≠ subject) (.value "graph subject does not match adaptation run model")
          let given := Dict.getD run.metadata "artifact_root" .null
          refuse (!given.truthy) (.value "graph artifact root does not match adaptation run")
          let owned ← ensureExternal disk (← pathOf given)
          refuse (owned ≠ root) (.value "graph artifact root does not match adaptation run")
          let bridge : Bridge := ⟨state, runId, subject, root, [], false⟩
          bridge.checkIdentity run (.obj []) false false
          return (bridge, db, run)
  | _, _ => throw (.value "graph subject does not match adaptation run model")

def gateKeys : List Text :=
  ["state", "run_id", "evidence_mode", "environment_fingerprint", "task_ids", "operator_keys",
    "task_results", "snapshot_token"]

/-- `except (OSError, ValueError, KeyError, TypeError, sqlite3.DatabaseError)`. -/
def isDatabaseRejection (e : Exn) : Bool := e.isRejection || e.kind == .databaseError

/-- The inner `try`: what is wrong with the baseline, and whether that blocks the gate. -/
def baselineErrors (bridge : Bridge) (run : AdaptationRun) (report : Dict) :
    Except Exn (List Text × Option Text) :=
  let checked : Except Exn (List Text) := do
    let path ← pathOf (← (Json.obj report).item "baseline_path")
    let baseline ← validateBaseline host disk bridge run path
    let frozen ← (Json.obj baseline).item "baseline_id"
    return errorIf (!(Dict.getD report "baseline_id" .null).eq frozen)
      "integration baseline id does not match frozen evidence"
  match checked with
  | .ok errors => .ok (errors, none)
  | .error e =>
      if isDatabaseRejection e then
        .ok (errorIf (!(Dict.getD report "state" .null).eq (.str "OPERATORS_BLOCKED"))
          ("integration baseline evidence rejected: " ++ e.text host), some (e.text host))
      else .error e

def scheduledIntegration (stores : Stores) (report : Dict) : Except Exn (List Text) := do
  let (bridge, db, run) ← openIntegration disk stores report
  let gate ← (deliveryStatus host disk bridge ⟨db, 0, 0⟩).1
  let (errors, blocked) ← baselineErrors host disk bridge run report
  -- the token was taken before a rejected baseline blocks the gate
  let live : Dict := match blocked with
    | some _ => Dict.set (gate.toDict host) "state" (.str "OPERATORS_BLOCKED")
    | none => gate.toDict host
  let state := Dict.getD report "state" .null
  let explained := (Dict.getD report "errors" .null).truthy
  return errors ++
    (gateKeys.flatMap fun key =>
      errorIf (!(Dict.getD report key .null).eq (Dict.getD live key .null))
        ("integration " ++ key ++ " does not match the live scheduler gate")) ++
    errorIf (state.eq (.str "OPERATORS_BLOCKED") && !explained)
      "OPERATORS_BLOCKED must explain failed gates" ++
    errorIf (state.eq (.str "OPERATORS_READY") && explained)
      "OPERATORS_READY cannot contain failed gates"

def readyGates : List (Text × Text) :=
  [("kernel_grade", "kernel_grade_report"), ("dispatch_report", "dispatch_report_path"),
    ("package_swap", "package_swap_report"), ("path_proof", "worker_path_log"),
    ("service_regression", "service_regression_report"),
    ("accuracy_regression", "accuracy_regression_report")]

def candidateIntegration (report : Dict) : Except Exn (List Text) := do
  let state := Dict.getD report "state" .null
  if Dict.has report "scheduler_state" || Dict.has report "run_id" then
    return ["scheduled integration cannot use legacy candidate states"]
  else if !(← state.among ["WAITING_FOR_CANDIDATE", "READY_FOR_INTEGRATION", "CANDIDATE_REJECTED"]) then
    return ["integration state is invalid"]
  else
    let claimed := if state.eq (.str "READY_FOR_INTEGRATION") then
        readyGates.flatMap fun gate => errorIf (!(Dict.getD report gate.2 .null).truthy)
          ("READY_FOR_INTEGRATION claims " ++ gate.1 ++ " but records no " ++ gate.2 ++
            ": an integration without its evidence file is a claim, not a fact")
      else []
    return claimed ++ errorIf (state.eq (.str "CANDIDATE_REJECTED") &&
      !(Dict.getD report "failed_gates" .null).truthy) "CANDIDATE_REJECTED must name the gates that failed"

def validateIntegration (stores : Stores) (report : Dict) : Except Exn (List Text) := do
  let state := Dict.getD report "state" .null
  if ← state.among ["OPERATORS_READY", "WAITING_FOR_OPERATORS", "OPERATORS_BLOCKED"] then
    match scheduledIntegration host disk stores report with
    | .ok errors => return errors
    | .error e =>
        if isDatabaseRejection e then return ["cannot validate scheduled integration: " ++ e.text host]
        else throw e
  else candidateIntegration report

end Integration
end Bridge
end InferForge

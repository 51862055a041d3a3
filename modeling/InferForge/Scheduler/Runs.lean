import InferForge.Scheduler.Store
import InferForge.UserIdentity
import InferForge.Validators.Deployment

/-! `TaskScheduler` on runs: creation, the environment handoff, graph transitions and
the discovery of operators. -/
namespace InferForge
open Py Effect Sched ResultValidation

variable (host : Host) (disk : Disk)

/-- The directory a run works in: the recorded one, or one beside the database. -/
def runRoot (run : AdaptationRun) : Except Exn Text := do
  let given := Dict.getD run.metadata "artifact_root" .null
  let path ←
    if given.truthy then pathOf given
    else do
      let base ← disk.stateParent
      pure ((base.child "runs").child (← safeComponent host run.runId))
  return (← ensureExternal disk path).toText

/-- The checks of `create_run`, and the run it stores. -/
def preparedRun (run : AdaptationRun) : Except Exn AdaptationRun := do
  if run.evidenceMode.eq (.str "real") then
    let root ← runRoot host disk run
    return { run with
      status := "WAITING_FOR_ENVIRONMENT"
      metadata := (run.metadata.set "environment_required" (.bool true)).set "artifact_root"
        (.str root) }
  else if run.evidenceMode.eq (.str "simulation") then
    let given := Dict.getD run.metadata "artifact_root" .null
    if given.truthy then
      let root ← ensureExternal disk (← pathOf given)
      return { run with metadata := run.metadata.set "artifact_root" (.str root.toText) }
    else return run
  else throw (.value "evidence_mode must be real or simulation")

def createRun (run : AdaptationRun) : Sched AdaptationRun := atomic do
  Prog.require run.runId.encodable (.unicode "surrogates not allowed")
  match ← query fun db => db.run? run.runId with
  | some existing => return existing
  | none => do
      let prepared ← Prog.lift (preparedRun host disk run)
      execute fun db => db.saveRun prepared
      emit host prepared.runId .runCreated [("model_id", .str prepared.modelId)] none
      return prepared

/-- What an accepted environment proof contributes to the run. -/
structure Handoff where
  pod : Json
  owner : Option Text
  checks : Dict
  artifacts : List Json
  fingerprint : Text
  root : Path
  hashes : Dict
  mode : Json

namespace Handoff

def ownerJson (owner : Option Text) : Json :=
  match owner with
  | some t => .str t
  | none => .null

def record (h : Handoff) : Json :=
  .obj [("pod", h.pod), ("user_id", ownerJson h.owner), ("checks", .obj h.checks),
    ("artifacts", .arr h.artifacts), ("fingerprint", .str h.fingerprint),
    ("artifact_root", .str h.root.toText), ("evidence_sha256", .obj h.hashes),
    ("evidence_mode", h.mode)]

end Handoff

/-- `value in {...}` for a set of strings: an unhashable value raises. -/
def inTexts (value : Json) (texts : List Text) : Except Exn Bool :=
  if value.hashable then .ok (texts.any fun t => value.eq (.str t))
  else .error (.type "unhashable type")

/-- The required fields of a proof that are not as required, in dictionary order. -/
def missingFields (proof checks : Dict) : List Text :=
  let flags : List Text := ["pod_ready", "runtime_importable", "code_ready", "device_ready",
    "base_model_loaded", "base_prefill", "base_decode"]
  errorIf (!(Dict.getD proof "state" .null).eq (.str "ENVIRONMENT_READY")) "state" ++
    errorIf (!(Dict.getD proof "pod" .null).truthy) "pod" ++
    flags.flatMap fun name => errorIf (!(Dict.getD checks name .null).isTrue) name

/-- `key not in checks or checks[key] != expected`, and for `False` also not `False` itself. -/
def wrongCheck (checks : Dict) (key : Text) (expected : Json) : Bool :=
  match checks.get? key with
  | none => true
  | some found =>
      !found.eq expected ||
        match expected with
        | .bool _ => !found.isFalse
        | _ => false

/-- `sorted(required_artifacts)` of `bind_environment`. -/
def requiredArtifacts : List Text :=
  ["base_chat_result.json", "base_health_result.txt", "base_model_identity.json",
    "base_server_log.txt", "code_readiness.json", "device_readiness.json",
    "environment_fingerprint.txt", "runtime_import.txt"]

/-- The digests of the evidence files below `root`, all of which must have content. -/
def evidenceHashes (root : Path) : List Text → Except Exn Dict
  | [] => .ok []
  | name :: rest => do
      let path := root.child name
      match disk.read path with
      | .error e =>
          if e.kind = .osError then
            throw (.value ("cannot read environment evidence " ++ path.toText ++ ": " ++ e.message))
          else throw e
      | .ok content =>
          if content.isEmpty then throw (.value ("environment evidence is empty: " ++ path.toText))
          else return (name, .str (host.sha256 content)) :: (← evidenceHashes root rest)

/-- The evidence mode of a proof, which a real run requires to be real. -/
def proofMode (run : AdaptationRun) (proof : Dict) : Except Exn Json := do
  let mode := Dict.getD proof "evidence_mode" (.str "real")
  let known ← inTexts mode ["real", "simulation"]
  refuse (!known) (.value "environment proof evidence_mode must be real or simulation")
  refuse (run.evidenceMode.eq (.str "real") && !mode.eq (.str "real"))
    (.value "simulation environment proof cannot satisfy a real run")
  return mode

/-- `value or {}`, where anything but an object is refused. -/
def objectOr (value : Json) (e : Exn) : Except Exn Dict :=
  match value with
  | .obj fields => .ok fields
  | other => if other.truthy then .error e else .ok []

/-- `value or []`, where anything but a list of strings is refused. -/
def textsOr (value : Json) (e : Exn) : Except Exn (List Json) :=
  match value with
  | .arr items => if items.all Json.isStr then .ok items else .error e
  | other => if other.truthy then .error e else .ok []

/-- The user a proof was made for. -/
def proofOwner (run : AdaptationRun) (proof : Dict) : Except Exn (Option Text) :=
  match Dict.getD proof "user_id" .null with
  | .str name =>
      if name.blank then .error (.value "environment proof must record the supplied user_id")
      else environmentUserId run.environment (.str name)
  | _ => .error (.value "environment proof must record the supplied user_id")

/-- A validator record, where one is given, must have passed. -/
def rejectedBy (validator : Json) : Bool :=
  match validator with
  | .null => false
  | .obj record =>
      !(Dict.getD record "passed" .null).isTrue || (Dict.getD record "errors" .null).truthy
  | _ => true

/-- The checks a proof reports, and its owner. -/
def proofChecks (run : AdaptationRun) (proof : Dict) : Except Exn (Dict × Option Text) := do
  let checks ← objectOr (Dict.getD proof "checks" .null)
    (.value "environment proof checks must be an object")
  let missing := missingFields proof checks
  refuse (!missing.isEmpty) (.value ("environment proof is not ready: " ++ Text.join ", " missing))
  let owner ← proofOwner run proof
  refuse (wrongCheck checks "base_health_check" (.int 200))
    (.value "environment proof checks.base_health_check must equal 200")
  refuse (wrongCheck checks "base_chat_completion" (.str "non_empty"))
    (.value "environment proof checks.base_chat_completion must equal 'non_empty'")
  refuse (wrongCheck checks "unexpected_fallback" (.bool false))
    (.value "environment proof checks.unexpected_fallback must equal False")
  refuse (rejectedBy (Dict.getD proof "validator" .null))
    (.value "environment proof validator rejected the evidence")
  return (checks, owner)

/-- The file names a proof lists, which must include every required one. -/
def proofArtifacts (proof : Dict) : Except Exn (List Json) := do
  let artifacts ← textsOr (Dict.getD proof "artifacts" .null)
    (.value "environment proof artifacts must be a list of file names")
  let absent := requiredArtifacts.filter fun name => !artifacts.any fun item => item.eq (.str name)
  refuse (!absent.isEmpty) (.value ("environment proof is missing evidence: " ++ Text.join ", " absent))
  return artifacts

/-- The directory of a proof, and the digests of the evidence found there. -/
def proofEvidence (proof : Dict) (artifactRoot : Json) : Except Exn (Path × Dict) := do
  let rootValue := if artifactRoot.truthy then artifactRoot else Dict.getD proof "artifact_root" .null
  refuse (!rootValue.truthy) (.value "environment proof requires its artifact_root")
  let root ← disk.resolve (← pathOf rootValue)
  let identity ← validateEnvironmentIdentity host disk root
  refuse (!identity.isEmpty)
    (.value ("environment proof identity rejected: " ++ Text.join "; " identity))
  let hashes ← evidenceHashes host disk root requiredArtifacts
  let recorded ← disk.isFile (root.child "status.json")
  if recorded then
    let content ← disk.read (root.child "status.json")
    return (root, Dict.set hashes "status.json" (.str (host.sha256 content)))
  else return (root, hashes)

/-- The digest a run is bound to. -/
def fingerprintOf (hashes : Dict) : Except Exn Text :=
  match Dict.get? hashes "environment_fingerprint.txt" with
  | some (.str digest) => .ok digest
  | _ => .error (.key "environment_fingerprint.txt")

/-- The checks of `bind_environment` before it looks at the previous binding. -/
def checkProof (run : AdaptationRun) (proof : Dict) (artifactRoot : Json) : Except Exn Handoff := do
  let mode ← proofMode run proof
  let (checks, owner) ← proofChecks run proof
  let artifacts ← proofArtifacts proof
  let (root, hashes) ← proofEvidence host disk proof artifactRoot
  let fingerprint ← fingerprintOf hashes
  return { pod := Dict.getD proof "pod" .null, owner, checks, artifacts, fingerprint, root, hashes,
           mode }

def bindEnvironment (runId : Text) (proof : Dict) (artifactRoot : Json) : Sched AdaptationRun :=
  atomic do
    let run ← requireRun runId (.key ("unknown run: " ++ runId))
    let handoff ← Prog.lift (checkProof host disk run proof artifactRoot)
    let previous ← Prog.lift run.fingerprint
    let started ← query fun db => !(db.tasksOf disk.ties runId).isEmpty
    Prog.require (!(previous.truthy && !previous.eq (.str handoff.fingerprint) && started))
      (.value "environment changed after discovery; existing tasks cannot inherit a new proof")
    let bound := { run with
      environment := run.environment.set "environment_proof" handoff.record
      status := "ENVIRONMENT_READY" }
    execute fun db => db.updateRun bound
    emit host runId .environmentBound
      [("pod", handoff.pod), ("artifacts", .arr handoff.artifacts)] none
    return bound

/-- The `failed_environment_proof` record of `record_environment_failure`. -/
def failedHandoff (run : AdaptationRun) (proof : Dict) (error : Text) : Except Exn Json := do
  let owner ← environmentUserId run.environment (Dict.getD proof "user_id" .null)
  let key : Text :=
    if run.status = "ENVIRONMENT_FAILED" then "failed_environment_proof" else "environment_proof"
  let given := Dict.getD proof "pod" .null
  let pod ← if given.truthy then pure given else nestedGet run.environment key "pod"
  if pod.truthy && !(owner.any fun o => !o.isEmpty) then
    throw (.value "a failed environment with a Pod must record its supplied user_id")
  return .obj [("state", Dict.getD proof "state" (.str "FAILED")), ("pod", pod),
    ("user_id", Handoff.ownerJson owner),
    ("artifact_root", Dict.getD proof "artifact_root" .null),
    ("checks", Dict.getD proof "checks" (.obj [])),
    ("artifacts", Dict.getD proof "artifacts" (.arr [])),
    ("diagnosis", Dict.getD proof "reason" (.str error))]

def recordEnvironmentFailure (runId : Text) (proof : Dict) (error : Text) : Sched AdaptationRun :=
  atomic do
    let run ← requireRun runId (.key ("unknown run: " ++ runId))
    let handoff ← Prog.lift (failedHandoff run proof error)
    let failed := { run with
      environment := run.environment.set "failed_environment_proof" handoff
      status := "ENVIRONMENT_FAILED" }
    execute fun db => db.updateRun failed
    emit host runId .environmentFailed
      [("error", .str error), ("artifacts", Dict.getD proof "artifacts" (.arr []))] none
    return failed

def recordGraphTransition (runId key : Text) (payload : Dict) : Sched AdaptationRun := atomic do
  match GraphKey.ofText? key with
  | none => Prog.raise (.value ("unsupported graph transition: " ++ key))
  | some graphKey => do
      let run ← requireRun runId (.key ("unknown run: " ++ runId))
      let value : Json := if graphKey = .environmentRequired then .bool true else .obj payload
      if (Dict.getD run.metadata key .null).eq value then return run
      else do
        let changed := { run with metadata := run.metadata.set key value }
        execute fun db => db.updateRun changed
        emit host runId (.graph graphKey) payload none
        return changed

/-- Runs whose operator work is gated by an environment proof. -/
def environmentGated (run : AdaptationRun) : Bool :=
  !run.evidenceMode.eq (.str "simulation") || run.flag "environment_required" ||
    run.flag "graph_environment_required"

/-- The environment checks of `discover_operator`, for a gated run. -/
def checkGated (run : AdaptationRun) (spec : OperatorSpec) : Except Exn Unit := do
  refuse (run.status ≠ "ENVIRONMENT_READY")
    (.value ("environment proof is required before operator discovery; bind a validated " ++
      "deployment environment first"))
  let fingerprint ← run.fingerprint
  refuse (!fingerprint.truthy || !(Dict.getD spec.environment "fingerprint" .null).eq fingerprint)
    (.value "operator specification must reference the bound environment fingerprint")
  refuse (spec.modelId ≠ run.modelId ∨ spec.backend ≠ run.backend)
    (.value "operator specification model/backend does not match the run")

def checkDiscovery (run : AdaptationRun) (spec : OperatorSpec) : Except Exn Unit :=
  if environmentGated run then checkGated run spec else .ok ()

/-- `f"{run_id}:{key}:{stage}"`. -/
def stageTaskId (runId key : Text) (stage : Stage) : Text := runId ++ ":" ++ key ++ ":" ++ stage.text

/-- A new row waiting to be claimed. -/
def pendingRow (runId key : Text) (stage : Stage) (taskId : Text) (input : Dict) (createdAt : Time) :
    TaskRow :=
  { taskId, runId, operatorKey := key, stage, status := .pending, attempt := 0, input, output := []
    lease := none, createdAt }

def discoverOperator (runId : Text) (spec : OperatorSpec) : Sched Task := atomic do
  let run ← requireRun runId (.key ("unknown run: " ++ runId))
  Prog.lift (checkDiscovery run spec)
  let key ← Prog.lift (spec.operatorKey host)
  let isNew ← query fun db => (db.putOperator runId key spec).1
  execute fun db => (db.putOperator runId key spec).2
  match ← query fun db => (db.tasksOf disk.ties runId).find? fun row =>
      row.view.operatorKey.eq (.str key) && row.stage = .torch with
  | some existing => return existing.view
  | none => do
      let taskId := stageTaskId runId key .torch
      let row := pendingRow runId key .torch taskId [("operator_spec", spec.toDict)]
      let _ ← insertTask host row
      emit host runId .operatorDiscovered [("operator_key", .str key), ("new", .bool isNew)] none
      emit host runId .taskCreated [("stage", .str "torch"), ("operator_key", .str key)] taskId
      return (row 0).view

end InferForge

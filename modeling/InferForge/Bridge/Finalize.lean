import InferForge.Bridge.Baseline

/-! The delivery of a model: the facts of a graph run are examined against the gate, the gate is
taken again, and only then is a receipt published. -/
namespace InferForge
open Py Effect Sched ResultValidation

namespace Bridge

def factStatus : List (Text × Text) :=
  [("ModelRequest", "intake_status.json"), ("EnvironmentProof", "status.json"),
    ("ModelSupportCard", "scan_status.json"), ("CapabilityMatch", "match_status.json"),
    ("GapClassification", "classification_status.json"),
    ("CapabilityEvaluation", "evaluation_status.json"), ("DeploymentPlan", "plan_status.json"),
    ("ToyBringupReport", "bringup_status.json"), ("TorchShimRegistry", "shim_status.json"),
    ("DeploymentProof", "status.json"), ("AccuracyDifferential", "accuracy_status.json"),
    ("ServingBaseline", "baseline_status.json"), ("OperatorTaskDispatch", "dispatch_status.json"),
    ("OperatorIntegration", "integration_status.json"), ("SupportMatrixEntry", "matrix_status.json")]

def requiredStates : List (Text × Text) :=
  [("DeploymentProof", "DEPLOYMENT_READY"), ("AccuracyDifferential", "ACCURACY_PASS"),
    ("ServingBaseline", "BASELINE_FROZEN"), ("OperatorIntegration", "OPERATORS_READY"),
    ("TorchShimRegistry", "HANDOFF_CLEAR")]

abbrev Facts := List (Text × Path)

def Facts.root? (facts : Facts) (name : Text) : Option Path := facts.lookup name

def factRoot (facts : Facts) (name : Text) : Except Exn Path :=
  match facts.root? name with
  | some root => .ok root
  | none => .error (.key name)

structure Fact where
  name : Text
  root : Path
  status : Dict
  files : Json

def statusOf (found : List Fact) (name : Text) : Except Exn Dict :=
  match found.find? fun fact => fact.name = name with
  | some fact => .ok fact.status
  | none => .error (.key name)

structure Inventory where
  facts : List Fact
  service : FileEvidence
  accuracy : FileEvidence
  /-- The evidence of the baseline, by its field. -/
  sources : List (Text × FileEvidence)

def Inventory.extra (inventory : Inventory) (name : Text) : Dict :=
  if name = "DeploymentProof" then [("scheduler_snapshot", inventory.service.json)]
  else if name = "AccuracyDifferential" then [("scheduler_snapshot", inventory.accuracy.json)]
  else if name = "ServingBaseline" then
    inventory.sources.map fun source => (source.1 ++ Text.ofString "_source", source.2.json)
  else []

def Inventory.toDict (inventory : Inventory) : Dict :=
  inventory.facts.map fun fact => (fact.name, .obj
    (([("root", .str fact.root.toText), ("files", fact.files)] : Dict) ++ inventory.extra fact.name))

section Snapshots
variable (host : Host) (disk : Disk) (bridge : Bridge)

def snapshotKeys : List Text :=
  ["run_id", "evidence_mode", "environment_fingerprint", "task_ids", "operator_keys", "task_results",
    "snapshot_token"]

def checkSnapshotKey (gate : Dict) (kind : Text) (snapshot : Dict) (key : Text) : Except Exn Unit :=
  refuse (differs snapshot key (Dict.getD gate key .null))
    (.value ("final " ++ kind ++ " scheduler snapshot " ++ key ++ " does not match current results"))

/-- `_regression_snapshot`, with the path it looks at. -/
def regressionSnapshot (root : Path) (gate : DeliveryStatus) (kind : Text) :
    Except Exn (Path × FileEvidence) := do
  match ← locateAttempt host disk root with
  | some attempt => do
      let foreign : Exn := .value ("final " ++ kind ++ " must belong to a managed run attempt")
      refuse (attempt.runId ≠ bridge.runId) foreign
      let path := (attempt.root.child "input").child "scheduler_snapshot.json"
      let evidence ← fileEvidence host disk path
      let snapshot ← loadObject host disk path
      refuse (!(Dict.getD snapshot "state" .null).eq (.str "OPERATORS_READY"))
        (.value ("final " ++ kind ++ " must start after the operator gate is OPERATORS_READY"))
      snapshotKeys.forM (checkSnapshotKey (gate.toDict host) kind snapshot)
      return (path, evidence)
  | none => throw (.value ("final " ++ kind ++ " must belong to a managed run attempt"))

def serviceSnapshot (serviceRoot : Path) (gate : DeliveryStatus) : Except Exn FileEvidence := do
  let (_, evidence) ← regressionSnapshot host disk bridge serviceRoot gate "service"
  return evidence

/-- `_accuracy_snapshot`: the snapshot is read again where its evidence says it is. -/
def accuracySnapshot (accuracyRoot serviceRoot : Path) (gate : DeliveryStatus) :
    Except Exn FileEvidence := do
  let (_, evidence) ← regressionSnapshot host disk bridge accuracyRoot gate "accuracy"
  let snapshot ← loadObject host disk (.ofText evidence.path)
  let proof ← fileEvidence host disk (serviceRoot.child "status.json")
  refuse (!(Dict.getD snapshot "service_proof" .null).eq proof.json)
    (.value "final accuracy must reference the current service proof")
  return evidence

end Snapshots

section Examination
variable (host : Host) (disk : Disk) (walk : Path → Except Exn (List Path)) (bridge : Bridge)
  (run : AdaptationRun) (facts : Facts)

/-- Whether a fact is the imported environment proof that the run accepted. -/
def importedProof (name : Text) (root : Path) (stateFile : Text) : Except Exn Bool :=
  if name = "EnvironmentProof" then do
    let accepted ← (Json.obj run.metadata).item "graph_environment"
    let imported := (← accepted.get "imported").getD (.bool false)
    if imported.truthy then
      return root.child stateFile = (← pathOf (← accepted.item "status_path"))
    else return false
  else .ok false

/-- `[_file(path) for path in sorted(root.rglob("*")) if path.is_file()]`. -/
def treeFiles (root : Path) : Except Exn Json := do
  let found ← (← walk root).mapM fun path => do
    if ← disk.isFile path then return [(← fileEvidence host disk path).json] else return []
  return .arr found.flatten

/-- The files of a fact, which for an environment proof are the accepted ones. -/
def factFiles (name : Text) (root : Path) : Except Exn Json :=
  if name = "EnvironmentProof" then do
    let accepted ← (Json.obj run.metadata).item "graph_environment"
    accepted.item "files"
  else treeFiles host disk walk root

def checkValidator (name : Text) (status : Dict) : Except Exn Unit :=
  let rejected : Exn := .value (name ++ " fact validator rejected evidence")
  match Dict.getD status "validator" (.obj []) with
  | .obj validator =>
      refuse ((Dict.getD validator "passed" .null).isFalse || (Dict.getD validator "errors" .null).truthy)
        rejected
  | _ => .error rejected

/-- One round over `FACT_STATUS`. -/
def collectFact (entry : Text × Text) : Except Exn Fact := do
  let (name, stateFile) := entry
  let root ← ensureExternal disk (← factRoot facts name)
  let imported ← importedProof run name root stateFile
  refuse (!root.isRelativeTo bridge.artifactRoot && !imported)
    (.value (name ++ " fact is outside the run artifact root"))
  let attempt ← locateAttempt host disk root
  refuse (!imported && !attempt.any fun attempt => attempt.runId == bridge.runId)
    (.value (name ++ " fact is not owned by this managed run"))
  let status ← loadObject host disk (root.child stateFile)
  bridge.checkIdentity run (.obj status) (name = "EnvironmentProof") imported
  checkValidator name status
  let files ← factFiles host disk walk run name root
  return ⟨name, root, status, files⟩

def checkBoundProof : Except Exn Unit := do
  let given ← disk.resolve (← factRoot facts "EnvironmentProof")
  let bound ← (← (Json.obj run.environment).item "environment_proof").item "artifact_root"
  let bound ← disk.resolve (← pathOf bound)
  refuse (given ≠ bound) (.value "graph EnvironmentProof does not match bound proof")

def checkRequired (found : List Fact) (entry : Text × Text) : Except Exn Unit := do
  let status ← statusOf found entry.1
  refuse (!(Dict.getD status "state" .null).eq (.str entry.2)) (.value (entry.1 ++ " must be " ++ entry.2))

def checkHandedDispatch (found : List Fact) : Except Exn Unit := do
  let accepted ← (Json.obj run.metadata).item "graph_discovery"
  let handed ← statusOf found "OperatorTaskDispatch"
  let recorded ← loadObject host disk (← pathOf (← accepted.item "status_path"))
  refuse (!(Json.obj handed).eq (.obj recorded))
    (.value "graph dispatch does not match accepted scheduler discovery")

/-- The checks of a current report, by the field of the baseline it renews. -/
def checkRenewed (field : Text) (path : Path) (report : Dict) : Except Exn Unit :=
  if field = "service" then checkService host disk path report
  else do
    refuse (!(Dict.getD report "status" .null).eq (.str "ACCURACY_PASS"))
      (.value "current accuracy report must pass")
    refuse (!revisionMatches run report) (.value "current accuracy model revision does not match run")
    refuseAll (← accuracyErrors host report)

/-- The current evidence of one field of the baseline, and the file the baseline froze. -/
def checkCurrent (baseline : Dict) (field fact filename : Text) : Except Exn (Text × FileEvidence) := do
  let path := (← factRoot facts fact).child filename
  let report ← loadObject host disk path
  bridge.checkIdentity run (.obj report) false false
  checkRenewed host disk run field path report
  let source ← fileEvidence host disk
    (← pathOf (← (← (Json.obj baseline).item field).item "artifact"))
  return (field, source)

def checkIntegration (stores : Stores) (found : List Fact) : Except Exn Unit := do
  let report ← statusOf found "OperatorIntegration"
  refuseAll (← validateIntegration host disk stores report)
  let referred ← disk.resolve (← pathOf (← (Json.obj report).item "baseline_path"))
  let frozen ← disk.resolve ((← factRoot facts "ServingBaseline").child "baseline_manifest.json")
  refuse (referred ≠ frozen) (.value "integration does not reference the graph's frozen baseline")

def checkRegistryField (shim : Dict) (field : Text) : Except Exn Unit :=
  match Dict.getD shim field .null with
  | .arr entries => refuse (!entries.all Json.isDict)
      (.value ("shim registry " ++ field ++ " must be a list of objects"))
  | _ => .error (.value ("shim registry " ++ field ++ " must be a list of objects"))

/-- The operators of the run that the gate counted, by the names their discoveries gave. -/
def operatorNames (db : Store) (keys : List Text) : Except Exn (List Text) :=
  keys.mapM fun key =>
    match db.operator? bridge.runId key with
    | some spec => .ok spec.operatorId
    | none => .error (.attr "'NoneType' object has no attribute 'operator_id'")

def checkShim (names : List Text) (entry : Json) : Except Exn Unit :=
  match entry with
  | .obj fields =>
      if waived fields then .ok ()
      else do
        let known ← (identifier fields).among names
        refuse (!known) (.value "non-waived shim is not integrated by the scheduler")
  | _ => .error (.attr "object has no attribute 'get'")

def checkShims (db : Store) (keys : List Text) : Except Exn Unit := do
  let shim ← loadObject host disk ((← factRoot facts "TorchShimRegistry").child "torch_shim_registry.json")
  ([Text.ofString "signals", "entries", "unmapped_signals"]).forM (checkRegistryField shim)
  refuseAll (← validateShimHandoff host shim)
  let names ← operatorNames bridge db keys
  (← (Dict.getD shim "entries" (.arr [])).elements).forM (checkShim names)

def examine (stores : Stores) (db : Store) (gate : DeliveryStatus) : Except Exn Inventory := do
  let found ← factStatus.mapM (collectFact host disk walk bridge run facts)
  checkBoundProof disk run facts
  requiredStates.forM (checkRequired found)
  let serviceRoot ← factRoot facts "DeploymentProof"
  let accuracyRoot ← factRoot facts "AccuracyDifferential"
  let service ← serviceSnapshot host disk bridge serviceRoot gate
  let accuracy ← accuracySnapshot host disk bridge accuracyRoot serviceRoot gate
  checkHandedDispatch host disk run found
  checkIntegration host disk facts stores found
  let baselinePath := (← factRoot facts "ServingBaseline").child "baseline_manifest.json"
  let baseline ← validateBaseline host disk bridge run baselinePath
  let serviceSource ← checkCurrent host disk bridge run facts baseline "service" "DeploymentProof" "status.json"
  let accuracySource ← checkCurrent host disk bridge run facts baseline "accuracy" "AccuracyDifferential"
    "accuracy_differential.json"
  checkShims host disk bridge facts db gate.operatorKeys
  return ⟨found, service, accuracy, [serviceSource, accuracySource]⟩

def checkAgain (gate : DeliveryStatus) (inventory : Inventory) : Except Exn Unit := do
  refuse (gate.state ≠ "OPERATORS_READY") (.value "operator evidence changed during delivery")
  let serviceRoot ← factRoot facts "DeploymentProof"
  let accuracyRoot ← factRoot facts "AccuracyDifferential"
  let service ← serviceSnapshot host disk bridge serviceRoot gate
  refuse (service ≠ inventory.service) (.value "service scheduler snapshot changed during delivery")
  let accuracy ← accuracySnapshot host disk bridge accuracyRoot serviceRoot gate
  refuse (accuracy ≠ inventory.accuracy) (.value "accuracy scheduler snapshot changed during delivery")

end Examination

/-! ## The receipt -/

structure Receipt where
  verdict : Text
  run : AdaptationRun
  subject : Text
  fingerprint : Json
  gate : DeliveryStatus
  inventory : Inventory

def Receipt.toDict (host : Host) (receipt : Receipt) : Dict :=
  [("schema_version", .int 1), ("state", .str receipt.verdict), ("verdict", .str receipt.verdict),
    ("run_id", .str receipt.gate.runId), ("subject", .str receipt.subject),
    ("evidence_mode", receipt.run.evidenceMode), ("model_revision", .str receipt.run.modelRevision),
    ("plugin_revision", .str receipt.run.pluginRevision), ("backend", .str receipt.run.backend),
    ("environment_fingerprint", receipt.fingerprint), ("task_ids", textsJson receipt.gate.taskIds),
    ("operator_keys", textsJson receipt.gate.operatorKeys),
    ("task_results", .arr (receipt.gate.taskResults.map TaskResult.toJson)),
    ("snapshot_token", .str (receipt.gate.snapshotToken host)),
    ("facts", .obj receipt.inventory.toDict)]

/-- Where a receipt was published, with the digests of what was written. -/
structure Publication where
  receipt : Receipt
  receiptPath : Path
  manifestPath : Path
  receiptSha256 : Text
  manifestSha256 : Text

def Publication.toDict (host : Host) (publication : Publication) : Dict :=
  publication.receipt.toDict host ++
    ([("receipt_path", .str publication.receiptPath.toText),
      ("manifest_path", .str publication.manifestPath.toText),
      ("receipt_sha256", .str publication.receiptSha256),
      ("manifest_sha256", .str publication.manifestSha256)] : Dict)

/-- The file system in the course of a delivery: when it starts, when the gate is taken again,
and once the receipt and its manifest are there. -/
structure Course where
  first : Disk
  last : Disk
  written : Disk

section Delivery
variable (host : Host) (course : Course) (walk : Path → Except Exn (List Path)) (stores : Stores)
  (bridge : Bridge) (facts : Facts)

/-- `"; ".join(errors)` of values that need not be texts. -/
def joinErrors (errors : List Json) : Except Exn Text := do
  let texts ← errors.mapM fun error =>
    match error with
    | .str t => .ok t
    | _ => .error (.type "sequence item: expected str instance")
  return Text.join "; " texts

def openErrors (gate : DeliveryStatus) : List Json :=
  gate.errors ++
    (errorIf (gate.state ≠ "OPERATORS_READY") ("operator gate is " ++ gate.state) ++
      factStatus.flatMap fun entry => errorIf ((facts.root? entry.1).isNone)
        ("missing graph fact: " ++ entry.1)).map Json.str

/-- The `try` block of `_finalize`. -/
def inspect (gate : DeliveryStatus) : Sched Inventory := do
  let errors := openErrors facts gate
  if errors.isEmpty then
    let run ← bridge.run
    let db ← query id
    let inventory ← Prog.lift (examine host course.first walk bridge run facts stores db gate)
    let finalGate ← deliveryStatus host course.last bridge
    Prog.lift (checkAgain host course.last bridge facts finalGate inventory)
    return inventory
  else
    let joined ← Prog.lift (joinErrors errors)
    Prog.raise (.value joined)

/-- What follows the checks, up to the files: the receipt and its manifest are written. -/
def publish (run : AdaptationRun) (gate : DeliveryStatus) (inventory : Inventory) :
    Except Exn Publication := do
  let verdict : Text :=
    if run.evidenceMode.eq (.str "simulation") then "SIMULATION_PASS" else "FUNCTIONAL_READY"
  let attempt ← course.last.allocateAttempt (.str bridge.artifactRoot.toText) bridge.runId "model-adaptation-delivery"
  let fingerprint ← (← (Json.obj run.environment).item "environment_proof").item "fingerprint"
  let receipt : Receipt := ⟨verdict, run, bridge.subject, fingerprint, gate, inventory⟩
  let output ← ArtifactStore course.last (attempt.child "output")
  let path ← ArtifactStore.writeJson course.last output (.ofText "delivery_receipt.json")
    (.ok (.obj (receipt.toDict host))) true
  let root ← ArtifactStore course.last attempt
  let identity : Dict := [("run_id", .str bridge.runId), ("task_id", .str "model-adaptation-delivery"),
    ("attempt_id", .str attempt.name), ("evidence_mode", run.evidenceMode)]
  let manifest ← course.last.register root (.obj identity) verdict
  let written ← fileEvidence host course.written path
  let registered ← fileEvidence host course.written manifest
  return ⟨receipt, path, manifest, written.sha256, registered.sha256⟩

/-- `_finalize`. -/
def deliver : Sched Publication := do
  let gate ← deliveryStatus host course.first bridge
  let inventory ← Prog.handle (inspect host course walk stores bridge facts gate) Exn.isRejection
    fun e => Prog.raise (.value ("model delivery blocked: " ++ e.text host))
  let run ← bridge.run
  let publication ← Prog.lift (publish host course bridge run gate inventory)
  discard (recordGraphTransition host bridge.runId "graph_delivery" (publication.toDict host))
  return publication

def refusal (gate : DeliveryStatus) (error : Text) : Dict :=
  Dict.set (Dict.set (gate.toDict host) "state" (.str "OPERATORS_BLOCKED")) "errors" (.arr [.str error])

/-- `finalize`: what is caught has been rolled back, and withdraws the delivery. -/
def finalize : Sched Publication := do
  Prog.require bridge.execute (.value "graph bridge is read-only in plan mode")
  Prog.handle (atomic (deliver host course walk stores bridge facts)) Exn.isRejection fun e => do
    let gate ← deliveryStatus host course.last bridge
    discard (recordGraphTransition host bridge.runId "graph_delivery" (refusal host gate (e.text host)))
    Prog.raise e

end Delivery
end Bridge
end InferForge

import InferForge.Bridge.Evidence

/-! Environment proofs at the graph boundary: acceptance of a proof directory, and the check
that what was accepted is still there unchanged. -/
namespace InferForge
open Py Effect Sched ResultValidation

variable (host : Host) (disk : Disk)

namespace Bridge

/-- `d.get(key, {})` where the caller goes on with `.get`. -/
def section' (d : Dict) (key : Text) : Except Exn Dict :=
  match d.getD key (.obj []) with
  | .obj fields => .ok fields
  | _ => .error (.attr "object has no attribute 'get'")

/-- The checks every proof passes, read from `_environment_errors` and `bind_environment`. -/
def checkProofDocument (bridge : Bridge) (run : AdaptationRun) (proof : Dict) (imported : Json) :
    Except Exn Unit := do
  refuse (!(proof.getD "checks" .null).isDict) (.value "environment proof checks must be an object")
  let errors ← validateEnvironmentStatus host proof
  refuse (!errors.isEmpty) (.value (Text.join "; " errors))
  bridge.checkIdentity run (.obj proof) true imported.truthy
  refuse (!(proof.getD "evidence_mode" (.str "real")).eq run.evidenceMode)
    (.value "environment evidence_mode does not match the run")

/-! ## What was accepted -/

/-- One round over the accepted files. -/
def checkAcceptedFile (item : Json) : Except Exn Unit := do
  let path ← pathOf (← item.item "path")
  let found ← fileEvidence host disk path
  refuse (!found.json.eq item)
    (.value ("accepted environment evidence changed: " ++ host.str (← item.item "path")))

/-- The body of the `try` in `_environment_errors`. -/
def checkAccepted (bridge : Bridge) (run : AdaptationRun) (accepted : Json) : Except Exn Unit := do
  let files ← (← accepted.item "files").elements
  files.forM (checkAcceptedFile host disk)
  let proof ← loadObject host disk (← pathOf (← accepted.item "status_path"))
  let imported := ((← accepted.get "imported").getD (.bool false))
  checkProofDocument host bridge run proof imported

def environmentErrors (bridge : Bridge) : Sched (List Text) := do
  let run ← bridge.run
  if run.status ≠ "ENVIRONMENT_READY" then return ["environment is not ready: " ++ run.status]
  else
    let accepted := Dict.getD run.metadata "graph_environment" .null
    if !accepted.truthy then return ["graph has not accepted a persisted environment proof"]
    else
      match checkAccepted host disk bridge run accepted with
      | .ok () => return []
      | .error e =>
          if e.isRejection then
            if bridge.execute then
              discard (recordEnvironmentFailure host bridge.runId [] (e.text host))
            return [e.text host]
          else Prog.raise e

/-! ## Acceptance -/

/-- `set(ENVIRONMENT_ARTIFACTS) <= set(value)`. -/
def listsArtifacts (value : Json) : Except Exn Bool := do
  let names ← value.elements
  refuse (!names.all Json.hashable) (.type "unhashable type")
  return environmentArtifacts.all fun name => names.any fun item => item.eq (.str name)

/-- Whether the scheduler is bound to this very directory, with every digest recorded. -/
def previouslyBound (bound : Dict) (root : Path) : Except Exn Bool := do
  let given := bound.getD "artifact_root" .null
  if given.truthy then
    let resolved ← disk.resolve (← pathOf given)
    if resolved = root then listsArtifacts (bound.getD "evidence_sha256" (.obj [])) else return false
  else return false

/-- The files of the scheduler's binding are as they were. -/
def checkBound (bound : Dict) (root : Path) : Except Exn Unit := do
  match ← (Json.obj bound).item "evidence_sha256" with
  | .obj digests => digests.forM fun (name, digest) => do
      let found ← fileEvidence host disk (root.child name)
      refuse (!(Json.str found.sha256).eq digest)
        (.value ("accepted environment evidence changed: " ++ (root.child name).toText))
  | _ => throw (.attr "object has no attribute 'items'")

/-- What `bind_environment` settles about a directory before it reads the proof: that it may be
bound, and whether the proof counts as imported. -/
def checkLocation (bridge : Bridge) (run : AdaptationRun) (root : Path) : Except Exn Json := do
  let bound ← section' run.environment "environment_proof"
  let previous ← previouslyBound disk bound root
  if previous then checkBound host disk bound root
  let inside := root.isRelativeTo bridge.artifactRoot
  refuse (!inside && !previous)
    (.value "external environment evidence requires an exact scheduler binding")
  let accepted := run.metadata.getD "graph_environment" .null
  let owner ← locateAttempt host disk root
  let foreign := !owner.any fun attempt => attempt.runId == bridge.runId
  let fresh : Json := .bool (previous && (!inside || foreign))
  if accepted.truthy then
    let statusPath := (← accepted.get "status_path").getD .null
    if statusPath.eq (.str (root.child "status.json").toText) then
      return (← accepted.get "imported").getD (.bool false)
    else return fresh
  else return fresh

def locateProof (bridge : Bridge) (run : AdaptationRun) (artifacts : Path) :
    Except Exn (Path × Json) := do
  let root ← ensureExternal disk artifacts
  return (root, ← checkLocation host disk bridge run root)

/-- The record of an accepted proof. -/
structure EnvironmentRecord where
  statusPath : Text
  files : List FileEvidence
  imported : Json

def EnvironmentRecord.toDict (record : EnvironmentRecord) : Dict :=
  [("status_path", .str record.statusPath), ("files", .arr (record.files.map FileEvidence.json)),
    ("imported", record.imported)]

/-- `_file` of each artifact the proof names. -/
def artifactFiles (root : Path) : List Json → Except Exn (List FileEvidence)
  | [] => .ok []
  | name :: rest => do
      let owner ← ArtifactStore disk root
      let evidence ← ArtifactStore.path disk owner (← pathOf name)
      let file ← fileEvidence host disk evidence
      return file :: (← artifactFiles root rest)

/-- `{item["path"]: item["sha256"] for item in files}`. -/
def acceptedDigests (files : List Json) : Except Exn Mapping :=
  files.foldlM (fun m item => do
    let path ← item.item "path"
    let digest ← item.item "sha256"
    refuse (!path.hashable) (.type "unhashable type")
    return m.set path digest) []

/-- Rebinding a modified accepted file must never silently bless corruption. -/
def checkUnchanged (accepted : Json) (files : List FileEvidence) : Except Exn Unit := do
  let old ← acceptedDigests (← (← accepted.item "files").elements)
  files.forM fun file =>
    match old.get? (.str file.path) with
    | some digest => refuse (!digest.eq (.str file.sha256))
        (.value ("accepted environment evidence changed: " ++ file.path))
    | none => .ok ()

/-- A proof that names its directory lies in it. -/
def checkRoot (root : Path) (proof : Dict) : Except Exn Unit := do
  let given := proof.getD "artifact_root" .null
  if given.truthy then
    let resolved ← disk.resolve (← pathOf given)
    refuse (resolved ≠ root) (.value "environment proof artifact_root does not match its location")
  else return ()

/-- The checks of `bind_environment` on a proof, and the record it would keep. -/
def acceptProof (bridge : Bridge) (run : AdaptationRun) (root : Path) (imported : Json)
    (proof : Dict) : Except Exn EnvironmentRecord := do
  checkProofDocument host bridge run proof imported
  checkRoot disk root proof
  let status ← fileEvidence host disk (root.child "status.json")
  let names ← (← (Json.obj proof).item "artifacts").elements
  let files ← artifactFiles host disk root names
  let accepted := run.metadata.getD "graph_environment" .null
  if accepted.truthy then checkUnchanged accepted (status :: files) else pure ()
  return ⟨(root.child "status.json").toText, status :: files, imported⟩

/-- The handler of `bind_environment`. -/
def rejectProof (bridge : Bridge) (proof : Dict) (e : Exn) : Sched α := do
  discard (recordEnvironmentFailure host bridge.runId proof (e.text host))
  Prog.raise (.value ("environment proof rejected: " ++ e.text host))

/-- Whether the run is ready under exactly this record. -/
def alreadyBound (run : AdaptationRun) (record : EnvironmentRecord) : Bool :=
  run.status = "ENVIRONMENT_READY" &&
    (run.metadata.getD "graph_environment" .null).eq (.obj record.toDict)

/-- `bind_environment`: the handler covers the reading of the proof and everything after it, and
reports the proof as far as it was read. -/
def bindEnvironment (bridge : Bridge) (artifacts : Path) : Sched EnvironmentRecord := do
  Prog.require bridge.execute (.value "graph bridge is read-only in plan mode")
  let (root, imported, proof) ← Prog.handle
    (do
      let run ← bridge.run
      let (root, imported) ← Prog.lift (locateProof host disk bridge run artifacts)
      let proof ← Prog.lift (loadObject host disk (root.child "status.json"))
      return (root, imported, proof))
    Exn.isRejection (rejectProof host bridge [])
  Prog.handle
    (do
      let run ← bridge.run
      let record ← Prog.lift (acceptProof host disk bridge run root imported proof)
      if alreadyBound run record then return record
      else
        discard (InferForge.bindEnvironment host disk bridge.runId proof (.str root.toText))
        discard (recordGraphTransition host bridge.runId "graph_environment" record.toDict)
        return record)
    Exn.isRejection (rejectProof host bridge proof)

/-! A run, and a bridge to it, to evaluate the definitions on. -/

def runSample : AdaptationRun :=
  ⟨"run", "model", "1", "1", "xpu", "DISCOVERED", [("user_id", .str "alice")],
    [("artifact_root", .str "/runs")]⟩

def sample : Bridge := ⟨.ofText "/state/db", "run", "model", .ofText "/runs", [], true⟩

end Bridge
end InferForge

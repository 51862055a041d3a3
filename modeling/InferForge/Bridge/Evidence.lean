import InferForge.Discovery
import InferForge.Storage

/-! The evidence a graph run hands to the operator scheduler: files with their digests, the
attempt a directory belongs to, and the identity every document must share with its run. -/
namespace InferForge
open Py Effect Sched ResultValidation

namespace Exn

/-- `str(exc)`: a `KeyError` shows the representation of its key. -/
def text (host : Host) (e : Exn) : Text :=
  if e.kind = .keyError then host.repr (.str e.message) else e.message

end Exn

def identifier (entry : Dict) : Json :=
  let get := fun key : Text => entry.getD key .null
  let axis : Json := if (get "class").eq (.str "CAPABILITY_MISSING") then get "axis" else .null
  ((((get "operator_id").or (get "operator")).or (get "symbol")).or (get "name")).or axis

/-- `_entries` of the bridge. -/
def reportEntries (report : Json) : Except Exn (List Json) := do
  let values ← match report with
    | .obj fields =>
        match (["entries", "gaps", "findings"] : List String).findSome? fun name =>
            Dict.get? fields (Text.ofString name) with
        | some values => pure values
        | none =>
            if (identifier fields).truthy then pure (.arr [report])
            else throw (.value
              "discovery report must explicitly contain entries, gaps, or findings")
    | other => pure other
  match values with
  | .arr items => return items
  | _ => throw (.value "discovery entries must be a list")

/-! ## Files -/

structure FileEvidence where
  path : Text
  sha256 : Text
deriving DecidableEq, Repr

def FileEvidence.json (file : FileEvidence) : Json :=
  .obj [("path", .str file.path), ("sha256", .str file.sha256)]

def fileEvidence (host : Host) (disk : Disk) (path : Path) : Except Exn FileEvidence := do
  let link ← disk.isSymlink path
  refuse link (.value ("evidence must be a regular non-symlink file: " ++ path.toText))
  let regular ← disk.isFile path
  refuse (!regular) (.value ("evidence must be a regular non-symlink file: " ++ path.toText))
  let content ← disk.read path
  refuse content.isEmpty (.value ("empty evidence: " ++ path.toText))
  let resolved ← disk.resolve path
  return ⟨resolved.toText, host.sha256 content⟩

/-- `json.loads(path.read_text(encoding="utf-8"))`. -/
def loadJson (host : Host) (disk : Disk) (path : Path) : Except Exn Json := do
  let content ← disk.read path
  match host.loads content with
  | some value => return value
  | none => throw (host.loadsError content)

def loadObject (host : Host) (disk : Disk) (path : Path) : Except Exn Dict := do
  match ← loadJson host disk path with
  | .obj fields => return fields
  | _ => throw (.value ("expected JSON object: " ++ path.toText))

/-! ## Attempts -/

structure Attempt where
  root : Path
  runId : Text
  taskId : Text
  attemptId : Text

/-- `except (OSError, ValueError) as exc: raise WritePolicyError(...)`. -/
def orPolicy (result : Except Exn α) (message : Text) : Except Exn α :=
  match result with
  | .ok a => .ok a
  | .error e => if e.kind = .osError ∨ e.isValueError then .error (.policy message) else .error e

/-- `isinstance(value, str) and value`. -/
def nonemptyText (value : Json) : Option Text :=
  match value with
  | .str t => if t.isEmpty then none else some t
  | _ => none

/-- The identity a marker file names, and its checks against the directory it lies in. -/
def attemptIdentity (host : Host) (disk : Disk) (directory : Path) (payload : Json) :
    Except Exn Attempt := do
  let marker := (directory.child ".attempt.json").toText
  let invalid : Exn := .policy ("invalid attempt identity: " ++ marker)
  match payload with
  | .obj fields =>
      refuse (!Json.eqOpt (Dict.get? fields "schema_version") (.int 1)) invalid
      match nonemptyText (Dict.getD fields "run_id" .null),
          nonemptyText (Dict.getD fields "task_id" .null),
          nonemptyText (Dict.getD fields "attempt_id" .null) with
      | some runId, some taskId, some attemptId => do
          let misplaced : Exn :=
            .policy ("attempt identity does not match its directory: " ++ marker)
          let owner := directory.parent.parent
          refuse (directory.parents.length < 4 || directory.name != attemptId ||
            directory.parent.name != "attempts") misplaced
          let component ← safeComponent host taskId
          refuse (owner.name != component || owner.parent.name != "tasks") misplaced
          let runMarker := owner.parent.parent.child "run.json"
          let link ← disk.isSymlink runMarker
          refuse link (.policy ("run identity cannot be a symlink: " ++ runMarker.toText))
          let identity ← orPolicy (loadJson host disk runMarker)
            ("cannot read owning run identity: " ++ runMarker.toText)
          let conflict : Exn := .policy ("attempt has a conflicting run identity: " ++ marker)
          match identity with
          | .obj run =>
              refuse (!Json.eqOpt (Dict.get? run "schema_version") (.int 1) ||
                !Json.eqOpt (Dict.get? run "run_id") (.str runId)) conflict
              return ⟨← ensureExternal disk directory, runId, taskId, attemptId⟩
          | _ => throw conflict
      | _, _, _ => throw invalid
  | _ => throw invalid

/-- One round of `locate_attempt`: the attempt marked in a directory, if it is marked. -/
def markedAttempt (host : Host) (disk : Disk) (directory : Path) : Except Exn (Option Attempt) := do
  let marker := directory.child ".attempt.json"
  let link ← disk.isSymlink marker
  refuse link (.policy ("attempt identity cannot be a symlink: " ++ marker.toText))
  if ← disk.exists' marker then
    let regular ← disk.isFile marker
    refuse (!regular) (.policy ("invalid attempt marker: " ++ marker.toText))
    let payload ← orPolicy (loadJson host disk marker)
      ("invalid attempt marker: " ++ marker.toText)
    return some (← attemptIdentity host disk directory payload)
  else return none

def firstAttempt (host : Host) (disk : Disk) : List Path → Except Exn (Option Attempt)
  | [] => .ok none
  | directory :: rest => do
      match ← markedAttempt host disk directory with
      | some attempt => return some attempt
      | none => firstAttempt host disk rest

def locateAttempt (host : Host) (disk : Disk) (path : Path) : Except Exn (Option Attempt) := do
  let current ← ensureExternal disk path
  firstAttempt host disk (current :: current.parents)

/-! ## Identity -/

/-- `canonical_hardware`: a lookup in `HARDWARE_ALIASES`. -/
def canonicalHardware (name : Json) : Except Exn Json :=
  let aliases : List Text := ["Kunlunxin-3-P800", "P800", "p800", "kunlun-p800"]
  if !name.hashable then .error (.type "unhashable type")
  else if aliases.any fun known => name.eq (.str known) then .ok (.str "kunlun/p800")
  else .ok name

/-- `text.replace("_", "-")`. -/
def dashed (t : Text) : Text := ⟨t.codes.map fun c => if c.val = 95 then 45 else c⟩

/-- A graph walk's access to one run of a scheduler. -/
structure Bridge where
  state : Path
  runId : Text
  subject : Text
  artifactRoot : Path
  environment : Dict
  execute : Bool

namespace Bridge

def run (bridge : Bridge) : Sched AdaptationRun :=
  requireRun bridge.runId (.value ("unknown adaptation run: " ++ bridge.runId))

def runIdentity (run : AdaptationRun) : Dict :=
  [("run_id", .str run.runId), ("subject", .str run.modelId), ("model_id", .str run.modelId),
    ("model", .str run.modelId), ("backend", .str run.backend),
    ("model_revision", .str run.modelRevision), ("plugin_revision", .str run.pluginRevision),
    ("evidence_mode", run.evidenceMode)]

/-- `isinstance(value, (str, int, bool))`. -/
def plainScalar : Json → Bool
  | .str _ | .int _ | .bool _ => true
  | _ => false

/-- Every field a document of the run may not contradict. -/
def expectedIdentity (bridge : Bridge) (run : AdaptationRun) (environmentProof imported : Bool) :
    Except Exn Dict := do
  let own := runIdentity run
  let bound := run.environment.filter fun field => plainScalar field.2 && !Dict.has own field.1
  let expected := Dict.merge bridge.environment (Dict.merge own bound)
  let expected := if imported then expected.erase "run_id" else expected
  let fingerprint ← run.fingerprint
  if fingerprint.truthy then
    let expected := (expected.set "environment_fingerprint" fingerprint).set "fingerprint" fingerprint
    if environmentProof then return expected
    else return expected.set "pod" (← (← (Json.obj run.environment).item "environment_proof").item "pod")
  else return expected

def agrees (key : Text) (actual value : Json) : Except Exn Bool :=
  if key = "hardware" then do
    let actual ← canonicalHardware actual
    let value ← canonicalHardware value
    return actual.eq value
  else if key = "plugin" then
    match actual, value with
    | .str a, .str b => .ok (dashed a == dashed b)
    | _, _ => .ok (actual.eq value)
  else .ok (actual.eq value)

def checkField (data : Dict) (field : Text × Json) : Except Exn Unit :=
  match data.get? field.1 with
  | none => .ok ()
  | some actual => do
      let same ← agrees field.1 actual field.2
      refuse (!same) (.value ("graph evidence " ++ field.1 ++ " does not match adaptation run"))

/-- The fields of a target and its runtime, with one field for each revision. -/
def flatTarget (target : Dict) (environmentProof : Bool) : Except Exn Dict := do
  match Dict.getD target "runtime" (.obj []) with
  | .obj runtime =>
      let flat := (Dict.merge target runtime).erase "target"
      match Dict.getD flat "revisions" (.obj []) with
      | .obj revisions =>
          let named : Dict :=
            revisions.map fun (key, value) => (key ++ Text.ofString "_revision", value)
          let flat := Dict.merge (Dict.erase flat "revisions") named
          -- an environment proof may smoke-test a different base model
          if environmentProof then return Dict.erase (Dict.erase flat "model") "model_revision"
          else return flat
      | _ => throw (.value "evidence target revisions must be an object")
  | _ => throw (.value "evidence target runtime must be an object")

/-- `_check_identity` of an object. Each recursive call is about a document that nests less
deep, so a budget of one more than the depth is never used up. -/
def checkIdentityWithin (bridge : Bridge) (run : AdaptationRun) :
    Nat → (environmentProof imported : Bool) → Dict → Except Exn Unit
  | 0, _, _, _ => .ok ()
  | fuel + 1, environmentProof, imported, data => do
      let expected ← expectedIdentity bridge run environmentProof imported
      expected.forM (checkField data)
      match Dict.getD data "target" .null with
      | .obj target => do
          let flat ← flatTarget target environmentProof
          checkIdentityWithin bridge run fuel false false flat
      | _ => pure ()
      match Dict.getD data "workspace_identity" .null with
      | .null => pure ()
      | .obj workspace =>
          refuse (!imported && !Json.eqOpt (Dict.get? workspace "run_id") (.str run.runId))
            (.value "environment proof belongs to a different run")
      | _ => refuse (!imported) (.value "environment proof belongs to a different run")
      match Dict.getD data "candidate" .null with
      | .obj candidate => checkIdentityWithin bridge run fuel false false candidate
      | _ => pure ()

def checkIdentity (bridge : Bridge) (run : AdaptationRun) (data : Json)
    (environmentProof imported : Bool) : Except Exn Unit :=
  match data with
  | .obj fields => checkIdentityWithin bridge run (data.depth + 1) environmentProof imported fields
  | _ => .error (.value "evidence identity must be an object")

end Bridge
end InferForge

import InferForge.ResultValidation

/-! Acceptance checks of the environment and service halves of a deployment proof. -/
namespace InferForge
open Py ResultValidation

def environmentArtifacts : List Text :=
  ["environment_fingerprint.txt", "runtime_import.txt", "code_readiness.json",
    "device_readiness.json", "base_model_identity.json", "base_server_log.txt",
    "base_health_result.txt", "base_chat_result.json"]

/-- `document[key] != expected`, for a key whose absence is an error as well. -/
def mustEqual (checks : Dict) (key : Text) (expected : Json) (shown : Text) : List Text :=
  errorIf (!(Dict.getD checks key .null).eq expected)
    ("checks." ++ key ++ " must equal " ++ shown)

/-- `name in artifacts` for a value of any type. -/
def mentions (host : Host) (artifacts : Json) (name : Text) : Except Exn Bool :=
  match artifacts with
  | .arr items => .ok (items.any fun item => item.eq (.str name))
  | .obj fields => .ok (Dict.has fields name)
  | .str t => .ok (decide (name.codes <:+: t.codes))
  | other => .error (.type ("argument of type is not iterable: " ++ host.repr other))

def validateDeploymentStatus (status : Dict) : Except Exn (List Text) :=
  let state := errorIf (!(Dict.getD status "state" .null).eq (.str "DEPLOYMENT_READY"))
    "state must be DEPLOYMENT_READY"
  match Dict.getD status "checks" (.obj []) with
  | .obj checks =>
      .ok (state ++ mustEqual checks "pod_ready" (.bool true) "True" ++
        mustEqual checks "health_check" (.int 200) "200" ++
        mustEqual checks "chat_completion" (.str "non_empty") "'non_empty'" ++
        mustEqual checks "expected_backend" (.str "kunlun") "'kunlun'" ++
        mustEqual checks "unexpected_fallback" (.bool false) "False" ++
        errorIf (!(Dict.getD status "artifacts" .null).truthy)
          "artifacts must contain at least one evidence path")
  | _ => .error (.attr "object has no attribute 'get'")

def validateEnvironmentStatus (host : Host) (status : Dict) : Except Exn (List Text) := do
  let state := errorIf (!(Dict.getD status "state" .null).eq (.str "ENVIRONMENT_READY"))
    "state must be ENVIRONMENT_READY"
  match Dict.getD status "checks" (.obj []) with
  | .obj checks =>
      let flags : List Text := ["pod_ready", "runtime_importable", "code_ready", "device_ready",
        "base_model_loaded", "base_prefill", "base_decode"]
      let unset := flags.flatMap fun key =>
        errorIf (!(Dict.getD checks key .null).isTrue) ("checks." ++ key ++ " must be True")
      let pod := errorIf (!(Dict.getD status "pod" .null).truthy)
        "pod must be recorded so a later phase can import it"
      let given := Dict.getD status "artifacts" .null
      let artifacts := if given.truthy then given else .arr []
      let absent ← environmentArtifacts.mapM fun name => do
        return errorIf (!(← mentions host artifacts name))
          (name ++ " must be part of the evidence bundle")
      return state ++ unset ++ mustEqual checks "base_health_check" (.int 200) "200" ++
        mustEqual checks "base_chat_completion" (.str "non_empty") "'non_empty'" ++
        mustEqual checks "unexpected_fallback" (.bool false) "False" ++ pod ++ absent.flatten
  | _ => throw (.attr "object has no attribute 'get'")

/-- The body of `validate_environment_identity`'s `try`. -/
def identityDifferences (host : Host) (disk : Disk) (root : Path) : Except Exn (List Text) := do
  let expected ← disk.baseModel
  let content ← disk.read (root.child "base_model_identity.json")
  match host.loads content with
  | none => throw (host.loadsError content)
  | some (.obj identity) =>
      let keys : List Text := ["name", "path", "served_model_name"]
      let differences ← keys.mapM fun key => do
        let wanted := (← expected.get key).getD .null
        return errorIf (!wanted.truthy || !(Dict.getD identity key .null).eq wanted)
          ("base_model_identity." ++ key ++ " must equal configured " ++ host.repr wanted)
      return differences.flatten
  | some _ => return ["base_model_identity.json must contain an object"]

def validateEnvironmentIdentity (host : Host) (disk : Disk) (root : Path) :
    Except Exn (List Text) :=
  match identityDifferences host disk root with
  | .ok errors => .ok errors
  | .error e =>
      if e.isRejection then
        .ok [Text.ofString "cannot validate base_model_identity.json: " ++ e.message]
      else .error e

/-! A host and a disk to evaluate the definitions on: every evidence file of a proof is there. -/

def baseModelSample : Dict :=
  [("name", .str "base"), ("path", .str "/base"), ("served_model_name", .str "base")]

def baseModelText : Bytes :=
  Text.utf8 "\x7b\"name\": \"base\", \"path\": \"/base\", \"served_model_name\": \"base\"\x7d"

def Host.proven : Host := { Host.sample with
  loads := fun content => if content = baseModelText then some (.obj baseModelSample) else none }

def Disk.proven : Disk := { Disk.sample with
  read := fun path =>
    if path.name = "base_model_identity.json" then .ok baseModelText
    else if path.name ∈ environmentArtifacts then .ok [49]
    else .error (.os "No such file or directory")
  baseModel := .ok (.obj baseModelSample) }

/-- A proof that `bind_environment` accepts. -/
def proofSample (userId pod : Text) : Dict :=
  [("state", .str "ENVIRONMENT_READY"), ("pod", .str pod), ("user_id", .str userId),
    ("artifact_root", .str "/evidence"),
    ("checks", .obj [("pod_ready", .bool true), ("runtime_importable", .bool true),
      ("code_ready", .bool true), ("device_ready", .bool true), ("base_model_loaded", .bool true),
      ("base_prefill", .bool true), ("base_decode", .bool true), ("base_health_check", .int 200),
      ("base_chat_completion", .str "non_empty"), ("unexpected_fallback", .bool false)]),
    ("artifacts", .arr (environmentArtifacts.map Json.str))]

/-- The files of a proof in a directory, told apart by its status and its fingerprint. -/
def evidenceSample (root : Text) (status fingerprint : Bytes) : List (Text × Bytes) :=
  (root ++ "/status.json", status) ::
    environmentArtifacts.map fun name => (root ++ "/" ++ name,
      if name = "base_model_identity.json" then baseModelText
      else if name = "environment_fingerprint.txt" then fingerprint else [49])

end InferForge

import InferForge.Adapters.Cluster
import InferForge.Storage
import InferForge.Py.Dumps
import Mathlib.Data.List.Sort

/-! The contract of a deployment proof: the fields a proof reads, and the two operations that
generate them. -/
namespace InferForge
open Py Effect

/-- `checks.health`. -/
structure HealthCheck where
  path : Text
  expectedStatus : Int

/-- `checks.chat`. -/
structure ChatCheck where
  path : Text
  method : Text
  payload : Json
  expectedNonEmptyText : Bool

/-- `checks.backend`. -/
structure BackendCheck where
  expected : Option Text
  rejectUnexpectedFallback : Bool

/-- `none` is a key that the contract does not have. -/
structure Contract where
  name : Text
  userId : Option Text
  resourceName : Text
  namespaceName : Text
  manifest : Option Text
  startupTimeoutSeconds : Int
  watchStallPolls : Int
  healthSuccessesRequired : Int
  retainOnFailure : Bool
  serverLog : Option Text
  install : List Text
  setup : List Text
  serve : List Text
  modelName : Text
  /-- `none` is `null`. -/
  modelPath : Option Text
  modelPvc : Option Text
  /-- `context.software` and the image it names. -/
  softwareImage : Option (Option Text)
  servedModelName : Text
  port : Int
  tensorParallelSize : Int
  deviceCount : Int
  volcanoQueue : Option Text
  dedicatedPool : Option Text
  runtimeBackend : Option Text
  health : HealthCheck
  chat : ChatCheck
  backend : BackendCheck

def Contract.model (contract : Contract) : Dict :=
  let model : Dict := [("name", .str contract.modelName),
    ("path", match contract.modelPath with | some path => .str path | none => .null)]
  match contract.modelPvc with
  | some pvc => model.set "pvc" (.str pvc)
  | none => model

/-- `mapping[key]` for a key that may be missing. -/
def required (key : Text) : Option α → Except Exn α
  | some value => .ok value
  | none => .error (.key key)

/-- A value of a contract that is neither missing nor empty. -/
def given (value : Option Text) : Option Text := value.filter fun text => !text.isEmpty

/-! `render_manifest`. -/

/-- `[A-Z0-9_]`. -/
def isPlaceholderChar (c : CodePoint) : Bool :=
  (48 ≤ c.val && c.val ≤ 57) || (65 ≤ c.val && c.val ≤ 90) || c.val == 95

/-- The name in a placeholder at the head of the text. -/
def placeholderName : List CodePoint → Option (List CodePoint)
  | dollar :: brace :: rest =>
      let name := rest.takeWhile isPlaceholderChar
      if dollar = 36 ∧ brace = 123 ∧ name ≠ [] ∧ (rest.drop name.length).head? = some 125 then some name
      else none
  | _ => none

/-- `skip` code points still belong to the last placeholder. -/
def placeholdersFrom : Nat → List CodePoint → List Text
  | _, [] => []
  | skip + 1, _ :: rest => placeholdersFrom skip rest
  | 0, c :: rest =>
      match placeholderName (c :: rest) with
      | some name => ⟨name⟩ :: placeholdersFrom (name.length + 2) rest
      | none => placeholdersFrom 0 rest

def fillFrom (values : List (Text × Text)) : Nat → List CodePoint → List CodePoint
  | _, [] => []
  | skip + 1, _ :: rest => fillFrom values skip rest
  | 0, c :: rest =>
      match placeholderName (c :: rest) with
      | some name => ((values.lookup ⟨name⟩).getD ⟨[]⟩).codes ++ fillFrom values (name.length + 2) rest
      | none => c :: fillFrom values 0 rest

def renderManifest (host : Host) (template : Text) (values : List (Text × Text)) : Except Fault Text :=
  let missing := (placeholdersFrom 0 template.codes).filter fun name => (values.lookup name).isNone
  if missing.isEmpty then .ok ⟨fillFrom values 0 template.codes⟩
  else .error (.actionFailed "CONTRACT_INVALID"
    ("manifest placeholders unresolved: " ++ host.repr
      (.arr ((missing.dedup.mergeSort fun a b => Py.Json.codesLe a.codes b.codes).map Json.str))))

def manifestValues (contract : Contract) (attemptId workdir image : Text) :
    Except Exn (List (Text × Text)) := do
  let pvc ← required "pvc" contract.modelPvc
  let software ← required "software" contract.softwareImage
  let queue ← required "volcano_queue" contract.volcanoQueue
  let pool ← required "dedicated_pool" contract.dedicatedPool
  let user := (given contract.userId).toList.map fun user => (Text.ofString "USER_ID", user)
  let values : List (Text × Text) :=
    [("RESOURCE_NAME", contract.resourceName), ("NAMESPACE", contract.namespaceName),
      ("TASK_ID", contract.name), ("ATTEMPT_ID", attemptId), ("MODEL_NAME", contract.modelName),
      ("MODEL_PVC", pvc), ("IMAGE", software.getD image),
      ("SERVER_PORT", .ofInt contract.port), ("XPU_COUNT", .ofInt contract.deviceCount),
      ("VOLCANO_QUEUE", queue), ("DEDICATED_POOL", pool), ("WORKDIR", workdir)]
  return user ++ values

/-! The generated contracts. -/

/-- What the generators take from the cluster profile. -/
structure ClusterProfile where
  namespaceName : Text
  baseName : Text
  basePath : Text
  baseServedModelName : Text
  baseTensorParallelSize : Int
  modelPvc : Text
  xpuCount : Int
  queue : Text
  nodePool : Text
  image : Text
  baseManifest : Text
  commonSetup : List Text

/-- What a chat check asks for. -/
def chatPayload (model : Text) (maxTokens : Int) : Json :=
  .obj [("model", .str model), ("messages", .arr [.obj [("role", .str "user"),
    ("content", .str "Say hello in one short sentence.")]]), ("max_tokens", .int maxTokens)]

/-- The checks of every generated contract. -/
def generatedHealth : HealthCheck := ⟨"/health", 200⟩

def generatedChat (model : Text) (maxTokens : Int) : ChatCheck :=
  ⟨"/v1/chat/completions", "POST", chatPayload model maxTokens, true⟩

def generatedBackend : BackendCheck := ⟨some "kunlun", true⟩

/-- `build_environment_contract`: of a previous contract only operational overrides survive. -/
def buildEnvironmentContract (profile : ClusterProfile) (taskName owner serve : Text)
    (successes : Option Int) (serverLog : Option Text) : Contract where
  name := taskName
  userId := some owner
  resourceName := if owner.isEmpty then ⟨[]⟩ else owner ++ "-environment-base"
  namespaceName := profile.namespaceName
  manifest := some profile.baseManifest
  startupTimeoutSeconds := 1800
  watchStallPolls := 30
  healthSuccessesRequired := successes.getD 3
  retainOnFailure := true
  serverLog := given serverLog
  install := ["bash /workspace/install_vllm_kunlun.sh"]
  setup := profile.commonSetup
  serve := [serve]
  modelName := profile.baseName
  modelPath := some profile.basePath
  modelPvc := some profile.modelPvc
  softwareImage := some (some profile.image)
  servedModelName := profile.baseServedModelName
  port := 8356
  tensorParallelSize := profile.baseTensorParallelSize
  deviceCount := profile.xpuCount
  volcanoQueue := some profile.queue
  dedicatedPool := some profile.nodePool
  runtimeBackend := some "kunlun"
  health := generatedHealth
  chat := generatedChat profile.baseServedModelName 16
  backend := generatedBackend

/-- `render_instance`: no manifest, queue or pool, as a service runs in a prepared Pod. -/
def renderInstance (profile : ClusterProfile) (owner subject resourceSubject serve : Text)
    (modelPath modelPvc : Option Text) (totalWeightBytes tensorParallelSize : Int) : Contract where
  name := "kdp-001-" ++ resourceSubject
  userId := given (some owner)
  resourceName := resourceName owner resourceSubject
  namespaceName := profile.namespaceName
  manifest := none
  startupTimeoutSeconds := max 900 (totalWeightBytes / 2 ^ 30 * 5)
  watchStallPolls := 30
  healthSuccessesRequired := 3
  retainOnFailure := true
  serverLog := some ("/workspace/server_" ++ resourceSubject ++ ".log")
  install := []
  setup := profile.commonSetup
  serve := [serve]
  modelName := subject
  modelPath := modelPath
  modelPvc := modelPvc
  softwareImage := none
  servedModelName := subject
  port := 8356
  tensorParallelSize := tensorParallelSize
  deviceCount := tensorParallelSize
  volcanoQueue := none
  dedicatedPool := none
  runtimeBackend := some "kunlun"
  health := generatedHealth
  chat := generatedChat subject 32
  backend := generatedBackend

/-- A contract that one of the generators made, with at least one health success required. -/
inductive Contract.Generated : Contract → Prop where
  | environment {profile taskName owner serve successes serverLog}
      (some' : 1 ≤ (successes.getD 3 : Int)) :
      Generated (buildEnvironmentContract profile taskName owner serve successes serverLog)
  | service {profile owner subject resourceSubject serve modelPath modelPvc weight tensorParallel} :
      Generated (renderInstance profile owner subject resourceSubject serve modelPath modelPvc weight
        tensorParallel)

/-- What the acceptance of a proof relies on. -/
structure Contract.Demanding (contract : Contract) : Prop where
  status : contract.health.expectedStatus = 200
  successes : 1 ≤ contract.healthSuccessesRequired
  text : contract.chat.expectedNonEmptyText = true
  backend : contract.backend.expected = some (Text.ofString "kunlun")
  fallback : contract.backend.rejectUnexpectedFallback = true

theorem Contract.Generated.demanding (generated : contract.Generated) :
    Contract.Demanding contract := by
  cases generated with
  | environment some' => exact ⟨rfl, some', rfl, rfl, rfl⟩
  | service => exact ⟨rfl, (by decide : (1 : Int) ≤ 3), rfl, rfl, rfl⟩

end InferForge

import InferForge.Coerce
import InferForge.Py.Ordered
import InferForge.ResultValidation

/-! Acceptance checks of a deployment plan, with quotients of sizes taken exactly. -/
namespace InferForge.DeploymentPlan
open Py Effect ResultValidation

inductive PlanFault where
  | exn (e : Exn)
  | zeroDivision

def call (x : Except Exn α) : Except PlanFault α := x.mapError .exn

@[simp] theorem call_ok {x : Except Exn α} : call x = .ok a ↔ x = .ok a := by
  cases x <;> simp [call, Except.mapError]

/-- What the plan and its checks take from `str`: the format `:.0f` of a number, and `lower`. -/
structure Formats where
  fixed : Rat → Text
  lower : Text → Text

/-- `value.get(key)`. -/
def field (value : Json) (key : Text) : Except Exn Json := (·.getD .null) <$> value.get key

/-- A number of bytes in MiB. -/
def mib (bytes : Int) : Rat := bytes / 2 ^ 20

/-- `REQUIRED`. -/
def requiredParameters : List Text :=
  ["dtype", "tensor_parallel_size", "max_model_len", "block_size", "trust_remote_code",
    "gpu_memory_utilization", "enforce_eager"]

def validTp : List Int := [1, 2, 4, 8]

section Checks
variable (host : Host) (formats : Formats) (identity model : Json) (table : Mapping)

/-- `{item["parameter"]: item for item in items}`. -/
def parameterTable (items : List Json) : Except Exn Mapping :=
  items.foldlM (fun table item => do
    let name ← item.item "parameter"
    if name.hashable then return table.set name item
    else throw (.type "unhashable type")) []

/-- `parameters.get(name, {}).get("value")`. -/
def parameterValue (name : Text) : Except Exn Json :=
  field ((table.get? (.str name)).getD (.obj [])) "value"

def missingErrors : List Text :=
  let missing := requiredParameters.filter fun name => (table.get? (.str name)).isNone
  errorIf (!missing.isEmpty)
    ("the plan does not decide " ++ host.repr (.arr ((sortedSet missing).map .str)))

def entryErrors (entry : Json × Json) : Except Exn (List Text) := do
  let source ← field entry.2 "source"
  let value ← field entry.2 "value"
  return errorIf (!source.truthy)
      (host.str entry.1 ++ " has no source: an unsourced parameter is a guess in disguise") ++
    errorIf value.isNull (host.str entry.1 ++ " has no value")

/-- `set(left) != set(right)`, each a list of hashable values. -/
def setsDiffer (left right : List Json) : Bool :=
  !(left.all (fun x => right.any x.eq) && right.all fun y => left.any y.eq)

def assumptionErrors (declared : List Json) : Except Exn (List Text) := do
  let actual ← table.filterM fun entry => (·.truthy) <$> field entry.2 "assumption"
  if declared.all (·.hashable) then
    return errorIf (setsDiffer declared (actual.map Prod.fst))
      "assumptions disagree with the per-parameter flags"
  else throw (.type "unhashable type")

def dtypeErrors : Except Exn (List Text) := do
  let dtype ← parameterValue table "dtype"
  let own ← field identity "torch_dtype"
  return errorIf (dtype.truthy && own.truthy && !dtype.eq own)
    ("dtype " ++ host.repr dtype ++ " contradicts the checkpoint's own " ++ host.repr own)

def lengthErrors : Except Exn (List Text) := do
  let limit ← field identity "max_position_embeddings"
  let length ← parameterValue table "max_model_len"
  if limit.truthy && length.truthy then
    let wanted ← length.toInt host
    let most ← limit.toInt host
    return errorIf (most < wanted)
      ("max_model_len " ++ host.str length ++ " exceeds the checkpoint's limit " ++ host.str limit)
  else return []

def sizeErrors : Except Exn (List Text) := do
  let heads ← field identity "num_attention_heads"
  let size ← parameterValue table "tensor_parallel_size"
  if !size.hashable then throw (.type "unhashable type")
  else if !validTp.any (fun n => size.eq (.int n)) then
    return ["tensor_parallel_size " ++ host.repr size ++ " is not one of [1, 2, 4, 8]"]
  else if heads.truthy then
    let count ← heads.toInt host
    let parts ← size.toInt host
    return errorIf (count % parts ≠ 0)
      ("tensor_parallel_size " ++ host.str size ++ " does not divide " ++ host.str heads ++ " heads")
  else return []

def trustErrors : Except Exn (List Text) := do
  let trust ← parameterValue table "trust_remote_code"
  let required ← field model "trust_remote_code_required"
  return errorIf (required.truthy && !trust.truthy)
    "the checkpoint carries its own modelling code, so trust_remote_code must be true"

def memoryErrors (device : Json) : Except PlanFault (List Text) := do
  let weightBytes ← call (do ((← field model "total_weight_bytes").or (.int 0)).toInt host)
  let size := (← call (parameterValue table "tensor_parallel_size")).or (.int 1)
  let hbm ← call (field device "hbm_mib")
  if hbm.truthy && weightBytes ≠ 0 then
    let parts ← call (size.toInt host)
    if parts = 0 then throw .zeroDivision
    else
      let share := mib weightBytes / parts
      let capacity ← call (hbm.toInt host)
      return errorIf (decide ((capacity : Rat) < share))
        (formats.fixed share ++ " MiB of weights per card does not fit in " ++ host.str hbm ++
          " MiB at tensor_parallel_size " ++ host.str size)
  else return []

end Checks

/-- The checks of one section, where it has content. -/
def whenFilled (value : Json) (check : Except ε (List Text)) : Except ε (List Text) :=
  if value.truthy then check else .ok []

def validateDeploymentPlan (host : Host) (formats : Formats) (report contract : Dict)
    (request : Option Dict) : Except PlanFault (List Text) := do
  let acceptance := (Dict.getD contract "acceptance" .null).or (.obj [])
  let checks := (Dict.getD contract "checks" .null).or (.obj [])
  let state := errorIf (!(Dict.getD report "state" .null).eq (.str "PLAN_READY"))
    ("state is " ++ host.repr (Dict.getD report "state" .null) ++ ", not PLAN_READY")
  let items ← call ((Dict.getD report "parameters" .null).or (.arr [])).elements
  let table ← call (parameterTable items)
  let entries ← call (table.mapM (entryErrors host))
  let declared ← call ((Dict.getD report "assumptions" .null).or (.arr [])).elements
  let assumptions ← call (assumptionErrors table declared)
  let pin ← call (field acceptance "require_stack_pin")
  let revision ← call (field acceptance "require_revision")
  let identity := (Dict.getD (request.getD []) "identity" .null).or (.obj [])
  let model := (Dict.getD (request.getD []) "model" .null).or (.obj [])
  let dtype ← call (whenFilled identity (dtypeErrors host identity table))
  let length ← call (whenFilled identity (lengthErrors host identity table))
  let size ← call (whenFilled identity (sizeErrors host identity table))
  let trust ← call (whenFilled model (trustErrors model table))
  let arithmetic ← call (field checks "memory_arithmetic_required")
  let memory ← whenFilled arithmetic
    (memoryErrors host formats model table ((Dict.getD report "device" .null).or (.obj [])))
  return state ++ missingErrors host table ++ entries.flatten ++ assumptions ++
    errorIf (pin.truthy && !(Dict.getD report "stack_commit" .null).truthy)
      "stack_commit must be recorded: a plan is only valid for one stack" ++
    errorIf (revision.truthy && !(Dict.getD report "revision" .null).truthy)
      "revision must be recorded: a plan is only valid for one checkpoint" ++
    dtype ++ length ++ size ++ trust ++ memory

end InferForge.DeploymentPlan

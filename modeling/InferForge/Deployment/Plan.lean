import InferForge.Validators.Plan
import Mathlib.Data.Rat.Floor

/-! The launch parameters of a deployment, derived from the checkpoint, the device and the placed
patch. Sizes and quotients are exact. -/
namespace InferForge.DeploymentPlan
open Py Effect

def weightHeadroom : Rat := 11 / 20

/-- `gpu_memory_utilization`. -/
def utilization : Rat := 9 / 10

section Planner
variable (host : Host) (formats : Formats)

/-- `value`. -/
def parameter (name : Text) (value : Json) (source : Text) (assumption : Bool) : Dict :=
  [("parameter", .str name), ("value", value), ("source", .str source),
    ("assumption", .bool assumption)]

/-- `int(mapping.get(key) or default)`. -/
def intOr (mapping : Json) (key : Text) (default : Int) : Except Exn Int := do
  ((← field mapping key).or (.int default)).toInt host

/-- The elements that one token takes in one layer. -/
def perToken (identity : Json) : Except Exn Int := do
  let rank ← field identity "kv_lora_rank"
  if rank.truthy then
    let latent ← rank.toInt host
    let rope ← intOr host identity "qk_rope_head_dim" 0
    return latent + rope
  else
    let heads ← intOr host identity "num_key_value_heads" 1
    let nope ← field identity "qk_nope_head_dim"
    let dim ← (((← field identity "head_dim").or nope).or (.int 128)).toInt host
    return 2 * heads * dim

def kvFloorMib (identity : Json) (maxModelLen : Int) : Except Exn Rat := do
  let layers ← intOr host identity "num_hidden_layers" 1
  let elements ← perToken host identity
  return mib (elements * layers * maxModelLen * 2)

/-- The search of `cap_model_len_to_budget`. -/
def halveToFit (identity : Json) (half : Rat) (modelLen : Int) : Except Exn Int :=
  if 1024 < modelLen then
    match kvFloorMib host identity modelLen with
    | .error e => .error e
    | .ok floor => if half < floor then halveToFit identity half (modelLen / 2) else .ok modelLen
  else .ok modelLen
termination_by modelLen.toNat

def identityLimit : Text := "mat-001 identity.max_position_embeddings"

def capModelLenToBudget (identity : Json) (positionLimit : Int) (weight : Rat) (hbm size : Int) :
    Except Exn (Int × Text) := do
  let perCardWeights := weight / size
  let budget := hbm * utilization
  let remainder := budget - perCardWeights
  let floor ← kvFloorMib host identity positionLimit
  if floor ≤ remainder / 2 then return (positionLimit, identityLimit)
  else
    let modelLen ← halveToFit host identity (remainder / 2) positionLimit
    if modelLen = positionLimit then return (positionLimit, identityLimit)
    else return (modelLen, "pre-flight budget cap: " ++ formats.fixed perCardWeights ++
      " MiB/card of weights against a " ++ formats.fixed budget ++ " MiB/card budget leaves " ++
      formats.fixed remainder ++ " MiB for KV and runtime, but one " ++ Text.ofInt positionLimit ++
      "-token sequence needs " ++ formats.fixed floor ++
      " MiB (conservative bf16 estimate); capped to " ++ Text.ofInt modelLen ++
      ". MEM-001 measures the real budget and the length can be revisited.")

/-- A size among the `candidates`. -/
def isCandidate (weight : Rat) (hbm heads size : Int) : Bool :=
  let minimum := max 1 ⌈weight / (hbm * weightHeadroom)⌉
  decide (minimum ≤ size) && decide (heads % size = 0)

/-- The smallest size with room for the weights that divides the heads, or 8. -/
def tensorParallel (weight : Rat) (hbm heads : Int) : Int :=
  (validTp.find? (isCandidate weight hbm heads)).getD 8

/-- `next((text for text in limitations if "eager" in text.lower()), None)`. -/
def eagerReason : List Json → Except Exn (Option Text)
  | [] => .ok none
  | .str text :: rest =>
      if decide (Text.codes "eager" <:+: (formats.lower text).codes) then .ok (some text)
      else eagerReason rest
  | _ :: _ => .error (.attr "object has no attribute 'lower'")

/-- `BLOCK_SIZE`, and the name of the attention. -/
def blockSize (mla : Bool) : Int × Text := if mla then (64, "mla") else (16, "default")

/-- The entries of `parameters`; `reason` is empty when no limitation asks for eager execution. -/
def planParameters (dtype : Json) (weight : Rat) (hbm heads size modelLen : Int)
    (modelLenSource : Text) (mla trust : Bool) (reason : Text) : List Dict :=
  [parameter "dtype" dtype "mat-001 identity.torch_dtype" false,
    parameter "tensor_parallel_size" (.int size)
      (formats.fixed weight ++ " MiB of weights against " ++ Text.ofInt hbm ++
        " MiB per card with 55% left for KV and runtime; heads " ++ Text.ofInt heads ++
        " divisible") false,
    parameter "max_model_len" (.int modelLen) modelLenSource false,
    parameter "block_size" (.int (blockSize mla).1)
      ("vLLM-Kunlun default for " ++ (blockSize mla).2 ++
        " attention (openwiki/vllm-kunlun/platform-contract.md)") false,
    parameter "trust_remote_code" (.bool trust) "mat-001 model.trust_remote_code_required" false,
    parameter "gpu_memory_utilization" (.float (.fin utilization))
      "no measurement supports a specific fraction yet; MEM-001 can refine it" true,
    parameter "enforce_eager" (.bool !reason.isEmpty)
      (if reason.isEmpty then "no placed patch requires eager execution"
      else "mat-007 patch limitation: " ++ reason) false]

def plan (request classification spec : Dict) (patch : Option Dict) : Except PlanFault Dict := do
  let identity := (Dict.getD request "identity" .null).or (.obj [])
  let model := (Dict.getD request "model" .null).or (.obj [])
  let target := (Dict.getD request "target" .null).or (.obj [])
  let hbm ← call (do (← (Json.obj spec).item "hbm_mib").toInt host)
  let weight ← call (do ((← model.get "total_weight_bytes").getD (.int 0)).toInt host)
  let heads ← call (intOr host identity "num_attention_heads" 1)
  if hbm = 0 then throw .zeroDivision
  else
    let size := tensorParallel (mib weight) hbm heads
    let rank ← call (field identity "kv_lora_rank")
    let positionLimit ← call (intOr host identity "max_position_embeddings" 32768)
    let (modelLen, modelLenSource) ←
      call (capModelLenToBudget host formats identity positionLimit (mib weight) hbm size)
    let dtype ← call (field identity "torch_dtype")
    let trust ← call (field model "trust_remote_code_required")
    let limitations ← call (((Dict.getD (patch.getD []) "limitations" .null).or (.arr [])).elements)
    let eager ← call (eagerReason formats limitations)
    let parameters := planParameters formats dtype (mib weight) hbm heads size modelLen modelLenSource
      rank.truthy trust.truthy (eager.getD "")
    let subject ← call (field model "id")
    let revision ← call (field model "revision")
    let hardware ← call (field target "hardware")
    let commit ← call (field target "vllm_kunlun_commit")
    return [("state", .str "PLAN_READY"), ("subject", subject), ("revision", revision),
      ("hardware", hardware), ("stack_commit", commit),
      ("classification", Dict.getD classification "classification" .null),
      ("parameters", .arr (parameters.map .obj)),
      ("device", .obj [("id", .str "p800"), ("hbm_mib", .int hbm)]),
      ("assumptions", .arr ((parameters.filter fun item =>
        (Dict.getD item "assumption" .null).truthy).map fun item => Dict.getD item "parameter" .null))]

/-! ## What the plan reads -/

/-- The numbers of a request and a device that decide the plan. -/
structure Quantities where
  heads : Int
  headsGiven : Bool
  limit : Int
  hbm : Int
  weight : Rat
  /-- The cached elements of one position. -/
  perPosition : Int

def quantities (request spec : Dict) : Except Exn Quantities := do
  let identity := (Dict.getD request "identity" .null).or (.obj [])
  let model := (Dict.getD request "model" .null).or (.obj [])
  let hbm ← (do (← (Json.obj spec).item "hbm_mib").toInt host)
  let weight ← (do ((← model.get "total_weight_bytes").getD (.int 0)).toInt host)
  let heads ← intOr host identity "num_attention_heads" 1
  let given ← field identity "num_attention_heads"
  let limit ← intOr host identity "max_position_embeddings" 32768
  let layers ← intOr host identity "num_hidden_layers" 1
  let elements ← perToken host identity
  return ⟨heads, given.truthy, limit, hbm, mib weight, elements * layers⟩

/-- The table of parameters of a report, as its checks read it. -/
def reportTable (report : Dict) : Except Exn Mapping := do
  parameterTable (← ((Dict.getD report "parameters" .null).or (.arr [])).elements)

theorem reportTable_filled {report : Dict} {items : List Json}
    (listed : Dict.getD report "parameters" .null = .arr items) (filled : items ≠ []) :
    reportTable report = parameterTable items := by
  have given : (Json.arr items).truthy = true := by simp [Json.truthy, filled]
  rw [reportTable, listed, Json.or, if_pos given, Json.elements, ok_bind]

theorem parameterTable_plan (dtype : Json) (weight : Rat) (hbm heads size modelLen : Int)
    (source : Text) (mla trust : Bool) (reason : Text) :
    ∃ table, parameterTable ((planParameters formats dtype weight hbm heads size modelLen source mla
        trust reason).map .obj) = .ok table ∧
      parameterValue table "tensor_parallel_size" = .ok (.int size) ∧
      parameterValue table "max_model_len" = .ok (.int modelLen) := by
  exact ⟨_, rfl, rfl, rfl⟩

theorem plan_parameters (q : Quantities) (request classification spec report : Dict) (patch : Option Dict)
    (read : quantities host request spec = .ok q)
    (planned : plan host formats request classification spec patch = .ok report) :
    ∃ modelLen source table,
      capModelLenToBudget host formats ((Dict.getD request "identity" .null).or (.obj [])) q.limit
        q.weight q.hbm (tensorParallel q.weight q.hbm q.heads) = .ok (modelLen, source) ∧
      reportTable report = .ok table ∧
      parameterValue table "tensor_parallel_size" =
        .ok (.int (tensorParallel q.weight q.hbm q.heads)) ∧
      parameterValue table "max_model_len" = .ok (.int modelLen) := by
  simp only [quantities, bind_ok, pure_ok] at read
  obtain ⟨hbm, ⟨h, hbmItem, hbmInt⟩, weight, ⟨w, weightItem, weightInt⟩, heads, headsInt, given, givenField, limit, limitInt, layers, layersInt, elements, elementsInt, rfl⟩ := read
  simp only [plan, hbmItem, hbmInt, weightItem, weightInt, headsInt, limitInt, ok_bind, bind_ok,
    call_ok, Except.ok.injEq, exists_eq_left'] at planned
  split at planned
  · cases planned
  · simp only [bind_ok, call_ok, Except.ok.injEq, exists_eq_left', pure_ok] at planned
    obtain ⟨rank, -, ⟨modelLen, source⟩, capped, dtype, -, trust, -, limitations, -, eager, -, subject, -,
      revision, -, hardware, -, commit, -, rfl⟩ := planned
    obtain ⟨table, found, size, length⟩ := parameterTable_plan formats dtype (mib weight) hbm heads
      (tensorParallel (mib weight) hbm heads) modelLen source rank.truthy trust.truthy (eager.getD "")
    refine ⟨modelLen, source, table, capped, ?_, size, length⟩
    rw [reportTable_filled rfl (List.cons_ne_nil _ _)]
    exact found

end Planner
end InferForge.DeploymentPlan

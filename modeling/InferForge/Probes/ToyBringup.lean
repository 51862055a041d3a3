import InferForge.Validators.Bringup

/-! The toy bring-up: a few-layer copy of a real model config. -/
namespace InferForge
open Py ResultValidation Effect

namespace ToyBringup

/-- `value[:n]` of a list. -/
def sliceTo (items : List Json) (n : Int) : List Json :=
  if 0 ≤ n then items.take n.toNat else items.take (items.length - n.natAbs)

/-- Per-layer lists are recognised by their length. -/
def cutLayers (original depth : Int) : Json → Json
  | .arr items => if items.length = original then .arr (sliceTo items depth) else .arr items
  | value => value

/-- At least one layer past the dense ones, if the real model has one. -/
def newDepth (original layers densePrefix : Int) : Int := min original (max layers (densePrefix + 2))

section Derive
variable (host : Host) (source : Dict) (layers experts : Int)

/-- `int(config.get(key) or default)`. -/
def number (config : Dict) (key : Text) (default : Int) : Except Exn Int :=
  ((Dict.getD config key .null).or (.int default)).toInt host

/-- The experts of a mixture, enough for grouped top-k. -/
def withExperts (config : Dict) : Except Exn Dict :=
  if (Dict.getD config "n_routed_experts" .null).truthy then do
    let topK ← number host config "num_experts_per_tok" 1
    let groups ← number host config "n_group" 1
    return config.set "n_routed_experts" (.int (max experts (max (topK * groups) groups)))
  else .ok config

/-- The next-token modules have a bring-up of their own. -/
def withoutNextn (config : Dict) : Dict :=
  if (Dict.getD config "num_nextn_predict_layers" .null).truthy then config.set "num_nextn_predict_layers" (.int 0)
  else config

def cutConfig (original depth : Int) : Dict :=
  (Dict.set source "num_hidden_layers" (.int depth)).map fun field => (field.1, cutLayers original depth field.2)

def summaryDimensions : List Text :=
  ["hidden_size", "num_attention_heads", "qk_nope_head_dim", "qk_rope_head_dim", "v_head_dim", "kv_lora_rank",
    "q_lora_rank", "index_topk", "index_head_dim", "index_n_heads"]

/-- A value that is there and not `None`. -/
def present (config : Dict) (key : Text) : Option Json :=
  (Dict.get? config key).bind fun value => if value.isNull then none else some value

def keptDimensions (config : Dict) : Dict :=
  summaryDimensions.filterMap fun key => (present config key).map fun value => (key, value)

end Derive

/-! ## A consistent shrink -/

/-- The keys whose values a shrink may change. -/
def shrunkKeys : List Text := ["num_hidden_layers", "n_routed_experts", "num_nextn_predict_layers"]

/-- The written config is a smaller copy of the source, on which the same kernels are selected. -/
structure Consistent (host : Host) (source : Dict) (real depth : Int) (config summary : Dict) : Prop where
  keys : Dict.keys config = Dict.keys source
  others : ∀ key ∉ shrunkKeys, Dict.get? config key = (Dict.get? source key).map (cutLayers real depth)
  layers : Dict.get? config "num_hidden_layers" = some (.int depth) ∧ depth ≤ real
  reach : ∀ k, number host source "first_k_dense_replace" 0 = .ok k → k < real → k < depth
  experts : ∀ count topK groups, Dict.get? source "n_routed_experts" = some (.int count) → count ≠ 0 →
    number host source "num_experts_per_tok" 1 = .ok topK → number host source "n_group" 1 = .ok groups →
      ∃ toy, Dict.get? config "n_routed_experts" = some (.int toy) ∧ toy ≤ count ∧
        (topK ≤ count → topK ≤ toy) ∧ (groups ∣ count → groups ∣ toy)
  kept : keptErrors host ((Dict.getD summary "kept_dimensions" .null).or (.obj [])) source kernelDimensions = .ok []

section Written
variable {host : Host} {source config : Dict} {real depth layers experts k : Int}

/-- What a later step of the derivation leaves alone. -/
structure Leaves (before after : Dict) (changed : Text) : Prop where
  keys : Dict.keys after = Dict.keys before
  others : ∀ key, key ≠ changed → Dict.get? after key = Dict.get? before key

end Written

/-! ## When the shrink is consistent -/

section Shrink
variable {host : Host} {source config summary : Dict} {real layers experts k : Int}

/-- The config and the summary, by the steps of the derivation. -/
structure Derived (host : Host) (source : Dict) (real layers experts k : Int) (config summary : Dict) : Prop where
  reads : number host source "first_k_dense_replace" 0 = .ok k
  mixed : ∃ mixed, withExperts host experts (cutConfig source real (newDepth real layers k)) = .ok mixed ∧
    config = withoutNextn mixed
  quantization : ((Dict.getD config "quantization_config" .null).or (.obj [])).isDict = true
  kept : Dict.getD summary "kept_dimensions" .null = .obj (keptDimensions config)

end Shrink

end ToyBringup
end InferForge

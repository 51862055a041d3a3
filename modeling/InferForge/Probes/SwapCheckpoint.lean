import InferForge.Coerce
import InferForge.Py.Ordered
import InferForge.Py.Replacement
import InferForge.Py.RoundTrip

/-! Layer swap: the checkpoint that is built around the real layers. -/
namespace InferForge.LayerSwap.Build
open Py Effect

/-! ## Names of tensors -/

def dot : CodePoint := 46

def layerPrefix (layer : Nat) : Text := "model.layers." ++ Text.ofNat layer ++ "."

/-- `layer_index`: `int` of the third part of a name below `model.layers`. -/
def layerIndex (host : Host) (key : Text) : Option Int :=
  match (key.codes.splitOn dot).map Text.mk with
  | model :: layers :: number :: _ =>
      if model = "model" ∧ layers = "layers" then host.intOfText number else none
  | _ => none

def moeKeys : List Text := ["mlp.experts.", "mlp.shared_experts.", "mlp.gate."]

/-- `any(marker in key for marker in moe_keys)`. -/
def isMoe (key : Text) : Bool := moeKeys.any key.holds

/-- What follows a prefix. -/
def nameAfter (start key : Text) : Text := ⟨key.codes.drop start.codes.length⟩

/-! ## The build -/

inductive Fault where
  | systemExit (message : Text)
  | runtimeError
  | raised (e : Exn)

/-- Where a tensor comes from; of a fabricated one, its shape. -/
inductive Tensor where
  | source (key : Text)
  | clone (key : Text)
  | fabricated (shape : List Int)

abbrev Tensors := List (Text × Tensor)

def insertAll (tensors : Tensors) (entries : List (Text × Tensor)) : Tensors :=
  entries.foldl (fun tensors entry => assign tensors entry.1 entry.2) tensors

/-- A checkpoint before the build: its configuration and the keys of its index. -/
structure Checkpoint where
  config : Dict
  index : List Text

structure Swap where
  config : Dict
  tensors : Tensors
  realLayers : List Nat
  dummyLayers : List Nat
  donorLayer : Nat
  configDropped : List Text

def Swap.keys (swap : Swap) : List Text := swap.tensors.map Prod.fst

/-- The configuration that the build writes. -/
def swapConfig (config surgery : Dict) (dropKeys : List Text) : Dict :=
  Dict.merge (dropKeys.foldl Dict.erase config) surgery

section Build
variable (host : Host)

/-- `int(config[key])`. -/
def configInt (config : Dict) (key : Text) : Except Fault Int :=
  match Dict.get? config key with
  | none => .error (.raised (.key key))
  | some value => (value.toInt host).mapError .raised

def configIntOr (config : Dict) (key : Text) (default : Int) : Except Fault Int :=
  ((Dict.getD config key (.int default)).toInt host).mapError .raised

/-- An int8 weight with its scales. -/
def int8 (name : Text) (outFeatures hidden : Int) : List (Text × Tensor) :=
  [(name ++ ".weight", .fabricated [outFeatures, hidden]),
    (name ++ ".weight_scale", .fabricated [outFeatures])]

def projections (name : Text) (inter hidden : Int) : List (Text × Tensor) :=
  int8 (name ++ ".gate_proj") inter hidden ++ int8 (name ++ ".up_proj") inter hidden ++
    int8 (name ++ ".down_proj") hidden hidden

def expertName (layer : Text) (expert : Nat) : Text := layer ++ "mlp.experts." ++ Text.ofNat expert

/-- The keys of a fabricated MoE block. -/
def moeBlock (layer : Text) (experts : Nat) (inter shared hidden : Int) : List (Text × Tensor) :=
  [(layer ++ "mlp.gate.weight", .fabricated [experts, hidden]),
    (layer ++ "mlp.gate.e_score_correction_bias", .fabricated [experts])] ++
  ((List.range experts).flatMap fun expert => projections (expertName layer expert) inter hidden) ++
  projections (layer ++ "mlp.shared_experts") shared hidden

def fabricateMoe (layer : Text) (config : Dict) (experts : Nat) :
    Except Fault (List (Text × Tensor)) := do
  let hidden ← configInt host config "hidden_size"
  let inter ← configInt host config "moe_intermediate_size"
  let shared := inter * (← configIntOr host config "n_shared_experts" 1)
  if hidden < 0 || inter < 0 && experts != 0 || shared < 0 then .error .runtimeError
  else return moeBlock layer experts inter shared hidden

/-- The donor's keys under the name of a dummy layer, without its MoE block. -/
def clones (index : List Text) (donor layer : Nat) : List (Text × Tensor) :=
  (index.filter fun key => key.startsWith (layerPrefix donor) && !isMoe key).map fun key =>
    (layerPrefix layer ++ nameAfter (layerPrefix donor) key, .clone key)

def isReal (realLayers : List Nat) (key : Text) : Bool :=
  key.startsWith "model.embed_tokens" || key.startsWith "model.norm." || key.startsWith "lm_head" ||
    match layerIndex host key with
    | some layer => realLayers.any fun real => layer == real
    | none => false

def dropConfigKeys : List Text := ["num_nextn_predict_layers"]

def surgery (depth experts : Nat) : Dict :=
  [("num_hidden_layers", .int depth), ("first_k_dense_replace", .int 1),
    ("n_routed_experts", .int experts)]

/-- The keys of one dummy layer: the donor's, and a fabricated block. -/
def dummyLayer (index : List Text) (config : Dict) (donor experts layer : Nat) :
    Except Fault (List (Text × Tensor)) := do
  let block ← fabricateMoe host (layerPrefix layer) config experts
  return clones index donor layer ++ block

def buildSwap (source : Checkpoint) (realLayers : List Nat) (depth dummyExperts : Nat) :
    Except Fault Swap := do
  let realDepth ← configInt host source.config "num_hidden_layers"
  match realLayers.min?, realLayers.max? with
  | some donor, some last =>
      if realDepth ≤ last then
        .error (.systemExit ("real layer " ++ Text.ofNat last ++ " beyond depth " ++ Text.ofInt realDepth))
      else do
        let dummyLayers := (List.range depth).filter fun layer => !realLayers.contains layer
        let dropped := dropConfigKeys.filter fun key => !(Dict.getD source.config key .null).isNull
        let config := swapConfig source.config (surgery depth dummyExperts) dropConfigKeys
        let real := (source.index.filter (isReal host realLayers)).map fun key => (key, Tensor.source key)
        let _ ← configInt host config "hidden_size"
        let dummies ← dummyLayers.mapM (dummyLayer host source.index config donor dummyExperts)
        return {
          config := config
          tensors := insertAll (insertAll [] real) dummies.flatten
          realLayers := realLayers
          dummyLayers := dummyLayers
          donorLayer := donor
          configDropped := dropped }
  | _, _ => .error (.raised (.value "min() iterable argument is empty"))

end Build
/-! ## Consistent checkpoints -/

def denseKeys : List Text := ["mlp.gate_proj.", "mlp.up_proj.", "mlp.down_proj."]

/-- A key of a dense MLP. -/
def isDense (key : Text) : Bool := denseKeys.any key.holds && !isMoe key

section Layers
variable (host : Host) (keys : List Text) (layer : Nat)

def HasDense : Prop := ∃ key ∈ keys, layerIndex host key = some layer ∧ isDense key = true

def HasMoe : Prop := ∃ key ∈ keys, layerIndex host key = some layer ∧ isMoe key = true

end Layers

/-- Gate and up lead from the hidden size to the inner one, and down leads back. -/
structure Composable (tensors : Tensors) (name : Text) (inter hidden : Int) : Prop where
  gate : tensors.lookup (name ++ ".gate_proj" ++ ".weight") = some (.fabricated [inter, hidden])
  up : tensors.lookup (name ++ ".up_proj" ++ ".weight") = some (.fabricated [inter, hidden])
  down : tensors.lookup (name ++ ".down_proj" ++ ".weight") = some (.fabricated [hidden, inter])

/-- One structure for each layer, the one the configuration asks for. -/
structure Consistent (host : Host) (depth experts : Nat) (swap : Swap) : Prop where
  present : ∀ layer < depth, ∃ key ∈ swap.keys, layerIndex host key = some layer
  below : ∀ key ∈ swap.keys, ∀ layer, layerIndex host key = some layer → layer < depth
  one : ∀ layer < depth, (HasDense host swap.keys layer ∨ HasMoe host swap.keys layer) ∧
    ¬ (HasDense host swap.keys layer ∧ HasMoe host swap.keys layer)
  placed : ∃ first : Int, Dict.get? swap.config "first_k_dense_replace" = some (.int first) ∧
    ∀ layer < depth, HasMoe host swap.keys layer ↔ first ≤ layer
  routed : ∀ layer ∈ swap.dummyLayers, ∀ expert < experts, ∀ inter hidden,
    configInt host swap.config "moe_intermediate_size" = .ok inter →
    configInt host swap.config "hidden_size" = .ok hidden →
      Composable swap.tensors (expertName (layerPrefix layer) expert) inter hidden
  shared : ∀ layer ∈ swap.dummyLayers, ∀ inter hidden count,
    configInt host swap.config "moe_intermediate_size" = .ok inter →
    configIntOr host swap.config "n_shared_experts" 1 = .ok count →
    configInt host swap.config "hidden_size" = .ok hidden →
      Composable swap.tensors (layerPrefix layer ++ "mlp.shared_experts") (inter * count) hidden

/-- A source of the family: sizes in its configuration, layers under canonical numbers, and one MLP
in each of them. -/
structure Family (host : Host) (source : Checkpoint) (depth : Nat) : Prop where
  layers : configInt host source.config "num_hidden_layers" = .ok depth
  sizes : ∃ hidden inter count : Nat, configInt host source.config "hidden_size" = .ok hidden ∧
    configInt host source.config "moe_intermediate_size" = .ok inter ∧
    configIntOr host source.config "n_shared_experts" 1 = .ok count
  canonical : ∀ key ∈ source.index, ∀ number, layerIndex host key = some number →
    ∃ layer : Nat, number = layer ∧ key.startsWith (layerPrefix layer) = true
  one : ∀ layer < depth, (HasDense host source.index layer ∨ HasMoe host source.index layer) ∧
    ¬ (HasDense host source.index layer ∧ HasMoe host source.index layer)

/-! ## Names below a layer -/

theorem layerPrefix_codes (layer : Nat) : (layerPrefix layer).codes =
    (Text.ofString "model").codes ++ dot :: ((Text.ofString "layers").codes ++
      dot :: (Dumps.nat layer ++ [dot])) := by
  rw [layerPrefix, Text.codes_append, Text.codes_append, ofNat_codes, List.append_assoc]
  rfl

theorem dot_not_mem_nat (n : Nat) : dot ∉ Dumps.nat n := by
  intro member
  have digit := nat_digits n dot member
  exact absurd digit (by decide)

/-- The layer that a name below a layer's prefix names. -/
theorem layerIndex_weight {host : Host} (decimal : ∀ n : Nat, host.intOfText (Text.ofNat n) = some (n : Int))
    (layer : Nat) (name : Text) : layerIndex host (layerPrefix layer ++ name) = some (layer : Int) := by
  have model : dot ∉ (Text.ofString "model").codes := by decide
  have layers : dot ∉ (Text.ofString "layers").codes := by decide
  have parts : (layerPrefix layer ++ name).codes.splitOn dot =
      (Text.ofString "model").codes :: (Text.ofString "layers").codes :: Dumps.nat layer ::
        name.codes.splitOn dot := by
    rw [Text.codes_append, layerPrefix_codes]
    simp only [List.append_assoc, List.cons_append, List.nil_append]
    rw [List.splitOn_append_cons_self_of_not_mem model, List.splitOn_append_cons_self_of_not_mem layers,
      List.splitOn_append_cons_self_of_not_mem (dot_not_mem_nat layer)]
  have number : Text.mk (Dumps.nat layer) = Text.ofNat layer := Text.ext (ofNat_codes layer).symm
  unfold layerIndex
  rw [parts]
  simp only [List.map_cons, number, decimal]
  exact if_pos ⟨trivial, trivial⟩

theorem layerPrefix_plain (layer : Nat) : (112 : CodePoint) ∉ (layerPrefix layer).codes := by
  rw [layerPrefix_codes]
  simp only [List.mem_append, List.mem_cons, List.not_mem_nil, or_false, not_or]
  refine ⟨by decide, by decide, by decide, by decide, ?_, by decide⟩
  intro member
  exact absurd (nat_digits layer _ member) (by decide)

theorem layerPrefix_last (layer : Nat) : ∃ front, (layerPrefix layer).codes = front ++ [dot] := by
  rw [layerPrefix_codes]
  exact ⟨(Text.ofString "model").codes ++ dot :: ((Text.ofString "layers").codes ++
    dot :: Dumps.nat layer), by simp⟩

/-- A text from `mlp` on does not reach into a prefix without a `p` that ends in a dot. -/
theorem infix_behind {marker front name : List CodePoint} (plain : (112 : CodePoint) ∉ front)
    (inside : 109 :: 108 :: 112 :: marker <:+: (front ++ [dot]) ++ name) :
    109 :: 108 :: 112 :: marker <:+: name := by
  obtain ⟨u, v, whole⟩ := inside
  rw [List.append_assoc, List.append_eq_append_iff] at whole
  rcases whole with ⟨cut, ends, starts⟩ | ⟨between, rfl, rest⟩
  · match cut with
    | [] => exact ⟨[], v, starts⟩
    | [x] =>
      have first := (List.cons.inj starts).1
      have last := congrArg List.getLast? ends
      simp [dot, ← first] at last
    | [x, y] =>
      have second := (List.cons.inj (List.cons.inj starts).2).1
      have last := congrArg List.getLast? ends
      simp [dot, ← second] at last
    | x :: y :: z :: cut =>
      have third := (List.cons.inj (List.cons.inj (List.cons.inj starts).2).2).1
      have member : (112 : CodePoint) ∈ front ++ [dot] := by simp [ends, ← third]
      rcases List.mem_append.mp member with member | member
      · exact absurd member plain
      · exact absurd (List.mem_singleton.mp member) (by decide)
  · exact ⟨between, v, by rw [List.append_assoc, rest]⟩

/-- What a name holds does not depend on the layer it is below. -/
theorem holds_after {marker : Text} {rest : List CodePoint}
    (starts : marker.codes = 109 :: 108 :: 112 :: rest) (layer : Nat) (name : Text) :
    (layerPrefix layer ++ name).holds marker = name.holds marker := by
  rw [Bool.eq_iff_iff, holds_iff, holds_iff, Text.codes_append]
  obtain ⟨front, codes⟩ := layerPrefix_last layer
  have plain := layerPrefix_plain layer
  constructor
  · intro inside
    rw [codes] at inside plain
    rw [starts] at inside ⊢
    exact infix_behind (fun member => plain (List.mem_append_left _ member)) inside
  · intro inside
    exact inside.trans (List.suffix_append _ _).isInfix

theorem isMoe_prefix (layer : Nat) (name : Text) : isMoe (layerPrefix layer ++ name) = isMoe name := by
  simp only [isMoe, moeKeys, List.any_cons, List.any_nil]
  rw [holds_after (rfl : (Text.ofString "mlp.experts.").codes = _),
    holds_after (rfl : (Text.ofString "mlp.shared_experts.").codes = _),
    holds_after (rfl : (Text.ofString "mlp.gate.").codes = _)]

theorem isDense_weight (layer : Nat) (name : Text) :
    isDense (layerPrefix layer ++ name) = isDense name := by
  simp only [isDense, isMoe_prefix, denseKeys, List.any_cons, List.any_nil]
  rw [holds_after (rfl : (Text.ofString "mlp.gate_proj.").codes = _),
    holds_after (rfl : (Text.ofString "mlp.up_proj.").codes = _),
    holds_after (rfl : (Text.ofString "mlp.down_proj.").codes = _)]

theorem nameAfter_prefix {start key : Text} (starts : key.startsWith start = true) :
    start ++ nameAfter start key = key := by
  obtain ⟨rest, codes⟩ := Text.startsWith_iff.mp starts
  apply Text.ext
  rw [Text.codes_append, nameAfter, ← codes, List.drop_left]

/-! ## Keys of a fabricated block -/

theorem append_assoc (a b c : Text) : a ++ b ++ c = a ++ (b ++ c) :=
  Text.ext (List.append_assoc _ _ _)

theorem isMoe_start {marker : Text} (listed : marker ∈ moeKeys) (rest : Text) :
    isMoe (marker ++ rest) = true := by
  apply List.any_eq_true.mpr
  exact ⟨marker, listed, holds_iff.mpr (List.prefix_append _ _).isInfix⟩

theorem projections_key {name : Text} {inter hidden : Int} (member : entry ∈ projections name inter hidden) :
    ∃ rest, entry.1 = name ++ ("." ++ rest) := by
  simp only [projections, int8, List.cons_append, List.nil_append, List.mem_cons, List.not_mem_nil,
    or_false] at member
  rcases member with rfl | rfl | rfl | rfl | rfl | rfl
  · exact ⟨"gate_proj.weight", append_assoc _ _ _⟩
  · exact ⟨"gate_proj.weight_scale", append_assoc _ _ _⟩
  · exact ⟨"up_proj.weight", append_assoc _ _ _⟩
  · exact ⟨"up_proj.weight_scale", append_assoc _ _ _⟩
  · exact ⟨"down_proj.weight", append_assoc _ _ _⟩
  · exact ⟨"down_proj.weight_scale", append_assoc _ _ _⟩

theorem moeBlock_key {layer : Text} {experts : Nat} {inter shared hidden : Int}
    (member : entry ∈ moeBlock layer experts inter shared hidden) :
    ∃ name, entry.1 = layer ++ name ∧ isMoe name = true := by
  simp only [moeBlock, List.mem_append, List.mem_cons, List.not_mem_nil, or_false] at member
  rcases member with ((rfl | rfl) | member) | member
  · exact ⟨"mlp.gate.weight", rfl, by decide⟩
  · exact ⟨"mlp.gate.e_score_correction_bias", rfl, by decide⟩
  · obtain ⟨expert, _, member⟩ := List.mem_flatMap.mp member
    obtain ⟨rest, key⟩ := projections_key member
    refine ⟨"mlp.experts." ++ (Text.ofNat expert ++ ("." ++ rest)), ?_, isMoe_start (by decide) _⟩
    rw [key, expertName, append_assoc, append_assoc]
  · obtain ⟨rest, key⟩ := projections_key member
    refine ⟨"mlp.shared_experts." ++ rest, ?_, isMoe_start (by decide) _⟩
    rw [key, append_assoc]
    rfl

theorem moeBlock_gate (layer : Text) (experts : Nat) (inter shared hidden : Int) :
    ∃ entry ∈ moeBlock layer experts inter shared hidden, entry.1 = layer ++ "mlp.gate.weight" :=
  ⟨_, List.mem_append_left _ (List.mem_append_left _ List.mem_cons_self), rfl⟩

/-! ## The written checkpoint -/

theorem mem_insertAll (tensors : Tensors) (entries : List (Text × Tensor)) :
    key ∈ (insertAll tensors entries).map Prod.fst ↔
      key ∈ tensors.map Prod.fst ∨ key ∈ entries.map Prod.fst := by
  induction entries generalizing tensors with
  | nil => simp [insertAll]
  | cons entry rest ih =>
    rw [insertAll, List.foldl_cons]
    refine (ih _).trans ?_
    rw [keys_assign, mem_insertNew, List.map_cons, List.mem_cons, or_assoc]

/-- What the build wrote, from a source of the family. -/
structure Written (host : Host) (source : Checkpoint) (realLayers : List Nat) (depth experts : Nat)
    (swap : Swap) : Prop where
  donor : swap.donorLayer ∈ realLayers ∧ ∀ layer ∈ realLayers, swap.donorLayer ≤ layer
  dummies : swap.dummyLayers = (List.range depth).filter fun layer => !realLayers.contains layer
  first : Dict.get? swap.config "first_k_dense_replace" = some (.int 1)
  keys : ∃ inter shared hidden, ∀ key, key ∈ swap.keys ↔
    (key ∈ source.index ∧ isReal host realLayers key = true) ∨
      ∃ layer ∈ swap.dummyLayers,
        key ∈ (clones source.index swap.donorLayer layer).map Prod.fst ∨
          key ∈ (moeBlock (layerPrefix layer) experts inter shared hidden).map Prod.fst

theorem surgery_other (config : Dict) (depth experts : Nat) (key : Text)
    (other : key ∉ ["num_hidden_layers", "first_k_dense_replace", "n_routed_experts"].map Text.ofString)
    (kept : key ≠ "num_nextn_predict_layers") :
    Dict.get? (swapConfig config (surgery depth experts) dropConfigKeys) key =
      Dict.get? config key := by
  simp only [List.map_cons, List.map_nil, List.mem_cons, List.not_mem_nil, or_false, not_or] at other
  simp only [swapConfig, Dict.merge, surgery, List.foldl_cons, List.foldl_nil, dropConfigKeys]
  rw [Dict.get?_set_other _ _ other.2.2, Dict.get?_set_other _ _ other.2.1,
    Dict.get?_set_other _ _ other.1, Dict.get?_erase_other _ kept]

theorem configInt_congr {host : Host} {config other : Dict} {key : Text}
    (same : Dict.get? config key = Dict.get? other key) :
    configInt host config key = configInt host other key := by
  rw [configInt, configInt, same]

theorem configIntOr_congr {host : Host} {config other : Dict} {key : Text} {default : Int}
    (same : Dict.get? config key = Dict.get? other key) :
    configIntOr host config key default = configIntOr host other key default := by
  rw [configIntOr, configIntOr, Dict.getD, Dict.getD, same]

theorem fabricateMoe_ok {host : Host} {config : Dict} {hidden inter count : Nat} (layer : Text)
    (experts : Nat) (sized : configInt host config "hidden_size" = .ok hidden)
    (inner : configInt host config "moe_intermediate_size" = .ok inter)
    (shared : configIntOr host config "n_shared_experts" 1 = .ok count) :
    fabricateMoe host layer config experts =
      .ok (moeBlock layer experts inter (inter * count) hidden) := by
  have natural : (hidden < (0 : Int) || inter < (0 : Int) && experts != 0 || inter * count < (0 : Int)) =
      false := by
    have some' (n : Nat) : ¬ ((n : Int) < 0) := by omega
    have product : ¬ ((inter : Int) * count < 0) := by
      rw [← Int.natCast_mul]
      exact some' _
    simp [some', product]
  rw [fabricateMoe, sized, ok_bind, inner, ok_bind, shared, ok_bind]
  dsimp only
  rw [natural]
  rfl

/-- Every source of the family is built. -/
theorem buildSwap_written {host : Host} {source : Checkpoint} {sourceDepth : Nat}
    (family : Family host source sourceDepth) {realLayers : List Nat} (some' : realLayers ≠ [])
    (inside : ∀ layer ∈ realLayers, layer < sourceDepth) (depth experts : Nat) :
    ∃ swap, buildSwap host source realLayers depth experts = .ok swap ∧
      Written host source realLayers depth experts swap := by
  obtain ⟨hidden, inter, count, sized, inner, shared⟩ := family.sizes
  obtain ⟨donor, first⟩ : ∃ donor, realLayers.min? = some donor :=
    Option.isSome_iff_exists.mp (by simp [some'])
  obtain ⟨last, most⟩ : ∃ last, realLayers.max? = some last :=
    Option.isSome_iff_exists.mp (by simp [some'])
  have fits : ¬ (sourceDepth : Int) ≤ last := by
    have := inside last (List.max?_mem most)
    omega
  have kept := surgery_other source.config depth experts
  rw [← configInt_congr (kept "hidden_size" (by decide) (by decide))] at sized
  rw [← configInt_congr (kept "moe_intermediate_size" (by decide) (by decide))] at inner
  rw [← configIntOr_congr (kept "n_shared_experts" (by decide) (by decide))] at shared
  have each (layer : Nat) : dummyLayer host source.index
      (swapConfig source.config (surgery depth experts) dropConfigKeys) donor experts layer =
        .ok (clones source.index donor layer ++
          moeBlock (layerPrefix layer) experts inter (inter * count) hidden) := by
    rw [dummyLayer, fabricateMoe_ok (layerPrefix layer) experts sized inner shared]
    rfl
  have all := mapM_ok fun layer (_ : layer ∈ (List.range depth).filter
    fun layer => !realLayers.contains layer) => each layer
  have returned : buildSwap host source realLayers depth experts = .ok
      { config := swapConfig source.config (surgery depth experts) dropConfigKeys
        tensors := insertAll (insertAll [] ((source.index.filter (isReal host realLayers)).map
          fun key => (key, .source key)))
          (((List.range depth).filter fun layer => !realLayers.contains layer).map fun layer =>
            clones source.index donor layer ++
              moeBlock (layerPrefix layer) experts inter (inter * count) hidden).flatten
        realLayers := realLayers
        dummyLayers := (List.range depth).filter fun layer => !realLayers.contains layer
        donorLayer := donor
        configDropped := dropConfigKeys.filter fun key =>
          !(Dict.getD source.config key .null).isNull } := by
    rw [buildSwap, family.layers, ok_bind, first, most]
    simp only [fits, if_false, sized, ok_bind, all]
    rfl
  refine ⟨_, returned, ⟨List.min?_mem first, fun layer member => ?_⟩, rfl, ?_, inter, inter * count,
    hidden, fun key => ?_⟩
  · exact (List.min?_eq_some_iff.mp first).2 layer member
  · dsimp only [swapConfig, Dict.merge, surgery, List.foldl_cons, List.foldl_nil]
    rw [Dict.get?_set_other _ _ (by decide), Dict.get?_set_same]
  · rw [Swap.keys, mem_insertAll, mem_insertAll]
    simp only [List.map_nil, List.not_mem_nil, false_or, List.map_map, List.mem_map, List.mem_filter,
      Function.comp_apply, exists_eq_right, List.map_flatten, List.mem_flatten,
      List.map_append, exists_exists_and_eq_and, List.mem_append]

/-! ## What each layer holds -/

/-- `int` reads a decimal number back. -/
def ReadsDecimals (host : Host) : Prop := ∀ n : Nat, host.intOfText (Text.ofNat n) = some (n : Int)

theorem global_no_layer {key : Text} (layer : Nat) (below : key.startsWith (layerPrefix layer) = true) :
    key.startsWith "model.embed_tokens" = false ∧ key.startsWith "model.norm." = false ∧
      key.startsWith "lm_head" = false := by
  obtain ⟨rest, codes⟩ := Text.startsWith_iff.mp below
  rw [layerPrefix, Text.codes_append, Text.codes_append, List.append_assoc, List.append_assoc] at codes
  refine ⟨Bool.eq_false_iff.mpr fun starts => ?_, Bool.eq_false_iff.mpr fun starts => ?_,
    Bool.eq_false_iff.mpr fun starts => ?_⟩
  · obtain ⟨rest', codes'⟩ := Text.startsWith_iff.mp starts
    have place := congrArg (fun l : List CodePoint => l[6]?) (codes.trans codes'.symm)
    change some (108 : CodePoint) = some 101 at place
    exact absurd place (by decide)
  · obtain ⟨rest', codes'⟩ := Text.startsWith_iff.mp starts
    have place := congrArg (fun l : List CodePoint => l[6]?) (codes.trans codes'.symm)
    change some (108 : CodePoint) = some 110 at place
    exact absurd place (by decide)
  · obtain ⟨rest', codes'⟩ := Text.startsWith_iff.mp starts
    have place := congrArg (fun l : List CodePoint => l[0]?) (codes.trans codes'.symm)
    change some (109 : CodePoint) = some 108 at place
    exact absurd place (by decide)

section Written
variable {host : Host} {source : Checkpoint} {sourceDepth depth experts : Nat} {realLayers : List Nat}
  {swap : Swap} {layer : Nat} {key : Text}

theorem isReal_layer (family : Family host source sourceDepth) (listed : key ∈ source.index)
    {number : Int} (named : layerIndex host key = some number) :
    isReal host realLayers key = true ↔ ∃ layer ∈ realLayers, number = layer := by
  obtain ⟨layer, rfl, below⟩ := family.canonical key listed number named
  obtain ⟨embed, norm, head⟩ := global_no_layer layer below
  rw [isReal, embed, norm, head, named]
  simp

/-- The keys that the build makes for a dummy layer. -/
theorem dummy_key (decimal : ReadsDecimals host) {inter shared hidden : Int}
    (made : key ∈ (clones source.index donor layer).map Prod.fst ∨
      key ∈ (moeBlock (layerPrefix layer) experts inter shared hidden).map Prod.fst) :
    layerIndex host key = some (layer : Int) := by
  rcases made with made | made
  · obtain ⟨entry, member, rfl⟩ := List.mem_map.mp made
    obtain ⟨origin, _, rfl⟩ := List.mem_map.mp member
    exact layerIndex_weight decimal layer _
  · obtain ⟨entry, member, rfl⟩ := List.mem_map.mp made
    obtain ⟨name, same, _⟩ := moeBlock_key member
    rw [same]
    exact layerIndex_weight decimal layer _

theorem mem_dummyLayers (written : Written host source realLayers depth experts swap) :
    layer ∈ swap.dummyLayers ↔ layer < depth ∧ layer ∉ realLayers := by
  simp [written.dummies]

/-- A real layer keeps its keys and gets no others. -/
theorem real_keys (decimal : ReadsDecimals host) (family : Family host source sourceDepth)
    (written : Written host source realLayers depth experts swap) (real : layer ∈ realLayers)
    (named : layerIndex host key = some (layer : Int)) : key ∈ swap.keys ↔ key ∈ source.index := by
  obtain ⟨inter, shared, hidden, keys⟩ := written.keys
  rw [keys]
  constructor
  · rintro (kept | ⟨other, dummy, made⟩)
    · exact kept.1
    · have same := (dummy_key decimal made).symm.trans named
      rw [Option.some.injEq, Nat.cast_inj] at same
      exact absurd real (same ▸ ((mem_dummyLayers written).mp dummy).2)
  · intro listed
    exact .inl ⟨listed, (isReal_layer family listed named).mpr ⟨layer, real, rfl⟩⟩

theorem real_dense (decimal : ReadsDecimals host) (family : Family host source sourceDepth)
    (written : Written host source realLayers depth experts swap) (real : layer ∈ realLayers) :
    HasDense host swap.keys layer ↔ HasDense host source.index layer :=
  exists_congr fun _ => ⟨fun ⟨listed, named, kind⟩ =>
      ⟨(real_keys decimal family written real named).mp listed, named, kind⟩,
    fun ⟨listed, named, kind⟩ =>
      ⟨(real_keys decimal family written real named).mpr listed, named, kind⟩⟩

theorem real_moe (decimal : ReadsDecimals host) (family : Family host source sourceDepth)
    (written : Written host source realLayers depth experts swap) (real : layer ∈ realLayers) :
    HasMoe host swap.keys layer ↔ HasMoe host source.index layer :=
  exists_congr fun _ => ⟨fun ⟨listed, named, kind⟩ =>
      ⟨(real_keys decimal family written real named).mp listed, named, kind⟩,
    fun ⟨listed, named, kind⟩ =>
      ⟨(real_keys decimal family written real named).mpr listed, named, kind⟩⟩

theorem dummy_moe (decimal : ReadsDecimals host)
    (written : Written host source realLayers depth experts swap) (dummy : layer ∈ swap.dummyLayers) :
    HasMoe host swap.keys layer := by
  obtain ⟨inter, shared, hidden, keys⟩ := written.keys
  obtain ⟨entry, member, same⟩ := moeBlock_gate (layerPrefix layer) experts inter shared hidden
  refine ⟨entry.1, (keys _).mpr (.inr ⟨layer, dummy, .inr (List.mem_map_of_mem member)⟩), ?_, ?_⟩
  · rw [same]
    exact layerIndex_weight decimal layer _
  · rw [same, isMoe_prefix]
    decide

/-- A dummy layer has the dense MLP of its donor, beside the fabricated block. -/
theorem dummy_dense (decimal : ReadsDecimals host) (family : Family host source sourceDepth)
    (written : Written host source realLayers depth experts swap) (dummy : layer ∈ swap.dummyLayers)
    (dense : HasDense host source.index swap.donorLayer) : HasDense host swap.keys layer := by
  obtain ⟨inter, shared, hidden, keys⟩ := written.keys
  obtain ⟨key, listed, named, kind⟩ := dense
  obtain ⟨donor, same, below⟩ := family.canonical key listed _ named
  rw [Nat.cast_inj] at same
  rw [← same] at below
  have plain : isMoe key = false := by
    simp only [isDense, Bool.and_eq_true, Bool.not_eq_true'] at kind
    exact kind.2
  refine ⟨layerPrefix layer ++ nameAfter (layerPrefix swap.donorLayer) key,
    (keys _).mpr (.inr ⟨layer, dummy, .inl ?_⟩), layerIndex_weight decimal layer _, ?_⟩
  · apply List.mem_map.mpr
    refine ⟨_, List.mem_map_of_mem (List.mem_filter.mpr ⟨listed, ?_⟩), rfl⟩
    rw [below, plain]
    rfl
  · rw [← nameAfter_prefix below] at kind
    rw [isDense_weight] at kind ⊢
    exact kind

theorem below_depth (decimal : ReadsDecimals host) (family : Family host source sourceDepth)
    (written : Written host source realLayers depth experts swap)
    (above : ∀ layer ∈ realLayers, layer < depth) (listed : key ∈ swap.keys) {number : Int}
    (named : layerIndex host key = some number) : number < depth := by
  obtain ⟨inter, shared, hidden, keys⟩ := written.keys
  rcases (keys key).mp listed with ⟨kept, real⟩ | ⟨layer, dummy, made⟩
  · obtain ⟨layer, member, rfl⟩ := (isReal_layer family kept named).mp real
    exact Int.ofNat_lt.mpr (above layer member)
  · rw [dummy_key decimal made, Option.some.injEq] at named
    rw [← named]
    exact Int.ofNat_lt.mpr ((mem_dummyLayers written).mp dummy).1

/-- Without a dummy layer, and with the first layer dense and the others not, the written
checkpoint is the source's own first layers. -/
theorem consistent_of_real (decimal : ReadsDecimals host) (family : Family host source sourceDepth)
    (written : Written host source realLayers depth experts swap)
    (inside : ∀ layer ∈ realLayers, layer < sourceDepth)
    (above : ∀ layer ∈ realLayers, layer < depth) (all : ∀ layer < depth, layer ∈ realLayers)
    (first : HasDense host source.index 0)
    (later : ∀ layer, 1 ≤ layer → layer < depth → HasMoe host source.index layer) :
    Consistent host depth experts swap := by
  have empty (layer : Nat) : layer ∉ swap.dummyLayers := fun dummy =>
    ((mem_dummyLayers written).mp dummy).2 (all layer ((mem_dummyLayers written).mp dummy).1)
  have one (layer : Nat) (below : layer < depth) :
      (HasDense host swap.keys layer ∨ HasMoe host swap.keys layer) ∧
        ¬ (HasDense host swap.keys layer ∧ HasMoe host swap.keys layer) := by
    rw [real_dense decimal family written (all layer below),
      real_moe decimal family written (all layer below)]
    exact family.one layer (inside layer (all layer below))
  constructor
  · intro layer below
    rcases (one layer below).1 with ⟨key, listed, named, _⟩ | ⟨key, listed, named, _⟩
    · exact ⟨key, listed, named⟩
    · exact ⟨key, listed, named⟩
  · intro key listed number named
    exact below_depth decimal family written above listed named
  · exact one
  · refine ⟨1, written.first, fun layer below => ?_⟩
    rw [real_moe decimal family written (all layer below)]
    constructor
    · intro moe
      by_contra less
      obtain rfl : layer = 0 := by omega
      exact (family.one 0 (inside 0 (all 0 below))).2 ⟨first, moe⟩
    · intro from'
      exact later layer (by omega) below
  · intro layer dummy
    exact absurd dummy (empty layer)
  · intro layer dummy
    exact absurd dummy (empty layer)

/-- A consistent checkpoint has no dummy layer: its donor would be layer 0, which is dense. -/
theorem real_of_consistent (decimal : ReadsDecimals host) (family : Family host source sourceDepth)
    (written : Written host source realLayers depth experts swap)
    (inside : ∀ layer ∈ realLayers, layer < sourceDepth)
    (above : ∀ layer ∈ realLayers, layer < depth) (consistent : Consistent host depth experts swap) :
    (∀ layer < depth, layer ∈ realLayers) ∧ HasDense host source.index 0 ∧
      ∀ layer, 1 ≤ layer → layer < depth → HasMoe host source.index layer := by
  obtain ⟨first, config, placed⟩ := consistent.placed
  rw [written.first, Option.some.injEq, Json.int.injEq] at config
  subst config
  have some' : 0 < depth := (Nat.zero_le _).trans_lt (above _ written.donor.1)
  have bare : ¬ HasMoe host swap.keys 0 := fun moe => by
    have := (placed 0 some').mp moe
    omega
  have zero : 0 ∈ realLayers := by
    by_contra missing
    exact bare (dummy_moe decimal written ((mem_dummyLayers written).mpr ⟨some', missing⟩))
  have donor : swap.donorLayer = 0 := Nat.le_zero.mp (written.donor.2 0 zero)
  have dense : HasDense host source.index 0 := by
    rw [real_moe decimal family written zero] at bare
    exact (family.one 0 (inside 0 zero)).1.resolve_right bare
  have all (layer : Nat) (below : layer < depth) : layer ∈ realLayers := by
    by_contra missing
    have dummy := (mem_dummyLayers written).mpr ⟨below, missing⟩
    exact (consistent.one layer below).2 ⟨dummy_dense decimal family written dummy (donor ▸ dense),
      dummy_moe decimal written dummy⟩
  refine ⟨all, dense, fun layer from' below => ?_⟩
  have moe := (placed layer below).mpr (by omega)
  rwa [real_moe decimal family written (all layer below)] at moe

end Written

/-- The built checkpoint is consistent exactly when no layer of it is a dummy, its first layer is
dense and the others are not. -/
theorem swap_consistent (host : Host) (source : Checkpoint) (sourceDepth : Nat)
    (realLayers : List Nat) (depth experts : Nat) (decimal : ReadsDecimals host)
    (family : Family host source sourceDepth) (some' : realLayers ≠ [])
    (inside : ∀ layer ∈ realLayers, layer < sourceDepth)
    (above : ∀ layer ∈ realLayers, layer < depth) :
    ∃ swap, buildSwap host source realLayers depth experts = .ok swap ∧
      (Consistent host depth experts swap ↔
        (∀ layer < depth, layer ∈ realLayers) ∧ HasDense host source.index 0 ∧
          ∀ layer, 1 ≤ layer → layer < depth → HasMoe host source.index layer) := by
  obtain ⟨swap, built, written⟩ := buildSwap_written family some' inside depth experts
  refine ⟨swap, built, fun consistent => ?_, fun ⟨all, first, later⟩ => ?_⟩
  · exact real_of_consistent decimal family written inside above consistent
  · exact consistent_of_real decimal family written inside above all first later

/-! A source with a dense layer and a layer of experts. -/

def Host.digits : Host := { Host.sample with
  intOfText := fun t =>
    if t.codes.all Loads.isDigit && !t.codes.isEmpty then some (Loads.natOf t.codes : Int) else none }

theorem digits_decimals : ReadsDecimals Host.digits := by
  intro n
  have digits : (Dumps.nat n).all Loads.isDigit = true := List.all_eq_true.mpr (nat_digits n)
  obtain ⟨c, rest, shape, _⟩ := nat_head n
  have some' : (Dumps.nat n).isEmpty = false := by rw [shape]; rfl
  simp only [Host.digits, ofNat_codes, digits, some', natOf_nat]
  rfl

def mixedSource : Checkpoint where
  config := [("num_hidden_layers", .int 2), ("hidden_size", .int 32),
    ("moe_intermediate_size", .int 16)]
  index := [layerPrefix 0 ++ "mlp.gate_proj.weight", layerPrefix 1 ++ "mlp.gate.weight"]

theorem mixed_layers (layer : Nat) :
    (HasDense Host.digits mixedSource.index layer ↔ 0 = layer) ∧
      (HasMoe Host.digits mixedSource.index layer ↔ 1 = layer) := by
  have dense : isDense "mlp.gate_proj.weight" = true ∧ isDense "mlp.gate.weight" = false := by decide
  have moe : isMoe "mlp.gate_proj.weight" = false ∧ isMoe "mlp.gate.weight" = true := by decide
  simp [HasDense, HasMoe, mixedSource, layerIndex_weight digits_decimals, isDense_weight,
    isMoe_prefix, dense, moe]
  omega

theorem mixed_family : Family Host.digits mixedSource 2 := by
  refine ⟨rfl, ⟨32, 16, 1, rfl, rfl, rfl⟩, fun key listed number named => ?_,
    fun layer below => ?_⟩
  · rcases List.mem_cons.mp listed with rfl | listed
    · rw [layerIndex_weight digits_decimals, Option.some.injEq] at named
      exact ⟨0, named.symm, Text.startsWith_iff.mpr (List.prefix_append _ _)⟩
    · obtain rfl := List.mem_singleton.mp listed
      rw [layerIndex_weight digits_decimals, Option.some.injEq] at named
      exact ⟨1, named.symm, Text.startsWith_iff.mpr (List.prefix_append _ _)⟩
  · rw [(mixed_layers layer).1, (mixed_layers layer).2]
    omega

theorem swap_consistent_mixed : ∃ swap, buildSwap Host.digits mixedSource [0, 1] 2 8 = .ok swap ∧
    Consistent Host.digits 2 8 swap := by
  obtain ⟨swap, built, consistent⟩ := swap_consistent Host.digits mixedSource 2 [0, 1] 2 8
    digits_decimals mixed_family (by decide) (by decide) (by decide)
  refine ⟨swap, built, consistent.mpr ⟨by decide, (mixed_layers 0).1.mpr rfl, fun layer from' below => ?_⟩⟩
  exact (mixed_layers layer).2.mpr (by omega)

/-- Around one dense layer, the build writes dummy layers with two MLPs. -/
theorem dense_donor_mixed : Family Host.digits mixedSource 2 ∧
    ∃ swap, buildSwap Host.digits mixedSource [0] 4 8 = .ok swap ∧
      ¬ Consistent Host.digits 4 8 swap := by
  obtain ⟨swap, built, written⟩ := buildSwap_written mixed_family (List.cons_ne_nil 0 [])
    (by decide) 4 8
  refine ⟨mixed_family, swap, built, fun consistent => ?_⟩
  obtain ⟨all, _⟩ := real_of_consistent digits_decimals mixed_family written (by decide) (by decide)
    consistent
  exact absurd (all 1 (by decide)) (by decide)

end InferForge.LayerSwap.Build

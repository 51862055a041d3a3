import InferForge.Validators.Bringup
import InferForge.Py.Template

/-! From a model configuration to the capabilities that are exercised: the static match in the pod,
the dimensions it demands, and the fan-out over them. -/
namespace InferForge.CapabilityMatch
open Py Effect

/-! ## The match -/

structure Required where
  attentionVariant : Text
  quantization : Json
  moeExperts : Json
  multimodal : Bool
  speculativeLayers : Json

section Config
-- `unencodable`: the configuration nests too deep for `json.dumps`
variable (floats : FloatText) (unencodable : Dict → Bool) (config : Dict)

/-- `config.get(key)`. -/
def entry (key : Text) : Json := Dict.getD config key .null

/-- `json.dumps(config)`. -/
def configText : Text := ⟨dumps floats ⟨true, true⟩ (.obj config)⟩

/-- The variant of a configuration without a latent rank, linear layers and a window. -/
def headVariant : Except Exn Text :=
  let keys := entry config "num_key_value_heads"
  let heads := entry config "num_attention_heads"
  if keys.truthy && heads.truthy then return if ← heads.gt keys then "gqa" else "mha"
  else return "unknown"

def attentionVariant : Except Exn Text :=
  if (entry config "kv_lora_rank").truthy then return "mla"
  else if (configText floats config).holds "linear_attn" || (configText floats config).holds "mamba" ||
      (entry config "layer_types").truthy then return "hybrid_linear"
  else if (entry config "sliding_window").truthy then return "sliding_window"
  else headVariant config

def expertCount : Json :=
  ((entry config "num_experts").or (entry config "n_routed_experts")).or (entry config "num_local_experts")

def requiredCapabilities : Except Exn Required := do
  refuse (unencodable config) .recursion
  let quantization ← ((entry config "quantization_config").or (.obj [])).get "quant_method"
  let attention ← attentionVariant floats config
  return {
    attentionVariant := attention
    quantization := quantization.getD .null
    moeExperts := expertCount config
    multimodal := ((entry config "vision_config").or (entry config "audio_config")).truthy
    speculativeLayers := entry config "num_nextn_predict_layers" }

end Config

/-- The installation in the pod: whether the plugin is imported and has a directory, its files, and
`sorted(QUANTIZATION_METHODS)`. -/
structure Inventory where
  imported : Except Exn Unit
  present : List Text → Bool
  quantizationMethods : Except Text (List Text)

structure Provided where
  attentionBackends : List (Text × Text)
  quantizationMethods : List Text
  quantizationEvidence : Text
  moe : Text

namespace Inventory

def evidence (inventory : Inventory) (parts : List Text) : Text :=
  if inventory.present parts then "MODULE" else "ABSENT"

def providedCapabilities (inventory : Inventory) : Except Exn Provided := do
  inventory.imported
  return {
    attentionBackends :=
      let dense := inventory.evidence ["v1", "attention", "backends", "kunlun_attn.py"]
      [("gqa", dense), ("mha", dense), ("sliding_window", dense),
        ("mla", inventory.evidence ["v1", "attention", "backends", "mla"]),
        ("hybrid_linear", inventory.evidence ["v1", "attention", "backends", "gdn_attn.py"])]
    quantizationMethods :=
      match inventory.quantizationMethods with
      | .ok methods => methods
      | .error _ => []
    quantizationEvidence :=
      match inventory.quantizationMethods with
      | .ok _ => "REGISTRY"
      | .error error => "UNKNOWN: " ++ error
    moe := inventory.evidence ["quantization", "moe_wna16.py"] }

end Inventory

structure Axis where
  axis : Text
  required : Json
  evidence : Text
  verdict : Text

section Axes
variable (required : Required) (provided : Provided)

def attentionAxis : Axis :=
  let evidence := (provided.attentionBackends.lookup required.attentionVariant).getD "ABSENT"
  { axis := "attention"
    required := .str required.attentionVariant
    evidence := evidence
    verdict := if evidence = "MODULE" then "PROVIDED_MODULE_ONLY" else "NOT_PROVIDED" }

def quantizationAxis : Axis :=
  if !required.quantization.truthy then ⟨"quantization", .null, "N/A", "NOT_REQUIRED"⟩
  else
    let known := provided.quantizationMethods.any fun method => required.quantization.eq (.str method)
    { axis := "quantization"
      required := required.quantization
      evidence := if known then provided.quantizationEvidence else "ABSENT"
      verdict := if known then "PROVIDED" else "NOT_PROVIDED" }

def moeAxis : Axis where
  axis := "moe"
  required := required.moeExperts
  evidence := if required.moeExperts.truthy then provided.moe else "N/A"
  verdict :=
    if !required.moeExperts.truthy then "NOT_REQUIRED"
    else if provided.moe = "MODULE" then "PROVIDED_MODULE_ONLY"
    else "NOT_PROVIDED"

/-- An axis that is not introspected. -/
def unknownAxis (axis : Text) (demand : Json) : Axis :=
  ⟨axis, demand, "N/A", if !demand.truthy then "NOT_REQUIRED" else "UNKNOWN"⟩

def matchAxes : List Axis :=
  [attentionAxis required provided, quantizationAxis required provided, moeAxis required provided,
    unknownAxis "multimodal" (.bool required.multimodal),
    unknownAxis "speculative_decode" required.speculativeLayers]

end Axes

/-- What the probe prints, as far as it is read later. -/
inductive MatchReport where
  /-- `MATCH_FAILED`. -/
  | failed (reason : Text)
  /-- `MATCH_READY`. -/
  | ready (axes : List Axis)

/-- `report.get("axes", [])`. -/
def MatchReport.axes : MatchReport → List Axis
  | failed _ => []
  | ready axes => axes

section Probe
variable (floats : FloatText) (unencodable : Dict → Bool) (config : Dict) (inventory : Inventory)

/-- The `try` block of `main`, on a configuration that was read. -/
def matched : Except Exn (List Axis) := do
  let required ← requiredCapabilities floats unencodable config
  return matchAxes required (← inventory.providedCapabilities)

def report : MatchReport :=
  match matched floats unencodable config inventory with
  | .ok axes => .ready axes
  | .error e => .failed (e.kind.className ++ ": " ++ e.message)

end Probe

/-! ## The dimensions -/

def dimensionFromAxis : List (Text × Text) :=
  [("quantization", "quantization"), ("moe", "moe"), ("multimodal", "multimodal")]

/-- The dimensions that an axis adds. -/
def select (selected : List Text) (axis : Axis) : List Text :=
  if axis.verdict = "NOT_REQUIRED" then selected
  else
    let named : List Text :=
      match dimensionFromAxis.lookup axis.axis with
      | some name => if name ∈ selected then selected else selected ++ [name]
      | none => selected
    let windowed : List Text :=
      if axis.axis = "attention" && axis.required.eq (.str "sliding_window") then named ++ [("swa" : Text)] else named
    if axis.axis = "attention" && axis.required.eq (.str "block_sparse") then
      windowed ++ [("block_sparse" : Text), "fused_qknorm_rope_insert"]
    else windowed

def dimensionsFor (axes : List Axis) : List Text := axes.foldl select []

/-- `re.fullmatch("[A-Za-z0-9][A-Za-z0-9_.-]*", item)`. -/
def safeItem : Text → Bool
  | ⟨first :: rest⟩ => isAlphanumeric first && rest.all isComponentChar
  | ⟨[]⟩ => false

/-- The check of `fan_out_items` on the parsed list. -/
def fanOutItems (items : Json) : Except Exn (List Text) :=
  let refused : Exn := .policy "fan-out items must be unique safe directory names"
  match items with
  | .arr values => do
      let names ← values.mapM fun value =>
        match value with
        | .str name => if safeItem name then .ok name else .error refused
        | _ => .error refused
      if names.Nodup then return names else throw refused
  | _ => .error refused

/-! ## What is exercised -/

def demanded (required : Bool) (name : Text) : List Text := if required then [name] else []

theorem mem_demanded {required : Bool} : name ∈ demanded required other ↔ required = true ∧ name = other := by
  cases required <;> simp [demanded]

theorem select_attention (selected : List Text) {required : Required}
    (dense : required.attentionVariant ≠ "block_sparse") :
    select selected (attentionAxis required provided) =
      selected ++ demanded (required.attentionVariant = "sliding_window") "swa" := by
  have judged : (attentionAxis required provided).verdict ≠ "NOT_REQUIRED" := by
    simp only [attentionAxis]
    split <;> decide
  have unlisted : dimensionFromAxis.lookup ("attention" : Text) = none := rfl
  have named : (attentionAxis required provided).axis = "attention" := rfl
  have variant : (attentionAxis required provided).required = .str required.attentionVariant := rfl
  rw [select, if_neg judged]
  simp only [unlisted, named, variant, decide_true, Bool.true_and, Json.eq_str_left, Json.str.injEq]
  rw [if_neg dense.symm]
  by_cases window : required.attentionVariant = "sliding_window"
  · simp [demanded, window]
  · simp [demanded, window, Ne.symm window]

theorem select_named {axis : Axis} {name : Text} (listed : dimensionFromAxis.lookup axis.axis = some name)
    (other : axis.axis ≠ "attention") (fresh : name ∉ selected) :
    select selected axis = selected ++ demanded (axis.verdict ≠ "NOT_REQUIRED") name := by
  by_cases judged : axis.verdict = "NOT_REQUIRED"
  · simp [select, demanded, judged]
  · simp [select, demanded, judged, listed, other, fresh]

theorem select_unlisted {axis : Axis} (unlisted : dimensionFromAxis.lookup axis.axis = none)
    (other : axis.axis ≠ "attention") : select selected axis = selected := by
  by_cases judged : axis.verdict = "NOT_REQUIRED"
  · simp [select, judged]
  · simp [select, judged, unlisted, other]

theorem quantizationAxis_verdict {required : Required} :
    (quantizationAxis required provided).verdict = "NOT_REQUIRED" ↔ required.quantization.truthy = false := by
  cases demand : required.quantization.truthy with
  | false => simp [quantizationAxis, demand]
  | true =>
    simp only [quantizationAxis, demand, Bool.not_true, Bool.false_eq_true, if_false, Bool.true_eq_false, iff_false]
    split <;> decide

theorem moeAxis_verdict {required : Required} :
    (moeAxis required provided).verdict = "NOT_REQUIRED" ↔ required.moeExperts.truthy = false := by
  cases demand : required.moeExperts.truthy with
  | false => simp [moeAxis, demand]
  | true =>
    simp only [moeAxis, demand, Bool.not_true, Bool.false_eq_true, if_false, Bool.true_eq_false, iff_false]
    split <;> decide

theorem unknownAxis_verdict :
    (unknownAxis axis demand).verdict = "NOT_REQUIRED" ↔ demand.truthy = false := by
  cases judged : demand.truthy with
  | false => simp [unknownAxis, judged]
  | true =>
    simp only [unknownAxis, judged, Bool.not_true, Bool.false_eq_true, if_false, Bool.true_eq_false, iff_false]
    decide

theorem select_quantization {required : Required} (fresh : ("quantization" : Text) ∉ selected) :
    select selected (quantizationAxis required provided) =
      selected ++ demanded required.quantization.truthy "quantization" := by
  have named : (quantizationAxis required provided).axis = "quantization" := by
    unfold quantizationAxis
    split <;> rfl
  have other : ("quantization" : Text) ≠ "attention" := by decide
  rw [select_named (by rw [named]; rfl) (by rw [named]; exact other) fresh]
  congr 2
  simp [quantizationAxis_verdict]

theorem select_moe {required : Required} (fresh : ("moe" : Text) ∉ selected) :
    select selected (moeAxis required provided) = selected ++ demanded required.moeExperts.truthy "moe" := by
  have other : ("moe" : Text) ≠ "attention" := by decide
  rw [select_named rfl other fresh]
  congr 2
  simp [moeAxis_verdict]

theorem select_multimodal (fresh : ("multimodal" : Text) ∉ selected) :
    select selected (unknownAxis "multimodal" demand) = selected ++ demanded demand.truthy "multimodal" := by
  have other : ("multimodal" : Text) ≠ "attention" := by decide
  rw [select_named rfl other fresh]
  congr 2
  simp [unknownAxis_verdict]

theorem select_speculative : select selected (unknownAxis "speculative_decode" demand) = selected := by
  have other : ("speculative_decode" : Text) ≠ "attention" := by decide
  exact select_unlisted rfl other

theorem dimensionsFor_match {required : Required} (dense : required.attentionVariant ≠ "block_sparse") :
    dimensionsFor (matchAxes required provided) =
      demanded (required.attentionVariant = "sliding_window") "swa" ++
        demanded required.quantization.truthy "quantization" ++
        demanded required.moeExperts.truthy "moe" ++ demanded required.multimodal "multimodal" := by
  have swa : ("quantization" : Text) ≠ "swa" ∧ ("moe" : Text) ≠ "swa" ∧ ("multimodal" : Text) ≠ "swa" := by
    decide
  have others : ("moe" : Text) ≠ "quantization" ∧ ("multimodal" : Text) ≠ "quantization" ∧
      ("multimodal" : Text) ≠ "moe" := by decide
  simp only [dimensionsFor, matchAxes, List.foldl_cons, List.foldl_nil, select_speculative]
  rw [select_attention [] dense, List.nil_append, select_quantization, select_moe, select_multimodal]
  · rfl
  all_goals simp [mem_demanded, swa, others]

section Demand
variable (floats : FloatText) (config : Dict)

/-- The variants that are classified before a sliding window. -/
def Masked : Prop :=
  (entry config "kv_lora_rank").truthy ∨ (configText floats config).holds "linear_attn" ∨
    (configText floats config).holds "mamba" ∨ (entry config "layer_types").truthy

def namesQuantMethod : Bool :=
  match entry config "quantization_config" with
  | .obj fields => (Dict.getD fields "quant_method" .null).truthy
  | _ => false

def declaresExperts : Bool :=
  (entry config "num_experts").truthy || (entry config "n_routed_experts").truthy ||
    (entry config "num_local_experts").truthy

def hasOtherModality : Bool := (entry config "vision_config").truthy || (entry config "audio_config").truthy

/-- Every demanded capability is among the dimensions, once, and the fan-out takes them. -/
structure Exercised (dimensions : List Text) : Prop where
  distinct : dimensions.Nodup
  accepted : fanOutItems (.arr (dimensions.map .str)) = .ok dimensions
  swa : (entry config "sliding_window").truthy → ("swa" : Text) ∈ dimensions
  quantization : ("quantization" : Text) ∈ dimensions ↔ namesQuantMethod config
  moe : ("moe" : Text) ∈ dimensions ↔ declaresExperts config
  multimodal : ("multimodal" : Text) ∈ dimensions ↔ hasOtherModality config

end Demand

theorem or_truthy (value default : Json) : (value.or default).truthy = (value.truthy || default.truthy) := by
  cases judged : value.truthy <;> simp [Json.or, judged]

theorem headVariant_ok (derived : headVariant config = .ok variant) :
    variant = "gqa" ∨ variant = "mha" ∨ variant = "unknown" := by
  simp only [headVariant] at derived
  split at derived
  · simp only [bind_ok, pure_ok] at derived
    obtain ⟨smaller, -, rfl⟩ := derived
    cases smaller <;> simp
  · obtain rfl := pure_ok.mp derived
    simp

theorem attentionVariant_window (derived : attentionVariant floats config = .ok variant) :
    variant = "sliding_window" ↔ (entry config "sliding_window").truthy ∧ ¬ Masked floats config := by
  have apart : ("mla" : Text) ≠ "sliding_window" ∧ ("hybrid_linear" : Text) ≠ "sliding_window" ∧
      ("gqa" : Text) ≠ "sliding_window" ∧ ("mha" : Text) ≠ "sliding_window" ∧
      ("unknown" : Text) ≠ "sliding_window" := by decide
  simp only [attentionVariant] at derived
  split at derived
  case isTrue latent =>
    obtain rfl := pure_ok.mp derived
    simp [apart, Masked, latent]
  case isFalse noLatent =>
    split at derived
    case isTrue linear =>
      obtain rfl := pure_ok.mp derived
      simp only [Bool.or_eq_true, or_assoc] at linear
      simp [apart, Masked, linear]
    case isFalse noLinear =>
      simp only [Bool.or_eq_true, or_assoc] at noLinear
      have open' : ¬ Masked floats config := by simpa [Masked, noLatent] using noLinear
      split at derived
      case isTrue window =>
        obtain rfl := pure_ok.mp derived
        simp [window, open']
      case isFalse noWindow =>
        rcases headVariant_ok derived with rfl | rfl | rfl <;> simp [apart, noWindow]

theorem attentionVariant_dense (derived : attentionVariant floats config = .ok variant) :
    variant ≠ "block_sparse" := by
  have apart : ("mla" : Text) ≠ "block_sparse" ∧ ("hybrid_linear" : Text) ≠ "block_sparse" ∧
      ("sliding_window" : Text) ≠ "block_sparse" ∧ ("gqa" : Text) ≠ "block_sparse" ∧
      ("mha" : Text) ≠ "block_sparse" ∧ ("unknown" : Text) ≠ "block_sparse" := by decide
  simp only [attentionVariant] at derived
  split at derived
  · obtain rfl := pure_ok.mp derived
    exact apart.1
  split at derived
  · obtain rfl := pure_ok.mp derived
    exact apart.2.1
  split at derived
  · obtain rfl := pure_ok.mp derived
    exact apart.2.2.1
  rcases headVariant_ok derived with rfl | rfl | rfl <;> simp [apart]

theorem quantMethod_truthy
    (read : ((entry config "quantization_config").or (.obj [])).get "quant_method" = .ok found) :
    (found.getD .null).truthy = namesQuantMethod config := by
  cases recorded : entry config "quantization_config" with
  | obj fields =>
    simp only [recorded, Json.or] at read
    split at read
    · obtain rfl := Except.ok.inj read
      simp [namesQuantMethod, recorded, Dict.getD]
    case isFalse empty =>
      obtain rfl := Except.ok.inj read
      have none' : fields = [] := by simpa [Json.truthy] using empty
      simp [namesQuantMethod, recorded, none', Dict.getD]
  | _ =>
    simp only [recorded, Json.or] at read
    split at read
    · simp [Json.get] at read
    · obtain rfl := Except.ok.inj read
      simp [namesQuantMethod, recorded, Json.truthy]

theorem safe_dimensions (window quantized experts modal : Bool) :
    let dimensions := demanded window "swa" ++ demanded quantized "quantization" ++ demanded experts "moe" ++
      demanded modal "multimodal"
    dimensions.Nodup ∧ fanOutItems (.arr (dimensions.map .str)) = .ok dimensions := by
  cases window <;> cases quantized <;> cases experts <;> cases modal <;> exact ⟨by decide, rfl⟩

section Match
variable (floats : FloatText) (unencodable : Dict → Bool) (config : Dict) (inventory : Inventory)

/-- The head counts are compared. -/
def ComparesHeads : Prop :=
  ¬ Masked floats config ∧ (entry config "sliding_window").truthy = false ∧
    (entry config "num_key_value_heads").truthy ∧ (entry config "num_attention_heads").truthy

/-- The probe gets through the configuration and finds the plugin. -/
structure Matches : Prop where
  encodable : unencodable config = false
  quantization : (entry config "quantization_config").truthy →
    ∃ fields, entry config "quantization_config" = .obj fields
  heads : ComparesHeads floats config → ∃ smaller,
    (entry config "num_attention_heads").gt (entry config "num_key_value_heads") = .ok smaller
  imported : inventory.imported = .ok ()

/-- The configuration demands nothing that has a dimension. -/
structure Undemanding : Prop where
  window : (entry config "sliding_window").truthy = false
  quantization : namesQuantMethod config = false
  experts : declaresExperts config = false
  modality : hasOtherModality config = false

end Match

section Outcome
variable {floats : FloatText} {unencodable : Dict → Bool} {config : Dict} {inventory : Inventory}

theorem headVariant_returns : (∃ variant, headVariant config = .ok variant) ↔
    ((entry config "num_key_value_heads").truthy → (entry config "num_attention_heads").truthy →
      ∃ smaller, (entry config "num_attention_heads").gt (entry config "num_key_value_heads") = .ok smaller) := by
  simp only [headVariant]
  by_cases both : ((entry config "num_key_value_heads").truthy &&
      (entry config "num_attention_heads").truthy) = true
  · rw [if_pos both]
    rw [Bool.and_eq_true] at both
    constructor
    · rintro ⟨variant, derived⟩ _ _
      obtain ⟨smaller, compared, -⟩ := bind_ok.mp derived
      exact ⟨smaller, compared⟩
    · intro comparable
      obtain ⟨smaller, compared⟩ := comparable both.1 both.2
      exact ⟨_, bind_ok.mpr ⟨smaller, compared, rfl⟩⟩
  · rw [if_neg both]
    rw [Bool.and_eq_true] at both
    exact ⟨fun _ keys heads => absurd ⟨keys, heads⟩ both, fun _ => ⟨_, rfl⟩⟩

theorem attentionVariant_returns : (∃ variant, attentionVariant floats config = .ok variant) ↔
    (ComparesHeads floats config → ∃ smaller,
      (entry config "num_attention_heads").gt (entry config "num_key_value_heads") = .ok smaller) := by
  simp only [attentionVariant]
  split
  case isTrue latent => simp [ComparesHeads, Masked, latent]
  case isFalse noLatent =>
    split
    case isTrue linear =>
      have masked : Masked floats config := by
        simp only [Bool.or_eq_true, or_assoc] at linear
        exact .inr linear
      simp [ComparesHeads, masked]
    case isFalse noLinear =>
      have open' : ¬ Masked floats config := by
        simp only [Bool.or_eq_true, or_assoc] at noLinear
        simpa [Masked, noLatent] using noLinear
      split
      case isTrue window => simp [ComparesHeads, window]
      case isFalse noWindow =>
        rw [headVariant_returns]
        simp [ComparesHeads, open', noWindow]

theorem quantMethod_returns :
    (∃ found, ((entry config "quantization_config").or (.obj [])).get "quant_method" = .ok found) ↔
      ((entry config "quantization_config").truthy →
        ∃ fields, entry config "quantization_config" = .obj fields) := by
  cases recorded : entry config "quantization_config" with
  | obj fields => cases fields <;> simp [Json.or, Json.truthy, Json.get]
  | _ =>
    simp only [Json.or]
    split <;> simp_all [Json.get]

theorem matches_iff : Matches floats unencodable config inventory ↔
    ∃ axes, matched floats unencodable config inventory = .ok axes := by
  constructor
  · rintro ⟨encodable, quantization, heads, imported⟩
    obtain ⟨method, read⟩ := quantMethod_returns.mpr quantization
    obtain ⟨variant, classified⟩ := attentionVariant_returns.mpr heads
    simp only [matched, requiredCapabilities, Inventory.providedCapabilities, refuse, encodable, read,
      classified, imported, Bool.false_eq_true, if_false, ok_bind]
    exact ⟨_, rfl⟩
  · rintro ⟨axes, done⟩
    simp only [matched, requiredCapabilities, Inventory.providedCapabilities, bind_ok, pure_ok, refuse_ok] at done
    obtain ⟨required, ⟨_, encodable, method, read, variant, classified, -⟩, provided, ⟨_, imported, -⟩, -⟩ := done
    exact ⟨encodable, quantMethod_returns.mp ⟨method, read⟩, attentionVariant_returns.mp ⟨variant, classified⟩,
      imported⟩

theorem undemanding_iff : Exercised config [] ↔ Undemanding config := by
  constructor
  · rintro ⟨-, -, window, quantization, moe, multimodal⟩
    refine ⟨?_, ?_, ?_, ?_⟩
    · by_contra set
      cases window (Bool.not_eq_false _ ▸ set)
    all_goals
      rw [Bool.eq_false_iff]
      intro demanded
    · cases quantization.mpr demanded
    · cases moe.mpr demanded
    · cases multimodal.mpr demanded
  · rintro ⟨window, quantization, experts, modality⟩
    exact ⟨List.nodup_nil, rfl, by simp [window], by simp [quantization], by simp [experts], by simp [modality]⟩

/-- A match that gets through leaves out no more than a masked window. -/
theorem matched_exercised (done : matched floats unencodable config inventory = .ok axes) :
    Exercised config (dimensionsFor axes) ↔
      ((entry config "sliding_window").truthy → ¬ Masked floats config) := by
  simp only [matched, bind_ok, pure_ok] at done
  obtain ⟨required, derived, provided, -, rfl⟩ := done
  simp only [requiredCapabilities, bind_ok, pure_ok] at derived
  obtain ⟨_, -, method, read, variant, classified, rfl⟩ := derived
  rw [dimensionsFor_match (attentionVariant_dense classified)]
  obtain ⟨distinct, accepted⟩ := safe_dimensions (variant = "sliding_window") (method.getD .null).truthy
    (expertCount config).truthy ((entry config "vision_config").or (entry config "audio_config")).truthy
  have swa : ("swa" : Text) ≠ "quantization" ∧ ("swa" : Text) ≠ "moe" ∧ ("swa" : Text) ≠ "multimodal" := by
    decide
  have windowed := attentionVariant_window classified
  constructor
  · intro exercised window
    have selected := exercised.swa window
    simp only [List.mem_append, mem_demanded, swa] at selected
    simp only [decide_eq_true_eq, windowed] at selected
    simpa [window] using selected
  · intro unmasked
    refine ⟨distinct, accepted, ?_, ?_, ?_, ?_⟩
    · intro window
      simp [mem_demanded, windowed, window, unmasked window]
    · simp [mem_demanded, quantMethod_truthy read]
    · simp [mem_demanded, expertCount, or_truthy, declaresExperts]
    · simp [mem_demanded, or_truthy, hasOtherModality]

end Outcome

/-- Every demanded capability is exercised exactly if the probe gets through and no other variant masks
a window, or the probe stops at a configuration that demands nothing. -/
theorem dimensions_exercised_iff (floats : FloatText) (unencodable : Dict → Bool) (config : Dict)
    (inventory : Inventory) :
    Exercised config (dimensionsFor (report floats unencodable config inventory).axes) ↔
      (Matches floats unencodable config inventory →
        (entry config "sliding_window").truthy → ¬ Masked floats config) ∧
      (¬ Matches floats unencodable config inventory → Undemanding config) := by
  rw [matches_iff]
  cases done : matched floats unencodable config inventory with
  | ok axes =>
    simp only [report, done, MatchReport.axes, matched_exercised done]
    simp
  | error e =>
    simp only [report, done, MatchReport.axes]
    rw [show dimensionsFor [] = [] from rfl, undemanding_iff]
    simp

/-- A plugin without any of its files. -/
def bare : Inventory := ⟨.ok (), fun _ => false, .ok []⟩

def plainFloats : FloatText := ⟨fun _ => [], fun _ => none⟩

def windowed : Dict := [("sliding_window", .int 128), ("num_experts", .int 8)]

def latent : Dict := [("kv_lora_rank", .int 512), ("sliding_window", .int 4096)]

def quotedHeads : Dict :=
  [("num_local_experts", .int 8), ("quantization_config", .obj [("quant_method", .str "fp8")]),
    ("num_key_value_heads", .str "8"), ("num_attention_heads", .int 32)]

example : Exercised windowed
    (dimensionsFor (report plainFloats (fun _ => false) windowed bare).axes) := by
  have done : matched plainFloats (fun _ => false) windowed bare = .ok _ := rfl
  have unmasked : ¬ Masked plainFloats windowed := by
    unfold Masked
    decide
  exact (matched_exercised done).mpr fun _ => unmasked

/-- A window beside a latent rank is not exercised, and nothing is where the head counts cannot be
compared. -/
theorem demand_unexercised :
    ¬ Exercised latent (dimensionsFor (report plainFloats (fun _ => false) latent bare).axes) ∧
    ¬ Exercised quotedHeads
      (dimensionsFor (report plainFloats (fun _ => false) quotedHeads bare).axes) := by
  constructor
  · exact fun exercised => absurd (exercised.swa rfl) (by decide)
  · exact fun exercised => absurd (exercised.moe.mpr rfl) (by decide)

end InferForge.CapabilityMatch

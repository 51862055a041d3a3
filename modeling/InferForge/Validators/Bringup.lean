import InferForge.ResultValidation
import InferForge.Coerce
import InferForge.Py.Dumps

/-! Acceptance check of a toy bring-up. -/
namespace InferForge
open Py ResultValidation Effect

namespace Py.Json

mutual

/-- `a > b`: numbers, strings and lists compare with their own kind only. -/
def gt : Json → Json → Except Exn Bool
  | .str a, .str b => .ok (!codesLe a.codes b.codes)
  | .arr xs, .arr ys => gtItems xs ys
  | a, b =>
      match a.num?, b.num? with
      | some x, some y => .ok (
          match x, y with
          | .fin x, .fin y => decide (y < x)
          | .inf negative, .fin _ => !negative
          | .fin _, .inf negative => negative
          | .inf x, .inf y => !x && y
          | _, _ => false)
      | _, _ => .error (.type "'>' not supported between these instances")

/-- The first pair of different items decides. -/
def gtItems : List Json → List Json → Except Exn Bool
  | x :: xs, y :: ys => if x.eq y then gtItems xs ys else gt x y
  | [], _ => .ok false
  | _ :: _, [] => .ok true

end

end Py.Json

/-- `value[key] or {}` where only a mapping has the attribute `get` that comes next. -/
def subsection (value : Json) (key : Text) : Except Exn Dict := do
  match (((← value.get key).getD .null).or (.obj [])) with
  | .obj fields => return fields
  | _ => throw (.attr "object has no attribute 'get'")

theorem subsection_obj {fields found : Dict} {key : Text} (same : Dict.getD fields key .null = .obj found) :
    subsection (.obj fields) key = .ok found := by
  unfold subsection
  have value : ((Dict.get? fields key).getD .null).or (.obj []) = .obj found := by
    rw [← Dict.getD, same]
    cases found <;> rfl
  simp only [Json.get, ok_bind, value]
  rfl

/-- A value whose attribute `get` is used. -/
def asMapping : Json → Except Exn Dict
  | .obj fields => .ok fields
  | _ => .error (.attr "object has no attribute 'get'")

/-- The errors of a list of mappings, one after the other. -/
def eachErrors (check : Dict → Except Exn (List Text)) : List Json → Except Exn (List Text)
  | [] => .ok []
  | item :: rest => do
      let here ← check (← asMapping item)
      return here ++ (← eachErrors check rest)

theorem eachErrors_nil {check : Dict → Except Exn (List Text)} {items : List Json}
    (accepted : eachErrors check items = .ok []) :
    ∃ entries : List Dict, items = entries.map .obj ∧ ∀ entry ∈ entries, check entry = .ok [] := by
  induction items with
  | nil => exact ⟨[], rfl, nofun⟩
  | cons item rest ih =>
    simp only [eachErrors, bind_ok, pure_ok] at accepted
    obtain ⟨entry, mapping, here, checked, others, tail, none⟩ := accepted
    obtain ⟨rfl, rfl⟩ := List.append_eq_nil_iff.mp none
    obtain ⟨entries, rfl, each⟩ := ih tail
    cases item with
    | obj fields =>
      obtain rfl := Except.ok.inj mapping
      exact ⟨fields :: entries, rfl, List.forall_mem_cons.mpr ⟨checked, each⟩⟩
    | _ => cases mapping

theorem eachErrors_objects {check : Dict → Except Exn (List Text)} {entries : List Dict} :
    eachErrors check (entries.map .obj) = .ok [] ↔ ∀ entry ∈ entries, check entry = .ok [] := by
  constructor
  · intro accepted
    obtain ⟨others, same, each⟩ := eachErrors_nil accepted
    have injective : Function.Injective Json.obj := fun _ _ => Json.obj.inj
    rwa [List.map_injective_iff.mpr injective same]
  · intro each
    induction entries with
    | nil => rfl
    | cons entry rest ih =>
      obtain ⟨here, tail⟩ := List.forall_mem_cons.mp each
      simp [eachErrors, asMapping, here, ih tail]

theorem mapM_asMapping (entries : List Dict) : (entries.map Json.obj).mapM asMapping = .ok entries := by
  induction entries with
  | nil => rfl
  | cons entry rest ih =>
    rw [List.map_cons, List.mapM_cons, ih]
    rfl

/-- A nonempty value whose elements are mappings is a list. -/
theorem elements_objects {results : Json} {entries : List Dict} (filled : results.truthy = true)
    (visited : results.elements = .ok (entries.map .obj)) : results = .arr (entries.map .obj) ∧ entries ≠ [] := by
  cases results with
  | arr items =>
    obtain rfl := Except.ok.inj visited
    refine ⟨rfl, ?_⟩
    rintro rfl
    cases filled
  | obj fields =>
    have same := Except.ok.inj visited
    cases fields with
    | nil => cases filled
    | cons field rest => cases entries <;> cases same
  | str t =>
    have same := Except.ok.inj visited
    obtain ⟨codes⟩ := t
    cases codes with
    | nil => cases filled
    | cons c rest => cases entries <;> cases same
  | _ => cases visited

def bringupStages : List Text := ["CONFIG_DERIVED", "ENGINE_CONSTRUCTED", "PREFILL_OK", "DECODE_OK"]

/-- `DIMENSIONS_THAT_SELECT_KERNELS`. -/
def kernelDimensions : List Text :=
  ["hidden_size", "num_attention_heads", "qk_nope_head_dim", "qk_rope_head_dim", "v_head_dim",
    "kv_lora_rank", "index_head_dim", "index_n_heads", "index_topk"]

section Checks
variable (host : Host) (report : Dict)

def stagesPassedErrors (complete : Bool) : List Text :=
  let stages := bringupStages.map Json.str
  match Dict.getD report "stages_passed" .null with
  | .arr passed =>
      errorIf (!Json.eqItems passed (stages.take passed.length))
        ("stages_passed " ++ host.repr (.arr passed) ++ " is not a prefix of " ++
          host.repr (.arr stages)) ++
      errorIf (complete && !Json.eqItems passed stages)
        "complete is true but not every stage passed"
  | _ => ["stages_passed is required: a bring-up report is a position, not a verdict"]

/-- The checks of `config.num_hidden_layers`. -/
def depthErrors (depth : Dict) : Except Exn (List Text) := do
  let toy := Dict.getD depth "toy" .null
  let real := Dict.getD depth "real" .null
  if !toy.truthy || !real.truthy then
    return ["config.num_hidden_layers must record both the real and the toy depth"]
  else
    return errorIf (← toy.gt real) "the toy model is deeper than the real one"

/-- The dimensions of the real config, one after the other. -/
def keptErrors (kept : Json) (realConfig : Dict) : List Text → Except Exn (List Text)
  | [] => .ok []
  | key :: rest =>
      match Dict.get? realConfig key with
      | none => keptErrors kept realConfig rest
      | some real => do
          let found := (← kept.get key).getD .null
          let here := errorIf (!found.eq real)
            (key ++ " was changed from " ++ host.str real ++ " to " ++ host.str found ++
              ": shrinking a kernel-selecting dimension makes this run a different code path")
          return here ++ (← keptErrors kept realConfig rest)

/-- The decode of a complete bring-up. -/
def decodeErrors : Except Exn (List Text) := do
  let decode ← subsection (.obj report) "decode"
  let short := match Dict.getD decode "count" .null with
    | .int count => decide (count < 2)
    | _ => true
  return errorIf short
    ("a complete bring-up needs more than one decoded token: one token only proves prefill, " ++
      "and the decode path is where paged attention and the indexer differ" : String)

/-- `validate_bringup_report` of a nonempty real config. -/
def validateBringupReport (realConfig : Dict) : Except Exn (List Text) := do
  let stage := Dict.getD report "stage" .null
  let complete := (Dict.getD report "complete" .null).truthy
  let position := errorIf (!((Text.ofString "NOTHING_RAN") :: bringupStages).any fun name => stage.eq (.str name))
    ("stage " ++ host.repr stage ++ " is not one of ('CONFIG_DERIVED', 'ENGINE_CONSTRUCTED', " ++
      "'PREFILL_OK', 'DECODE_OK') or NOTHING_RAN")
  let stopped := errorIf (!complete && !(Dict.getD report "error" .null).truthy)
    "an incomplete bring-up must carry the error that stopped it"
  let config ← subsection (.obj report) "config"
  let architectures := errorIf (!(Dict.getD config "architectures" .null).truthy)
    "config.architectures is required: the report must name what it brought up"
  let depth ← depthErrors (← subsection (.obj config) "num_hidden_layers")
  let kept ← keptErrors host ((Dict.getD config "kept_dimensions" .null).or (.obj [])) realConfig
    kernelDimensions
  let decode ← if complete then decodeErrors report else pure []
  return position ++ stagesPassedErrors host report complete ++ stopped ++ architectures ++ depth ++
    kept ++ decode

end Checks
end InferForge

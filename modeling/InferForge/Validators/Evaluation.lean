import InferForge.ResultValidation
import InferForge.Numerics.Rounded

/-! Acceptance checks of a capability evaluation. -/
namespace InferForge
open Py ResultValidation Effect

namespace Evaluation

/-- `sorted(STATES)`. -/
def states : List Text :=
  ["EVALUATION_ERROR", "EVALUATION_INCONCLUSIVE", "EVALUATION_UNIMPLEMENTED", "EXERCISED_FAIL",
    "EXERCISED_PASS"]

/-- `float(a) > float(b)`. -/
def exceeds (host : Host) (a b : Json) : Except Exn Bool := do
  let a ← Json.toDouble host a
  return (← Json.toDouble host b).below a

/-- `mapping.get(key)` for a key of any type. -/
def getKey (mapping key : Json) : Except Exn Json := do
  match key with
  | .str name => mapping.field name
  | key =>
      let _ ← mapping.get ""
      refuse (!key.hashable) (.type "unhashable type")
      return .null

section Report
variable (host : Host) (report : Dict)

/-- What a record leaves out of its required fields. -/
def fieldErrors (kind : Text) (label record : Json) (absent : Json → Bool) :
    List Text → Except Exn (List Text)
  | [] => .ok []
  | field :: rest => do
      let here := errorIf (absent (← record.field field))
        (kind ++ " " ++ host.repr label ++ " is missing " ++ field)
      return here ++ (← fieldErrors kind label record absent rest)

def caseFields : List Text := ["case", "reference", "cosine", "relative_l2"]

def caseErrors : List Json → Except Exn (List Text)
  | [] => .ok []
  | case :: rest => do
      let label := (← case.get "case").getD (.str "?")
      let here ← fieldErrors host "case" label case (fun value => value.eq .null) caseFields
      return here ++ (← caseErrors rest)

def blockerErrors : List Json → Except Exn (List Text)
  | [] => .ok []
  | blocker :: rest => do
      let label := (← blocker.get "path").getD (.str "?")
      let here ← fieldErrors host "blocker" label blocker (fun value => !value.truthy)
        ["error", "affected", "call_sites"]
      return here ++ (← blockerErrors rest)

def gateErrors (primary floor ceiling : Json) : Except Exn (List Text) := do
  let relative := errorIf (← exceeds host ((← primary.get "relative_l2").getD (.float (.fin 1))) ceiling)
    ("relative L2 " ++ host.str (← primary.field "relative_l2") ++ " exceeds " ++ host.str ceiling ++
      " but the state is EXERCISED_PASS")
  let cosine := errorIf (← exceeds host floor ((← primary.get "cosine").getD (.float (.fin 0))))
    ("cosine " ++ host.str (← primary.field "cosine") ++ " is below " ++ host.str floor ++
      " but the state is EXERCISED_PASS")
  return relative ++ cosine

def thresholdErrors (cases : List Json) : Except Exn (List Text) := do
  let thresholds := (Dict.getD report "thresholds" .null).or (.obj [])
  let floor ← thresholds.field "min_cosine"
  let ceiling ← thresholds.field "max_relative_l2"
  if floor.eq .null || ceiling.eq .null then
    return ["EXERCISED_PASS requires both thresholds to be recorded"]
  else
    match cases with
    | [] => return []
    | primary :: _ => gateErrors host primary floor ceiling

def declaredErrors (contract dimension : Json) : Except Exn (List Text) := do
  let checks := (← contract.field "checks").or (.obj [])
  let dimensions := (← checks.field "dimensions").or (.obj [])
  let declared ← getKey dimensions (dimension.or (.str ""))
  if declared.truthy then
    let wanted ← Json.toDouble host ((← declared.get "max_relative_l2").getD (.int 0))
    let thresholds := (Dict.getD report "thresholds" .null).or (.obj [])
    let used ← Json.toDouble host ((← thresholds.get "max_relative_l2").getD (.int (-1)))
    return errorIf (!wanted.eq used)
      "the report's relative-L2 threshold does not match the contract's, so the gate was not the declared one"
  else return []

def passErrors (contract dimension control : Json) (cases : List Json) : Except Exn (List Text) := do
  let blind := errorIf (!(← control.field "discriminates").truthy)
    "EXERCISED_PASS requires the negative control to miss the gate; this control passed too, so the probe is blind to what it claims to check"
  return blind ++ (← thresholdErrors host report cases) ++ (← declaredErrors host report contract dimension)

/-- The checks of a dimension that ran. -/
def exercisedErrors (contract state dimension : Json) : Except Exn (List Text) := do
  let header :=
    errorIf (!(Dict.getD report "operators" .null).truthy)
      "operators is required: exercised means named operators ran" ++
    errorIf (!(Dict.getD report "exercised_in" .null).truthy)
      "exercised_in is required: a run without a host is not evidence" ++
    errorIf (!(Dict.getD report "threshold_source" .null).truthy)
      "threshold_source is required: a report without it is an opinion"
  let cases ← ((Dict.getD report "cases" .null).or (.arr [])).elements
  let compared := errorIf cases.isEmpty "at least one comparison case is required"
  let incomplete ← caseErrors host cases
  let control := (Dict.getD report "control" .null).or (.obj [])
  let controlled := errorIf (!control.truthy)
    "a negative control is required: a check that cannot fail proves nothing"
  let blocked ← blockerErrors host (← ((Dict.getD report "blockers" .null).or (.arr [])).elements)
  let passed ←
    if state.eq (.str "EXERCISED_PASS") then passErrors host report contract dimension control cases
    else pure []
  return header ++ compared ++ incomplete ++ controlled ++ blocked ++ passed

/-- `validate_evaluation`. -/
def validate (contract : Json) : Except Exn (List Text) := do
  let state := Dict.getD report "state" .null
  let dimension := Dict.getD report "dimension" .null
  let known := errorIf (!(← state.among states))
    ("state " ++ host.repr state ++ " is not one of " ++ host.repr (.arr (states.map .str)))
  let named := errorIf (!dimension.truthy) "dimension is required: the contract is parameterized by it"
  if state.eq (.str "EVALUATION_UNIMPLEMENTED") then
    return known ++ named ++
      errorIf (!(Dict.getD report "reason" .null).truthy) "an unimplemented dimension must say why" ++
      errorIf (Dict.getD report "cases" .null).truthy
        "an unimplemented dimension reported cases, which contradicts its state"
  else if state.eq (.str "EVALUATION_ERROR") then
    return known ++ named ++
      errorIf (!(Dict.getD report "error" .null).truthy) "EVALUATION_ERROR must carry the error it hit"
  else return known ++ named ++ (← exercisedErrors host report contract state dimension)

end Report

/-! ## Accepted reports -/

/-- The record has the field, with a value that counts. -/
def Holds (record : Json) (absent : Json → Bool) (field : Text) : Prop :=
  ∃ value, record.field field = .ok value ∧ absent value = false

theorem fieldErrors_nil {fields : List Text} :
    fieldErrors host kind label record absent fields = .ok [] ↔ ∀ field ∈ fields, Holds record absent field := by
  induction fields with
  | nil => simp [fieldErrors]
  | cons field rest ih =>
    simp only [fieldErrors, bind_ok, pure_ok, List.append_eq_nil_iff]
    rw [List.forall_mem_cons, ← ih]
    constructor
    · rintro ⟨value, read, others, later, here, rfl⟩
      exact ⟨⟨value, read, errorIf_nil here⟩, later⟩
    · rintro ⟨⟨value, read, counts⟩, later⟩
      exact ⟨value, read, [], later, by simp [errorIf, counts], rfl⟩

def isNull (value : Json) : Bool := value.eq .null

/-- Every comparison of an accepted report has its four fields. -/
theorem caseErrors_nil {cases : List Json} :
    caseErrors host cases = .ok [] ↔ ∀ case ∈ cases, ∀ field ∈ caseFields, Holds case isNull field := by
  induction cases with
  | nil => simp [caseErrors]
  | cons case rest ih =>
    simp only [caseErrors, bind_ok, pure_ok, List.append_eq_nil_iff]
    rw [List.forall_mem_cons, ← ih]
    constructor
    · rintro ⟨label, _, here, complete, others, later, rfl, rfl⟩
      exact ⟨fieldErrors_nil.mp complete, later⟩
    · rintro ⟨complete, later⟩
      obtain ⟨value, read, _⟩ := complete "case" (by decide)
      rw [Json.field, bind_ok] at read
      obtain ⟨label, found, _⟩ := read
      exact ⟨label, found, [], fieldErrors_nil.mpr complete, [], later, rfl, rfl⟩

/-- Acceptance of a pass covers every recorded case. -/
theorem validate_cases {report : Dict} {cases : List Json}
    (accepted : validate host report contract = .ok [])
    (state : Dict.getD report "state" .null = .str "EXERCISED_PASS")
    (recorded : Dict.getD report "cases" .null = .arr cases) :
    ∀ case ∈ cases, ∀ field ∈ caseFields, Holds case isNull field := by
  have listed : ((Json.arr cases).or (.arr [])).elements = .ok cases := by
    cases cases <;> rfl
  have other : (Json.str "EXERCISED_PASS").eq (.str "EVALUATION_UNIMPLEMENTED") = false := by decide
  have other' : (Json.str "EXERCISED_PASS").eq (.str "EVALUATION_ERROR") = false := by decide
  have pass : (Json.str "EXERCISED_PASS").eq (.str "EXERCISED_PASS") = true := by decide
  simp only [validate, state, other, other', Bool.false_eq_true, if_false, bind_ok, pure_ok,
    List.append_eq_nil_iff] at accepted
  obtain ⟨_, _, errors, exercised, _, rfl⟩ := accepted
  simp only [exercisedErrors, recorded, listed, pass, if_true, bind_ok, pure_ok,
    List.append_eq_nil_iff] at exercised
  obtain ⟨found, same, incomplete, complete, _, _, _, _, _, _, ⟨⟨⟨⟨_, _⟩, rfl⟩, _⟩, _⟩, _⟩ := exercised
  obtain rfl := Except.ok.inj same
  exact caseErrors_nil.mp complete

end Evaluation
end InferForge

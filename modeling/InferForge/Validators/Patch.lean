import InferForge.Validators.Bringup
import InferForge.Validators.Deployment

/-! Acceptance checks of a patch placement. -/
namespace InferForge
open Py ResultValidation Effect

/-- The double written `0.9999`. -/
def agreement : Json := .float (.fin (4503149267407759 / 4503599627370496))

/-- `checks.mechanisms or []`. -/
def mechanismsOf (checks : Json) : Except Exn (List Json) := do
  ((← checks.field "mechanisms").or (.arr [])).elements

/-- `_chosen`. -/
def chosenMechanisms (contract : Json) : Except Exn (List Json) := do
  let mechanisms ← mechanismsOf ((← contract.field "checks").or (.obj []))
  mechanisms.filterM fun mechanism => return (← mechanism.field "chosen").truthy

section Placement
variable (host : Host) (report : Dict) (checks : Json)

/-- Every mechanism records why it was chosen or not. -/
def unexplainedErrors : List Json → Except Exn (List Text)
  | [] => .ok []
  | mechanism :: rest => do
      let here := errorIf (!(← mechanism.field "why").truthy)
        ("mechanism " ++ host.repr (← mechanism.field "id") ++
          " must record why it was or was not chosen")
      return here ++ (← unexplainedErrors rest)

def mechanismErrors : List Json → Except Exn (List Text)
  | [] => .ok []
  | chosen :: _ => do
      let id ← chosen.field "id"
      let placed := Dict.getD report "mechanism" .null
      return errorIf (!placed.eq id) ("the report placed the patch via " ++ host.repr placed ++
        " but the contract chose " ++ host.repr id)

def similarityErrors (similarity : Json) (threshold : Double) : Except Exn (List Text) := do
  if similarity.num?.isNone then
    return ["numerical.min_cosine_similarity is required: replacing a kernel without comparing it is a rewrite, not a patch"]
  else
    return errorIf (← (Json.float threshold).gt similarity)
      ("min cosine similarity " ++ host.str similarity ++ " is below the contract's " ++
        host.str (.float threshold))

def numericalErrors : Except Exn (List Text) := do
  let numerical := (Dict.getD report "numerical" .null).or (.obj [])
  let equivalence := (← checks.field "numerical_equivalence").or (.obj [])
  let threshold ← Json.toDouble host ((← equivalence.get "threshold").getD agreement)
  let similarity ← numerical.field "min_cosine_similarity"
  let reference := errorIf (!(← numerical.field "reference").truthy)
    "numerical.reference must name the kernel the patch was compared against"
  let cases := errorIf (!(← numerical.field "cases").truthy)
    "numerical.cases must record the geometries that were compared"
  return reference ++ cases ++ (← similarityErrors host similarity threshold)

def serverErrors : Except Exn (List Text) := do
  let server := (Dict.getD report "server_validation" .null).or (.obj [])
  return errorIf (!(← server.field "state").eq (.str "DEPLOYMENT_READY"))
    ("the patch must be validated by a service proof: isolation already passed before the patch existed, so it proves nothing here" : String)

def reversibilityErrors : Except Exn (List Text) := do
  let reversibility := (Dict.getD report "reversibility" .null).or (.obj [])
  let wanted := (← checks.get "reversibility").getD (.obj [])
  let backup := errorIf (!(← reversibility.field "backup_path").truthy)
    "reversibility.backup_path must record what --remove will restore"
  let switch := errorIf (!(← reversibility.field "runtime_switch").eq (← wanted.field "runtime_switch"))
    "the runtime switch must match the contract"
  let reproduces ←
    if (← wanted.field "must_reproduce_original_failure").truthy then
      pure (errorIf (!(← reversibility.field "reproduces_original_failure").truthy)
        "turning the patch off must still reproduce the original failure; otherwise the evidence for needing it has been lost")
    else pure []
  return backup ++ switch ++ reproduces

/-- The checks that the contract's `acceptance` asks for. -/
def whenRequired (acceptance : Json) (key : Text) (errors : Except Exn (List Text)) :
    Except Exn (List Text) := do
  if (← acceptance.field key).truthy then errors else return []

def validatePatchPlacement (contract : Json) : Except Exn (List Text) := do
  let checks := (← contract.field "checks").or (.obj [])
  let acceptance := (← contract.field "acceptance").or (.obj [])
  let placed := Dict.getD report "state" .null
  let state := errorIf (!placed.eq (.str "PATCH_PLACED"))
    ("state is " ++ host.repr placed ++ ", not PATCH_PLACED")
  let chosen ← chosenMechanisms contract
  let one := errorIf (chosen.length != 1)
    "exactly one placement mechanism must be chosen in the contract"
  let unexplained ← unexplainedErrors host (← mechanismsOf checks)
  let mechanism ← mechanismErrors host report chosen
  let numerical ← whenRequired acceptance "require_numerical_evidence" (numericalErrors host report checks)
  let server ← whenRequired acceptance "require_server_validation" (serverErrors report)
  let reversibility ← whenRequired acceptance "require_reversibility" (reversibilityErrors report checks)
  let scope := (Dict.getD report "scope" .null).or (.obj [])
  let wanted := (← checks.field "scope").or (.obj [])
  let routes := errorIf (!(← scope.field "routes_only").eq (← wanted.field "routes_only"))
    "the routing scope must match the contract: widening it silently changes results on paths the fallback does not implement"
  let limitations := errorIf (!((Dict.getD report "limitations" .null).or (.arr [])).truthy)
    "a patch with no stated limitation is a claim nobody can check"
  return state ++ one ++ unexplained ++ mechanism ++ numerical ++ server ++ reversibility ++ routes ++
    limitations

end Placement
end InferForge

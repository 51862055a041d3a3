import InferForge.Validators.Capability

/-! Acceptance check of a gap classification. -/
namespace InferForge
open Py ResultValidation Effect

namespace Gaps

def classes : List Text := ["NO_STATIC_GAP", "REGISTRATION_MISSING", "VERSION_LAG", "CAPABILITY_MISSING", "UNVERIFIED"]

/-- `REQUIRED_ACTION`: the action each class must lead to. -/
def requiredAction : List (Text × Text) :=
  [("REGISTRATION_MISSING", "model implementation"), ("VERSION_LAG", "cherry-pick"), ("NO_STATIC_GAP", "triage")]

def blockingClasses : List Text := ["REGISTRATION_MISSING", "CAPABILITY_MISSING"]

def isBlocking (gap : Dict) : Bool := blockingClasses.any fun name => (Dict.getD gap "class" .null).eq (.str name)

/-- `{gap["axis"] for gap in gaps if gap.get("class") in (...)}`. -/
def blockingAxes : List Dict → Except Exn (List Json)
  | [] => .ok []
  | gap :: rest =>
      if isBlocking gap then do
        let name ← Json.item (.obj gap) "axis"
        if !name.hashable then throw (.type "unhashable type")
        return name :: (← blockingAxes rest)
      else blockingAxes rest

section Checks
variable (host : Host)

def gapErrors (gap : Dict) : Except Exn (List Text) := do
  let cls := Dict.getD gap "class" .null
  let unknown := errorIf (!(← cls.among classes))
    ("gap " ++ host.repr (Dict.getD gap "axis" .null) ++ " has unknown class " ++ host.repr cls)
  let fields : List Text := ["axis", "detail", "next_action", "evidence"]
  return unknown ++ fields.flatMap fun field =>
    errorIf (!(Dict.getD gap field .null).truthy)
      ("gap " ++ host.repr (Dict.getD gap "axis" (.str "?")) ++ " is missing " ++ field)

def actionErrors (classification : Json) (action : Text) : List Text :=
  match requiredAction.lookup (host.str classification) with
  | some expected => errorIf (!action.holds expected)
      (host.str classification ++ " must lead to an action mentioning " ++ host.repr (.str expected) ++ ", got " ++
        host.repr (.str action))
  | none => []

/-- The gaps against the classification and the axes that block. -/
def gapsErrors (report : Dict) (classification gaps : Json) : Except Exn (List Text) :=
  if gaps.isNull then .ok ["gaps must be present, even when empty"]
  else do
    let items ← gaps.elements
    let each ← eachErrors (gapErrors host) items
    let blocking ← blockingAxes (← items.mapM asMapping)
    let recorded ← ((Dict.getD report "blocking" .null).or (.arr [])).toSet
    return each ++ errorIf (!Json.sameSet recorded blocking) "blocking disagrees with the per-gap classes" ++
      errorIf (!gaps.truthy && !classification.eq (.str "NO_STATIC_GAP"))
        ("no gap was found but the classification is " ++ host.repr classification) ++
      errorIf (gaps.truthy && classification.eq (.str "NO_STATIC_GAP"))
        "gaps were found, so NO_STATIC_GAP would hide them"

/-- The check that `require_input_provenance` asks for. -/
def provenanceErrors (report : Dict) : Except Exn (List Text) := do
  let inputs ← subsection (.obj report) "inputs"
  let fields : List Text := ["scan_state", "match_verdict"]
  return (fields.flatMap fun field =>
      errorIf (!(Dict.getD inputs field .null).truthy)
        ("inputs." ++ field ++ " must record what this classification was derived from")) ++
    errorIf (!((Dict.getD inputs "scanned_in" .null).truthy || (Dict.getD inputs "matched_in" .null).truthy))
      "inputs must name the pod whose installation the findings came from"

def validateGapClassification (report contract : Dict) : Except Exn (List Text) := do
  let state := errorIf (!(Dict.getD report "state" .null).eq (.str "CLASSIFICATION_READY"))
    ("state is " ++ host.repr (Dict.getD report "state" .null) ++ ", not CLASSIFICATION_READY")
  let unverified := errorIf (!(Dict.getD report "runtime_verified" .null).isFalse)
    ("runtime_verified must be false: this Task reads two static findings and executes " ++ "nothing" : Text)
  let classification := Dict.getD report "classification" .null
  let unknown := errorIf (!(← classification.among classes)) ("unknown classification " ++ host.repr classification)
  let action := host.str ((Dict.getD report "next_action" .null).or (.str ""))
  let missing := errorIf action.isEmpty
    "next_action is required: a class without an action is not a routing decision"
  let gaps ← gapsErrors host report classification (Dict.getD report "gaps" .null)
  let acceptance ← subsection (.obj contract) "acceptance"
  let provenance ← (if (Dict.getD acceptance "require_input_provenance" .null).truthy then provenanceErrors report
    else .ok [])
  return state ++ unverified ++ unknown ++ missing ++ actionErrors host classification action ++ gaps ++ provenance

end Checks

end Gaps
end InferForge

import InferForge.ResultValidation

/-! Acceptance check of a failure triage. -/
namespace InferForge
open Py ResultValidation Effect

namespace Triage

def layers : List Text := ["kunlun_ops_vendor", "torch_xmlir_vendor", "vllm_kunlun_plugin", "vllm_upstream"]

def ownedLayers : List Text := ["vllm_upstream", "vllm_kunlun_plugin"]

def verdicts : List Text :=
  ["VENDOR_KERNEL_GAP", "RUNTIME_STATE_DEPENDENT", "PLUGIN_DEFECT", "CONFIGURATION", "UNKNOWN"]

section Report
variable (host : Host) (report : Dict)

def isolationErrors (verdict : Json) : Except Exn (List Text) :=
  match Dict.getD report "isolated_reproduction" .null with
  | .obj isolated =>
      let attempted := Dict.getD isolated "attempted" .null
      let reproduced := Dict.getD isolated "reproduced" .null
      .ok (
        errorIf (!attempted.isTrue) "isolated_reproduction.attempted must be True before attributing a layer" ++
        errorIf (!(reproduced.eq (.bool true) || reproduced.eq (.bool false)))
          "isolated_reproduction.reproduced must be recorded as True or False" ++
        errorIf (!(Dict.getD isolated "cases" .null).truthy)
          "isolated_reproduction.cases must record what was actually run" ++
        errorIf (verdict.eq (.str "VENDOR_KERNEL_GAP") && !reproduced.isTrue)
          "VENDOR_KERNEL_GAP requires the isolated call to fail as well; otherwise the verdict is RUNTIME_STATE_DEPENDENT" ++
        errorIf (verdict.eq (.str "RUNTIME_STATE_DEPENDENT") && !reproduced.isFalse)
          "RUNTIME_STATE_DEPENDENT means the isolated call passed; a reproducing case makes it a plain vendor gap")
  | _ => .ok ["isolated_reproduction is required: an attribution without a reproduction attempt is a guess"]

def ownerErrors (layer : Json) : Except Exn (List Text) := do
  let owner := Dict.getD report "owner" .null
  if !owner.truthy then return ["owner must state who can fix this"]
  else if (← layer.among ownedLayers) && owner.eq (.str "vendor") then
    return [host.str layer ++ " is modifiable here, so the owner cannot be the vendor"]
  else if layer.truthy && !(← layer.among ownedLayers) && owner.eq (.str "us") then
    return [host.str layer ++ " ships as a binary, so the fix is a workaround or a ticket, not ours"]
  else return []

def workaroundErrors : Except Exn (List Text) := do
  let workaround := Dict.getD report "workaround" .null
  if workaround.truthy then
    let described := errorIf (!(← workaround.field "description").truthy) "a workaround must describe itself"
    let validated := errorIf (!(← workaround.field "validated_in_server").isTrue)
      "a workaround is only a workaround once it is validated in the server: the isolated call already passed, so isolation proves nothing here"
    return described ++ validated
  else return []

end Report

/-- `validate_triage`. -/
def validate (host : Host) (report : Dict) (contract : Json) : Except Exn (List Text) := do
  let acceptance := (← contract.field "acceptance").or (.obj [])
  let state := Dict.getD report "state" .null
  let layer := Dict.getD report "layer" .null
  let verdict := Dict.getD report "verdict" .null
  let header := errorIf (!state.eq (.str "TRIAGE_READY")) ("state is " ++ host.repr state ++ ", not TRIAGE_READY") ++
    errorIf (!(Dict.getD report "failing_symbol" .null).truthy) "failing_symbol must name the call that failed" ++
    errorIf (!(Dict.getD report "error_text" .null).truthy) "error_text must quote what the runtime actually said"
  let layered := errorIf (!(← layer.among layers))
    ("layer must be one of " ++ host.repr (.arr (layers.map .str)) ++ ", got " ++ host.repr layer)
  let judged := errorIf (!(← verdict.among verdicts)) ("unknown verdict " ++ host.repr verdict)
  let isolated ← isolationErrors report verdict
  let captured := errorIf ((← acceptance.field "require_captured_arguments").truthy &&
      !(Dict.getD report "captured_arguments" .null).truthy)
    "the failing call's real arguments must be captured; a symptom without arguments cannot be reproduced by anyone else"
  let owned ← if (← acceptance.field "require_owner").truthy then ownerErrors host report layer else pure []
  return header ++ layered ++ judged ++ isolated ++ captured ++ owned ++ (← workaroundErrors report)

end Triage
end InferForge

import InferForge.Coerce
import InferForge.Py.Ordered
import InferForge.ResultValidation

/-! Acceptance checks of a torch shim registry: no signal without an entry, and no entry that
is neither dispatched nor waived once the registry is clear. -/
namespace InferForge
open Py Effect ResultValidation

namespace ShimRegistry

def entryStatuses : List Text := ["REGISTERED", "DISPATCHED", "WAIVED"]

def requiredEntryFields : List Text :=
  ["name", "location", "replaced_kernel", "call_frequency", "semantics_basis"]

/-- `isinstance(value, int) and value > 0`: a flag counts as an integer. -/
def positiveCount : Json → Bool
  | .int n => 0 < n
  | .bool value => value
  | _ => false

section Report
variable (host : Host) (report : Dict)

/-- `f"{name}[{index}]"`. -/
def place (name : Text) (index : Nat) : Text := name ++ "[" ++ Text.ofNat index ++ "]"

def signalErrors (signal : Json × Nat) : Except Exn (List Text) := do
  let missing ← ([Text.ofString "kind", "file", "symbol", "line"]).mapM fun name => do
    let value ← signal.1.field name
    return errorIf (!value.truthy && !value.eq (.int 0)) (place "signals" signal.2 ++ "." ++ name ++ " is required")
  return missing.flatten

def entryErrors (entry : Json × Nat) : Except Exn (List Text) := do
  let here := place "entries" entry.2
  let missing ← requiredEntryFields.mapM fun name => do
    return errorIf (!(← entry.1.field name).truthy)
      (here ++ "." ++ name ++
        " is required: an operator request without it makes the next Task guess what to build")
  let status ← entry.1.field "status"
  let known ← status.among entryStatuses
  let reason ← entry.1.field "reason"
  let request ← entry.1.field "request_id"
  return missing.flatten ++
    errorIf (!known) (here ++ ".status " ++ host.repr status ++ " is not one of " ++
      host.repr (.arr ((sortedSet entryStatuses).map .str))) ++
    errorIf (status.eq (.str "WAIVED") && !reason.truthy) (here ++ " is WAIVED without a reason") ++
    errorIf (status.eq (.str "DISPATCHED") && !request.truthy) (here ++ " is DISPATCHED without a request_id")

/-- One round over the entries of a clear registry. -/
def pendingError (entry : Json × Nat) : Except Exn (List Text) := do
  let status ← entry.1.field "status"
  let name ← entry.1.field "name"
  return errorIf (status.eq (.str "REGISTERED"))
    (place "entries" entry.2 ++ " " ++ host.repr name ++
      " is still REGISTERED in a HANDOFF_CLEAR report: dispatch it or waive it")

/-- The comparison of the dispatch record with the entries dispatched by this run. -/
def dispatchErrors (entries : List Json) : Except Exn (List Text) := do
  let flags ← entries.mapM fun entry => entry.field "dispatched_this_run"
  let count := (flags.filter Json.truthy).length
  if count = 0 then return []
  else
    let dispatch := Dict.getD report "dispatch" .null
    if !dispatch.truthy then
      return ["entries were dispatched this run but there is no dispatch record"]
    else
      let requested ← dispatch.field "request_count"
      return errorIf (!requested.eq (.int count))
        ("dispatch.request_count " ++ host.str requested ++ " does not match the " ++ Text.ofNat count ++
          " entries dispatched this run")

/-- The members of a list that may be absent. -/
def listed (value : Json) : Except Exn (List Json) := if value.isNull then .ok [] else value.elements

end Report
end ShimRegistry

open ShimRegistry in
def validateShimHandoff (host : Host) (report : Dict) : Except Exn (List Text) := do
  let state := Dict.getD report "state" .null
  let clear := state.eq (.str "HANDOFF_CLEAR")
  let signals := Dict.getD report "signals" .null
  let entries := Dict.getD report "entries" .null
  let unmapped := Dict.getD report "unmapped_signals" .null
  let header :=
    errorIf (!(clear || state.eq (.str "HANDOFF_FOUND")))
      ("state " ++ host.repr state ++ " is neither HANDOFF_CLEAR nor HANDOFF_FOUND") ++
    errorIf (!(Dict.getD report "plugin" .null).truthy)
      "plugin is required: shims belong to a specific installed package" ++
    errorIf (!positiveCount (Dict.getD report "files_scanned" .null))
      "files_scanned must be a positive count: an empty scan proves nothing"
  let signalled ← (← listed signals).zipIdx.mapM signalErrors
  let declared ← (← listed entries).zipIdx.mapM (entryErrors host)
  let given ← (entries.or (.arr [])).elements
  let pending ← (if clear then given else []).zipIdx.mapM (pendingError host)
  let dispatched ← dispatchErrors host report given
  return header ++ errorIf signals.isNull "signals is required, even when empty" ++ signalled.flatten ++
    errorIf entries.isNull "entries is required, even when empty" ++ declared.flatten ++
    errorIf unmapped.isNull "unmapped_signals is required, even when empty" ++
    errorIf (unmapped.truthy && clear)
      "state is HANDOFF_CLEAR but signals exist that no registry entry explains: declare them, dispatch them, or waive them" ++
    pending.flatten ++ dispatched

end InferForge

import InferForge.Validators.Bringup

/-! Acceptance checks of a memory budget. -/
namespace InferForge
open Py ResultValidation Effect

/-- `isinstance(value, int)`, which takes booleans too. -/
def Py.Json.isInstanceInt : Json → Bool
  | .int _ | .bool _ => true
  | _ => false

def minUnattributedMib : Int := 64

section Budget
variable (host : Host) (budget thresholds : Dict)

/-- `budget.get(key)`, as the messages show it. -/
def budgetShown (key : Text) : Text := host.str (Dict.getD budget key .null)

/-- The check of a threshold, where it is given. -/
def whenGiven (key : Text) (check : Json → Except Exn (List Text)) : Except Exn (List Text) :=
  match Dict.get? thresholds key with
  | none => .ok []
  | some threshold => check threshold

def unattributedErrors : Except Exn (List Text) :=
  let unattributed := Dict.getD budget "unattributed_mib" .null
  if !unattributed.isInstanceInt then
    .ok ["unattributed_mib is missing: the snapshot was not applied"]
  else do
    return errorIf (← (Json.int minUnattributedMib).gt unattributed)
      ("unattributed memory is " ++ host.str unattributed ++ " MiB, below " ++
        Text.ofInt minUnattributedMib ++
        " MiB: the log and the snapshot probably describe different processes")

def freeErrors (threshold : Json) : Except Exn (List Text) := do
  return errorIf (← threshold.gt (Dict.getD budget "measured_free_mib" (.int 0)))
    ("free memory " ++ budgetShown host budget "measured_free_mib" ++ " MiB is below the required " ++
      host.str threshold ++ " MiB of headroom")

def utilizationErrors (threshold : Json) : Except Exn (List Text) := do
  return errorIf (← (Dict.getD budget "utilization_pct" (.int 100)).gt threshold)
    ("utilization " ++ budgetShown host budget "utilization_pct" ++ "% exceeds " ++
      host.str threshold ++ "%")

def tokensErrors (threshold : Json) : Except Exn (List Text) :=
  let tokens := Dict.getD budget "kv_cache_tokens" .null
  if !tokens.isInstanceInt then .ok ["kv_cache_tokens is unknown: the log has no KV cache size line"]
  else do
    return errorIf (← threshold.gt tokens)
      ("KV pool holds " ++ host.str tokens ++ " tokens, below the required " ++ host.str threshold)

def spreadErrors (threshold : Json) : Except Exn (List Text) := do
  return errorIf (← (Dict.getD budget "card_spread_mib" (.int 0)).gt threshold)
    ("per-card spread " ++ budgetShown host budget "card_spread_mib" ++ " MiB exceeds " ++
      host.str threshold ++ " MiB")

def validateMemoryBudget : Except Exn (List Text) := do
  let device := errorIf (!(Dict.getD budget "hbm_total_matches_device" .null).truthy)
    "xpu_smi total HBM disagrees with the device spec in the catalog"
  let reconciled := errorIf (!(Dict.getD budget "reconciled" .null).truthy)
    ("log-derived memory does not reconcile with the xpu_smi snapshot: unattributed=" ++
      budgetShown host budget "unattributed_mib" ++ " MiB vs analyzer other=" ++
      budgetShown host budget "analyzer_other_mib" ++ " MiB")
  let unattributed ← unattributedErrors host budget
  let snapshot ← ((Dict.getD budget "evidence" .null).or (.obj [])).get "xpu_smi"
  let evidence := errorIf (!(snapshot.getD .null).truthy)
    "evidence.xpu_smi must record the device snapshot path"
  let free ← whenGiven thresholds "min_free_mib" (freeErrors host budget)
  let utilization ← whenGiven thresholds "max_utilization_pct" (utilizationErrors host budget)
  let tokens ← whenGiven thresholds "min_kv_cache_tokens" (tokensErrors host budget)
  let spread ← whenGiven thresholds "max_card_spread_mib" (spreadErrors host budget)
  return device ++ reconciled ++ unattributed ++ evidence ++ free ++ utilization ++ tokens ++ spread

end Budget
end InferForge

import InferForge.Coerce
import InferForge.ResultValidation

/-! Acceptance checks of an accuracy differential: a pass has to be earned against a reference
of another device. -/
namespace InferForge
open Py Effect ResultValidation

namespace Accuracy

section Report
variable (host : Host) (report thresholds : Dict)

/-- The fields of a case that no run may leave out. -/
def caseFields : List Text := ["top1_candidate", "top1_reference", "candidate_top5", "reference_top5"]

/-- `value in (None, [])`. -/
def unfilled (value : Json) : Bool := value.eq .null || value.eq (.arr [])

def caseErrors (case : Json) : Except Exn (List Text) := do
  let label := (← case.get "prompt").getD (.str "?")
  let missing ← caseFields.mapM fun name => do
    return errorIf (unfilled (← case.field name)) ("case " ++ host.repr label ++ " is missing " ++ name)
  let stated ← case.field "top1_match"
  return missing.flatten ++
    errorIf (stated.eq .null) ("case " ++ host.repr label ++ " does not state whether the top token matched")

/-- `[case.get("prompt") for case in cases if rejected(case)]`. -/
def rejectedPrompts (rejected : Json → Except Exn Bool) (cases : List Json) : Except Exn (List Json) := do
  let prompts ← cases.mapM fun case => do
    if ← rejected case then return [← case.field "prompt"] else return []
  return prompts.flatten

def top1Errors (cases : List Json) : Except Exn (List Text) := do
  if (Dict.getD thresholds "require_top1_match_on_all_cases" .null).truthy then
    let failed ← rejectedPrompts (fun case => return !(← case.field "top1_match").truthy) cases
    return errorIf (!failed.isEmpty)
      ("top-1 disagreed on " ++ host.repr (.arr failed) ++ " but the status is ACCURACY_PASS")
  else return []

def top5Errors (cases : List Json) : Except Exn (List Text) := do
  let floor := Dict.getD thresholds "min_top5_overlap" .null
  if floor.isNull then return []
  else
    let weak ← rejectedPrompts (fun case => do
      let overlap ← Json.toInt host ((← case.get "top5_overlap").getD (.int 0))
      return overlap < (← Json.toInt host floor)) cases
    return errorIf (!weak.isEmpty)
      ("top-5 overlap is below " ++ host.str floor ++ " on " ++ host.repr (.arr weak) ++
        " but the status is ACCURACY_PASS")

/-- What the reference has to say of itself. -/
def referenceErrors : Except Exn (List Text) := do
  let reference := (Dict.getD report "reference" .null).or (.obj [])
  let named ← ([Text.ofString "implementation", "device"]).mapM fun name => do
    return errorIf (!(← reference.field name).truthy)
      ("reference." ++ name ++ " is required: a differential names what it differs from")
  let device ← reference.field "device"
  if device.truthy then
    let candidate := (Dict.getD report "candidate" .null).or (.obj [])
    return named.flatten ++ errorIf (device.eq (← candidate.field "device"))
      "the reference shares the candidate's device, so agreement proves nothing about the accelerator"
  else return named.flatten

end Report
end Accuracy

open Accuracy in
def validateAccuracyReport (host : Host) (report thresholds : Dict) : Except Exn (List Text) := do
  let status := Dict.getD report "status" .null
  let passed := status.eq (.str "ACCURACY_PASS")
  let cases := Dict.getD report "cases" .null
  let header :=
    errorIf (!(passed || status.eq (.str "ACCURACY_FAIL")))
      ("status " ++ host.repr status ++ " is neither a pass nor a fail") ++
    errorIf (!cases.truthy) "accuracy report must include case-level evidence" ++
    errorIf (!(Dict.getD report "threshold_source" .null).truthy)
      "threshold_source is required: a report without it is an opinion"
  let compared ← referenceErrors report
  let metric := errorIf (!(Dict.getD report "metric" .null).truthy) "metric is required"
  let listed ← (cases.or (.arr [])).elements
  let incomplete ← listed.mapM (caseErrors host)
  if cases.truthy && passed then
    return header ++ compared ++ metric ++ incomplete.flatten ++ (← top1Errors host thresholds listed) ++
      (← top5Errors host thresholds listed)
  else return header ++ compared ++ metric ++ incomplete.flatten

namespace Accuracy

/-- A pass on every case, against a reference on a device of its own. -/
structure Earned (report : Dict) : Prop where
  cases : ∃ first rest, report.get? "cases" = some (.arr (first :: rest)) ∧
    ∀ case ∈ first :: rest, ∃ fields, case = .obj fields ∧ (Dict.getD fields "top1_match" .null).truthy = true
  devices : ∃ reference candidate device, report.get? "reference" = some (.obj reference) ∧
    report.get? "candidate" = some (.obj candidate) ∧ Dict.get? reference "device" = some device ∧
    device.truthy = true ∧ device.eq (Dict.getD candidate "device" .null) = false

section Earned
variable {host : Host} {report thresholds : Dict}

theorem rejectedPrompts_nil {rejected : Json → Except Exn Bool} {cases : List Json}
    (none : rejectedPrompts rejected cases = .ok []) : ∀ case ∈ cases, rejected case = .ok false := by
  intro case member
  obtain ⟨prompts, ran, empty⟩ := bind_ok.mp none
  have silent := mapM_silent.mp ⟨prompts, ran, pure_ok.mp empty⟩ case member
  obtain ⟨verdict, judged, rest⟩ := bind_ok.mp silent
  cases verdict with
  | false => exact judged
  | true =>
    obtain ⟨prompt, -, full⟩ := bind_ok.mp rest
    cases pure_ok.mp full

theorem top1Errors_nil {cases : List Json} (required : (Dict.getD thresholds "require_top1_match_on_all_cases" .null).truthy = true)
    (none : top1Errors host thresholds cases = .ok []) : ∀ case ∈ cases, ∃ fields, case = .obj fields ∧
      (Dict.getD fields "top1_match" .null).truthy = true := by
  intro case member
  rw [top1Errors, if_pos required] at none
  obtain ⟨failed, listed, none⟩ := bind_ok.mp none
  have empty : failed = [] := by simpa using errorIf_nil (pure_ok.mp none)
  obtain ⟨stated, read, match'⟩ := bind_ok.mp (rejectedPrompts_nil (empty ▸ listed) case member)
  obtain ⟨value, got, same⟩ := bind_ok.mp read
  cases case with
  | obj fields =>
    obtain rfl := Except.ok.inj got
    obtain rfl := pure_ok.mp same
    have matched : (!(Dict.getD fields "top1_match" .null).truthy) = false := pure_ok.mp match'
    exact ⟨fields, rfl, by simpa using matched⟩
  | _ => cases got

theorem referenceErrors_nil {reference candidate : Dict} (compared : report.get? "reference" = some (.obj reference))
    (against : report.get? "candidate" = some (.obj candidate)) (none : referenceErrors report = .ok []) :
    ∃ device, Dict.get? reference "device" = some device ∧ device.truthy = true ∧
      device.eq (Dict.getD candidate "device" .null) = false := by
  have whole (fields : Dict) (name : Text) : ((Json.obj fields).or (.obj [])).field name = .ok (Dict.getD fields name .null) := by
    cases fields <;> rfl
  have named : Dict.getD report "reference" .null = .obj reference := by rw [Dict.getD, compared]; rfl
  have opposed : Dict.getD report "candidate" .null = .obj candidate := by rw [Dict.getD, against]; rfl
  simp only [referenceErrors, named, opposed, whole, ok_bind] at none
  obtain ⟨absent, ran, none⟩ := bind_ok.mp none
  -- a device that is not named is an error of its own
  have filled : (Dict.getD reference "device" .null).truthy = true := by
    have silent : absent.flatten = [] := by
      split at none
      · exact (List.append_eq_nil_iff.mp (pure_ok.mp none)).1
      · exact pure_ok.mp none
    have here := mapM_silent.mp ⟨absent, ran, silent⟩ "device" (by simp)
    simpa using errorIf_nil (pure_ok.mp here)
  rw [if_pos filled] at none
  have apart := errorIf_nil (List.append_eq_nil_iff.mp (pure_ok.mp none)).2
  refine ⟨_, ?_, filled, apart⟩
  cases held : Dict.get? reference "device" with
  | none => simp [Dict.getD, held, Json.truthy] at filled
  | some device => rw [Dict.getD, held]; rfl

/-- A pass that is accepted is earned. -/
theorem validateAccuracyReport_earned {items : List Json} {reference candidate : Dict}
    (listed : report.get? "cases" = some (.arr items)) (compared : report.get? "reference" = some (.obj reference))
    (against : report.get? "candidate" = some (.obj candidate))
    (passed : (Dict.getD report "status" .null).eq (.str "ACCURACY_PASS") = true)
    (required : (Dict.getD thresholds "require_top1_match_on_all_cases" .null).truthy = true)
    (accepted : validateAccuracyReport host report thresholds = .ok []) : Earned report := by
  have given : Dict.getD report "cases" .null = .arr items := by rw [Dict.getD, listed]; rfl
  have visited : ((Json.arr items).or (.arr [])).elements = .ok items := by cases items <;> rfl
  simp only [validateAccuracyReport, given, passed, visited, ok_bind] at accepted
  obtain ⟨differences, referred, accepted⟩ := bind_ok.mp accepted
  obtain ⟨incomplete, -, accepted⟩ := bind_ok.mp accepted
  cases items with
  | nil =>
    have header := pure_ok.mp accepted
    simp [errorIf, Json.truthy] at header
  | cons first rest =>
    rw [if_pos (by rfl)] at accepted
    obtain ⟨disagreed, top1, accepted⟩ := bind_ok.mp accepted
    obtain ⟨weak, -, none⟩ := bind_ok.mp accepted
    obtain ⟨⟨⟨⟨⟨-, silent⟩, -⟩, -⟩, agreed⟩, -⟩ := by
      simpa only [List.append_eq_nil_iff] using pure_ok.mp none
    subst agreed
    subst silent
    refine ⟨⟨first, rest, listed, top1Errors_nil required top1⟩, ?_⟩
    obtain ⟨device, held, truthy, apart⟩ := referenceErrors_nil compared against referred
    exact ⟨reference, candidate, device, compared, against, held, truthy, apart⟩

end Earned
end Accuracy
end InferForge

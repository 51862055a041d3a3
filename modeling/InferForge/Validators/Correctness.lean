import InferForge.Coerce
import InferForge.ResultValidation
import InferForge.Deployment.WorstCase

/-! The gates of the three correctness tasks. -/
namespace InferForge
open Py Effect ResultValidation

namespace Correctness

/-- `value in (None, {}, "")`. -/
def absent (value : Json) : Bool := value.eq .null || value.eq (.obj []) || value.eq (.str "")

section Report
variable (report : Dict)

/-- The gate of a kernel grade that states a pass. -/
def kernelGate : Except Exn (List Text) :=
  match Dict.getD report "max_relative_l2" .null with
  | .null => .ok [Text.ofString "kernel grade PASS requires max_relative_l2"]
  | ceiling => do
      return errorIf (← (Dict.getD report "relative_l2" (.float (.fin 1))).gt ceiling)
        "kernel grade pass exceeds its declared relative-L2 gate"

/-- `check` of a report that states a pass. -/
def ofPass (check : Except Exn (List Text)) : Except Exn (List Text) :=
  if (Dict.getD report "state" .null).eq (.str "PASS") then check else .ok []

/-- `validate_kernel_grade` of a mapping. -/
def validateKernelGrade : Except Exn (List Text) := do
  let stated := errorIf (!(← (Dict.getD report "state" .null).among ["PASS", "FAIL", "AMBIGUOUS"]))
    "kernel grade state must be PASS, FAIL, or AMBIGUOUS"
  let required := (["relative_l2", "max_abs_error", "reference_provenance"] : List Text).flatMap fun field =>
    errorIf (absent (Dict.getD report field .null)) ("kernel grade requires " ++ field)
  let numeric := (["relative_l2", "max_abs_error", "max_relative_l2"] : List Text).flatMap fun field =>
    errorIf ((Dict.get? report field).any fun value => value.num?.isNone) ("kernel grade " ++ field ++ " must be numeric")
  let shapes := errorIf (!(Dict.getD report "shape_candidate" .null).eq (Dict.getD report "shape_reference" .null))
    "kernel grade candidate and reference shapes must match"
  let provenance := (Dict.getD report "reference_provenance" .null).or (.obj [])
  let described ← (["implementation", "device", "dtype"] : List Text).mapM fun field => do
    return errorIf (!(← provenance.field field).truthy) ("kernel grade reference provenance requires " ++ field)
  let written := errorIf (!(← provenance.field "independently_written").isTrue)
    "kernel grade reference must be independently written"
  let control := errorIf (!(Dict.getD report "control_discriminates" .null).isTrue)
    "kernel grade requires a discriminating negative control"
  let gate ← ofPass report (kernelGate report)
  return stated ++ required ++ numeric ++ shapes ++ described.flatten ++ written ++ control ++ gate

/-- `isinstance(case, dict) and case.get("evidence")`. -/
def evidenced (case : Json) : Bool :=
  match case with
  | .obj fields => (Dict.getD fields "evidence" .null).truthy
  | _ => false

def validateEndToEnd : Except Exn (List Text) := do
  let state := Dict.getD report "state" .null
  let stated := errorIf (!(state.eq (.str "ACCURACY_PASS") || state.eq (.str "ACCURACY_FAIL")))
    "end-to-end report must state ACCURACY_PASS or ACCURACY_FAIL"
  let cases := (Dict.getD report "cases" .null).or (.arr [])
  let none := errorIf (!cases.truthy) "end-to-end report requires case-level evidence"
  let composition := errorIf (!(Dict.getD report "composition" .null).eq (.str "integrated_serving_path"))
    "end-to-end evidence must use the integrated serving path"
  let reference ← (Dict.getD report "reference_provenance" (.obj [])).field "device"
  let candidate ← (Dict.getD report "candidate" (.obj [])).field "device"
  let independent := errorIf (reference.eq candidate) "end-to-end reference must be independent of candidate device"
  let each := (← cases.elements).flatMap fun case =>
    errorIf (!evidenced case) "each end-to-end case must carry evidence"
  return stated ++ none ++ composition ++ independent ++ each

/-- The gate of a long-context report that states a pass. -/
def longContextGate : Except Exn (List Text) := do
  let ceiling := Dict.getD report "max_relative_l2" (.float (.fin 0))
  return errorIf (← (Dict.getD report "relative_l2" (.float (.fin 1))).gt ceiling)
    "long-context pass exceeds its declared relative-L2 gate"

def validateLongContext (host : Host) : Except Exn (List Text) := do
  let geometry := (Dict.getD report "geometry" .null).or (.obj [])
  let length ← Json.toInt host ((← geometry.get "context_len").getD (.int 0))
  let size ← Json.toInt host ((← geometry.get "block_size").getD (.int 0))
  let count ← Json.toInt host ((← geometry.get "topk").getD (.int 0))
  let crossed := errorIf (length ≤ size * count) "long-context test must cross block_size * topk"
  let selected := errorIf (!(Dict.getD report "selected_blocks" .null).truthy)
    "long-context report must record selected blocks"
  let path := errorIf (!(Dict.getD report "path" .null).eq (.str "sparse"))
    "long-context report must prove the sparse path was exercised"
  let gate ← ofPass report (longContextGate report)
  return crossed ++ selected ++ path ++ gate

end Report

/-! ## What an accepted report shows -/

variable {report : Dict}

/-- What a float is not below of is a number. -/
theorem within_float {value : Json} {ceiling : Double} (held : value.gt (.float ceiling) = .ok false) :
    ∃ x, value.num? = some x ∧ ceiling.below x = false := by
  cases number : value.num? with
  | none =>
    obtain ⟨e, raised⟩ := MemoryBudget.gt_mixed (a := value) (b := .float ceiling) (by rw [number]; exact Bool.false_ne_true)
    cases raised.symm.trans held
  | some x =>
    obtain ⟨y, same, held⟩ := (MemoryBudget.gt_number number _).mp held
    cases same
    exact ⟨x, rfl, held⟩

/-- A kernel grade that is accepted as a pass under a ceiling. -/
structure KernelPass (report : Dict) (ceiling : Double) : Prop where
  control : (Dict.getD report "control_discriminates" .null).isTrue = true
  shapes : (Dict.getD report "shape_candidate" .null).eq (Dict.getD report "shape_reference" .null) = true
  within : ∃ x, (Dict.getD report "relative_l2" (.float (.fin 1))).num? = some x ∧ ceiling.below x = false

theorem kernelGate_nil {ceiling : Double} (bound : Dict.getD report "max_relative_l2" .null = .float ceiling)
    (silent : kernelGate report = .ok []) :
    ∃ x, (Dict.getD report "relative_l2" (.float (.fin 1))).num? = some x ∧ ceiling.below x = false := by
  simp only [kernelGate, bound, bind_ok, pure_ok, errorIf_iff_nil] at silent
  obtain ⟨_, held, rfl⟩ := silent
  exact within_float held

theorem kernelGrade_pass {ceiling : Double} (bound : Dict.getD report "max_relative_l2" .null = .float ceiling)
    (passing : (Dict.getD report "state" .null).eq (.str "PASS") = true) (valid : validateKernelGrade report = .ok []) :
    KernelPass report ceiling := by
  simp only [validateKernelGrade, ofPass, passing, if_true, bind_ok, pure_ok, List.append_eq_nil_iff,
    errorIf_iff_nil, Bool.not_eq_false'] at valid
  obtain ⟨_, -, _, -, _, -, _, gate, ⟨⟨⟨⟨-, shapes⟩, -⟩, -⟩, control⟩, rfl⟩ := valid
  exact ⟨control, shapes, kernelGate_nil bound gate⟩

/-- What a valid end-to-end report shows. -/
structure EndToEndValid (report : Dict) : Prop where
  cases' : ∃ cases, ((Dict.getD report "cases" .null).or (.arr [])).elements = .ok cases ∧
    ((Dict.getD report "cases" .null).or (.arr [])).truthy = true ∧ ∀ case ∈ cases, evidenced case = true
  independent : ∃ reference candidate, (Dict.getD report "reference_provenance" (.obj [])).field "device" = .ok reference ∧
    (Dict.getD report "candidate" (.obj [])).field "device" = .ok candidate ∧ reference.eq candidate = false

theorem endToEnd_valid (valid : validateEndToEnd report = .ok []) : EndToEndValid report := by
  simp only [validateEndToEnd, bind_ok, pure_ok, List.append_eq_nil_iff, errorIf_iff_nil, Bool.not_eq_false',
    List.flatMap_eq_nil_iff] at valid
  obtain ⟨reference, named, candidate, other, cases, listed, ⟨⟨⟨-, some'⟩, -⟩, independent⟩, each⟩ := valid
  exact ⟨⟨cases, listed, some', each⟩, reference, candidate, named, other, independent⟩

/-- A long-context report that is accepted as a pass under a ceiling. -/
structure LongContextPass (report : Dict) (ceiling : Double) : Prop where
  selected : (Dict.getD report "selected_blocks" .null).truthy = true
  within : ∃ x, (Dict.getD report "relative_l2" (.float (.fin 1))).num? = some x ∧ ceiling.below x = false

theorem longContext_pass {host : Host} {ceiling : Double}
    (bound : Dict.getD report "max_relative_l2" (.float (.fin 0)) = .float ceiling)
    (passing : (Dict.getD report "state" .null).eq (.str "PASS") = true) (valid : validateLongContext report host = .ok []) :
    LongContextPass report ceiling := by
  simp only [validateLongContext, longContextGate, bound, ofPass, passing, if_true, bind_ok, pure_ok,
    List.append_eq_nil_iff, errorIf_iff_nil, Bool.not_eq_false'] at valid
  obtain ⟨_, -, _, -, _, -, _, -, _, -, _, -, _, ⟨_, held, gate⟩, ⟨⟨-, selected⟩, -⟩, rfl⟩ := valid
  obtain rfl := errorIf_iff_nil.mp gate
  exact ⟨selected, within_float held⟩

end Correctness
end InferForge

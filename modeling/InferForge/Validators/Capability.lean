import InferForge.Validators.Scan
import InferForge.Py.Template

/-! Acceptance check of a capability match. -/
namespace InferForge
open Py ResultValidation Effect

namespace Py.Json

/-- Members of one set are the same if they are equal, or both the `NaN` that the decoder returns. -/
def alike : Json → Json → Bool
  | .float .nan, .float .nan => true
  | a, b => a.eq b

/-- The elements of `set(value)`. -/
def toSet (value : Json) : Except Exn (List Json) := do
  let items ← value.elements
  if items.all hashable then return items else throw (.type "unhashable type")

/-- Equality of sets. -/
def sameSet (xs ys : List Json) : Bool :=
  (xs.all fun x => ys.any x.alike) && ys.all fun y => xs.any y.alike

theorem alike_self {value : Json} (member : value.hashable = true) : value.alike value = true := by
  cases value with
  | null => rfl
  | bool b => cases b <;> rfl
  | int n => simp [alike, eq, num?, Double.eq]
  | float x => cases x <;> simp [alike, eq, num?, Double.eq]
  | str t => exact (eq_str_left t _).mpr rfl
  | arr _ | obj _ => cases member

theorem sameSet_self {xs : List Json} (members : ∀ x ∈ xs, x.hashable = true) : sameSet xs xs = true := by
  have each : ∀ x ∈ xs, (xs.any x.alike) = true := fun x listed =>
    List.any_eq_true.mpr ⟨x, listed, alike_self (members x listed)⟩
  rw [sameSet, Bool.and_eq_true, List.all_eq_true]
  exact ⟨each, each⟩

end Py.Json

namespace Capability

def axisVerdicts : List Text := ["PROVIDED", "PROVIDED_MODULE_ONLY", "NOT_PROVIDED", "NOT_REQUIRED", "UNKNOWN"]

/-- `OVERALL`. -/
def overallVerdicts : List Text := ["MATCHED", "MATCHED_WITH_UNKNOWNS", "MISMATCH"]

/-- `EVIDENCE`. -/
def evidenceGrades : List Text := ["REGISTRY", "MODULE", "ABSENT", "N/A"]

/-- Wording that would turn a static match into a support claim. -/
def bannedClaims : List Text := ["supported", "works", "verified", "ready"]

/-- `{axis["axis"] for axis in axes if axis.get("verdict") == wanted}`. -/
def namesOf (wanted : Text) : List Dict → Except Exn (List Json)
  | [] => .ok []
  | axis :: rest =>
      if (Dict.getD axis "verdict" .null).eq (.str wanted) then do
        let name ← Json.item (.obj axis) "axis"
        if !name.hashable then throw (.type "unhashable type")
        return name :: (← namesOf wanted rest)
      else namesOf wanted rest

section Checks
variable (host : Host)

def axisErrors (axis : Dict) : Except Exn (List Text) := do
  let name := host.str (Dict.getD axis "axis" (.str "?"))
  let verdict := Dict.getD axis "verdict" .null
  let evidence := Dict.getD axis "evidence" .null
  let known := errorIf (!(← verdict.among axisVerdicts)) (name ++ ": unknown verdict " ++ host.repr verdict)
  let graded := errorIf (!(← evidence.among evidenceGrades))
    (name ++ ": evidence must be graded, got " ++ host.repr evidence)
  return known ++ graded ++
    errorIf (verdict.eq (.str "PROVIDED") && !evidence.eq (.str "REGISTRY"))
      (name ++ ": PROVIDED requires registry evidence; a module on disk only supports " ++
        "PROVIDED_MODULE_ONLY") ++
    errorIf (verdict.eq (.str "NOT_PROVIDED") && !evidence.eq (.str "ABSENT"))
      (name ++ ": NOT_PROVIDED must be backed by absent evidence")

/-- The check that `require_graded_evidence` asks for. -/
def ungraded (axis : Dict) : Bool :=
  (Dict.getD axis "evidence" .null).eq (.str "N/A") &&
    !((Dict.getD axis "verdict" .null).eq (.str "NOT_REQUIRED") || (Dict.getD axis "verdict" .null).eq (.str "UNKNOWN"))

-- What an f-string shows of `sorted(names)`.
variable (sorted : List Json → Except Exn Text)

/-- The overall verdict against the axes that block, and the ones that are not known. -/
def overallErrors (verdict : Json) (blocking unknown : List Json) : Except Exn (List Text) := do
  let mismatch ← (if !blocking.isEmpty && !verdict.eq (.str "MISMATCH") then do
      return [(← sorted blocking) ++ " are NOT_PROVIDED but the overall verdict is " ++ host.repr verdict]
    else .ok [])
  let hidden ← (if blocking.isEmpty && !unknown.isEmpty && !verdict.eq (.str "MATCHED_WITH_UNKNOWNS") then do
      return [(← sorted unknown) ++ " were not introspected, so MATCHED would hide an open question"]
    else .ok [])
  return mismatch ++ hidden

def validateCapabilityMatch (found contract : Dict) : Except Exn (List Text) := do
  let state := errorIf (!(Dict.getD found "state" .null).eq (.str "MATCH_READY"))
    ("state is " ++ host.repr (Dict.getD found "state" .null) ++ ", not MATCH_READY")
  let unverified := errorIf (!(Dict.getD found "runtime_verified" .null).isFalse)
    ("runtime_verified must be present and false: this Task executes nothing, so it cannot " ++
      "claim a runtime result" : Text)
  let pod := errorIf (!(Dict.getD found "matched_in" .null).truthy)
    "matched_in must record the pod whose installation was inspected"
  let verdict := Dict.getD found "verdict" .null
  let known := errorIf (!(← verdict.among overallVerdicts)) ("unknown overall verdict " ++ host.repr verdict)
  let claim := errorIf (bannedClaims.any fun claim => (Text.lower (host.str verdict)).holds claim)
    ("verdict " ++ host.repr verdict ++ " reads as a support claim")
  let value := (Dict.getD found "axes" .null).or (.arr [])
  let empty := errorIf (!value.truthy) "no capability axis was matched"
  let items ← value.elements
  let each ← eachErrors (axisErrors host) items
  let axes ← items.mapM asMapping
  let blocking ← namesOf "NOT_PROVIDED" axes
  let unknown ← namesOf "UNKNOWN" axes
  let blocked := errorIf (!Json.sameSet (← ((Dict.getD found "blocking_axes" .null).or (.arr [])).toSet) blocking)
    "blocking_axes disagrees with the per-axis verdicts"
  let asked := errorIf (!Json.sameSet (← ((Dict.getD found "unknown_axes" .null).or (.arr [])).toSet) unknown)
    "unknown_axes disagrees with the per-axis verdicts"
  let overall ← overallErrors host sorted verdict blocking unknown
  let checks ← subsection (.obj contract) "checks"
  let evidence := errorIf ((Dict.getD checks "require_graded_evidence" .null).truthy && axes.any ungraded)
    "an axis claims a result without evidence"
  let acceptance ← subsection (.obj contract) "acceptance"
  let inventory := errorIf ((Dict.getD acceptance "evidence_required" .null).truthy &&
      !(Dict.getD found "provided" .null).truthy)
    "the installation's provided-capability inventory must be recorded"
  return state ++ unverified ++ pod ++ known ++ claim ++ empty ++ each ++ blocked ++ asked ++ overall ++
    evidence ++ inventory

end Checks

/-! ## What is accepted -/

section Accepted
variable {host : Host} {sorted : List Json → Except Exn Text}

theorem axisErrors_verdict {axis : Dict} (accepted : axisErrors host axis = .ok []) :
    ∃ name ∈ axisVerdicts, Dict.getD axis "verdict" .null = .str name := by
  simp only [axisErrors, bind_ok, pure_ok, List.append_eq_nil_iff, errorIf_iff_nil, Bool.not_eq_false'] at accepted
  obtain ⟨known, listed, _, _, ⟨⟨rfl, _⟩, _⟩, _⟩ := accepted
  exact Json.among_listed listed

/-- Every axis of the wanted verdict has a name that can be in a set. -/
theorem namesOf_ok {wanted : Text} {axes : List Dict} {names : List Json} (read : namesOf wanted axes = .ok names) :
    ∀ axis ∈ axes, Dict.getD axis "verdict" .null = .str wanted →
      ∃ name, Dict.get? axis "axis" = some name ∧ name.hashable = true := by
  induction axes generalizing names with
  | nil => nofun
  | cons axis rest ih =>
    rw [namesOf] at read
    split at read
    · simp only [bind_ok] at read
      obtain ⟨name, found, here⟩ := read
      have listed : Dict.get? axis "axis" = some name := by
        unfold Json.item at found
        dsimp only at found
        cases there : Dict.get? axis "axis" with
        | none =>
          rw [there] at found
          cases found
        | some value =>
          rw [there] at found
          exact congrArg some (Except.ok.inj found)
      cases member : name.hashable with
      | false => simp [member] at here
      | true =>
        simp only [member, Bool.not_true, Bool.false_eq_true, if_false, bind_ok, pure_ok] at here
        obtain ⟨others, tail, _⟩ := here
        exact List.forall_mem_cons.mpr ⟨fun _ => ⟨name, listed, member⟩, ih tail⟩
    · next other =>
      refine List.forall_mem_cons.mpr ⟨fun same => ?_, ih read⟩
      exact absurd ((Json.eq_str_right _ _).mpr same) other

/-- What an accepted match says. -/
structure Matched (found : Dict) (axes : List Dict) : Prop where
  listed : Dict.getD found "axes" .null = .arr (axes.map .obj)
  pod : (Dict.getD found "matched_in" .null).truthy = true
  verdict : ∃ name ∈ overallVerdicts, Dict.getD found "verdict" .null = .str name
  verdicts : ∀ axis ∈ axes, ∃ name ∈ axisVerdicts, Dict.getD axis "verdict" .null = .str name
  named : ∀ axis ∈ axes, Dict.getD axis "verdict" .null = .str "NOT_PROVIDED" ∨
    Dict.getD axis "verdict" .null = .str "UNKNOWN" →
      ∃ name, Dict.get? axis "axis" = some name ∧ name.hashable = true

theorem validateCapabilityMatch_nil {found contract : Dict}
    (accepted : validateCapabilityMatch host sorted found contract = .ok []) : ∃ axes, Matched found axes := by
  simp only [validateCapabilityMatch, bind_ok, pure_ok, List.append_eq_nil_iff, errorIf_iff_nil,
    Bool.not_eq_false'] at accepted
  obtain ⟨known, listed, items, visited, each, checked, axes, mapped, blocking, blocked, unknown, asked, _, _, _, _, _,
    _, _, _, _, _, accepted⟩ := accepted
  obtain ⟨⟨⟨⟨⟨⟨⟨⟨⟨⟨⟨_, _⟩, pod⟩, rfl⟩, _⟩, filled⟩, rfl⟩, _⟩, _⟩, _⟩, _⟩, _⟩ := accepted
  obtain ⟨axes', rfl, sound⟩ := eachErrors_nil checked
  obtain rfl := Except.ok.inj ((mapM_asMapping axes').symm.trans mapped)
  obtain ⟨value, some'⟩ := elements_objects filled visited
  refine ⟨axes', ?_, pod, Json.among_listed listed, fun axis member => axisErrors_verdict (sound axis member), ?_⟩
  · unfold Json.or at value
    split at value
    · exact value
    · cases axes' with
      | nil => exact absurd rfl some'
      | cons => cases value
  · rintro axis member (missing | open')
    · exact namesOf_ok blocked axis member missing
    · exact namesOf_ok asked axis member open'

end Accepted

end Capability
end InferForge

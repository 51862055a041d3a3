import InferForge.Validators.Bringup
import InferForge.Coerce

/-! Acceptance check of a model support card. -/
namespace InferForge
open Py ResultValidation Effect

namespace ModelScan

def verdicts : List Text :=
  ["KUNLUN_OOT", "UPSTREAM_GENERIC", "UPSTREAM_VENDORED_VARIANT", "MAIN_ONLY", "PR_PENDING", "ABSENT",
    "UNKNOWN_UPSTREAM"]

/-- An `ABSENT` verdict is only credible when both upstream lookups ran. -/
def absentEvidence : List (Text × Text) := [("main_lookup", "NOT_FOUND"), ("pr_lookup", "NOT_FOUND")]

section Entry
variable (host : Host) (arch : Text) (entry : Dict)

def absentErrors : List Text :=
  absentEvidence.flatMap fun (key, expected) =>
    errorIf (!(Dict.getD entry key .null).eq (.str expected))
      (arch ++ ": ABSENT claimed while " ++ key ++ "=" ++ host.repr (Dict.getD entry key .null) ++
        "; an unreachable upstream must stay UNKNOWN_UPSTREAM")

def genericErrors : Except Exn (List Text) := do
  let known := errorIf (!(Dict.getD entry "in_installed_vllm" .null).truthy)
    (arch ++ ": UPSTREAM_GENERIC claimed but the installed vLLM does not know it")
  let variant ← subsection (.obj entry) "backend_variant"
  return known ++
    errorIf ((Dict.getD variant "vendored_per_backend" .null).isTrue &&
        (Dict.getD variant "variant_is_runnable_here" .null).isFalse)
      (arch ++ ": UPSTREAM_GENERIC claimed while the selected variant " ++
        host.repr (Dict.getD variant "selected_variant" .null) ++ " has unmet hard dependencies; that is " ++
        "UPSTREAM_VENDORED_VARIANT, and calling it generic sends the flow to deployment")

def vendoredErrors : Except Exn (List Text) := do
  let variant ← subsection (.obj entry) "backend_variant"
  let named := errorIf (!(Dict.getD variant "selected_variant" .null).truthy)
    (arch ++ ": this verdict must name the variant that was selected")
  let several := errorIf ((← ((Dict.getD variant "backend_variants_present" .null).or (.arr [])).len) < 2)
    (arch ++ ": vendoring means more than one variant exists; one is just an implementation")
  let dependencies ← subsection (.obj variant) "variant_hard_dependencies"
  let listed := errorIf (!((Dict.getD dependencies "unimportable_modules" .null).truthy ||
      (Dict.getD dependencies "unregistered_custom_ops" .null).truthy))
    (arch ++ ": this verdict must list the dependencies that are missing, or the next " ++
      "Task has nothing to act on")
  return named ++ several ++ listed

end Entry

section Card
variable (host : Host)

/-- The checks of one result, in the order of the verdicts they are about. -/
def entryErrors (entry : Dict) : Except Exn (List Text) := do
  let arch := host.str (Dict.getD entry "architecture" (.str "?"))
  let verdict := Dict.getD entry "verdict" .null
  if !(← verdict.among verdicts) then
    return [arch ++ ": unknown verdict " ++ host.repr verdict]
  let meaning := errorIf (!(Dict.getD entry "meaning" .null).truthy)
    (arch ++ ": a verdict without its meaning invites the wrong next action")
  let absent := if verdict.eq (.str "ABSENT") then absentErrors host arch entry else []
  let pending := errorIf (verdict.eq (.str "PR_PENDING") && !(Dict.getD entry "pull_requests" .null).truthy)
    (arch ++ ": PR_PENDING must cite the pull requests it found")
  let oot := errorIf (verdict.eq (.str "KUNLUN_OOT") && !(Dict.getD entry "in_kunlun_oot" .null).truthy)
    (arch ++ ": KUNLUN_OOT claimed but the installed registry does not list it")
  let generic ← (if verdict.eq (.str "UPSTREAM_GENERIC") then genericErrors host arch entry else .ok [])
  let vendored ← (if verdict.eq (.str "UPSTREAM_VENDORED_VARIANT") then vendoredErrors arch entry else .ok [])
  return meaning ++ absent ++ pending ++ oot ++ generic ++ vendored

/-- The check that `require_installed_registry_evidence` asks for. -/
def registryErrors (entry : Dict) : List Text :=
  errorIf (!(Dict.getD entry "kunlun_oot_archs" .null).isList)
    (host.str (Dict.getD entry "architecture" (.str "?")) ++ ": the installed OOT registry contents must be " ++
      "recorded, not summarised")

def evidenceErrors (acceptance : Dict) (items : List Json) : Except Exn (List Text) :=
  if (Dict.getD acceptance "require_installed_registry_evidence" .null).truthy then do
    return (← items.mapM asMapping).flatMap (registryErrors host)
  else .ok []

def validateSupportCard (scan contract : Dict) : Except Exn (List Text) := do
  let state := errorIf (!(Dict.getD scan "state" .null).eq (.str "SCAN_READY"))
    ("scan state is " ++ host.repr (Dict.getD scan "state" .null) ++ ", not SCAN_READY")
  let pod := errorIf (!(Dict.getD scan "scanned_in" .null).truthy)
    "scanned_in must record the pod: a scan of an unnamed runtime is not evidence"
  let results := (Dict.getD scan "results" .null).or (.arr [])
  let empty := errorIf (!results.truthy) "no architecture was classified"
  let items ← results.elements
  let each ← eachErrors (entryErrors host) items
  let acceptance ← subsection (.obj contract) "acceptance"
  let evidence ← evidenceErrors host acceptance items
  return state ++ pod ++ empty ++ each ++ evidence

end Card

/-! ## What is accepted -/

variable {host : Host}

theorem validateSupportCard_nil {scan contract : Dict}
    (accepted : validateSupportCard host scan contract = .ok []) :
    ∃ entries : List Dict, Dict.getD scan "results" .null = .arr (entries.map .obj) ∧ entries ≠ [] ∧
      ∀ entry ∈ entries, entryErrors host entry = .ok [] := by
  simp only [validateSupportCard, bind_ok, pure_ok, List.append_eq_nil_iff] at accepted
  obtain ⟨items, visited, each, checked, _, _, _, _, ⟨⟨⟨_, _⟩, filled⟩, rfl⟩, _⟩ := accepted
  obtain ⟨entries, rfl, sound⟩ := eachErrors_nil checked
  have nonempty := errorIf_nil filled
  rw [Bool.not_eq_false'] at nonempty
  obtain ⟨same, some'⟩ := elements_objects nonempty visited
  refine ⟨entries, ?_, some', sound⟩
  unfold Json.or at same
  split at same
  · exact same
  · cases entries with
    | nil => exact absurd rfl some'
    | cons => cases same

/-- An accepted card is that of a scan in a named Pod. -/
theorem validateSupportCard_named {scan contract : Dict}
    (accepted : validateSupportCard host scan contract = .ok []) :
    Dict.getD scan "state" .null = .str "SCAN_READY" ∧ (Dict.getD scan "scanned_in" .null).truthy = true := by
  simp only [validateSupportCard, bind_ok, pure_ok, List.append_eq_nil_iff, errorIf_iff_nil,
    Bool.not_eq_false'] at accepted
  obtain ⟨_, _, _, _, _, _, _, _, ⟨⟨⟨state, pod⟩, _⟩, _⟩, _⟩ := accepted
  exact ⟨(Json.eq_str_right _ _).mp state, pod⟩

theorem entryErrors_verdict {entry : Dict} (accepted : entryErrors host entry = .ok []) :
    ∃ name ∈ verdicts, Dict.getD entry "verdict" .null = .str name := by
  simp only [entryErrors, bind_ok] at accepted
  obtain ⟨known, among, rest⟩ := accepted
  cases known with
  | false => simp at rest
  | true =>
    exact Json.among_listed among

/-! ## What each verdict needs -/

section Named
variable {entry variant dependencies : Dict} {arch name : Text}

theorem eq_name (name other : Text) : (Json.str name).eq (.str other) = decide (name = other) := by
  rw [Bool.eq_iff_iff, Json.eq_str_left, decide_eq_true_eq, Json.str.injEq, eq_comm]

/-- What every result of a scan holds, whatever its verdict is. -/
structure Concluded (entry : Dict) (arch name : Text) : Prop where
  judged : Dict.getD entry "verdict" .null = .str name
  called : Dict.getD entry "architecture" (.str "?") = .str arch
  listed : (Dict.getD entry "kunlun_oot_archs" .null).isList = true
  explained : (Dict.getD entry "meaning" .null).truthy = true

theorem entryErrors_iff (concluded : Concluded entry arch name) (known : name ∈ verdicts) :
    entryErrors host entry = .ok [] ↔
      (name = "ABSENT" → absentErrors host arch entry = []) ∧
      (name = "PR_PENDING" → (Dict.getD entry "pull_requests" .null).truthy = true) ∧
      (name = "KUNLUN_OOT" → (Dict.getD entry "in_kunlun_oot" .null).truthy = true) ∧
      (name = "UPSTREAM_GENERIC" → genericErrors host arch entry = .ok []) ∧
      (name = "UPSTREAM_VENDORED_VARIANT" → vendoredErrors arch entry = .ok []) := by
  obtain ⟨judged, called, _, explained⟩ := concluded
  have listed : (Json.str name).among verdicts = .ok true := by
    have found : (verdicts.any fun other => (Json.str name).eq (.str other)) = true :=
      List.any_eq_true.mpr ⟨name, known, (Json.eq_str_left _ _).mpr rfl⟩
    rw [← found]
    rfl
  have optional {condition : Prop} [Decidable condition] {errors : Except Exn (List Text)} :
      (if condition then errors else .ok []) = .ok [] ↔ (condition → errors = .ok []) := by
    split <;> simp [*]
  simp only [entryErrors, judged, called, Host.str, listed, ok_bind, Bool.not_true, Bool.false_eq_true, if_false, eq_name,
    decide_eq_true_eq, bind_ok, pure_ok, List.append_eq_nil_iff, errorIf_iff_nil, explained, Bool.and_eq_false_iff,
    decide_eq_false_iff_not, Bool.not_eq_false']
  constructor
  · rintro ⟨generic, accepted, vendored, accepted', ⟨⟨⟨⟨-, absent⟩, pending⟩, oot⟩, rfl⟩, rfl⟩
    refine ⟨fun here => ?_, fun here => ?_, fun here => ?_, optional.mp accepted, optional.mp accepted'⟩
    · rwa [if_pos here] at absent
    · exact pending.resolve_left (not_not_intro here)
    · exact oot.resolve_left (not_not_intro here)
  · rintro ⟨absent, pending, oot, generic, vendored⟩
    refine ⟨[], optional.mpr generic, [], optional.mpr vendored, ⟨⟨⟨⟨trivial, ?_⟩, ?_⟩, ?_⟩, rfl⟩, rfl⟩
    · split
      · next here => exact absent here
      · rfl
    · exact or_iff_not_imp_left.mpr fun here => pending (not_not.mp here)
    · exact or_iff_not_imp_left.mpr fun here => oot (not_not.mp here)

theorem genericErrors_iff (known : (Dict.getD entry "in_installed_vllm" .null).truthy = true)
    (inspected : Dict.getD entry "backend_variant" .null = .obj variant) :
    genericErrors host arch entry = .ok [] ↔
      ((Dict.getD variant "vendored_per_backend" .null).isTrue &&
        (Dict.getD variant "variant_is_runnable_here" .null).isFalse) = false := by
  simp only [genericErrors, subsection_obj inspected, known, ok_bind, pure_ok, List.append_eq_nil_iff, errorIf_iff_nil,
    Bool.not_true, true_and]

theorem vendoredErrors_iff {present : List Json}
    (inspected : Dict.getD entry "backend_variant" .null = .obj variant)
    (several : Dict.getD variant "backend_variants_present" .null = .arr present)
    (listed : Dict.getD variant "variant_hard_dependencies" .null = .obj dependencies) :
    vendoredErrors arch entry = .ok [] ↔
      (Dict.getD variant "selected_variant" .null).truthy = true ∧ 2 ≤ present.length ∧
        ((Dict.getD dependencies "unimportable_modules" .null).truthy ||
          (Dict.getD dependencies "unregistered_custom_ops" .null).truthy) = true := by
  have counted : ((Json.arr present).or (.arr [])).len = .ok present.length := by
    cases present <;> rfl
  simp only [vendoredErrors, subsection_obj inspected, subsection_obj listed, several, counted, ok_bind, pure_ok,
    List.append_eq_nil_iff, errorIf_iff_nil, Bool.not_eq_false', decide_eq_false_iff_not, not_lt, and_assoc]

end Named

end ModelScan
end InferForge

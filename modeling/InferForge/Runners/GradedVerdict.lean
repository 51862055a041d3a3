import InferForge.Graph.Nodes
import InferForge.Runners.Correctness

/-! What a pass of the correctness tasks was earned by, and what the graph reads of it. -/
namespace InferForge.Correctness
open Py Effect

section Earned
variable {host : Host} {ops : CorrectnessOps} {pod remote : Text} {out : Path} {names : List Text} {α : Type}

/-- A probe that exercised its kernel, tensors that came back, and a grade of them. -/
structure Graded (host : Host) (ops : CorrectnessOps) (probed : Except Exn Json) (pod remote : Text)
    (names : List Text) (out : Path) (maxRelativeL2 : Double) (probe grade : Dict) : Prop where
  probed : probed = .ok (.obj probe)
  exercised : ((Dict.getD probe "state" .null).eq (.str "EXERCISED_PASS") ||
    (Dict.getD probe "state" .null).eq (.str "EXERCISED_FAIL")) = true
  fetched : ∀ name ∈ names, ∃ result, ops.cat pod (remote ++ "/" ++ name) = .ok result ∧ result.stdout.blank = false
  graded : ∃ result, ops.runTool (gradeCommand host out maxRelativeL2) = .ok result ∧
    (result.returncode = 0 ∨ result.returncode = 6) ∧ gradePayload host ops result.stdout = .ok (.obj grade)

theorem fetchTensors_some {files : List (Text × Text)} (fetched : fetchTensors ops pod remote names = .ok (some files)) :
    List.Forall₂ (fun name file => file.1 = name ∧ file.2.blank = false ∧
      ∃ result, ops.cat pod (remote ++ "/" ++ name) = .ok result ∧ result.stdout = file.2) names files := by
  induction names generalizing files with
  | nil =>
    cases fetched
    exact .nil
  | cons name rest ih =>
    simp only [fetchTensors, bind_ok] at fetched
    obtain ⟨result, ran, fetched⟩ := fetched
    split at fetched
    · cases pure_ok.mp fetched
    · next solid =>
      obtain ⟨later, others, fetched⟩ := bind_ok.mp fetched
      cases later with
      | none => cases pure_ok.mp fetched
      | some later =>
        obtain rfl := Option.some.inj (pure_ok.mp fetched)
        exact .cons ⟨rfl, by simpa using solid, result, ran, rfl⟩ (ih others)

/-- A file that came back is found under its name. -/
theorem fetchTensors_lookup {files : List (Text × Text)} (distinct : names.Nodup)
    (fetched : fetchTensors ops pod remote names = .ok (some files)) {name : Text} (member : name ∈ names) :
    ∃ result, ops.cat pod (remote ++ "/" ++ name) = .ok result ∧ files.lookup name = some result.stdout := by
  have pairs := fetchTensors_some fetched
  have keys : files.map Prod.fst = names := by
    clear distinct fetched member
    induction pairs with
    | nil => rfl
    | cons here _ ih => rw [List.map_cons, here.1, ih]
  obtain ⟨file, listed, rfl, -, result, ran, same⟩ := forall₂_member pairs member
  exact ⟨result, ran, same ▸ (lookup_mem (keys ▸ distinct)).mpr listed⟩

theorem asMapping_ok {value : Json} {fields : Dict} (ok : asMapping value = .ok fields) : value = .obj fields := by
  cases value <;> cases ok
  rfl

theorem gradeWithTensorDiff_some {grade : Json}
    (ok : gradeWithTensorDiff host ops out maxRelativeL2 = .ok (some grade)) :
    ∃ result, ops.runTool (gradeCommand host out maxRelativeL2) = .ok result ∧
      (result.returncode = 0 ∨ result.returncode = 6) ∧ gradePayload host ops result.stdout = .ok grade := by
  simp only [gradeWithTensorDiff, bind_ok] at ok
  obtain ⟨result, ran, ok⟩ := ok
  split at ok
  · next accepted =>
    obtain ⟨payload, paid, ok⟩ := bind_ok.mp ok
    have given := pure_ok.mp ok
    split at given
    · cases given
    · exact ⟨result, ran, accepted, paid.trans (congrArg _ (Option.some.inj given))⟩
  · cases pure_ok.mp ok

theorem measure_graded {probed : Except Exn Json} {raised : Text} {read : List (Text × Text) → Except Exn α}
    {probe grade : Dict} {found : α}
    (ok : measure host ops probed raised pod remote names read out maxRelativeL2 = .ok (.graded probe found grade)) :
    Graded host ops probed pod remote names out maxRelativeL2 probe grade ∧
      ∃ files, fetchTensors ops pod remote names = .ok (some files) ∧ read files = .ok found := by
  simp only [measure, bind_ok] at ok
  obtain ⟨mapping, ⟨value, ran, mapped⟩, ok⟩ := ok
  obtain rfl := asMapping_ok mapped
  split at ok
  · cases pure_ok.mp ok
  · split at ok
    · cases pure_ok.mp ok
    · next exercised =>
      obtain ⟨files, fetched, ok⟩ := bind_ok.mp ok
      cases files with
      | none => cases pure_ok.mp ok
      | some files =>
        obtain ⟨here, reads, ok⟩ := bind_ok.mp ok
        obtain ⟨payload, paid, ok⟩ := bind_ok.mp ok
        cases payload with
        | none => cases pure_ok.mp ok
        | some payload =>
          obtain ⟨fields, mapped', ok⟩ := bind_ok.mp ok
          obtain rfl := asMapping_ok mapped'
          cases pure_ok.mp ok
          rw [Bool.not_eq_true, Bool.not_eq_false'] at exercised
          refine ⟨⟨ran, exercised, fun name member => ?_, gradeWithTensorDiff_some paid⟩, files, fetched, reads⟩
          obtain ⟨file, -, -, solid, result, ran, same⟩ := forall₂_member (fetchTensors_some fetched) member
          exact ⟨result, ran, same ▸ solid⟩

/-- No state of a task stands for two outcomes. -/
structure Verdicts.Apart (verdicts : Verdicts) : Prop where
  fail : verdicts.pass ≠ verdicts.fail
  ambiguous : verdicts.pass ≠ verdicts.ambiguous

theorem Verdicts.of_pass {verdicts : Verdicts} (apart : verdicts.Apart) (state : Json) :
    verdicts.of state = verdicts.pass ↔ state.eq (.str "PASS") = true := by
  unfold Verdicts.of
  split
  · next passed => simp [passed]
  · next other =>
    split
    · simp [other, apart.fail.symm]
    · simp [other, apart.ambiguous.symm]

theorem finish_state (verdicts : Verdicts) (status report : Dict) (errors : List Text) (earlier : List (Text × Json)) :
    Dict.getD (finish verdicts status report errors earlier).status "state" .null =
      .str (verdicts.of (Dict.getD (corrected report errors) "state" .null)) := by
  simp only [finish, Dict.getD, Dict.get?_set_same, Option.getD_some]

/-- Only a report that states a pass and is not objected to ends as one. -/
theorem finish_pass {verdicts : Verdicts} {status report : Dict} {errors : List Text} {earlier : List (Text × Json)}
    (apart : verdicts.Apart)
    (passed : Dict.getD (finish verdicts status report errors earlier).status "state" .null = .str verdicts.pass) :
    errors = [] ∧ (Dict.getD report "state" .null).eq (.str "PASS") = true := by
  rw [finish_state] at passed
  have stands := (Verdicts.of_pass apart _).mp (Json.str.inj passed)
  unfold corrected at stands
  split at stands
  · next none => exact ⟨List.isEmpty_iff.mp none, stands⟩
  · split at stands
    · simp only [Dict.getD, Dict.get?_set_same, Option.getD_some] at stands
      exact absurd stands (by decide)
    · next other =>
      have apart' : (Text.ofString "state") ≠ "validation_errors" := by decide
      rw [Dict.getD, Dict.get?_set_other _ _ apart', ← Dict.getD] at stands
      exact absurd stands other

/-- A report that ends a measurement early states no pass. -/
theorem measure_ended {probed : Except Exn Json} {raised : Text} {read : List (Text × Text) → Except Exn α}
    {report : Dict} (ok : measure host ops probed raised pod remote names read out maxRelativeL2 = .ok (.ended report)) :
    (Dict.getD report "state" .null).eq (.str "PASS") = false := by
  simp only [measure, bind_ok] at ok
  obtain ⟨probe, -, ok⟩ := ok
  split at ok
  · cases pure_ok.mp ok
    rfl
  · split at ok
    · cases pure_ok.mp ok
      rfl
    · obtain ⟨files, -, ok⟩ := bind_ok.mp ok
      cases files with
      | none =>
        cases pure_ok.mp ok
        rfl
      | some files =>
        obtain ⟨found, -, ok⟩ := bind_ok.mp ok
        obtain ⟨payload, -, ok⟩ := bind_ok.mp ok
        cases payload with
        | none =>
          cases pure_ok.mp ok
          rfl
        | some payload =>
          obtain ⟨fields, -, ok⟩ := bind_ok.mp ok
          cases pure_ok.mp ok

theorem gradeState_pass {grade : Dict} (passed : (Json.str (gradeState grade)).eq (.str "PASS") = true) :
    (Dict.getD grade "control_discriminates" .null).truthy = true ∧ (Dict.getD grade "pass" .null).truthy = true := by
  unfold gradeState at passed
  split at passed
  · exact absurd passed (by decide)
  · next control =>
    split at passed
    · next graded => exact ⟨by simpa using control, graded⟩
    · exact absurd passed (by decide)

/-- A grade that passes within its ceiling, with a control that could have failed. -/
structure GradedPass (grade : Dict) (ceiling : Double) : Prop where
  control : (Dict.getD grade "control_discriminates" .null).truthy = true
  pass : (Dict.getD grade "pass" .null).truthy = true
  within : ∃ x, (Dict.getD grade "relative_l2" .null).num? = some x ∧ ceiling.below x = false

/-- What a pass of each mode takes. -/
inductive EarnedBy (host : Host) (ops : CorrectnessOps) (pod : Text) (out : Path) : Mode → Prop where
  | kernel {ceiling : Double} {probe grade : Dict}
      (graded : Graded host ops (kernelProbe host ops pod) pod "/tmp/kdp-mat021" tensorNames out ceiling probe
        grade)
      (passed : GradedPass grade ceiling) (control : (Dict.getD grade "control_discriminates" .null).isTrue = true)
      (shapes : (Dict.getD grade "shape_candidate" .null).eq (Dict.getD grade "shape_reference" .null) = true) :
      EarnedBy host ops pod out (.kernel ceiling)
  | longContext {geometry : Geometry} {ceiling : Double} {probe grade : Dict} {selected : Json}
      (crossed : geometry.boundary < geometry.contextLen)
      (graded : Graded host ops (longContextProbe host ops pod geometry ceiling) pod "/tmp/kdp-mat023"
        (tensorNames ++ [Text.ofString "selected_blocks.json"]) out ceiling probe grade)
      (passed : GradedPass grade ceiling) (selects : selected.truthy = true)
      (read : ∃ result, ops.cat pod "/tmp/kdp-mat023/selected_blocks.json" = .ok result ∧
        parse host result.stdout = .ok selected) :
      EarnedBy host ops pod out (.longContext geometry ceiling)
  | endToEnd {serving : Serving} {request : Path} {result : Completed} {report child validator : Dict} {cases : List Json}
      (requested : serving.modelRequest = some request)
      (ran : ops.runTool (differentialCommand pod out serving request) = .ok result) (returned : result.returncode = 0)
      (left : childOutput host ops = .ok (.obj report, .obj child))
      (reported : (Dict.getD report "status" .null).eq (.str "ACCURACY_PASS") = true)
      (stated : (Dict.getD child "state" .null).eq (.str "ACCURACY_PASS") = true)
      (validated : Dict.getD child "validator" .null = .obj validator ∧
        (Dict.getD validator "passed" .null).isTrue = true ∧ (Dict.getD validator "errors" .null).truthy = false)
      (listed : ((Dict.getD report "cases" .null).or (.arr [])).elements = .ok cases)
      (evident : cases ≠ [] ∧ ∀ case ∈ cases, case.truthy = true)
      (independent : ∃ reference, (Dict.getD report "reference" .null).or (.obj []) = .obj reference ∧
        (Dict.getD reference "device" (.str "cpu")).eq (.str "kunlun-p800") = false) :
      EarnedBy host ops pod out (.endToEnd serving)

theorem kernelVerdicts_apart : kernelVerdicts.Apart := ⟨by decide, by decide⟩

theorem longContextVerdicts_apart : longContextVerdicts.Apart := ⟨by decide, by decide⟩

theorem kernel_earned (ok : runKernelGrade host ops pod out ceiling = .ok ended)
    (passed : Dict.getD ended.status "state" .null = .str "KERNEL_PASS") : EarnedBy host ops pod out (.kernel ceiling) := by
  simp only [runKernelGrade, bind_ok] at ok
  obtain ⟨measured, met, ok⟩ := ok
  cases measured with
  | ended report =>
    obtain rfl := pure_ok.mp ok
    have stands := (finish_pass kernelVerdicts_apart passed).2
    rw [measure_ended met] at stands
    cases stands
  | graded probe found grade =>
    obtain ⟨errors, valid, ok⟩ := bind_ok.mp ok
    obtain rfl := pure_ok.mp ok
    obtain ⟨rfl, stands⟩ := finish_pass kernelVerdicts_apart passed
    obtain ⟨graded, -⟩ := measure_graded met
    have accepted : KernelPass (kernelReport ceiling probe grade) ceiling := kernelGrade_pass rfl stands valid
    obtain ⟨control, passes⟩ := gradeState_pass stands
    exact .kernel graded ⟨control, passes, accepted.within⟩ accepted.control accepted.shapes

theorem longContext_earned (ok : runLongContext host ops pod out geometry ceiling = .ok ended)
    (passed : Dict.getD ended.status "state" .null = .str "LONG_CONTEXT_PASS") :
    EarnedBy host ops pod out (.longContext geometry ceiling) := by
  unfold runLongContext at ok
  split at ok
  · obtain rfl := pure_ok.mp ok
    cases passed
  · next crossed =>
    obtain ⟨measured, met, ok⟩ := bind_ok.mp ok
    cases measured with
    | ended report =>
      obtain rfl := pure_ok.mp ok
      have stands := (finish_pass longContextVerdicts_apart passed).2
      rw [measure_ended met] at stands
      cases stands
    | graded probe selected grade =>
      obtain ⟨errors, valid, ok⟩ := bind_ok.mp ok
      obtain rfl := pure_ok.mp ok
      obtain ⟨rfl, stands⟩ := finish_pass longContextVerdicts_apart passed
      obtain ⟨graded, files, fetched, read⟩ := measure_graded met
      have accepted : LongContextPass (longContextReport geometry ceiling probe selected grade) ceiling :=
        longContext_pass rfl stands valid
      obtain ⟨control, passes⟩ := gradeState_pass stands
      have listed : Text.ofString "selected_blocks.json" ∈ tensorNames ++ [Text.ofString "selected_blocks.json"] := by decide
      obtain ⟨result, ran, here⟩ := fetchTensors_lookup (by decide) fetched listed
      rw [here] at read
      exact .longContext (not_le.mp crossed) graded ⟨control, passes, accepted.within⟩ accepted.selected
        ⟨result, ran, read⟩

theorem childAgrees_true {report child : Dict} (agrees : childAgrees report child returncode = .ok true) :
    (Dict.getD report "status" .null).eq (Dict.getD child "state" .null) = true ∧
      (∃ validator, Dict.getD child "validator" .null = .obj validator ∧
        (Dict.getD validator "passed" .null).isTrue = true ∧ (Dict.getD validator "errors" .null).truthy = false) ∧
      returncode = if (Dict.getD child "state" .null).eq (.str "ACCURACY_PASS") then 0 else 6 := by
  simp only [childAgrees, bind_ok, pure_ok, Bool.and_eq_true, beq_iff_eq] at agrees
  obtain ⟨known, -, ⟨⟨-, same⟩, validated⟩, returned⟩ := agrees
  refine ⟨same, ?_, returned⟩
  split at validated
  · next validator found =>
    rw [Bool.and_eq_true, Bool.not_eq_true'] at validated
    exact ⟨validator, found, validated⟩
  · cases validated

/-- An update leaves the keys it does not have. -/
theorem get?_merge_other (base : Dict) {update : Dict} {key : Text} (other : key ∉ update.keys) :
    Dict.get? (Dict.merge base update) key = Dict.get? base key := by
  induction update generalizing base with
  | nil => rfl
  | cons field rest ih =>
    obtain ⟨first, later⟩ := not_or.mp (mt List.mem_cons.mpr other)
    exact (ih (Dict.set base field.1 field.2) later).trans (Dict.get?_set_other base field.2 first)

theorem get?_merge_first (base : Dict) {update : Dict} {key : Text} {value : Json} (other : key ∉ update.keys) :
    Dict.get? (Dict.merge base ((key, value) :: update)) key = some value :=
  (get?_merge_other (Dict.set base key value) other).trans (Dict.get?_set_same base key value)

/-- Every case that is packaged carries the evidence it is. -/
theorem caseEvidence_evidenced {cases packaged : List Json} (each : cases.mapM caseEvidence = .ok packaged)
    (evident : ∀ case ∈ packaged, evidenced case = true) : ∀ case ∈ cases, case.truthy = true := by
  intro case member
  obtain ⟨entry, listed, made⟩ := forall₂_member (mapM_forall₂.mp each) member
  obtain ⟨prompt, -, rfl⟩ := by simpa only [caseEvidence, bind_ok, pure_ok] using made
  have shown := evident _ listed
  simpa [evidenced, Dict.getD] using shown

theorem early_state {status : Dict} (unstated : Dict.get? status "state" = none) (state reason : Text) (rest : Dict) :
    Dict.getD (early status state reason rest).status "state" .null = .str state := by
  have own : List.lookup (Text.ofString "state") status = none := unstated
  simp [early, Dict.getD, Dict.get?, List.lookup_append, own]

/-- The status that a packaged report ends with. -/
theorem conclude_state {status packaged : Dict} {errors : List Text} {state : Json}
    (other : (Text.ofString "state") ∉ packaged.keys) :
    Dict.getD (conclude status (("state", state) :: packaged) errors).status "state" .null =
      if errors.isEmpty then state else .str "CONTRACT_INVALID" := by
  have first : (Text.ofString "state") ≠ "validator" := by decide
  have second : (Text.ofString "state") ≠ "validation_errors" := by decide
  rw [conclude, Dict.getD, Dict.get?_set_other _ _ first]
  split
  · rw [get?_merge_first _ other, Option.getD_some]
  · rw [Dict.get?_set_other _ _ second, Dict.get?_set_same, Option.getD_some]

theorem endToEndReport_state {reference : Dict} {cases : List Json} {errors : List Text} :
    Dict.getD (conclude status (endToEndReport pod serving report reference cases) errors).status "state" .null =
      if errors.isEmpty then Dict.getD report "status" .null else .str "CONTRACT_INVALID" := by
  have fresh : Text.ofString "state" ∉ Dict.keys (endToEndReport pod serving report reference cases).tail := by
    change Text.ofString "state" ∉ (["composition", "subject", "revision", "reference_provenance", "candidate",
      "metric", "top1_agreement", "cases", "artifacts"] : List Text)
    decide
  exact conclude_state fresh

/-- The child's output is packaged, or the task ends early. -/
theorem packageChild_ok (ok : packageChild pod serving status report child returncode = .ok ended) :
    (∃ reason rest, ended = early status "CONTRACT_INVALID" reason rest) ∨
      ∃ reference cases packaged errors, childAgrees report child returncode = .ok true ∧
        (Dict.getD report "reference" .null).or (.obj []) = .obj reference ∧
        ((Dict.getD report "cases" .null).or (.arr [])).elements = .ok cases ∧ cases.mapM caseEvidence = .ok packaged ∧
        validateEndToEnd (endToEndReport pod serving report reference packaged) = .ok errors ∧
        ended = conclude status (endToEndReport pod serving report reference packaged) errors := by
  simp only [packageChild, bind_ok] at ok
  obtain ⟨agreed, agrees, ok⟩ := ok
  cases agreed with
  | false => exact .inl ⟨_, _, (pure_ok.mp ok).symm⟩
  | true =>
    obtain ⟨reference, mapped, ok⟩ := bind_ok.mp ok
    obtain ⟨cases, listed, ok⟩ := bind_ok.mp ok
    obtain ⟨packaged, each, ok⟩ := bind_ok.mp ok
    obtain ⟨errors, valid, ok⟩ := bind_ok.mp ok
    exact .inr ⟨reference, cases, packaged, errors, agrees, asMapping_ok mapped, listed, each, valid, (pure_ok.mp ok).symm⟩

/-- What the output of the child says of a pass. -/
structure ChildPass (report child : Dict) (returncode : Int) : Prop where
  returned : returncode = 0
  reported : (Dict.getD report "status" .null).eq (.str "ACCURACY_PASS") = true
  stated : (Dict.getD child "state" .null).eq (.str "ACCURACY_PASS") = true
  validated : ∃ validator, Dict.getD child "validator" .null = .obj validator ∧
    (Dict.getD validator "passed" .null).isTrue = true ∧ (Dict.getD validator "errors" .null).truthy = false
  evident : ∃ cases, ((Dict.getD report "cases" .null).or (.arr [])).elements = .ok cases ∧
    cases ≠ [] ∧ ∀ case ∈ cases, case.truthy = true
  independent : ∃ reference, (Dict.getD report "reference" .null).or (.obj []) = .obj reference ∧
    (Dict.getD reference "device" (.str "cpu")).eq (.str "kunlun-p800") = false

theorem packageChild_pass (ok : packageChild pod serving status report child returncode = .ok ended)
    (unstated : Dict.get? status "state" = none)
    (passed : Dict.getD ended.status "state" .null = .str "ACCURACY_PASS") : ChildPass report child returncode := by
  obtain ⟨reason, rest, rfl⟩ | ⟨reference, cases, packaged, errors, agrees, mapped, listed, each, valid, rfl⟩ :=
    packageChild_ok ok
  · rw [early_state unstated] at passed
    exact absurd (Json.str.inj passed) (by decide)
  · rw [endToEndReport_state] at passed
    split at passed
    · next silent =>
      obtain rfl := List.isEmpty_iff.mp silent
      obtain ⟨⟨entries, listed', some', evident⟩, device, candidate, named, other, independent⟩ := endToEnd_valid valid
      obtain ⟨same, validated, returned⟩ := childAgrees_true agrees
      rw [passed, Json.eq_str_left] at same
      rw [same] at returned
      have packed : Dict.getD (endToEndReport pod serving report reference packaged) "cases" .null = .arr packaged := rfl
      have whole : (Json.arr packaged).or (.arr []) = .arr packaged := by cases packaged <;> rfl
      rw [packed, whole] at listed' some'
      obtain rfl := Except.ok.inj listed'
      obtain rfl : Dict.getD reference "device" (.str "cpu") = device := Except.ok.inj named
      obtain rfl : Json.str "kunlun-p800" = candidate := Except.ok.inj other
      refine ⟨returned, by rw [passed]; rfl, by rw [same]; rfl, validated,
        ⟨cases, listed, ?_, caseEvidence_evidenced each evident⟩, reference, mapped, independent⟩
      rintro rfl
      obtain rfl := pure_ok.mp each
      cases some'
    · exact absurd (Json.str.inj passed) (by decide)

/-- The status an end-to-end task starts with. -/
def endToEndStatus (pod : Text) : Dict := [("task_id", .str "mat-022-end-to-end-accuracy"), ("pod", .str pod)]

/-- An end-to-end task ends early, or with what its child left. -/
theorem runEndToEnd_ok (ok : runEndToEnd host ops pod out serving = .ok ended) :
    (∃ state reason rest, state ∈ (["CONTRACT_INVALID", "NEEDS_HUMAN"] : List Text) ∧
      ended = early (endToEndStatus pod) state reason rest) ∨
    ∃ request result report child, serving.modelRequest = some request ∧
      ops.runTool (differentialCommand pod out serving request) = .ok result ∧
      childOutput host ops = .ok (.obj report, .obj child) ∧
      packageChild pod serving (endToEndStatus pod) report child result.returncode = .ok ended := by
  unfold runEndToEnd at ok
  split at ok
  · exact .inl ⟨_, _, _, .head _, (pure_ok.mp ok).symm⟩
  · next request requested =>
    simp only [bind_ok] at ok
    obtain ⟨result, ran, reported, -, present, -, ok⟩ := ok
    split at ok
    · exact .inl ⟨_, _, _, .tail _ (.head _), (pure_ok.mp ok).symm⟩
    · split at ok
      · split at ok
        · exact .inl ⟨_, _, _, .head _, (pure_ok.mp ok).symm⟩
        · cases ok
      · next report child left => exact .inr ⟨request, result, report, child, requested, ran, left, ok⟩
      · exact .inl ⟨_, _, _, .head _, (pure_ok.mp ok).symm⟩

theorem endToEnd_earned (ok : runEndToEnd host ops pod out serving = .ok ended)
    (passed : Dict.getD ended.status "state" .null = .str "ACCURACY_PASS") :
    EarnedBy host ops pod out (.endToEnd serving) := by
  have unstated : Dict.get? (endToEndStatus pod) "state" = none := rfl
  obtain ⟨state, reason, rest, stopped, rfl⟩ | ⟨request, result, report, child, requested, ran, left, packaged⟩ :=
    runEndToEnd_ok ok
  · rw [early_state unstated] at passed
    rw [Json.str.inj passed] at stopped
    exact absurd stopped (by decide)
  · have shows := packageChild_pass packaged unstated passed
    obtain ⟨validator, validated⟩ := shows.validated
    obtain ⟨cases, listed, evident⟩ := shows.evident
    exact .endToEnd requested ran shows.returned left shows.reported shows.stated validated listed evident
      shows.independent

/-! ## Exit codes -/

/-- The state that is a pass of the mode. -/
def Mode.passState : Mode → Text
  | .kernel _ => "KERNEL_PASS"
  | .endToEnd _ => "ACCURACY_PASS"
  | .longContext _ _ => "LONG_CONTEXT_PASS"

/-- Every state that a mode ends in but its pass. -/
def Mode.otherStates : Mode → List Text
  | .kernel _ => ["KERNEL_FAIL", "KERNEL_AMBIGUOUS"]
  | .endToEnd _ => ["ACCURACY_FAIL", "CONTRACT_INVALID", "NEEDS_HUMAN"]
  | .longContext _ _ => ["LONG_CONTEXT_FAIL", "LONG_CONTEXT_AMBIGUOUS", "CONTRACT_INVALID"]

theorem finish_states (verdicts : Verdicts) (status report : Dict) (errors : List Text) (earlier : List (Text × Json)) :
    ∃ state ∈ [verdicts.pass, verdicts.fail, verdicts.ambiguous],
      Dict.getD (finish verdicts status report errors earlier).status "state" .null = .str state := by
  refine ⟨_, ?_, finish_state ..⟩
  unfold Verdicts.of
  split
  · exact .head _
  · split
    · exact .tail _ (.head _)
    · exact .tail _ (.tail _ (.head _))

theorem among_true {value : Json} {names : List Text} (known : value.among names = .ok true) :
    ∃ name ∈ names, value = .str name := by
  unfold Json.among at known
  split at known
  · obtain ⟨name, member, same⟩ := List.any_eq_true.mp (Except.ok.inj known)
    exact ⟨name, member, (Json.eq_str_right _ _).mp same⟩
  · cases known

/-- A mode ends in its pass or in one of its other states. -/
theorem run_states (mode : Mode) (ok : run host ops pod out mode = .ok ended) :
    ∃ state ∈ mode.passState :: mode.otherStates, Dict.getD ended.status "state" .null = .str state := by
  cases mode with
  | kernel ceiling =>
    simp only [run, runKernelGrade, bind_ok] at ok
    obtain ⟨measured, -, ok⟩ := ok
    cases measured with
    | ended report =>
      obtain rfl := pure_ok.mp ok
      exact finish_states kernelVerdicts _ _ _ _
    | graded probe found grade =>
      obtain ⟨errors, -, ok⟩ := bind_ok.mp ok
      obtain rfl := pure_ok.mp ok
      exact finish_states kernelVerdicts _ _ _ _
  | longContext geometry ceiling =>
    have wider {state : Text} (member : state ∈ [longContextVerdicts.pass, longContextVerdicts.fail,
        longContextVerdicts.ambiguous]) : state ∈ (Mode.longContext geometry ceiling).passState ::
          (Mode.longContext geometry ceiling).otherStates := List.mem_append_left [Text.ofString "CONTRACT_INVALID"] member
    change runLongContext host ops pod out geometry ceiling = .ok ended at ok
    unfold runLongContext at ok
    split at ok
    · obtain rfl := pure_ok.mp ok
      exact ⟨"CONTRACT_INVALID", .tail _ (.tail _ (.tail _ (.head _))), rfl⟩
    · obtain ⟨measured, -, ok⟩ := bind_ok.mp ok
      cases measured with
      | ended report =>
        obtain rfl := pure_ok.mp ok
        obtain ⟨state, member, same⟩ := finish_states longContextVerdicts _ report [] []
        exact ⟨state, wider member, same⟩
      | graded probe selected grade =>
        obtain ⟨errors, -, ok⟩ := bind_ok.mp ok
        obtain rfl := pure_ok.mp ok
        obtain ⟨state, member, same⟩ := finish_states longContextVerdicts _ _ errors _
        exact ⟨state, wider member, same⟩
  | endToEnd serving =>
    have unstated : Dict.get? (endToEndStatus pod) "state" = none := rfl
    obtain ⟨state, reason, rest, stopped, rfl⟩ | ⟨request, result, report, child, -, -, -, packaged⟩ :=
      runEndToEnd_ok ok
    · exact ⟨state, .tail _ (.tail _ stopped), early_state unstated _ _ _⟩
    · obtain ⟨reason, rest, rfl⟩ | ⟨reference, cases, packaged, errors, agrees, -, -, -, -, rfl⟩ :=
        packageChild_ok packaged
      · exact ⟨_, .tail _ (.tail _ (.head _)), early_state unstated _ _ _⟩
      · rw [endToEndReport_state]
        split
        · obtain ⟨same, -, -⟩ := childAgrees_true agrees
          simp only [childAgrees, bind_ok, pure_ok, Bool.and_eq_true] at agrees
          obtain ⟨known, asked, ⟨⟨here, -⟩, -⟩, -⟩ := agrees
          obtain ⟨name, member, stated⟩ := among_true (here ▸ asked)
          rw [stated, Json.eq_str_right] at same
          exact ⟨name, List.mem_append_left [Text.ofString "CONTRACT_INVALID", "NEEDS_HUMAN"] member, same⟩
        · exact ⟨_, .tail _ (.tail _ (.head _)), rfl⟩

/-- The exit code is 0 exactly for the mode's own pass. -/
theorem exitCode_zero (mode : Mode) (ok : run host ops pod out mode = .ok ended) :
    exitCode ended.status = 0 ↔ Dict.getD ended.status "state" .null = .str mode.passState := by
  obtain ⟨state, member, same⟩ := run_states mode ok
  have settled : ∀ state ∈ mode.passState :: mode.otherStates, state ∈ passing ↔ state = mode.passState := by
    cases mode <;> simp only [Mode.passState, Mode.otherStates] <;> decide
  have asked : (passing.any fun name => (Json.str state).eq (.str name)) = true ↔ state ∈ passing := by
    simp only [List.any_eq_true, Json.eq_str_right, Json.str.injEq, exists_eq_right']
  rw [exitCode, same, Json.str.injEq, ← settled state member, ← asked]
  split <;> simp [*]

/-- A task exits with 0 only for a pass that was earned. -/
theorem run_earned (host : Host) (ops : CorrectnessOps) (pod : Text) (out : Path) (mode : Mode) (ended : Out)
    (ok : run host ops pod out mode = .ok ended) (succeeded : exitCode ended.status = 0) :
    EarnedBy host ops pod out mode := by
  have passed := (exitCode_zero mode ok).mp succeeded
  cases mode with
  | kernel ceiling => exact kernel_earned ok passed
  | endToEnd serving => exact endToEnd_earned ok passed
  | longContext geometry ceiling => exact longContext_earned ok passed

/-! A kernel that is graded as a pass. -/

def passingOps : CorrectnessOps where
  exec _ _ _ _ := .ok ⟨0, "\x7b\"state\": \"EXERCISED_PASS\"\x7d", ""⟩
  cat _ _ := .ok ⟨0, "1", ""⟩
  runTool _ := .ok ⟨0, "\x7b\"control_discriminates\": true, \"pass\": true, \"relative_l2\": 0, \"max_abs_error\": 0\x7d", ""⟩
  exists' _ := .ok false
  readText _ := .error (.os "No such file or directory")

theorem passingOps_ran : ∃ ended, run Host.sample passingOps "pod" (.ofText "/out") (.kernel (.fin 1)) = .ok ended ∧
    exitCode ended.status = 0 := by
  have code : (run Host.sample passingOps "pod" (.ofText "/out") (.kernel (.fin 1))).map
      (fun ended => exitCode ended.status) = .ok 0 := by decide +kernel
  generalize run Host.sample passingOps "pod" (.ofText "/out") (.kernel (.fin 1)) = answer at code
  cases answer with
  | error e => cases code
  | ok ended => exact ⟨ended, rfl, Except.ok.inj code⟩

theorem run_earned_kernel : EarnedBy Host.sample passingOps "pod" (.ofText "/out") (.kernel (.fin 1)) := by
  obtain ⟨ended, ok, succeeded⟩ := passingOps_ran
  exact run_earned _ _ _ _ _ ended ok succeeded

/-! ## What the graph reads -/

/-- A file of the output directory once the task ended, where `before` holds those it did not write. -/
def Out.left (ended : Out) (before : Text → Option Json) (name : Text) : Option Json :=
  (ended.written.reverse.lookup name).or (before name)

/-- `read_status` of what a file holds. -/
def payload : Option Json → Dict
  | some (.obj fields) => fields
  | _ => []

def Mode.isEndToEnd : Mode → Bool
  | .endToEnd _ => true
  | _ => false

theorem conclude_validator {status packaged : Dict} :
    Graph.validatorPassed (conclude status packaged []).status = true := by
  simp only [conclude, Graph.validatorPassed, Dict.getD, Dict.get?_set_same, Option.getD_some]
  rfl

/-- An end-to-end task leaves its status where the graph reads it, with a validator that agrees with a pass. -/
theorem endToEnd_left (ok : runEndToEnd host ops pod out serving = .ok ended) :
    ended.written.reverse.lookup (Text.ofString "accuracy_status.json") = some (.obj ended.status) ∧
      (Dict.getD ended.status "state" .null = .str "ACCURACY_PASS" → Graph.validatorPassed ended.status = true) := by
  have unstated : Dict.get? (endToEndStatus pod) "state" = none := rfl
  have early' {state reason : Text} {rest : Dict} (other : state ≠ "ACCURACY_PASS") :
      Dict.getD (early (endToEndStatus pod) state reason rest).status "state" .null = .str "ACCURACY_PASS" →
        Graph.validatorPassed (early (endToEndStatus pod) state reason rest).status = true := by
    rw [early_state unstated, Json.str.injEq]
    exact fun same => absurd same other
  obtain ⟨state, reason, rest, stopped, rfl⟩ | ⟨request, result, report, child, -, -, -, packaged⟩ := runEndToEnd_ok ok
  · refine ⟨rfl, early' ?_⟩
    rintro rfl
    exact absurd stopped (by decide)
  · obtain ⟨reason, rest, rfl⟩ | ⟨reference, cases, packaged, errors, -, -, -, -, -, rfl⟩ := packageChild_ok packaged
    · exact ⟨rfl, early' (by decide)⟩
    · refine ⟨rfl, ?_⟩
      rw [endToEndReport_state]
      split
      · next silent =>
        obtain rfl := List.isEmpty_iff.mp silent
        exact fun _ => conclude_validator
      · exact fun same => absurd (Json.str.inj same) (by decide)

/-- The kernel and the long-context task write their status to a file that the graph does not read. -/
theorem measured_left (mode : Mode) (measured : mode.isEndToEnd = false) (ok : run host ops pod out mode = .ok ended) :
    ended.written.reverse.lookup (Text.ofString "kernel_status.json") = none ∧
      ended.written.reverse.lookup (Text.ofString "long_context_status.json") = none := by
  cases mode with
  | endToEnd serving => cases measured
  | kernel ceiling =>
    simp only [run, runKernelGrade, bind_ok] at ok
    obtain ⟨measured, -, ok⟩ := ok
    cases measured with
    | ended report =>
      obtain rfl := pure_ok.mp ok
      exact ⟨rfl, rfl⟩
    | graded probe found grade =>
      obtain ⟨errors, -, ok⟩ := bind_ok.mp ok
      obtain rfl := pure_ok.mp ok
      exact ⟨rfl, rfl⟩
  | longContext geometry ceiling =>
    change runLongContext host ops pod out geometry ceiling = .ok ended at ok
    unfold runLongContext at ok
    split at ok
    · obtain rfl := pure_ok.mp ok
      exact ⟨rfl, rfl⟩
    · obtain ⟨measured, -, ok⟩ := bind_ok.mp ok
      cases measured with
      | ended report =>
        obtain rfl := pure_ok.mp ok
        exact ⟨rfl, rfl⟩
      | graded probe selected grade =>
        obtain ⟨errors, -, ok⟩ := bind_ok.mp ok
        obtain rfl := pure_ok.mp ok
        exact ⟨rfl, rfl⟩

theorem nodePassed_nothing (returncode : Int) : Graph.nodePassed [] returncode = false := by
  have unknown : Graph.successStates.contains (Graph.readState []) = false := by decide
  rw [Graph.nodePassed, unknown, Bool.and_false, Bool.false_and]

theorem nodePassed_state {status : Dict} {state : Text} (stated : Dict.getD status "state" .null = .str state)
    (returncode : Int) : Graph.nodePassed status returncode =
      (returncode == 0 && Graph.successStates.contains state && Graph.validatorPassed status) := by
  simp only [Graph.nodePassed, Graph.readState, stated]

/-- The file that the graph reads of each task. -/
def Mode.stateFile : Mode → Text
  | .kernel _ => "kernel_status.json"
  | .endToEnd _ => "accuracy_status.json"
  | .longContext _ _ => "long_context_status.json"

theorem node_stateFile {mode : Mode} (declared : Graph.nodes.lookup mode.node = some spec) :
    spec.stateFile = mode.stateFile := by
  have table (name file : Text) (listed : (Graph.nodes.lookup name).all fun spec => spec.stateFile = file)
      (declared : Graph.nodes.lookup name = some spec) : spec.stateFile = file := by
    simpa [declared] using listed
  cases mode with
  | kernel ceiling => exact table "platform_kernel_correctness" "kernel_status.json" (by decide) declared
  | endToEnd serving => exact table "end_to_end_accuracy" "accuracy_status.json" (by decide) declared
  | longContext geometry ceiling =>
    exact table "long_context_sparse_correctness" "long_context_status.json" (by decide) declared

/-- In a fresh directory the node of a task passes exactly if the task is the end-to-end one and exits with 0. -/
theorem verdict_read (host : Host) (ops : CorrectnessOps) (pod : Text) (out : Path) (mode : Mode) (ended : Out)
    (before : Text → Option Json) (spec : Graph.NodeSpec) (ok : run host ops pod out mode = .ok ended)
    (declared : Graph.nodes.lookup mode.node = some spec) (fresh : before spec.stateFile = none) :
    Graph.nodePassed (payload (ended.left before spec.stateFile)) (exitCode ended.status) =
      (mode.isEndToEnd && exitCode ended.status == 0) := by
  have file := node_stateFile declared
  have code := exitCode_zero mode ok
  obtain ⟨state, -, stated⟩ := run_states mode ok
  cases mode with
  | kernel ceiling =>
    obtain ⟨unread, -⟩ := measured_left _ rfl ok
    rw [Out.left, fresh, file, Mode.stateFile, unread]
    exact nodePassed_nothing _
  | longContext geometry ceiling =>
    obtain ⟨-, unread⟩ := measured_left _ rfl ok
    rw [Out.left, fresh, file, Mode.stateFile, unread]
    exact nodePassed_nothing _
  | endToEnd serving =>
    obtain ⟨written, validated⟩ := endToEnd_left ok
    rw [Out.left, file, Mode.stateFile, written, Option.some_or, payload, nodePassed_state stated]
    by_cases succeeded : exitCode ended.status = 0
    · have passed := code.mp succeeded
      obtain rfl : state = "ACCURACY_PASS" := Json.str.inj (stated.symm.trans passed)
      have success : Graph.successStates.contains (Text.ofString "ACCURACY_PASS") = true := by decide
      rw [succeeded, success, validated passed]
      rfl
    · rw [beq_eq_false_iff_ne.mpr succeeded]
      rfl

/-- The kernel passes, and its node does not. -/
theorem verdict_read_kernel : ∃ ended, run Host.sample passingOps "pod" (.ofText "/out") (.kernel (.fin 1)) = .ok ended ∧
    exitCode ended.status = 0 ∧ ∃ spec, Graph.nodes.lookup (Text.ofString "platform_kernel_correctness") = some spec ∧
      Graph.nodePassed (payload (ended.left (fun _ => none) spec.stateFile)) (exitCode ended.status) = false := by
  obtain ⟨ended, ok, succeeded⟩ := passingOps_ran
  refine ⟨ended, ok, succeeded, _, rfl, ?_⟩
  exact verdict_read _ _ _ _ (.kernel (.fin 1)) ended (fun _ => none) _ ok rfl rfl

end Earned
end InferForge.Correctness

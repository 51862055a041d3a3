import InferForge.Validators.Gap
import Mathlib.Data.List.ReduceOption

/-! Gap classification: two static findings, and the next action that follows from them. -/
namespace InferForge
open Py ResultValidation Effect

namespace Gaps

/-- `SCAN_CLASSES`: scan verdict, and class and next action if there is a gap. -/
def scanClasses : List (Text × Option (Text × Text)) :=
  [("ABSENT", some ("REGISTRATION_MISSING", "write a model implementation")),
    ("PR_PENDING", some ("VERSION_LAG", "cherry-pick the open pull request or wait for merge")),
    ("MAIN_ONLY", some ("VERSION_LAG", "upgrade the installed vLLM or cherry-pick from main")),
    ("UNKNOWN_UPSTREAM", some ("UNVERIFIED", "reach upstream and re-run the scan before deciding")),
    ("KUNLUN_OOT", none), ("UPSTREAM_GENERIC", none)]

/-- `SCAN_CLASSES.get(verdict, ("UNVERIFIED", "re-run the scan"))`. -/
def scanClass (verdict : Json) : Except Exn (Option (Text × Text)) :=
  let unlisted : Option (Text × Text) := some ("UNVERIFIED", "re-run the scan")
  match verdict with
  | .str name => .ok ((scanClasses.lookup name).getD unlisted)
  | value => if value.hashable then .ok unlisted else .error (.type "unhashable type")

structure Gap where
  cls : Text
  axis : Json
  detail : Text
  nextAction : Text
  evidence : Text

def Gap.toDict (gap : Gap) : Dict :=
  [("class", .str gap.cls), ("axis", gap.axis), ("detail", .str gap.detail), ("next_action", .str gap.nextAction),
    ("owner", .str "us"), ("evidence", .str gap.evidence)]

def Gap.blocks (gap : Gap) : Bool := gap.cls ∈ blockingClasses

structure Report where
  classification : Text
  nextAction : Text
  gaps : List Gap
  /-- Scan state, match verdict and the two pods. -/
  inputs : Dict

def Report.blocking (report : Report) : List Gap := report.gaps.filter Gap.blocks

def Report.toDict (report : Report) : Dict :=
  [("state", .str "CLASSIFICATION_READY"), ("runtime_verified", .bool false),
    ("classification", .str report.classification), ("next_action", .str report.nextAction),
    ("gaps", .arr (report.gaps.map fun gap => .obj gap.toDict)),
    ("blocking", .arr (report.blocking.map Gap.axis)), ("inputs", .obj report.inputs)]

section Classify
variable (host : Host)

/-- The gap of a scan result. -/
def resultGap (entry : Dict) : Except Exn (Option Gap) := do
  let verdict := Dict.getD entry "verdict" .null
  return (← scanClass verdict).map fun (cls, action) =>
    { cls, axis := .str "networking", nextAction := action
      detail := host.str (Dict.getD entry "architecture" .null) ++ " is " ++ host.str verdict
      evidence := "mat-002 model_support.json" }

/-- The gap of a capability axis. -/
def axisGap (axis : Dict) : Except Exn (Option Gap) := do
  let verdict := Dict.getD axis "verdict" .null
  if verdict.eq (.str "NOT_PROVIDED") then
    let name ← Json.item (.obj axis) "axis"
    return some
      { cls := "CAPABILITY_MISSING", axis := name
        detail := host.str name ++ " requires " ++ host.str (Dict.getD axis "required" .null) ++
          " and the installation " ++ "does not provide it"
        nextAction := "implement or route around the " ++ host.str name ++ " path"
        evidence := "mat-003 capability_match.json" }
  else if verdict.eq (.str "UNKNOWN") then
    let name ← Json.item (.obj axis) "axis"
    return some
      { cls := "UNVERIFIED", axis := name, detail := host.str name ++ " was not introspected"
        nextAction := "introspect the " ++ host.str name ++ " surface before relying on it"
        evidence := "mat-003 capability_match.json" }
  else return none

/-- The overall class and its action: the first blocking gap, else the first gap. -/
def overall (gaps : List Gap) : Text × Text :=
  match gaps, gaps.filter Gap.blocks with
  | [], _ => ("NO_STATIC_GAP",
      "attempt a deployment; a failure then belongs to MAT-006 triage, not to networking")
  | _, gap :: _ => (gap.cls, gap.nextAction)
  | gap :: _, [] => (gap.cls, gap.nextAction)

def classify (support found : Dict) : Except Exn Report := do
  let results ← (Dict.getD support "results" (.arr [])).elements
  let networking ← results.mapM fun item => do resultGap host (← asMapping item)
  let axes ← (Dict.getD found "axes" (.arr [])).elements
  let capabilities ← axes.mapM fun item => do axisGap host (← asMapping item)
  let gaps := networking.reduceOption ++ capabilities.reduceOption
  return {
    classification := (overall gaps).1
    nextAction := (overall gaps).2
    gaps
    inputs := [("scan_state", Dict.getD support "state" .null), ("match_verdict", Dict.getD found "verdict" .null),
      ("scanned_in", Dict.getD support "scanned_in" .null), ("matched_in", Dict.getD found "matched_in" .null)] }

end Classify

/-! ## Routing -/

inductive Finding where
  | result (entry : Dict)
  | capability (axis : Dict)

/-- The mappings of a list. -/
def listed : Json → List Dict
  | .arr items => items.filterMap Json.dict?
  | _ => []

def verdictIs (fields : Dict) (names : List Text) : Bool :=
  names.any fun name => (Dict.getD fields "verdict" .null).eq (.str name)

/-- A scan result that needs no gap. -/
def ready (entry : Dict) : Bool := verdictIs entry ["KUNLUN_OOT", "UPSTREAM_GENERIC"]

/-- An axis that is a finding. -/
def lacking (axis : Dict) : Bool := verdictIs axis ["NOT_PROVIDED", "UNKNOWN"]

def findings (support found : Dict) : List Finding :=
  ((listed (Dict.getD support "results" .null)).filter fun entry => !ready entry).map .result ++
    ((listed (Dict.getD found "axes" .null)).filter lacking).map .capability

/-- Findings that were not established. -/
def Finding.unestablished : Finding → Bool
  | .result entry => verdictIs entry ["UNKNOWN_UPSTREAM"]
  | .capability axis => verdictIs axis ["UNKNOWN"]

/-- Classes that name adaptation work. -/
def adaptationClasses : List Text := ["REGISTRATION_MISSING", "VERSION_LAG", "CAPABILITY_MISSING"]

def Finding.axisOf : Finding → Option Json
  | .result _ => some (.str "networking")
  | .capability axis => Dict.get? axis "axis"

/-- A gap about a finding: it looks again only at what was not established. -/
structure About (finding : Finding) (gap : Gap) : Prop where
  axis : finding.axisOf = some gap.axis
  again : gap.cls = "UNVERIFIED" → finding.unestablished = true
  work : finding.unestablished = false → gap.cls ∈ adaptationClasses

/-- Every finding has its gap, and the overall class follows from the gaps. -/
structure Routed (host : Host) (support found : Dict) (report : Report) : Prop where
  accepted : ∀ acceptance,
    validateGapClassification host report.toDict [("acceptance", .obj acceptance)] = .ok []
  gaps : List.Forall₂ About (findings support found) report.gaps
  none : report.classification = "NO_STATIC_GAP" ↔ report.gaps = []
  blocking : (∃ gap ∈ report.gaps, gap.blocks = true) →
    ∃ gap ∈ report.gaps, gap.blocks = true ∧ report.classification = gap.cls

/-! ## What the gaps say -/

section Gaps
variable {host : Host}

/-- A gap that the acceptance check takes, if its axis has a name. -/
structure Formed (gap : Gap) : Prop where
  cls : gap.cls ∈ classes ∧ gap.cls ≠ "NO_STATIC_GAP"
  hashable : gap.axis.hashable = true
  texts : gap.detail.isEmpty = false ∧ gap.nextAction.isEmpty = false ∧ gap.evidence.isEmpty = false
  action : ∀ expected, requiredAction.lookup gap.cls = some expected → gap.nextAction.holds expected = true

/-- A finding that the classifier's table does not list. -/
def Finding.unlisted : Finding → Bool
  | .result entry => verdictIs entry ["UPSTREAM_VENDORED_VARIANT"]
  | .capability _ => false

theorem verdictIs_str {fields : Dict} {name : Text} (judged : Dict.getD fields "verdict" .null = .str name)
    (names : List Text) : verdictIs fields names = decide (name ∈ names) := by
  rw [verdictIs, judged, Bool.eq_iff_iff, List.any_eq_true, decide_eq_true_eq]
  constructor
  · rintro ⟨other, member, same⟩
    obtain rfl := Json.str.inj ((Json.eq_str_left _ _).mp same)
    exact member
  · exact fun member => ⟨name, member, (Json.eq_str_left _ _).mpr rfl⟩

/-- The gap of a finding, with the class that its verdict asks for. -/
structure Fits (finding : Finding) (gap : Gap) : Prop where
  formed : Formed gap
  axis : finding.axisOf = some gap.axis
  again : gap.cls = "UNVERIFIED" ↔ finding.unestablished = true ∨ finding.unlisted = true

theorem filled_append {a b : Text} (filled : b.isEmpty = false) : (a ++ b).isEmpty = false := by
  simp only [Text.isEmpty, Text.codes_append, List.isEmpty_eq_false_iff] at filled ⊢
  simp [filled]

/-- The gap of a scan result, for a row of the classifier's table. -/
theorem result_fits {entry : Dict} {name cls action detail evidence : Text}
    (judged : Dict.getD entry "verdict" .null = .str name) (listed : cls ∈ classes ∧ cls ≠ "NO_STATIC_GAP")
    (texts : detail.isEmpty = false ∧ action.isEmpty = false ∧ evidence.isEmpty = false)
    (required : ∀ expected, requiredAction.lookup cls = some expected → action.holds expected = true)
    (again : cls = "UNVERIFIED" ↔ name = "UNKNOWN_UPSTREAM" ∨ name = "UPSTREAM_VENDORED_VARIANT") :
    Fits (.result entry) ⟨cls, .str "networking", detail, action, evidence⟩ where
  formed := ⟨listed, rfl, texts, required⟩
  axis := rfl
  again := by
    rw [again, Finding.unestablished, Finding.unlisted, verdictIs_str judged, verdictIs_str judged]
    simp

/-- A required action is looked up and found. -/
theorem required_holds {cls action : Text} (found : (requiredAction.lookup cls).all action.holds = true) :
    ∀ expected, requiredAction.lookup cls = some expected → action.holds expected = true := by
  intro expected same
  rw [same] at found
  exact found

theorem resultGap_fits {entry : Dict} {name : Text} (judged : Dict.getD entry "verdict" .null = .str name)
    (known : name ∈ ModelScan.verdicts) : ∃ gap, resultGap host entry = .ok gap ∧
      (ready entry = true ∧ gap = none ∨ ready entry = false ∧ ∃ g, gap = some g ∧ Fits (.result entry) g) := by
  have filled : ∀ t ∈ ModelScan.verdicts, t.isEmpty = false := by decide
  have detailed (t : Text) : (t ++ " is " ++ name).isEmpty = false := filled_append (filled name known)
  simp only [resultGap, judged, scanClass, ok_bind, Host.str]
  refine ⟨_, rfl, ?_⟩
  rw [ready, verdictIs_str judged]
  simp only [ModelScan.verdicts, List.mem_cons, List.not_mem_nil, or_false] at known
  rcases known with rfl | rfl | rfl | rfl | rfl | rfl | rfl
  · exact .inl ⟨rfl, rfl⟩
  · exact .inl ⟨rfl, rfl⟩
  all_goals
    refine .inr ⟨rfl, _, rfl, result_fits judged (by decide) ⟨detailed _, rfl, rfl⟩ (required_holds rfl) (by decide)⟩

/-- The gap of an axis. -/
theorem capability_fits {axis : Dict} {value : Json} {name cls action detail evidence : Text}
    (judged : Dict.getD axis "verdict" .null = .str name) (found : Dict.get? axis "axis" = some value)
    (hashable : value.hashable = true) (listed : cls ∈ classes ∧ cls ≠ "NO_STATIC_GAP")
    (texts : detail.isEmpty = false ∧ action.isEmpty = false ∧ evidence.isEmpty = false)
    (unrequired : requiredAction.lookup cls = none) (again : cls = "UNVERIFIED" ↔ name = "UNKNOWN") :
    Fits (.capability axis) ⟨cls, value, detail, action, evidence⟩ where
  formed := ⟨listed, hashable, texts, fun _ required => nomatch unrequired.symm.trans required⟩
  axis := found
  again := by
    rw [again, Finding.unestablished, Finding.unlisted, verdictIs_str judged]
    simp

theorem axisGap_fits {axis : Dict} {name : Text} (judged : Dict.getD axis "verdict" .null = .str name)
    (named : Dict.getD axis "verdict" .null = .str "NOT_PROVIDED" ∨
      Dict.getD axis "verdict" .null = .str "UNKNOWN" →
        ∃ value, Dict.get? axis "axis" = some value ∧ value.hashable = true) :
    ∃ gap, axisGap host axis = .ok gap ∧
      (lacking axis = false ∧ gap = none ∨ lacking axis = true ∧ ∃ g, gap = some g ∧ Fits (.capability axis) g) := by
  rw [lacking, verdictIs_str judged]
  rw [judged, Json.str.injEq, Json.str.injEq] at named
  simp only [axisGap, judged, ModelScan.eq_name, decide_eq_true_eq]
  by_cases missing : name = "NOT_PROVIDED"
  · obtain ⟨value, found, hashable⟩ := named (.inl missing)
    subst missing
    rw [if_pos rfl, Json.item_ok.mpr ⟨_, rfl, found⟩]
    exact ⟨_, rfl, .inr ⟨by decide, _, rfl, capability_fits judged found hashable (by decide)
      ⟨filled_append rfl, filled_append rfl, rfl⟩ rfl (by decide)⟩⟩
  · rw [if_neg missing]
    by_cases asked : name = "UNKNOWN"
    · obtain ⟨value, found, hashable⟩ := named (.inr asked)
      subst asked
      rw [if_pos rfl, Json.item_ok.mpr ⟨_, rfl, found⟩]
      exact ⟨_, rfl, .inr ⟨by decide, _, rfl, capability_fits judged found hashable (by decide)
        ⟨filled_append rfl, filled_append rfl, rfl⟩ rfl (by decide)⟩⟩
    · rw [if_neg asked]
      exact ⟨_, rfl, .inl ⟨by simp [missing, asked], rfl⟩⟩

/-- The gaps of a list of findings, in their order. -/
theorem fits_reduceOption {kind : Dict → Finding} {wanted : Dict → Bool} {items : List Dict} {gaps : List (Option Gap)}
    (pairs : List.Forall₂ (fun item gap => wanted item = false ∧ gap = none ∨
      wanted item = true ∧ ∃ g, gap = some g ∧ Fits (kind item) g) items gaps) :
    List.Forall₂ Fits ((items.filter wanted).map kind) gaps.reduceOption := by
  induction pairs with
  | nil => exact .nil
  | cons here _ ih =>
    obtain ⟨other, rfl⟩ | ⟨open', gap, rfl, fits⟩ := here
    · rwa [List.filter_cons_of_neg (by simp [other]), List.reduceOption_cons_of_none]
    · rw [List.filter_cons_of_pos open', List.map_cons, List.reduceOption_cons_of_some]
      exact .cons fits ih

theorem listed_objects (entries : List Dict) : listed (.arr (entries.map .obj)) = entries := by
  simp [listed, List.filterMap_map, Function.comp_def, Json.dict?]

/-- A present value does not depend on the default. -/
theorem getD_present {fields : Dict} {key : Text} {items : List Json} {default : Json}
    (present : Dict.getD fields key .null = .arr items) : Dict.getD fields key default = .arr items := by
  unfold Dict.getD at present ⊢
  cases found : Dict.get? fields key with
  | none =>
    rw [found] at present
    cases present
  | some value =>
    rw [found] at present
    exact present

theorem mapM_objects {check : Dict → Except Exn (Option Gap)} {entries : List Dict} {P : Dict → Option Gap → Prop}
    (each : ∀ entry ∈ entries, ∃ gap, check entry = .ok gap ∧ P entry gap) :
    ∃ gaps, ((entries.map Json.obj).mapM fun item => do check (← asMapping item)) = .ok gaps ∧
      List.Forall₂ P entries gaps := by
  induction entries with
  | nil => exact ⟨[], rfl, .nil⟩
  | cons entry rest ih =>
    obtain ⟨⟨gap, ran, here⟩, tail⟩ := List.forall_mem_cons.mp each
    obtain ⟨gaps, others, pairs⟩ := ih tail
    refine ⟨gap :: gaps, ?_, .cons here pairs⟩
    rw [List.map_cons, List.mapM_cons, others]
    simp only [asMapping, ok_bind, ran]
    rfl

/-- Every finding of two accepted reports has its gap. -/
theorem classify_ok (host : Host) {support found : Dict} {entries axes : List Dict}
    (results : Dict.getD support "results" .null = .arr (entries.map .obj))
    (scanned : ∀ entry ∈ entries, ∃ name ∈ ModelScan.verdicts, Dict.getD entry "verdict" .null = .str name)
    (matched : Capability.Matched found axes) : ∃ gaps, List.Forall₂ Fits (findings support found) gaps ∧
      classify host support found = .ok
        { classification := (overall gaps).1
          nextAction := (overall gaps).2
          gaps := gaps
          inputs := [("scan_state", Dict.getD support "state" .null), ("match_verdict", Dict.getD found "verdict" .null),
            ("scanned_in", Dict.getD support "scanned_in" .null),
            ("matched_in", Dict.getD found "matched_in" .null)] } := by
  have networking : ∀ entry ∈ entries, ∃ gap, resultGap host entry = .ok gap ∧
      ((!ready entry) = false ∧ gap = none ∨ (!ready entry) = true ∧ ∃ g, gap = some g ∧ Fits (.result entry) g) := by
    intro entry member
    obtain ⟨name, known, judged⟩ := scanned entry member
    simpa using resultGap_fits judged known
  have capabilities : ∀ axis ∈ axes, ∃ gap, axisGap host axis = .ok gap ∧
      (lacking axis = false ∧ gap = none ∨ lacking axis = true ∧ ∃ g, gap = some g ∧ Fits (.capability axis) g) := by
    intro axis member
    obtain ⟨name, _, judged⟩ := matched.verdicts axis member
    exact axisGap_fits judged (matched.named axis member)
  obtain ⟨first, ran, pairs⟩ := mapM_objects networking
  obtain ⟨second, ran', pairs'⟩ := mapM_objects capabilities
  refine ⟨first.reduceOption ++ second.reduceOption, ?_, ?_⟩
  · rw [findings, results, matched.listed, listed_objects, listed_objects]
    exact List.rel_append (fits_reduceOption pairs) (fits_reduceOption pairs')
  · simp only [classify, getD_present results, getD_present matched.listed, Json.elements, ok_bind, ran, ran']
    rfl

end Gaps

/-! ## The report -/

section Report
variable {host : Host} {gaps : List Gap} {inputs : Dict}

/-- The overall class is that of a gap, and of a blocking one if there is any. -/
theorem overall_cases (gaps : List Gap) :
    gaps = [] ∧ overall gaps = (("NO_STATIC_GAP" : Text),
      ("attempt a deployment; a failure then belongs to MAT-006 triage, not to networking" : Text)) ∨
    ∃ gap ∈ gaps, overall gaps = (gap.cls, gap.nextAction) ∧ ((∃ g ∈ gaps, g.blocks = true) → gap.blocks = true) := by
  unfold overall
  cases gaps with
  | nil => exact .inl ⟨rfl, rfl⟩
  | cons first rest =>
    refine .inr ?_
    cases blocking : (first :: rest).filter Gap.blocks with
    | nil =>
      refine ⟨first, List.mem_cons_self, rfl, ?_⟩
      rintro ⟨g, member, blocks⟩
      have listed := List.mem_filter.mpr ⟨member, blocks⟩
      rw [blocking] at listed
      cases listed
    | cons gap others =>
      have listed : gap ∈ (first :: rest).filter Gap.blocks := blocking ▸ List.mem_cons_self
      obtain ⟨member, blocks⟩ := List.mem_filter.mp listed
      exact ⟨gap, member, rfl, fun _ => blocks⟩

theorem gapErrors_iff {gap : Gap} (formed : Formed gap) :
    gapErrors host gap.toDict = .ok [] ↔ gap.axis.truthy = true := by
  obtain ⟨detail, action, evidence⟩ := formed.texts
  have cls : Dict.getD gap.toDict "class" .null = .str gap.cls := rfl
  have axis : Dict.getD gap.toDict "axis" .null = gap.axis := rfl
  have described : (Dict.getD gap.toDict "detail" .null).truthy = true := by
    change (!gap.detail.isEmpty) = true
    rw [detail]
    rfl
  have next : (Dict.getD gap.toDict "next_action" .null).truthy = true := by
    change (!gap.nextAction.isEmpty) = true
    rw [action]
    rfl
  have proof : (Dict.getD gap.toDict "evidence" .null).truthy = true := by
    change (!gap.evidence.isEmpty) = true
    rw [evidence]
    rfl
  simp [gapErrors, cls, axis, described, next, proof, Json.among_str formed.cls.1, errorIf_iff_nil]

theorem blockingAxes_gaps (formed : ∀ gap ∈ gaps, Formed gap) :
    blockingAxes (gaps.map Gap.toDict) = .ok ((gaps.filter Gap.blocks).map Gap.axis) := by
  induction gaps with
  | nil => rfl
  | cons gap rest ih =>
    obtain ⟨here, tail⟩ := List.forall_mem_cons.mp formed
    have cls : Dict.getD gap.toDict "class" .null = .str gap.cls := rfl
    have axis : Json.item (.obj gap.toDict) "axis" = .ok gap.axis := rfl
    have same : isBlocking gap.toDict = gap.blocks := by
      rw [isBlocking, cls, Gap.blocks, Bool.eq_iff_iff, List.any_eq_true, decide_eq_true_eq]
      simp
    rw [List.map_cons, blockingAxes, same, ih tail]
    cases blocks : gap.blocks with
    | true =>
      rw [List.filter_cons_of_pos blocks]
      simp only [if_true, axis, ok_bind, here.hashable]
      rfl
    | false =>
      rw [List.filter_cons_of_neg (by simp [blocks])]
      rfl

theorem hashable_axes (formed : ∀ gap ∈ gaps, Formed gap) (wanted : Gap → Bool) :
    ∀ value ∈ (gaps.filter wanted).map Gap.axis, value.hashable = true := by
  intro value member
  obtain ⟨gap, listed, rfl⟩ := List.mem_map.mp member
  exact (formed gap (List.mem_filter.mp listed).1).hashable

theorem toSet_axes {values : List Json} (members : ∀ value ∈ values, value.hashable = true) :
    ((Json.arr values).or (.arr [])).toSet = .ok values := by
  have same : (Json.arr values).or (.arr []) = .arr values := by cases values <;> rfl
  rw [same, Json.toSet, Json.elements, ok_bind, if_pos (List.all_eq_true.mpr members)]
  rfl

/-- The report of a list of gaps. -/
def reportOf (gaps : List Gap) (inputs : Dict) : Report := ⟨(overall gaps).1, (overall gaps).2, gaps, inputs⟩

theorem gapsErrors_iff (host : Host) (inputs : Dict) (formed : ∀ gap ∈ gaps, Formed gap) :
    gapsErrors host (reportOf gaps inputs).toDict (.str (overall gaps).1)
        (.arr (gaps.map fun gap => .obj gap.toDict)) = .ok [] ↔ ∀ gap ∈ gaps, gap.axis.truthy = true := by
  have objects : (gaps.map fun gap => Json.obj gap.toDict) = (gaps.map Gap.toDict).map .obj := by simp
  have mapped := mapM_asMapping (gaps.map Gap.toDict)
  have blocking : Dict.getD (reportOf gaps inputs).toDict "blocking" .null =
      .arr ((gaps.filter Gap.blocks).map Gap.axis) := rfl
  have members := hashable_axes formed Gap.blocks
  have consistent : (!(Json.arr ((gaps.map Gap.toDict).map Json.obj)).truthy &&
        !(Json.str (overall gaps).1).eq (.str "NO_STATIC_GAP")) = false ∧
      ((Json.arr ((gaps.map Gap.toDict).map Json.obj)).truthy &&
        (Json.str (overall gaps).1).eq (.str "NO_STATIC_GAP")) = false := by
    obtain ⟨rfl, same⟩ | ⟨gap, member, same, _⟩ := overall_cases gaps
    · exact ⟨rfl, rfl⟩
    · have apart := (formed gap member).cls.2
      rw [same, ModelScan.eq_name]
      cases gaps with
      | nil => cases member
      | cons => simp [Json.truthy, apart]
  rw [objects, gapsErrors, if_neg (by simp [Json.isNull])]
  simp only [Json.elements, ok_bind, mapped, blockingAxes_gaps formed, blocking, toSet_axes members,
    Json.sameSet_self members, consistent, bind_ok, pure_ok, List.append_eq_nil_iff, errorIf_iff_nil, and_true,
    exists_eq_right, Bool.not_true, eachErrors_objects]
  rw [List.forall_mem_map]
  exact forall₂_congr fun gap member => gapErrors_iff (formed gap member)

/-- The acceptance check of a report asks only for the names of the axes. -/
theorem report_accepted (host : Host) (inputs : Dict) (formed : ∀ gap ∈ gaps, Formed gap)
    (derived : (Dict.getD inputs "scan_state" .null).truthy = true ∧ (Dict.getD inputs "match_verdict" .null).truthy = true)
    (pod : (Dict.getD inputs "scanned_in" .null).truthy = true) :
    (∀ acceptance, validateGapClassification host (reportOf gaps inputs).toDict
      [("acceptance", .obj acceptance)] = .ok []) ↔ ∀ gap ∈ gaps, gap.axis.truthy = true := by
  have state : (Dict.getD (reportOf gaps inputs).toDict "state" .null).eq (.str "CLASSIFICATION_READY") = true := rfl
  have unverified : (Dict.getD (reportOf gaps inputs).toDict "runtime_verified" .null).isFalse = true := rfl
  have classification : Dict.getD (reportOf gaps inputs).toDict "classification" .null = .str (overall gaps).1 := rfl
  have action : Dict.getD (reportOf gaps inputs).toDict "next_action" .null = .str (overall gaps).2 := rfl
  have listed : Dict.getD (reportOf gaps inputs).toDict "gaps" .null = .arr (gaps.map fun gap => .obj gap.toDict) := rfl
  have recorded : Dict.getD (reportOf gaps inputs).toDict "inputs" .null = .obj inputs := rfl
  have known : (overall gaps).1 ∈ classes := by
    obtain ⟨_, same⟩ | ⟨gap, member, same, _⟩ := overall_cases gaps
    · rw [same]
      decide
    · rw [same]
      exact (formed gap member).cls.1
  have filled : (overall gaps).2.isEmpty = false := by
    obtain ⟨_, same⟩ | ⟨gap, member, same, _⟩ := overall_cases gaps
    · rw [same]
      rfl
    · rw [same]
      exact (formed gap member).texts.2.1
  have routed : ∀ expected, requiredAction.lookup (overall gaps).1 = some expected →
      (overall gaps).2.holds expected = true := by
    obtain ⟨_, same⟩ | ⟨gap, member, same, _⟩ := overall_cases gaps
    · rw [same]
      exact required_holds rfl
    · rw [same]
      exact (formed gap member).action
  have next : host.str ((Json.str (overall gaps).2).or (.str "")) = (overall gaps).2 := by
    rw [Json.or, Json.truthy, filled]
    rfl
  have unrouted : actionErrors host (.str (overall gaps).1) (overall gaps).2 = [] := by
    have called : host.str (.str (overall gaps).1) = (overall gaps).1 := rfl
    rw [actionErrors, called]
    cases required : requiredAction.lookup (overall gaps).1 with
    | none => rfl
    | some expected => simp [routed expected required, errorIf]
  have provenance : provenanceErrors (reportOf gaps inputs).toDict = .ok [] := by
    simp [provenanceErrors, subsection_obj recorded, derived, pod, errorIf_iff_nil]
  have terms (acceptance : Dict) : subsection (.obj [("acceptance", .obj acceptance)]) "acceptance" = .ok acceptance :=
    subsection_obj rfl
  have optional (condition : Bool) : (if condition = true then provenanceErrors (reportOf gaps inputs).toDict
      else .ok []) = .ok [] := by
    rw [provenance, ite_self]
  have reduced (acceptance : Dict) : validateGapClassification host (reportOf gaps inputs).toDict
      [("acceptance", .obj acceptance)] = .ok [] ↔ ∀ gap ∈ gaps, gap.axis.truthy = true := by
    rw [← gapsErrors_iff host inputs formed]
    simp only [validateGapClassification, state, unverified, classification, action, listed, next,
      Json.among_str known, ok_bind, terms, optional, unrouted, filled, bind_ok, pure_ok, List.append_eq_nil_iff,
      errorIf_iff_nil, Bool.not_true, true_and, and_true, exists_eq_right]
  exact ⟨fun accepted => (reduced []).mp (accepted []), fun named acceptance => (reduced acceptance).mpr named⟩

end Report

/-! ## When every finding is routed by its meaning -/

/-- A property of the gaps that the findings decide. -/
theorem forall_of_fits {fs : List Finding} {gs : List Gap} {P : Finding → Prop} {Q : Gap → Prop}
    (pairs : List.Forall₂ Fits fs gs) (same : ∀ f g, Fits f g → (Q g ↔ P f)) : (∀ g ∈ gs, Q g) ↔ ∀ f ∈ fs, P f := by
  induction pairs with
  | nil => exact ⟨fun _ => nofun, fun _ => nofun⟩
  | cons here _ ih => rw [List.forall_mem_cons, List.forall_mem_cons, ih, same _ _ here]

theorem about_of_fits {fs : List Finding} {gs : List Gap} (pairs : List.Forall₂ Fits fs gs) :
    List.Forall₂ About fs gs ↔ ∀ f ∈ fs, f.unlisted = false := by
  induction pairs with
  | nil => exact ⟨fun _ => nofun, fun _ => .nil⟩
  | @cons f g _ _ here _ ih =>
    rw [List.forall₂_cons, List.forall_mem_cons, ih]
    refine and_congr_left fun _ => ?_
    have known := here.formed.cls
    constructor
    · intro about
      refine Bool.eq_false_iff.mpr fun unlisted => ?_
      have again := here.again.mpr (.inr unlisted)
      have apart : f.unestablished = false := by
        cases f with
        | result entry =>
          obtain ⟨name, member, same⟩ := List.any_eq_true.mp unlisted
          obtain rfl := List.mem_singleton.mp member
          rw [Finding.unestablished, verdictIs_str ((Json.eq_str_right _ _).mp same)]
          decide
        | capability axis => cases unlisted
      rw [about.again again] at apart
      cases apart
    · intro listed
      refine ⟨here.axis, fun again => (here.again.mp again).resolve_right (by simp [listed]), fun established => ?_⟩
      have other : g.cls ≠ "UNVERIFIED" := fun again => by simpa [established, listed] using here.again.mp again
      simp only [classes, List.mem_cons, List.not_mem_nil, or_false] at known
      simp only [adaptationClasses, List.mem_cons, List.not_mem_nil, or_false]
      tauto

/-- No result has the verdict that the classifier's table lacks, and the axes that are findings have
names. -/
structure Routable (support found : Dict) : Prop where
  classified : ∀ entry ∈ listed (Dict.getD support "results" .null),
    Dict.getD entry "verdict" .null ≠ .str "UPSTREAM_VENDORED_VARIANT"
  named : ∀ axis ∈ listed (Dict.getD found "axes" .null), lacking axis = true →
    (Dict.getD axis "axis" .null).truthy = true

theorem routable_iff {support found : Dict} :
    Routable support found ↔ (∀ f ∈ findings support found, f.unlisted = false) ∧
      ∀ f ∈ findings support found, (f.axisOf.getD .null).truthy = true := by
  have vendored (entry : Dict) : (Finding.result entry).unlisted = false ↔
      Dict.getD entry "verdict" .null ≠ .str "UPSTREAM_VENDORED_VARIANT" := by
    simp [Finding.unlisted, verdictIs, Bool.eq_false_iff]
  have unready (entry : Dict) (other : ready entry = true) :
      Dict.getD entry "verdict" .null ≠ .str "UPSTREAM_VENDORED_VARIANT" := by
    intro judged
    rw [ready, verdictIs_str judged] at other
    revert other
    decide
  constructor
  · rintro ⟨listed, named⟩
    refine ⟨fun f member => ?_, fun f member => ?_⟩
    · rcases List.mem_append.mp member with member | member
      · obtain ⟨entry, kept, rfl⟩ := List.mem_map.mp member
        exact (vendored entry).mpr (listed entry (List.mem_filter.mp kept).1)
      · obtain ⟨axis, _, rfl⟩ := List.mem_map.mp member
        rfl
    · rcases List.mem_append.mp member with member | member
      · obtain ⟨entry, _, rfl⟩ := List.mem_map.mp member
        rfl
      · obtain ⟨axis, kept, rfl⟩ := List.mem_map.mp member
        obtain ⟨inside, lacks⟩ := List.mem_filter.mp kept
        exact named axis inside lacks
  · rintro ⟨classified, named⟩
    refine ⟨fun entry member => ?_, fun axis member lacks => ?_⟩
    · cases other : ready entry with
      | true => exact unready entry other
      | false =>
        have kept : entry ∈ (listed (Dict.getD support "results" .null)).filter fun entry => !ready entry :=
          List.mem_filter.mpr ⟨member, by rw [other]; rfl⟩
        exact (vendored entry).mp (classified _ (List.mem_append_left _ (List.mem_map_of_mem kept)))
    · have kept := List.mem_filter.mpr ⟨member, lacks⟩
      exact named (.capability axis) (List.mem_append_right _ (List.mem_map_of_mem kept))

/-- Two accepted reports are routed by meaning exactly if they are routable. -/
theorem classify_routes_iff (host : Host) (sorted : List Json → Except Exn Text) (support found contract terms : Dict)
    (scanned : ModelScan.validateSupportCard host support contract = .ok [])
    (matched : Capability.validateCapabilityMatch host sorted found terms = .ok []) :
    (∃ report, classify host support found = .ok report ∧ Routed host support found report) ↔
      Routable support found := by
  obtain ⟨entries, results, _, each⟩ := ModelScan.validateSupportCard_nil scanned
  obtain ⟨axes, sound⟩ := Capability.validateCapabilityMatch_nil matched
  obtain ⟨state, pod⟩ := ModelScan.validateSupportCard_named scanned
  obtain ⟨gaps, pairs, ran⟩ := classify_ok host results
    (fun entry member => ModelScan.entryErrors_verdict (each entry member)) sound
  have formed : ∀ gap ∈ gaps, Formed gap := by
    intro gap member
    obtain ⟨f, _, fits⟩ := forall₂_member pairs.flip member
    exact fits.formed
  have derived : (Dict.getD found "verdict" .null).truthy = true := by
    obtain ⟨name, known, judged⟩ := sound.verdict
    have filled : ∀ t ∈ Capability.overallVerdicts, t.isEmpty = false := by decide
    rw [judged, Json.truthy, filled name known]
    rfl
  have accepted := report_accepted host [("scan_state", Dict.getD support "state" .null),
    ("match_verdict", Dict.getD found "verdict" .null), ("scanned_in", Dict.getD support "scanned_in" .null),
    ("matched_in", Dict.getD found "matched_in" .null)] formed ⟨by rw [state]; rfl, derived⟩ pod
  rw [routable_iff, ← about_of_fits pairs, ← forall_of_fits (Q := fun gap => gap.axis.truthy = true) pairs
    fun f g fits => by rw [fits.axis]; rfl]
  constructor
  · rintro ⟨report, here, routed⟩
    obtain rfl := Except.ok.inj (ran.symm.trans here)
    exact ⟨routed.gaps, accepted.mp routed.accepted⟩
  · rintro ⟨about, named⟩
    refine ⟨_, ran, accepted.mpr named, about, ?_, ?_⟩
    · obtain ⟨rfl, same⟩ | ⟨gap, member, same, _⟩ := overall_cases gaps
      · exact ⟨fun _ => rfl, fun _ => rfl⟩
      · have apart := (formed gap member).cls.2
        have first : (overall gaps).1 = gap.cls := congrArg Prod.fst same
        refine ⟨fun here => absurd (first.symm.trans here) apart, ?_⟩
        rintro rfl
        cases member
    · rintro blocking
      obtain ⟨rfl, _⟩ | ⟨gap, member, same, first⟩ := overall_cases gaps
      · obtain ⟨g, member, _⟩ := blocking
        cases member
      · exact ⟨gap, member, first blocking, congrArg Prod.fst same⟩

/-! A model that has to be written, and a match that lacks an axis. -/

def absentEntry : Dict :=
  [("architecture", .str "FooForCausalLM"), ("verdict", .str "ABSENT"), ("meaning", .str "no implementation anywhere"),
    ("main_lookup", .str "NOT_FOUND"), ("pr_lookup", .str "NOT_FOUND")]

def absentCard : Dict :=
  [("state", .str "SCAN_READY"), ("scanned_in", .str "pod"), ("results", .arr [.obj absentEntry])]

def moeAxis : Dict :=
  [("axis", .str "moe"), ("required", .int 8), ("evidence", .str "ABSENT"), ("verdict", .str "NOT_PROVIDED")]

def moeMatch : Dict :=
  [("state", .str "MATCH_READY"), ("runtime_verified", .bool false), ("matched_in", .str "pod"),
    ("verdict", .str "MISMATCH"), ("axes", .arr [.obj moeAxis]), ("blocking_axes", .arr [.str "moe"]),
    ("unknown_axes", .arr [])]

theorem classify_routes_absent : ∃ report, classify Host.sample absentCard moeMatch = .ok report ∧
    Routed Host.sample absentCard moeMatch report := by
  refine (classify_routes_iff Host.sample (fun _ => .ok "") absentCard moeMatch [] [] rfl rfl).mpr ⟨?_, ?_⟩
  · have results : listed (Dict.getD absentCard "results" .null) = [absentEntry] := rfl
    rw [results, List.forall_mem_singleton]
    exact fun same => absurd (Json.str.inj same) (by decide)
  · have axes : listed (Dict.getD moeMatch "axes" .null) = [moeAxis] := rfl
    rw [axes, List.forall_mem_singleton]
    exact fun _ => rfl

/-- A model that upstream ships once per accelerator. -/
def vendoredCard : Dict :=
  [("state", .str "SCAN_READY"), ("scanned_in", .str "pod"),
    ("results", .arr [.obj [("architecture", .str "MiniMaxM3SparseForConditionalGeneration"),
      ("verdict", .str "UPSTREAM_VENDORED_VARIANT"), ("meaning", .str "written for other hardware"),
      ("backend_variant", .obj [("selected_variant", .str "nvidia"),
        ("backend_variants_present", .arr [.str "amd", .str "nvidia"]),
        ("variant_hard_dependencies", .obj [("unregistered_custom_ops", .arr [.str "fused_insert"])])])]])]

/-- An established finding is sent back to the scan. -/
theorem classify_vendored : ModelScan.validateSupportCard Host.sample vendoredCard [] = .ok [] ∧
    Capability.validateCapabilityMatch Host.sample (fun _ => .ok "") moeMatch [] = .ok [] ∧
    ¬∃ report, classify Host.sample vendoredCard moeMatch = .ok report ∧
      Routed Host.sample vendoredCard moeMatch report := by
  refine ⟨rfl, rfl, ?_⟩
  rintro ⟨report, ran, routed⟩
  have gaps := routed.gaps
  obtain rfl := Except.ok.inj ran
  cases gaps with
  | cons first _ => exact nomatch first.again rfl

end Gaps
end InferForge

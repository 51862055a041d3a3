import InferForge.Host
import InferForge.Numerics.Rounded
import InferForge.Py.Ordered

/-! Layer swap: two captures of one run of tokens, compared stage by stage, and the verdict over the
stages that could be compared. -/
namespace InferForge.LayerSwap
open Py

/-- What the comparison takes from `torch`. -/
structure Library where
  Tensor : Type
  shape : Tensor → List Nat
  float : Tensor → Tensor
  sub : Tensor → Tensor → Tensor
  norm : Tensor → Double
  /-- The quotient of two norms, as a Python float. -/
  div : Double → Double → Double

/-- A value of a capture, which need not be a tensor. -/
inductive Recorded (T : Type) where
  | tensor (t : T)
  | other

abbrev Capture (library : Library) := List (Text × Recorded library.Tensor)

/-- `torch.is_tensor(capture.get(key))`. -/
def tensor? (capture : Capture library) (stage : Text) : Option library.Tensor :=
  match capture.lookup stage with
  | some (.tensor t) => some t
  | _ => none

/-- A directory with a capture and its manifest. -/
structure Leg (library : Library) where
  dir : Text
  capture : Capture library
  manifest : Dict

inductive Verdict where
  | passed
  | failed
  | skipped
  | incomparable
deriving DecidableEq

def Verdict.text : Verdict → Text
  | passed => "PASS"
  | failed => "FAIL"
  | skipped => "SKIPPED"
  | incomparable => "INCOMPARABLE"

/-- One entry of `stages`. -/
inductive StageReport where
  | skipped (stage : Text)
  | incomparable (stage : Text) (got want : List Nat)
  | compared (stage : Text) (relL2 normCapture normReference : Double) (verdict : Verdict)

namespace StageReport

def stage : StageReport → Text
  | skipped stage | incomparable stage .. | compared stage .. => stage

def verdict : StageReport → Verdict
  | skipped _ => .skipped
  | incomparable .. => .incomparable
  | compared _ _ _ _ verdict => verdict

/-- `s["rel_l2"]`, where the stage was compared. -/
def relL2 : StageReport → Option Double
  | compared _ relL2 .. => some relL2
  | _ => none

/-- `list(shape)`, as it is shown. -/
def shownShape (shape : List Nat) : Text :=
  "[" ++ Text.join ", " (shape.map Text.ofNat) ++ "]"

def toDict : StageReport → Dict
  | skipped stage =>
      [("stage", .str stage), ("verdict", .str Verdict.skipped.text),
        ("detail", .str "absent or non-tensor on one side")]
  | incomparable stage got want =>
      [("stage", .str stage), ("verdict", .str Verdict.incomparable.text),
        ("detail", .str ("shape " ++ shownShape got ++ " vs " ++ shownShape want))]
  | compared stage relL2 normCapture normReference verdict =>
      [("stage", .str stage), ("rel_l2", .float relL2), ("norm_capture", .float normCapture),
        ("norm_reference", .float normReference), ("verdict", .str verdict.text)]

end StageReport

/-- What `compare_captures` returns. -/
inductive Report where
  | otherTokens (capture reference : Json)
  | nothingShared (stages : List StageReport)
  | judged (verdict : Verdict) (tolerance : Double) (worst : Text × Double)
      (stages : List StageReport) (capture reference : Text × Json)

namespace Report

/-- `report["state"]`. -/
def state : Report → Verdict
  | otherTokens .. | nothingShared _ => .incomparable
  | judged verdict .. => verdict

def stages : Report → List StageReport
  | otherTokens .. => []
  | nothingShared stages | judged _ _ _ stages .. => stages

def toDict (host : Host) : Report → Dict
  | otherTokens capture reference =>
      [("state", .str Verdict.incomparable.text),
        ("reason", .str ("captures used different tokens: " ++ host.str capture ++ " vs " ++
          host.str reference))]
  | nothingShared stages =>
      [("state", .str Verdict.incomparable.text),
        ("reason", .str "no shared tensor stages between the two legs"),
        ("stages", .arr (stages.map fun s => .obj s.toDict))]
  | judged verdict tolerance worst stages capture reference =>
      [("state", .str verdict.text), ("tolerance", .float tolerance),
        ("worst_stage", .str worst.1), ("worst_rel_l2", .float worst.2),
        ("stages", .arr (stages.map fun s => .obj s.toDict)),
        ("capture", .obj [("dir", .str capture.1), ("next_token", capture.2)]),
        ("reference", .obj [("dir", .str reference.1), ("next_token", reference.2)])]

end Report

section Comparison
variable (library : Library) (tolerance : Double)

/-- `float((got.float() - want.float()).norm() / want.float().norm())`. -/
def relL2 (got want : library.Tensor) : Double :=
  library.div (library.norm (library.sub (library.float got) (library.float want)))
    (library.norm (library.float want))

/-- The body of the loop over the stages. -/
def compareStage (capture reference : Capture library) (stage : Text) : StageReport :=
  match tensor? capture stage, tensor? reference stage with
  | some got, some want =>
      if library.shape got ≠ library.shape want then
        .incomparable stage (library.shape got) (library.shape want)
      else
        let rel := relL2 library got want
        .compared stage rel (library.norm (library.float got)) (library.norm (library.float want))
          (if rel.le tolerance then .passed else .failed)
  | _, _ => .skipped stage

/-- `max(compared, key=lambda s: s["rel_l2"])`, from the first. -/
def worstOf (first : Text × Double) (rest : List (Text × Double)) : Text × Double :=
  rest.foldl (fun worst s => if worst.2.below s.2 then s else worst) first

/-- The report on compared legs; each comes with its directory and its next token. -/
def overall (stages : List StageReport) (capture reference : Text × Json) : Report :=
  let compared := stages.filter fun s => s.relL2.isSome
  match compared.filterMap fun s => s.relL2.map (s.stage, ·) with
  | [] => .nothingShared stages
  | first :: rest =>
      .judged (if compared.all fun s => s.verdict = .passed then .passed else .failed) tolerance
        (worstOf first rest) stages capture reference

def compareCaptures (capture reference : Leg library) : Report :=
  let captureTokens := capture.manifest.getD "tokens" .null
  let referenceTokens := reference.manifest.getD "tokens" .null
  if !captureTokens.eq referenceTokens then .otherTokens captureTokens referenceTokens
  else
    let keys := sortedSet (capture.capture.map Prod.fst ++ reference.capture.map Prod.fst)
    overall tolerance (keys.map (compareStage library tolerance capture.capture reference.capture))
      (capture.dir, capture.manifest.getD "next_token" .null)
      (reference.dir, reference.manifest.getD "next_token" .null)

end Comparison

/-! What a report says about the stages. -/

section Stages
variable {library : Library} {tolerance : Double} {capture reference : Leg library}

/-- The tensors that a stage has on both legs. -/
def Shared (capture reference : Leg library) (stage : Text) (got want : library.Tensor) : Prop :=
  tensor? capture.capture stage = some got ∧ tensor? reference.capture stage = some want

/-- A stage that is a tensor of one shape on both legs. -/
def Comparable (capture reference : Leg library) (stage : Text) (got want : library.Tensor) : Prop :=
  Shared capture reference stage got want ∧ library.shape got = library.shape want

/-- The legs were recorded for the same tokens. -/
def SameTokens (capture reference : Leg library) : Prop :=
  (capture.manifest.getD "tokens" .null).eq (reference.manifest.getD "tokens" .null) = true

/-- The stages of either leg. -/
def stageNames (capture reference : Leg library) : List Text :=
  capture.capture.map Prod.fst ++ reference.capture.map Prod.fst

theorem tensor?_mem {capture : Capture library} (found : tensor? capture stage = some got) :
    stage ∈ capture.map Prod.fst := by
  unfold tensor? at found
  cases entry : capture.lookup stage with
  | none => simp [entry] at found
  | some value => exact List.mem_map_of_mem (mem_of_lookup entry)

theorem Shared.listed (shared : Shared capture reference stage got want) :
    stage ∈ sortedSet (stageNames capture reference) :=
  mem_sortedSet.mpr (List.mem_append_left _ (tensor?_mem shared.1))

@[simp] theorem compareStage_stage (capture reference : Capture library) (stage : Text) :
    (compareStage library tolerance capture reference stage).stage = stage := by
  unfold compareStage
  split
  · split <;> rfl
  · rfl

theorem Comparable.compareStage (here : Comparable capture reference stage got want) :
    compareStage library tolerance capture.capture reference.capture stage =
      .compared stage (relL2 library got want) (library.norm (library.float got))
        (library.norm (library.float want))
        (if (relL2 library got want).le tolerance then .passed else .failed) := by
  obtain ⟨⟨left, right⟩, same⟩ := here
  simp only [LayerSwap.compareStage, left, right, if_neg (not_not.mpr same)]

/-- The verdict of each stage is decided by what the legs hold under its name. -/
theorem compareStage_verdict (stage : Text) :
    let s := compareStage library tolerance capture.capture reference.capture stage
    (s.relL2.isSome = true ↔ ∃ got want, Comparable capture reference stage got want) ∧
      (s.verdict = .skipped ↔ ¬ ∃ got want, Shared capture reference stage got want) ∧
      (s.verdict = .incomparable ↔ ∃ got want, Shared capture reference stage got want ∧
        library.shape got ≠ library.shape want) ∧
      (s.verdict = .passed ↔ ∃ got want, Comparable capture reference stage got want ∧
        (relL2 library got want).le tolerance = true) := by
  dsimp only
  unfold compareStage Comparable Shared
  cases left : tensor? capture.capture stage with
  | none => simp [StageReport.relL2, StageReport.verdict]
  | some got =>
    cases right : tensor? reference.capture stage with
    | none => simp [StageReport.relL2, StageReport.verdict]
    | some want =>
      by_cases same : library.shape got = library.shape want
      · cases within : (relL2 library got want).le tolerance <;>
          simp [StageReport.relL2, StageReport.verdict, same, within]
      · simp [StageReport.relL2, StageReport.verdict, same]

theorem overall_stages (stages : List StageReport) (left right : Text × Json) :
    (overall tolerance stages left right).stages = stages := by
  unfold overall
  dsimp only
  split <;> rfl

/-- The state folds over the stages that gave a distance. -/
theorem overall_passed (stages : List StageReport) (left right : Text × Json) :
    (overall tolerance stages left right).state = .passed ↔
      (∃ s ∈ stages, s.relL2.isSome = true) ∧
        ∀ s ∈ stages, s.relL2.isSome = true → s.verdict = .passed := by
  have measured : (stages.filter fun s => s.relL2.isSome).filterMap (fun s => s.relL2.map (s.stage, ·)) =
      [] ↔ ¬ ∃ s ∈ stages, s.relL2.isSome = true := by
    simp [List.filterMap_eq_nil_iff, Option.isSome_iff_ne_none]
  unfold overall
  dsimp only
  split
  · next none =>
    constructor
    · intro passed
      cases passed
    · rintro ⟨shared, _⟩
      exact absurd shared (measured.mp none)
  · next first rest listed =>
    have shared : ∃ s ∈ stages, s.relL2.isSome = true := by
      by_contra none
      rw [measured.mpr none] at listed
      cases listed
    have folded : ((stages.filter fun s => s.relL2.isSome).all fun s => s.verdict = .passed) = true ↔
        ∀ s ∈ stages, s.relL2.isSome = true → s.verdict = .passed := by
      simp only [List.all_eq_true, List.mem_filter, decide_eq_true_eq, and_imp]
    simp only [Report.state, shared, true_and, ← folded]
    cases (stages.filter fun s => s.relL2.isSome).all fun s => s.verdict = .passed <;> simp

/-- The comparison of two legs recorded for the same tokens. -/
theorem compareCaptures_same (same : SameTokens capture reference) :
    compareCaptures library tolerance capture reference =
      overall tolerance ((sortedSet (stageNames capture reference)).map
          (compareStage library tolerance capture.capture reference.capture))
        (capture.dir, capture.manifest.getD "next_token" .null)
        (reference.dir, reference.manifest.getD "next_token" .null) := by
  unfold compareCaptures
  unfold SameTokens at same
  simp only [same, Bool.not_true, Bool.false_eq_true, if_false]
  rfl

/-- The state passes when there is a comparable stage and each of them is within the tolerance. -/
theorem compareCaptures_passed (same : SameTokens capture reference) :
    (compareCaptures library tolerance capture reference).state = .passed ↔
      (∃ stage got want, Comparable capture reference stage got want) ∧
        ∀ stage got want, Comparable capture reference stage got want →
          (relL2 library got want).le tolerance = true := by
  rw [compareCaptures_same same, overall_passed]
  constructor
  · rintro ⟨⟨s, member, measured⟩, all⟩
    obtain ⟨stage, _, rfl⟩ := List.mem_map.mp member
    obtain ⟨got, want, here⟩ := (compareStage_verdict stage).1.mp measured
    refine ⟨⟨stage, got, want, here⟩, fun stage got want here => ?_⟩
    have passed := all _ (List.mem_map_of_mem here.1.listed)
      ((compareStage_verdict stage).1.mpr ⟨got, want, here⟩)
    rw [here.compareStage] at passed
    by_contra other
    rw [StageReport.verdict, if_neg other] at passed
    cases passed
  · rintro ⟨⟨stage, got, want, here⟩, within⟩
    refine ⟨⟨_, List.mem_map_of_mem here.1.listed, ?_⟩, fun s member measured => ?_⟩
    · exact (compareStage_verdict stage).1.mpr ⟨got, want, here⟩
    · obtain ⟨stage, _, rfl⟩ := List.mem_map.mp member
      obtain ⟨got, want, here⟩ := (compareStage_verdict stage).1.mp measured
      exact (compareStage_verdict stage).2.2.2.mpr ⟨got, want, here, within _ _ _ here⟩

/-- The entries account for every stage of either leg. -/
structure Accounts (tolerance : Double) (capture reference : Leg library)
    (stages : List StageReport) : Prop where
  distinct : (stages.map StageReport.stage).Nodup
  complete : ∀ stage, stage ∈ stages.map StageReport.stage ↔ stage ∈ stageNames capture reference
  verdicts : ∀ s ∈ stages,
    (s.verdict = .passed ↔ ∃ got want, Comparable capture reference s.stage got want ∧
      (relL2 library got want).le tolerance = true) ∧
    (s.verdict = .incomparable ↔ ∃ got want, Shared capture reference s.stage got want ∧
      library.shape got ≠ library.shape want) ∧
    (s.verdict = .skipped ↔ ¬ ∃ got want, Shared capture reference s.stage got want)

theorem stages_account : Accounts tolerance capture reference
    ((sortedSet (stageNames capture reference)).map
      (compareStage library tolerance capture.capture reference.capture)) := by
  have named : ((sortedSet (stageNames capture reference)).map
      (compareStage library tolerance capture.capture reference.capture)).map StageReport.stage =
        sortedSet (stageNames capture reference) := by
    rw [List.map_map]
    exact List.map_id'' (fun stage => compareStage_stage _ _ stage) _
  constructor
  · rw [named]
    exact nodup_sortedSet _
  · intro stage
    rw [named, mem_sortedSet]
  · intro s member
    obtain ⟨stage, _, rfl⟩ := List.mem_map.mp member
    obtain ⟨_, skipped, incomparable, passed⟩ := compareStage_verdict stage
    rw [compareStage_stage]
    exact ⟨passed, incomparable, skipped⟩

/-- A report that passes has compared every stage that is a tensor of one shape on both legs; the
report lists every stage of either leg, the others under verdicts of their own. -/
theorem passed_compared (library : Library) (tolerance : Double) (capture reference : Leg library)
    (same : SameTokens capture reference) :
    ((compareCaptures library tolerance capture reference).state = .passed →
      (∃ stage got want, Comparable capture reference stage got want) ∧
        ∀ stage got want, Comparable capture reference stage got want →
          (relL2 library got want).le tolerance = true) ∧
    ((∀ stage got want, Shared capture reference stage got want →
        library.shape got = library.shape want ∧ (relL2 library got want).le tolerance = true) →
      (∃ stage got want, Shared capture reference stage got want) →
        (compareCaptures library tolerance capture reference).state = .passed) ∧
    Accounts tolerance capture reference (compareCaptures library tolerance capture reference).stages := by
  refine ⟨(compareCaptures_passed same).mp, fun alike ⟨stage, got, want, shared⟩ => ?_, ?_⟩
  · apply (compareCaptures_passed same).mpr
    refine ⟨⟨stage, got, want, shared, (alike _ _ _ shared).1⟩, fun stage got want here => ?_⟩
    exact (alike _ _ _ here.1).2
  · rw [compareCaptures_same same, overall_stages]
    exact stages_account

/-! Two legs that share one stage in one shape, and one in two. -/

/-- Tensors with one number besides their shape. -/
def Library.sample : Library where
  Tensor := List Nat × Rat
  shape := Prod.fst
  float := id
  sub a b := (a.1, a.2 - b.2)
  norm t := .fin |t.2|
  div := Rounding.exact.div

def swapLeg (rows : Nat) : Leg .sample where
  dir := "capture"
  capture := [("layers.0.in", .tensor ([6, 32], 1)), ("layers.0.out", .tensor ([rows, 32], 1))]
  manifest := [("tokens", .arr [.int 1]), ("next_token", .int 1)]

theorem swapLeg_tokens (rows other : Nat) : SameTokens (swapLeg rows) (swapLeg other) := rfl

theorem passed_compared_legs :
    (compareCaptures .sample (.fin (1 / 20)) (swapLeg 6) (swapLeg 6)).state = .passed ∧
      ∃ stage got want, Comparable (swapLeg 6) (swapLeg 6) stage got want := by
  have passed : (compareCaptures .sample (.fin (1 / 20)) (swapLeg 6) (swapLeg 6)).state = .passed := by
    decide +kernel
  exact ⟨passed, ((passed_compared .sample (.fin (1 / 20)) (swapLeg 6) (swapLeg 6)
    (swapLeg_tokens 6 6)).1 passed).1⟩

/-- A stage of two shapes does not keep the report from passing. -/
theorem passed_hides : SameTokens (swapLeg 6) (swapLeg 7) ∧
    (compareCaptures .sample (.fin (1 / 20)) (swapLeg 6) (swapLeg 7)).state = .passed ∧
    ∃ got want, Shared (swapLeg 6) (swapLeg 7) "layers.0.out" got want ∧
      Library.shape .sample got ≠ Library.shape .sample want := by
  refine ⟨rfl, by decide +kernel, ([6, 32], 1), ([7, 32], 1), ⟨rfl, rfl⟩, by decide⟩

end Stages
end InferForge.LayerSwap

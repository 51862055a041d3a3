import InferForge.Runners.NumericalGate
import InferForge.Runners.PatchRollback

/-! What the grading makes of the sweep: equal correct kernels, and kernels of opposite sign. -/
namespace InferForge
open Py Effect Numerics

theorem filterAuxM_ok {α : Type} {f : α → Except Exn Bool} {g : α → Bool} (items found : List α)
    (same : ∀ a ∈ items, f a = .ok (g a)) :
    List.filterAuxM f items found = .ok ((items.filter g).reverse ++ found) := by
  induction items generalizing found with
  | nil => rfl
  | cons a rest ih =>
    have ih := fun found => ih found fun b member => same b (List.mem_cons_of_mem _ member)
    rw [List.filterAuxM, same a List.mem_cons_self, ok_bind, ih]
    cases kept : g a <;> simp [kept]

/-- A filter whose test never raises. -/
theorem filterM_ok {α : Type} {f : α → Except Exn Bool} {g : α → Bool} {items : List α}
    (same : ∀ a ∈ items, f a = .ok (g a)) : items.filterM f = .ok (items.filter g) := by
  rw [List.filterM, filterAuxM_ok items [] same, ok_bind, List.append_nil, List.reverse_reverse]
  rfl

namespace Py.Double

theorem gt_float (a b : Double) : (Json.float b).gt (.float a) = .ok (a.below b) := by
  cases a <;> cases b <;> simp [Json.gt, Json.num?, below]

/-- `min` of the doubles, from the first. -/
def least (first : Double) (rest : List Double) : Double :=
  rest.foldl (fun best x => if x.below best then x else best) first

/-- Nothing is below NaN. -/
theorem least_nan (rest : List Double) : least .nan rest = .nan := by
  induction rest with
  | nil => rfl
  | cons x rest ih =>
    have unordered : x.below .nan = false := rfl
    rw [least, List.foldl_cons, unordered]
    exact ih

/-- A minimum that starts above NaN stays there, and stays not above zero. -/
theorem least_atMostZero {first : Double} {rest : List Double} (ordered : first ≠ .nan)
    (start : first.AtMostZero) (others : ∀ x ∈ rest, x.AtMostZero) :
    least first rest ≠ .nan ∧ (least first rest).AtMostZero := by
  induction rest generalizing first with
  | nil => exact ⟨ordered, start⟩
  | cons x rest ih =>
    have others' : ∀ y ∈ rest, y.AtMostZero := fun y member => others y (List.mem_cons_of_mem _ member)
    rw [least, List.foldl_cons]
    cases smaller : x.below first with
    | false => exact ih ordered start others'
    | true =>
      have known : x ≠ .nan := by
        rintro rfl
        cases first <;> cases smaller
      exact ih known (others x List.mem_cons_self) others'

end Py.Double

section Grading
variable {torch : Torch} {vendor fallback : Kernel} {placement : Placement}

theorem entry_item (outcome : torch.compared vendor fallback g = .ok x) :
    (torch.entry vendor fallback g).item "cosine" = .ok (.float x) := by
  simp [Torch.entry, outcome, Json.item]

theorem entry_usable (g : Torch.Geometry) : mentions placement.host (torch.entry vendor fallback g) "cosine" =
    .ok (torch.compared vendor fallback g).isOk := by
  cases outcome : torch.compared vendor fallback g <;>
    simp [Torch.entry, outcome, mentions, Dict.has, Except.toBool]

/-- `min` over the entries of the geometries, from the least so far. -/
theorem minCosine_entries (gs : List Torch.Geometry) (best : Double) :
    Placement.minCosine (some (.float best))
        ((gs.filter fun g => (torch.compared vendor fallback g).isOk).map (torch.entry vendor fallback)) =
      .ok (some (.float (Double.least best
        (gs.filterMap fun g => (torch.compared vendor fallback g).toOption)))) := by
  induction gs generalizing best with
  | nil => rfl
  | cons g gs ih =>
    cases outcome : torch.compared vendor fallback g with
    | error e =>
      rw [List.filter_cons_of_neg (by simp [outcome, Except.toBool]),
        List.filterMap_cons_none (by rw [outcome]; rfl)]
      exact ih best
    | ok x =>
      rw [List.filter_cons_of_pos (by simp [outcome, Except.toBool]),
        List.filterMap_cons_some (by rw [outcome]; rfl), List.map_cons, Placement.minCosine,
        entry_item outcome, ok_bind]
      dsimp only
      rw [Double.gt_float, ok_bind, Double.least, List.foldl_cons]
      cases x.below best <;> exact ih _

/-- The least cosine of the entries, if there is one. -/
theorem minCosine_first (gs : List Torch.Geometry) :
    Placement.minCosine none
        ((gs.filter fun g => (torch.compared vendor fallback g).isOk).map (torch.entry vendor fallback)) =
      .ok (match gs.filterMap fun g => (torch.compared vendor fallback g).toOption with
        | [] => none
        | x :: rest => some (.float (Double.least x rest))) := by
  induction gs with
  | nil => rfl
  | cons g gs ih =>
    cases outcome : torch.compared vendor fallback g with
    | error e =>
      rw [List.filter_cons_of_neg (by simp [outcome, Except.toBool]),
        List.filterMap_cons_none (by rw [outcome]; rfl)]
      exact ih
    | ok x =>
      rw [List.filter_cons_of_pos (by simp [outcome, Except.toBool]),
        List.filterMap_cons_some (by rw [outcome]; rfl), List.map_cons, Placement.minCosine,
        entry_item outcome, ok_bind]
      exact minCosine_entries gs x

/-- The usable entries are those of the geometries that both kernels accept. -/
theorem usable_entries (gs : List Torch.Geometry) :
    (gs.map (torch.entry vendor fallback)).filterM
        (fun case => mentions placement.host case "cosine") =
      .ok ((gs.filter fun g => (torch.compared vendor fallback g).isOk).map
        (torch.entry vendor fallback)) := by
  have usable (case : Json) (member : case ∈ gs.map (torch.entry vendor fallback)) :
      mentions placement.host case "cosine" =
        .ok (decide (mentions placement.host case "cosine" = .ok true)) := by
    obtain ⟨g, _, rfl⟩ := List.mem_map.mp member
    rw [entry_usable]
    cases (torch.compared vendor fallback g).isOk <;> rfl
  rw [filterM_ok usable, List.filter_map]
  refine congrArg (fun kept => Except.ok (List.map _ kept)) (List.filter_congr fun g _ => ?_)
  simp only [Function.comp_apply, entry_usable]
  cases (torch.compared vendor fallback g).isOk <;> rfl

/-- The report of a placement that the cosines speak against. -/
def unconvincing (validation : Dict) : Dict :=
  [("state", .str "PATCH_REJECTED"),
    ("reason", .str "numerical evidence missing or below threshold"), ("numerical", .obj validation)]

/-- The grading of a ready server and a reproduced failure looks at the least cosine only. -/
theorem grade_sweep {server reproduction : Dict}
    (ready : Dict.getD server "state" .null = .str "DEPLOYMENT_READY")
    (reproduced : Dict.getD reproduction "reproduced" .null = .bool true) :
    placement.grade server (torch.validation vendor fallback reproduction) =
      match torch.cosines vendor fallback with
      | [] => .ok (.rejected (unconvincing (torch.validation vendor fallback reproduction)))
      | x :: rest =>
          if (Double.least x rest).below (.fin (4503149267407759 / 4503599627370496)) then
            .ok (.rejected (unconvincing (torch.validation vendor fallback reproduction)))
          else .ok (.passed (.arr (Torch.geometries.map (torch.entry vendor fallback)))
            (.float (Double.least x rest))) := by
  have some' : reproduction.isEmpty = false := by
    cases reproduction with
    | nil => cases reproduced
    | cons => rfl
  have answered : (Dict.getD (torch.validation vendor fallback reproduction) "reproduction" .null).or
      (.obj []) = .obj reproduction := by
    simp [Torch.validation, Dict.getD, Json.or, Json.truthy, some']
  have swept : (Dict.getD (torch.validation vendor fallback reproduction) "results" .null).or
      (.arr []) = .arr (Torch.geometries.map (torch.entry vendor fallback)) := by
    simp [Torch.validation, Dict.getD, Json.or, Json.truthy, Torch.geometries]
  have replayed : (Json.obj reproduction).field "reproduced" = .ok (.bool true) :=
    congrArg Except.ok reproduced
  have same : (Json.str "DEPLOYMENT_READY").eq (.str "DEPLOYMENT_READY") = true :=
    (Json.eq_str_right _ _).mpr rfl
  simp only [Placement.grade, answered, swept, same, Bool.not_true, Bool.false_eq_true, if_false, Json.elements, ok_bind, usable_entries,
    minCosine_first, ready, replayed, Torch.cosines]
  change _ = match Torch.geometries.filterMap fun g => (torch.compared vendor fallback g).toOption with
    | [] => _
    | x :: rest => _
  cases Torch.geometries.filterMap fun g => (torch.compared vendor fallback g).toOption with
  | nil => rfl
  | cons x rest =>
    simp only [agreement, Double.gt_float, ok_bind]
    rfl

end Grading

section Gate
variable (torch : Torch) (placement : Placement) (server reproduction : Dict) (vendor fallback : Kernel)

/-- The least cosine reaches `0.9999`, and the grading passes. -/
def GateAccepts : Prop :=
  ∃ x : Rat, 4503149267407759 / 4503599627370496 ≤ x ∧
    placement.grade server (torch.validation vendor fallback reproduction) =
      .ok (.passed (.arr (Torch.geometries.map (torch.entry vendor fallback))) (.float (.fin x)))

/-- The grading rejects the placement for its numerical evidence. -/
def GateRejects : Prop :=
  placement.grade server (torch.validation vendor fallback reproduction) =
    .ok (.rejected (unconvincing (torch.validation vendor fallback reproduction)))

/-- The gate tells equal correct kernels from kernels of opposite sign. -/
def GateDiscriminates : Prop :=
  (vendor.Correct torch ∧ fallback.Correct torch →
    GateAccepts torch placement server reproduction vendor fallback) ∧
  (vendor.Opposite fallback → GateRejects torch placement server reproduction vendor fallback)

end Gate
section Kernels
variable {torch : Torch} {vendor fallback : Kernel}

/-- The caches of the sweep hold zeros, so its exact outputs do as well. -/
theorem attention_sweep (g : Torch.Geometry) :
    (torch.sweepCase g).attention.map torch.half =
      List.replicate (torch.sweepCase g).attention.length (.fin 0) := by
  rw [List.eq_replicate_iff]
  refine ⟨List.length_map _, fun x member => ?_⟩
  obtain ⟨y, inside, rfl⟩ := List.mem_map.mp member
  simp only [DecodeCase.attention, List.mem_flatMap, List.mem_map] at inside
  obtain ⟨request, _, head, _, d, _, rfl⟩ := inside
  rw [attend_zero, torch.half_zero]
  intro position _
  exact Rat.cast_zero

/-- The cosine of two zero outputs is zero, not one. -/
theorem cosine_zero (n : Nat) :
    torch.cosine (List.replicate n (.fin 0)) (List.replicate n (.fin 0)) = .fin 0 := by
  have guarded : torch.single.add (torch.single.mul (.fin 0) (.fin 0)) (.fin torch.guard) =
      .fin torch.guard := by
    rw [Rounding.mul, mul_zero, torch.single.round_zero, Rounding.add, zero_add, torch.guard_single]
  rw [Torch.cosine, torch.dot_zero, torch.norm_zero, guarded, Rounding.div,
    if_neg torch.guard_pos.ne', zero_div, torch.single.round_zero]

theorem compared_correct (correct : vendor.Correct torch) (correct' : fallback.Correct torch)
    (g : Torch.Geometry) : torch.compared vendor fallback g = .ok (.fin 0) := by
  rw [Torch.compared, correct, correct', attention_sweep]
  exact congrArg Except.ok (cosine_zero _)

/-- The cosine of opposite outputs is not above zero. -/
theorem compared_opposite (opposite : vendor.Opposite fallback)
    (outcome : torch.compared vendor fallback g = .ok x) : x.AtMostZero := by
  simp only [Torch.compared, bind_ok, pure_ok] at outcome
  obtain ⟨out, ran, out', ran', rfl⟩ := outcome
  rw [opposite _ _ _ ran ran']
  apply Rounding.div_atMostZero (torch.dot_opposite out)
  exact Rounding.add_atLeastZero (Rounding.mul_atLeastZero (torch.norm_nonneg _) (torch.norm_nonneg _))
    torch.guard_pos.le

theorem mem_cosines {x : Double} : x ∈ torch.cosines vendor fallback ↔
    ∃ g ∈ Torch.geometries, torch.compared vendor fallback g = .ok x := by
  rw [Torch.cosines, List.mem_filterMap]
  apply exists_congr
  intro g
  cases torch.compared vendor fallback g <;> simp [Except.toOption]

/-- A first cosine that is NaN hides the others. -/
theorem passes_nan {placement : Placement} {server reproduction : Dict}
    (ready : Dict.getD server "state" .null = .str "DEPLOYMENT_READY")
    (reproduced : Dict.getD reproduction "reproduced" .null = .bool true)
    (hidden : (torch.cosines vendor fallback).head? = some .nan) :
    ¬ GateRejects torch placement server reproduction vendor fallback := by
  unfold GateRejects
  rw [grade_sweep ready reproduced]
  obtain ⟨rest, same⟩ : ∃ rest, torch.cosines vendor fallback = .nan :: rest := by
    cases found : torch.cosines vendor fallback with
    | nil => simp [found] at hidden
    | cons x rest =>
      obtain rfl : x = .nan := by simpa [found] using hidden
      exact ⟨rest, rfl⟩
  rw [same]
  dsimp only
  rw [Double.least_nan, if_neg (by simp [Double.below])]
  rintro ⟨⟩

/-- Cosines that are not above zero are rejected, unless the first is NaN. -/
theorem rejects_atMostZero {placement : Placement} {server reproduction : Dict}
    (ready : Dict.getD server "state" .null = .str "DEPLOYMENT_READY")
    (reproduced : Dict.getD reproduction "reproduced" .null = .bool true)
    (low : ∀ x ∈ torch.cosines vendor fallback, x.AtMostZero)
    (seen : (torch.cosines vendor fallback).head? ≠ some .nan) :
    GateRejects torch placement server reproduction vendor fallback := by
  unfold GateRejects
  rw [grade_sweep ready reproduced]
  cases found : torch.cosines vendor fallback with
  | nil => rfl
  | cons x rest =>
    rw [found] at low seen
    have ordered : x ≠ .nan := fun same => seen (congrArg some same)
    obtain ⟨known, least⟩ := Double.least_atMostZero ordered (low x List.mem_cons_self)
      fun y member => low y (List.mem_cons_of_mem _ member)
    have below : (Double.least x rest).below (.fin (4503149267407759 / 4503599627370496)) = true := by
      generalize Double.least x rest = minimum at known least
      cases minimum with
      | nan => exact absurd rfl known
      | inf negative => exact least
      | fin q =>
        apply decide_eq_true
        apply lt_of_le_of_lt (show q ≤ 0 from least)
        norm_num
    dsimp only
    rw [if_pos below]

/-- Equal correct kernels are rejected. -/
theorem rejects_correct {placement : Placement} {server reproduction : Dict}
    (ready : Dict.getD server "state" .null = .str "DEPLOYMENT_READY")
    (reproduced : Dict.getD reproduction "reproduced" .null = .bool true)
    (correct : vendor.Correct torch) (correct' : fallback.Correct torch) :
    GateRejects torch placement server reproduction vendor fallback := by
  have zero (x : Double) (member : x ∈ torch.cosines vendor fallback) : x = .fin 0 := by
    obtain ⟨g, _, outcome⟩ := mem_cosines.mp member
    exact Except.ok.inj (outcome.symm.trans (compared_correct correct correct' g))
  apply rejects_atMostZero ready reproduced
  · intro x member
    rw [zero x member]
    exact le_rfl
  · intro first
    cases zero _ (List.mem_of_mem_head? first)

end Kernels

/-- The gate never accepts equal correct kernels: their outputs on the sweep are zero, and so is every
cosine. It rejects kernels of opposite sign, unless the first cosine of the sweep is NaN. -/
theorem gate_discriminates (torch : Torch) (placement : Placement) (server reproduction : Dict)
    (vendor fallback : Kernel)
    (ready : Dict.getD server "state" .null = .str "DEPLOYMENT_READY")
    (reproduced : Dict.getD reproduction "reproduced" .null = .bool true) :
    GateDiscriminates torch placement server reproduction vendor fallback ↔
      ¬ (vendor.Correct torch ∧ fallback.Correct torch) ∧
      (vendor.Opposite fallback → (torch.cosines vendor fallback).head? ≠ some .nan) := by
  constructor
  · rintro ⟨accepts, rejects⟩
    constructor
    · rintro ⟨correct, correct'⟩
      obtain ⟨x, _, passed⟩ := accepts ⟨correct, correct'⟩
      cases (rejects_correct ready reproduced correct correct').symm.trans passed
    · intro opposite hidden
      exact passes_nan ready reproduced hidden (rejects opposite)
  · rintro ⟨incorrect, seen⟩
    refine ⟨fun correct => absurd correct incorrect, fun opposite => ?_⟩
    apply rejects_atMostZero ready reproduced _ (seen opposite)
    intro x member
    obtain ⟨g, _, outcome⟩ := mem_cosines.mp member
    exact compared_opposite opposite outcome

/-- The number that a finite double is. -/
def Py.Double.value : Double → Rat
  | .fin x => x
  | _ => 0

theorem Py.Double.value_neg (x : Double) : x.neg.value = -x.value := by
  cases x <;> simp [neg, value]

/-- A `torch` whose queries are zero, and whose arithmetic on finite numbers is exact. -/
noncomputable def Torch.sample : Torch where
  single := .exact
  half x := .fin (⌊x * 256⌋ / 256)
  half_zero := by simp
  dot a b := .fin ((a.zip b).map fun pair => pair.1.value * pair.2.value).sum
  norm a := .fin (a.map fun x => |x.value|).sum
  randn _ _ _ _ := .fin 0
  inverseRoot _ := .fin 1
  guard := 1 / 10 ^ 12
  guard_pos := by norm_num
  guard_single := rfl
  dot_zero n := by simp [Double.value]
  norm_zero n := by simp [Double.value]
  norm_nonneg v := by
    apply List.sum_nonneg
    intro x member
    obtain ⟨y, _, rfl⟩ := List.mem_map.mp member
    exact abs_nonneg _
  dot_opposite v := by
    change List.sum _ ≤ 0
    induction v with
    | nil => exact le_rfl
    | cons x v ih =>
      simp only [List.map_cons, List.zip_cons_cons, List.sum_cons, Double.value_neg]
      have square := mul_self_nonneg x.value
      linarith

/-- The kernel that stores the exact output. -/
noncomputable def exactKernel (torch : Torch) : Kernel := fun case =>
  .ok (case.attention.map torch.half)

/-- Two copies of the exact kernel do not pass the gate. -/
theorem gate_discriminates_fails : ¬ GateDiscriminates .sample (.sample "DEPLOYMENT_READY" [])
    [("state", .str "DEPLOYMENT_READY")] [("reproduced", .bool true)] (exactKernel .sample)
    (exactKernel .sample) := by
  rintro ⟨accepts, _⟩
  obtain ⟨x, _, passed⟩ := accepts ⟨fun _ => rfl, fun _ => rfl⟩
  have rejected : GateRejects .sample (.sample "DEPLOYMENT_READY" [])
      [("state", .str "DEPLOYMENT_READY")] [("reproduced", .bool true)] (exactKernel .sample)
      (exactKernel .sample) := rejects_correct rfl rfl (fun _ => rfl) fun _ => rfl
  cases rejected.symm.trans passed

/-- A kernel that stores one number everywhere. -/
def constantKernel (x : Rat) : Kernel := fun case =>
  .ok (List.replicate (case.batch * case.heads * case.dim) (.fin x))

/-- The cosine of `Torch.sample` is a number. -/
theorem sample_cosine (a b : List Double) : Torch.sample.cosine a b ≠ .nan := by
  have left : 0 ≤ (a.map fun x => |x.value|).sum := Torch.sample.norm_nonneg a
  have right : 0 ≤ (b.map fun x => |x.value|).sum := Torch.sample.norm_nonneg b
  have some' : (a.map fun x => |x.value|).sum * (b.map fun x => |x.value|).sum + (10 ^ 12)⁻¹ ≠ 0 := by
    have product := mul_nonneg left right
    positivity
  simp [Torch.cosine, Torch.sample, Rounding.mul, Rounding.add, Rounding.div, Rounding.exact, some']

/-- Two kernels that answer every case with the opposite of the other one. -/
theorem gate_discriminates_sample : (constantKernel 1).Opposite (constantKernel (-1)) ∧
    GateDiscriminates .sample (.sample "DEPLOYMENT_READY" []) [("state", .str "DEPLOYMENT_READY")]
      [("reproduced", .bool true)] (constantKernel 1) (constantKernel (-1)) := by
  refine ⟨?_, (gate_discriminates _ _ _ _ _ _ rfl rfl).mpr ⟨?_, ?_⟩⟩
  · rintro case out out' ⟨⟩ ⟨⟩
    simp [Double.neg]
  · rintro ⟨correct, _⟩
    have stored := Except.ok.inj (correct (Torch.sample.sweepCase ⟨1, 1, 16⟩))
    rw [attention_sweep] at stored
    have one : Double.fin 1 ∈ List.replicate (1 * 32 * 128) (Double.fin 1) :=
      List.mem_replicate.mpr ⟨by decide, rfl⟩
    have zero := List.eq_of_mem_replicate (stored ▸ one)
    cases zero
  · intro _ first
    obtain ⟨g, _, outcome⟩ := mem_cosines.mp (List.mem_of_mem_head? first)
    exact sample_cosine _ _ (Except.ok.inj outcome)

end InferForge

import Mathlib.Data.List.Basic

/-! Finite runs of a labelled transition relation, and what they inherit from its steps. -/
namespace InferForge.Transition
variable {S L : Type} {step : S → L → S → Prop}

inductive Path (step : S → L → S → Prop) : S → List L → S → Prop where
  | nil : Path step s [] s
  | cons : step s a t → Path step t as u → Path step s (a :: as) u

namespace Path

theorem single (moved : step s a t) : Path step s [a] t := .cons moved .nil

theorem append (first : Path step s as t) (second : Path step t bs u) :
    Path step s (as ++ bs) u := by
  induction first with
  | nil => exact second
  | cons moved _ ih => exact .cons moved (ih second)

theorem snoc (path : Path step s as t) (moved : step t a u) : Path step s (as ++ [a]) u :=
  path.append (single moved)

/-- A weaker step relation has every run of a stronger one. -/
theorem mono {weaker : S → L → S → Prop} (weaken : ∀ s a t, step s a t → weaker s a t)
    (path : Path step s as t) : Path weaker s as t := by
  induction path with
  | nil => exact .nil
  | cons moved _ ih => exact .cons (weaken _ _ _ moved) ih

/-- What every step keeps, a run keeps. -/
theorem invariant {P : S → Prop} (keeps : ∀ s a t, step s a t → P s → P t)
    (path : Path step s as t) (start : P s) : P t := by
  induction path with
  | nil => exact start
  | cons moved _ ih => exact ih (keeps _ _ _ moved start)

/-- A property that needs the invariant and only survives the labels of this run. -/
theorem preserve {I P : S → Prop} (allowed : L → Prop)
    (invariant : ∀ s a t, step s a t → I s → I t)
    (keeps : ∀ s a t, step s a t → allowed a → I s → P s → P t)
    (path : Path step s as t) (labels : ∀ a ∈ as, allowed a) (sound : I s) (start : P s) : P t := by
  induction path with
  | nil => exact start
  | cons moved _ ih =>
    exact ih (fun a member => labels a (List.mem_cons_of_mem _ member))
      (invariant _ _ _ moved sound)
      (keeps _ _ _ moved (labels _ List.mem_cons_self) sound start)

/-- A property gained along a run is gained at one of its steps. -/
theorem exists_step {I P : S → Prop} (allowed : L → Prop)
    (invariant : ∀ s a t, step s a t → allowed a → I s → I t)
    (path : Path step s as t) (labels : ∀ a ∈ as, allowed a) (sound : I s) (before : ¬ P s)
    (after : P t) : ∃ u a v, allowed a ∧ step u a v ∧ I u ∧ ¬ P u ∧ P v := by
  induction path with
  | nil => exact absurd after before
  | @cons s a u as t moved _ ih =>
    have permitted := labels a List.mem_cons_self
    by_cases here : P u
    · exact ⟨s, a, u, permitted, moved, sound, before, here⟩
    · exact ih (fun b member => labels b (List.mem_cons_of_mem _ member))
        (invariant _ _ _ moved permitted sound) here after

end Path
end InferForge.Transition

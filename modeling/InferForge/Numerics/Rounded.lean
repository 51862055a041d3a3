import InferForge.Py.Json
import Mathlib.Algebra.Order.Field.Rat

/-! Floats of one precision: an operation is exact on finite values and rounded once. Zero has no
sign here. -/
namespace InferForge.Py

namespace Double

def neg : Double → Double
  | .nan => .nan
  | .inf negative => .inf !negative
  | .fin x => .fin (-x)

def abs : Double → Double
  | .nan => .nan
  | .inf _ => .inf false
  | .fin x => .fin |x|

/-- `a < b`. -/
def below (a b : Double) : Bool :=
  match b, a with
  | .fin y, .fin x => decide (x < y)
  | .inf negative, .fin _ => !negative
  | .fin _, .inf negative => negative
  | .inf y, .inf x => !y && x
  | _, _ => false

/-- `a <= b`. -/
def le (a b : Double) : Bool := a.below b || a.eq b

@[simp] theorem le_fin (x y : Rat) : (Double.fin x).le (.fin y) = decide (x ≤ y) := by
  rw [Bool.eq_iff_iff]
  simp [le, below, eq, le_iff_lt_or_eq]

/-- NaN, or not below zero. -/
def AtLeastZero : Double → Prop
  | .nan => True
  | .inf negative => negative = false
  | .fin x => 0 ≤ x

/-- NaN, or not above zero. -/
def AtMostZero : Double → Prop
  | .nan => True
  | .inf negative => negative = true
  | .fin x => x ≤ 0

end Double

/-- A rounding keeps zero, and the side of zero. -/
structure Rounding where
  round : Rat → Double
  round_zero : round 0 = .fin 0
  round_nonneg : ∀ x, 0 ≤ x → (round x).AtLeastZero
  round_nonpos : ∀ x, x ≤ 0 → (round x).AtMostZero

namespace Rounding

/-- Exact arithmetic, that of fractions. -/
def exact : Rounding where
  round := .fin
  round_zero := rfl
  round_nonneg _ := id
  round_nonpos _ := id

variable (r : Rounding)

def add : Double → Double → Double
  | .nan, _ | _, .nan => .nan
  | .inf a, .inf b => if a = b then .inf a else .nan
  | .inf a, .fin _ | .fin _, .inf a => .inf a
  | .fin x, .fin y => r.round (x + y)

/-- `a - b`. -/
def sub (a b : Double) : Double := r.add a b.neg

def mul : Double → Double → Double
  | .nan, _ | _, .nan => .nan
  | .inf a, .inf b => .inf (a != b)
  | .inf a, .fin x | .fin x, .inf a => if x = 0 then .nan else .inf (a != decide (x < 0))
  | .fin x, .fin y => r.round (x * y)

def div : Double → Double → Double
  | .nan, _ | _, .nan | .inf _, .inf _ => .nan
  | .inf a, .fin y => .inf (a != decide (y < 0))
  | .fin _, .inf _ => .fin 0
  | .fin x, .fin y =>
      if y = 0 then if x = 0 then .nan else .inf (decide (x < 0)) else r.round (x / y)

section Signs
variable {r : Rounding} {x y : Double}

theorem add_atLeastZero (left : x.AtLeastZero) (right : y.AtLeastZero) : (r.add x y).AtLeastZero := by
  cases x with
  | nan => trivial
  | inf a =>
    cases y with
    | nan => trivial
    | inf b =>
      rw [add]
      split
      · exact left
      · trivial
    | fin y => exact left
  | fin x =>
    cases y with
    | nan => trivial
    | inf b => exact right
    | fin y => exact r.round_nonneg _ (add_nonneg left right)

theorem mul_atLeastZero (left : x.AtLeastZero) (right : y.AtLeastZero) :
    (r.mul x y).AtLeastZero := by
  have scaled {a : Bool} {q : Rat} (positive : a = false) (above : 0 ≤ q) :
      (if q = 0 then .nan else .inf (a != decide (q < 0)) : Double).AtLeastZero := by
    split
    · trivial
    · simpa [Double.AtLeastZero, positive] using above
  cases x with
  | nan => trivial
  | inf a =>
    cases y with
    | nan => trivial
    | inf b =>
      simp only [Double.AtLeastZero] at left right
      simp [mul, Double.AtLeastZero, left, right]
    | fin y => exact scaled left right
  | fin x =>
    cases y with
    | nan => trivial
    | inf b => exact scaled right left
    | fin y => exact r.round_nonneg _ (mul_nonneg left right)

/-- A quotient of the two sides of zero. -/
theorem div_atMostZero (left : x.AtMostZero) (right : y.AtLeastZero) :
    (r.div x y).AtMostZero := by
  cases x with
  | nan => trivial
  | inf a =>
    cases y with
    | nan => trivial
    | inf b => trivial
    | fin y =>
      have above : ¬ y < 0 := not_lt.mpr right
      simp only [Double.AtMostZero] at left
      simp [div, Double.AtMostZero, left, above]
  | fin x =>
    cases y with
    | nan => trivial
    | inf b => exact le_rfl
    | fin y =>
      rw [div]
      split
      · split
        · trivial
        · next other => exact decide_eq_true (lt_of_le_of_ne left other)
      · exact r.round_nonpos _ (div_nonpos_of_nonpos_of_nonneg left right)

theorem div_atLeastZero (left : x.AtLeastZero) (right : y.AtLeastZero) :
    (r.div x y).AtLeastZero := by
  cases x with
  | nan => trivial
  | inf a =>
    cases y with
    | nan => trivial
    | inf b => trivial
    | fin y =>
      have above : ¬ y < 0 := not_lt.mpr right
      simp only [Double.AtLeastZero] at left
      simp [div, Double.AtLeastZero, left, above]
  | fin x =>
    cases y with
    | nan => trivial
    | inf b => exact le_rfl
    | fin y =>
      rw [div]
      split
      · split
        · trivial
        · exact decide_eq_false (not_lt.mpr left)
      · exact r.round_nonneg _ (div_nonneg left right)

end Signs

section Finite
variable {r : Rounding} {x y : Double}

/-- No operation on NaN or an infinity is finite again, but a division by infinity. -/
theorem add_finite (finite : (r.add x y).isFinite = true) : x.isFinite = true ∧ y.isFinite = true := by
  cases x with
  | nan => cases finite
  | inf a =>
    cases y with
    | inf b =>
      rw [add] at finite
      split at finite <;> cases finite
    | _ => cases finite
  | fin x =>
    cases y with
    | fin y => exact ⟨rfl, rfl⟩
    | _ => cases finite

theorem sub_finite (finite : (r.sub x y).isFinite = true) : x.isFinite = true ∧ y.isFinite = true := by
  obtain ⟨left, right⟩ := add_finite finite
  cases y with
  | fin y => exact ⟨left, rfl⟩
  | _ => cases right

theorem div_finite (finite : (r.div x y).isFinite = true) : x.isFinite = true := by
  cases x with
  | nan => cases finite
  | inf a => cases y <;> cases finite
  | fin x => rfl

end Finite
end Rounding

namespace Double

/-- A float between zero and a fraction is a fraction. -/
theorem finite_of_le {x : Double} (sign : x.AtLeastZero) (small : x.le (.fin y) = true) :
    x.isFinite = true := by
  cases x with
  | nan => cases small
  | inf negative =>
    simp only [AtLeastZero] at sign
    subst sign
    cases small
  | fin x => rfl

theorem not_below_of_le {x y : Double} (ordered : x.le y = true) : y.below x = false := by
  cases x with
  | nan => cases y <;> cases ordered
  | inf a => cases y <;> cases a <;> simp_all [le, below, eq]
  | fin x =>
    cases y with
    | fin y =>
      rw [le_fin, decide_eq_true_eq] at ordered
      exact decide_eq_false (not_lt.mpr ordered)
    | _ => simp_all [le, below, eq]

theorem abs_atLeastZero (x : Double) : x.abs.AtLeastZero := by
  cases x with
  | nan => trivial
  | inf negative => rfl
  | fin x => exact abs_nonneg x

theorem abs_isFinite (x : Double) : x.abs.isFinite = x.isFinite := by
  cases x <;> rfl

end Double
end InferForge.Py

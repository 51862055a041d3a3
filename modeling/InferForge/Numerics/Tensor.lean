import Mathlib.Algebra.BigOperators.Group.List.Basic
import Mathlib.Algebra.Order.BigOperators.Group.List
import Mathlib.Data.List.Forall2
import Mathlib.Data.Nat.Basic

/-! Dense tensors with the index arithmetic of row-major order: gathering, permuting and reshaping. -/
namespace InferForge.Numerics

structure Tensor (α : Type) where
  shape : List Nat
  get : List Nat → α

variable {α β : Type}

/-- The number of elements of a shape. -/
def numel (shape : List Nat) : Nat := shape.prod

/-- The place of an index in row-major order. -/
def ravel : List Nat → List Nat → Nat
  | _ :: shape, i :: index => i * numel shape + ravel shape index
  | _, _ => 0

/-- The index at a place. -/
def unravel : List Nat → Nat → List Nat
  | [], _ => []
  | _ :: shape, place => place / numel shape :: unravel shape (place % numel shape)

/-- An index that a shape has. -/
abbrev InBounds (shape index : List Nat) : Prop := List.Forall₂ (· < ·) index shape

theorem numel_cons (n : Nat) (shape : List Nat) : numel (n :: shape) = n * numel shape := by
  simp [numel]

theorem ravel_lt {shape index : List Nat} (inside : InBounds shape index) :
    ravel shape index < numel shape := by
  induction inside with
  | nil => simp [ravel, numel]
  | @cons i n index shape here _ ih =>
    rw [ravel, numel_cons]
    calc i * numel shape + ravel shape index < i * numel shape + numel shape := by omega
      _ = (i + 1) * numel shape := by rw [Nat.add_one_mul]
      _ ≤ n * numel shape := Nat.mul_le_mul_right _ here

/-- The index at the place of an index. -/
theorem unravel_ravel {shape index : List Nat} (inside : InBounds shape index) :
    unravel shape (ravel shape index) = index := by
  induction inside with
  | nil => rfl
  | @cons i n index shape here rest ih =>
    have bound := ravel_lt rest
    have some' : 0 < numel shape := by omega
    rw [ravel, unravel, Nat.add_comm, Nat.add_mul_div_right _ _ some', Nat.div_eq_of_lt bound,
      Nat.zero_add, Nat.add_mul_mod_self_right, Nat.mod_eq_of_lt bound, ih]

/-- Every place has an index. -/
theorem exists_ravel {shape : List Nat} (inside : place < numel shape) :
    ∃ index, InBounds shape index ∧ ravel shape index = place := by
  induction shape generalizing place with
  | nil => exact ⟨[], .nil, by simp [numel] at inside; simp [ravel, inside]⟩
  | cons n shape ih =>
    rw [numel_cons] at inside
    have some' : 0 < numel shape := Nat.pos_of_ne_zero fun none' => by simp [none'] at inside
    obtain ⟨index, within, same⟩ := ih (Nat.mod_lt place some')
    refine ⟨place / numel shape :: index, .cons ?_ within, ?_⟩
    · exact (Nat.div_lt_iff_lt_mul some').mpr inside
    · rw [ravel, same]
      exact Nat.div_add_mod' _ _

theorem numel_merge (front : List Nat) (a b : Nat) (shape : List Nat) :
    numel (front ++ a * b :: shape) = numel (front ++ a :: b :: shape) := by
  simp [numel, Nat.mul_assoc]

/-- Two neighbouring axes taken as one. -/
theorem ravel_merge (front index : List Nat) (same : front.length = index.length) (a b i j : Nat)
    (shape rest : List Nat) :
    ravel (front ++ a * b :: shape) (index ++ (i * b + j) :: rest) =
      ravel (front ++ a :: b :: shape) (index ++ i :: j :: rest) := by
  induction front generalizing index with
  | nil =>
    obtain rfl : index = [] := List.eq_nil_of_length_eq_zero same.symm
    simp only [List.nil_append, ravel, numel_cons]
    rw [Nat.add_mul, Nat.mul_assoc, Nat.add_assoc]
  | cons n front ih =>
    cases index with
    | nil => cases same
    | cons k index =>
      rw [List.cons_append, List.cons_append, ravel, numel_merge, ih index (Nat.succ.inj same)]
      rfl

/-- The elements in the same order, under another shape. -/
def Tensor.viewAs (t : Tensor α) (shape : List Nat) : Tensor α where
  shape := shape
  get index := t.get (unravel t.shape (ravel shape index))

/-- `t.reshape(shape)`; `none` is the `RuntimeError` about the number of elements. -/
def Tensor.reshape (t : Tensor α) (shape : List Nat) : Option (Tensor α) :=
  if numel t.shape = numel shape then some (t.viewAs shape) else none

theorem Tensor.viewAs_get {t : Tensor α} {shape index : List Nat} (source : List Nat)
    (inside : InBounds t.shape source) (place : ravel shape index = ravel t.shape source) :
    (t.viewAs shape).get index = t.get source := by
  change t.get (unravel t.shape (ravel shape index)) = t.get source
  rw [place, unravel_ravel inside]

/-- `t.permute(axes)`. -/
def Tensor.permute (t : Tensor α) (axes : List Nat) : Tensor α where
  shape := axes.map fun axis => t.shape.getD axis 0
  get index := t.get ((List.range axes.length).map fun axis => index.getD (axes.idxOf axis) 0)

/-- `t[start:stop]` along the first axis. -/
def Tensor.rows (t : Tensor α) (start stop : Nat) : Tensor α where
  shape :=
    match t.shape with
    | [] => []
    | n :: shape => (min stop n - start) :: shape
  get index :=
    match index with
    | [] => t.get []
    | i :: rest => t.get ((start + i) :: rest)

def Tensor.map (f : α → β) (t : Tensor α) : Tensor β := ⟨t.shape, fun index => f (t.get index)⟩

/-- `t.shape[axis]`. -/
def Tensor.size (t : Tensor α) (axis : Nat) : Nat := t.shape.getD axis 0

end InferForge.Numerics

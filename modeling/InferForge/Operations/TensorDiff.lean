import InferForge.Coerce
import InferForge.Effect.Limited
import InferForge.Numerics.Rounded
import InferForge.Numerics.Tensor
import Mathlib.Data.List.Dedup

/-! The comparison of two tensors that probes dumped as nested lists of numbers. -/
namespace InferForge.TensorDiff
open Py Effect Numerics

/-! ## The comparator -/

/-- What the interpreter leaves to the calls that `compare` makes: the free frames, and the frames
that a list comprehension and a generator take of them. -/
structure Stack where
  frames : Nat
  comprehension : Nat
  generator : Nat
  comprehension_le : comprehension ≤ 1
  generator_le : generator ≤ 1

/-- `_flat`, with so many frames left. -/
def flat (host : Host) : Nat → Json → Except Exn (List Double)
  | 0, _ => .error .recursion
  | n + 1, .arr items => return (← items.mapM (flat host n)).flatten
  | _ + 1, value => return [← value.toDouble host]

/-- `_shape`, read off the first elements. -/
def shape : Nat → Json → Except Exn (List Nat)
  | 0, _ => .error .recursion
  | n + 1, .arr (item :: rest) => return (rest.length + 1) :: (← shape n item)
  | _ + 1, .arr [] => return [0]
  | _ + 1, _ => return []

mutual

/-- `_has_irregular_shape`. -/
def irregular (stack : Stack) : Nat → Json → Except Exn Bool
  | 0, _ => .error .recursion
  | n + 1, .arr (item :: rest) => do
      let shapes ← (item :: rest).mapM (shape (n - stack.comprehension))
      if shapes.dedup.length != 1 then return true
      irregularItems stack (n - stack.generator) (item :: rest)
  | _ + 1, _ => return false

def irregularItems (stack : Stack) (n : Nat) : List Json → Except Exn Bool
  | [] => return false
  | item :: rest => do
      if ← irregular stack n item then return true
      irregularItems stack n rest

end

/-- Double arithmetic beyond the four operations. -/
structure Floats where
  rounding : Rounding
  sqrt : Double → Double
  sum : List Double → Double

/-- What `compare` returns. -/
structure Comparison where
  shapeCandidate : List Nat
  shapeReference : List Nat
  numel : Nat
  relativeL2 : Double
  maxAbsError : Double
  nanCandidate : Nat
  nanReference : Nat
  infCandidate : Nat
  infReference : Nat

def count (n : Nat) (host : Host) : Text := host.repr (.int n)

def dims (sizes : List Nat) (host : Host) : Text := host.repr (.arr (sizes.map fun n => .int n))

/-- `first or second`. -/
def either (first second : Except Exn Bool) : Except Exn Bool := do
  if ← first then return true
  second

/-- The two flat tensors, once they are known to fit each other. -/
def operands (host : Host) (stack : Stack) (candidate reference : Json) :
    Except Exn (List Double × List Double) := do
  let left ← flat host stack.frames candidate
  let right ← flat host stack.frames reference
  refuse (left.length != right.length)
    (.value ("tensor sizes differ: " ++ count left.length host ++ " != " ++ count right.length host))
  refuse (← either (irregular stack stack.frames candidate) (irregular stack stack.frames reference))
    (.value "tensor values must be rectangular arrays")
  let first ← shape stack.frames candidate
  let second ← shape stack.frames reference
  refuse (first != second)
    (.value ("tensor shapes differ: " ++ dims first host ++ " != " ++ dims second host))
  return (left, right)

/-- `max(a, b)`: the first unless the second is above it. -/
def larger (a b : Double) : Double := if a.below b then b else a

/-- `max(values, default=0.0)`. -/
def largest : List Double → Double
  | [] => .fin 0
  | first :: rest => rest.foldl larger first

def square (floats : Floats) (x : Double) : Double := floats.rounding.mul x x

/-- `abs(a - b)`. -/
def distance (floats : Floats) (pair : Double × Double) : Double :=
  (floats.rounding.sub pair.1 pair.2).abs

def norm (floats : Floats) (xs : List Double) : Double := floats.sqrt (floats.sum (xs.map (square floats)))

def relativeL2 (floats : Floats) (atol : Double) (left right : List Double) : Double :=
  let diffs := (left.zip right).map (distance floats)
  if (left ++ right).any fun x => !x.isFinite then .inf false
  else
    floats.rounding.div (norm floats diffs)
      (larger (larger (norm floats right) atol) (floats.rounding.round (1 / 10 ^ 30)))

def nans (xs : List Double) : Nat := xs.countP (· = .nan)

def infs (xs : List Double) : Nat := xs.length - xs.countP Double.isFinite - nans xs

def report (floats : Floats) (atol : Double) (left right : List Double)
    (shapeCandidate shapeReference : List Nat) : Comparison where
  shapeCandidate := shapeCandidate
  shapeReference := shapeReference
  numel := left.length
  relativeL2 := relativeL2 floats atol left right
  maxAbsError := largest ((left.zip right).map (distance floats))
  nanCandidate := nans left
  nanReference := nans right
  infCandidate := infs left
  infReference := infs right

def compare (host : Host) (floats : Floats) (stack : Stack) (candidate reference : Json)
    (atol : Double) : Except Exn Comparison := do
  let (left, right) ← operands host stack candidate reference
  return report floats atol left right (← shape stack.frames candidate) (← shape stack.frames reference)

/-! ## Rectangular arrays -/

/-- Numbers in lists, nested to any depth. -/
inductive OverNumbers : Json → Prop where
  | bool (value : Bool) : OverNumbers (.bool value)
  | int (n : Int) : OverNumbers (.int n)
  | float (x : Double) : OverNumbers (.float x)
  | list (items : List Json) (each : ∀ item ∈ items, OverNumbers item) : OverNumbers (.arr items)

/-- No integer is too large for a double. -/
inductive Convertible : Json → Prop where
  | bool (value : Bool) : Convertible (.bool value)
  | int (n : Int) (fits : Host.fitsFloat n = true) : Convertible (.int n)
  | float (x : Double) : Convertible (.float x)
  | list (items : List Json) (each : ∀ item ∈ items, Convertible item) : Convertible (.arr items)

/-- All elements at each depth have the same shape. -/
inductive Rectangular : List Nat → Json → Prop where
  | number (value : Json) (scalar : value.isList = false) : Rectangular [] value
  | empty : Rectangular [0] (.arr [])
  | rows (row : Json) (rest : List Json) (each : ∀ other ∈ row :: rest, Rectangular sizes other) :
      Rectangular ((rest.length + 1) :: sizes) (.arr (row :: rest))

/-- The element at a multi-index. -/
def entry : Json → List Nat → Option Json
  | value, [] => some value
  | .arr items, i :: index => items[i]?.bind fun item => entry item index
  | _, _ => none

/-- Rectangular, and of one shape. -/
def Fitting (candidate reference : Json) : Prop :=
  ∃ sizes, Rectangular sizes candidate ∧ Rectangular sizes reference

mutual

/-- The frames that a recursion into an array takes: its depth, with the call for an element. -/
def calls : Json → Nat
  | .arr items => callsItems items + 1
  | _ => 1

def callsItems : List Json → Nat
  | [] => 0
  | item :: rest => max (calls item) (callsItems rest)

end

/-- So many frames are enough for the deepest of the recursions, that into the elements of elements. -/
def Stack.Room (stack : Stack) (frames calls : Nat) : Prop :=
  calls + (calls - 1) * stack.generator ≤ frames ∧
    (2 ≤ calls → calls + stack.comprehension + (calls - 2) * stack.generator ≤ frames)

instance (stack : Stack) (frames calls : Nat) : Decidable (stack.Room frames calls) :=
  inferInstanceAs (Decidable (_ ∧ _))

/-! ## The recursions on a stack without end -/

namespace Unbounded

mutual

def flat (host : Host) : Json → Except Exn (List Double)
  | .arr items => flatItems host items
  | value => return [← value.toDouble host]

def flatItems (host : Host) : List Json → Except Exn (List Double)
  | [] => .ok []
  | item :: rest => do
      let first ← flat host item
      return first ++ (← flatItems host rest)

end

mutual

def shape : Json → List Nat
  | .arr items => shapeItems items
  | _ => []

def shapeItems : List Json → List Nat
  | [] => [0]
  | item :: rest => (rest.length + 1) :: shape item

end

mutual

def irregular : Json → Bool
  | .arr items => !items.isEmpty && ((items.map shape).dedup.length != 1 || irregularItems items)
  | _ => false

def irregularItems : List Json → Bool
  | [] => false
  | item :: rest => irregular item || irregularItems rest

end

def operands (host : Host) (candidate reference : Json) : Except Exn (List Double × List Double) := do
  let left ← flat host candidate
  let right ← flat host reference
  refuse (left.length != right.length)
    (.value ("tensor sizes differ: " ++ count left.length host ++ " != " ++ count right.length host))
  refuse (irregular candidate || irregular reference)
    (.value "tensor values must be rectangular arrays")
  refuse (shape candidate != shape reference)
    (.value ("tensor shapes differ: " ++ dims (shape candidate) host ++ " != " ++
      dims (shape reference) host))
  return (left, right)

def compare (host : Host) (floats : Floats) (candidate reference : Json) (atol : Double) :
    Except Exn Comparison := do
  let (left, right) ← operands host candidate reference
  return report floats atol left right (shape candidate) (shape reference)

theorem shape_scalar {value : Json} (scalar : value.isList = false) :
    shape value = [] ∧ irregular value = false := by
  cases value with
  | arr => cases scalar
  | _ => exact ⟨rfl, rfl⟩

theorem irregularItems_false {items : List Json} :
    irregularItems items = false ↔ ∀ item ∈ items, irregular item = false := by
  induction items with
  | nil => simp [irregularItems]
  | cons item rest ih => simp [irregularItems, ih]

theorem alike {items : List Json} (one : (items.map shape).dedup.length = 1) :
    ∃ sizes, ∀ item ∈ items, shape item = sizes := by
  obtain ⟨sizes, single⟩ := List.length_eq_one_iff.mp one
  refine ⟨sizes, fun item member => ?_⟩
  have listed := List.mem_dedup.mpr (List.mem_map_of_mem (f := shape) member)
  rw [single] at listed
  exact List.mem_singleton.mp listed

/-- The shape of a rectangular array, read off its first elements. -/
theorem regular_of_rectangular {value : Json} (rectangular : Rectangular sizes value) :
    shape value = sizes ∧ irregular value = false := by
  induction rectangular with
  | number value scalar => exact shape_scalar scalar
  | empty => exact ⟨rfl, rfl⟩
  | @rows sizes row rest each ih =>
    have first := ih row List.mem_cons_self
    have same : (row :: rest).map shape = List.replicate (rest.length + 1) sizes := by
      rw [List.eq_replicate_iff]
      refine ⟨by simp, fun s member => ?_⟩
      obtain ⟨other, listed, rfl⟩ := List.mem_map.mp member
      exact (ih other listed).1
    constructor
    · rw [shape, shapeItems, first.1]
    · have inner : irregularItems (row :: rest) = false :=
        irregularItems_false.mpr fun item member => (ih item member).2
      rw [irregular, inner, same, List.replicate_dedup (by omega)]
      rfl

mutual

theorem rectangular_of_regular : (value : Json) → irregular value = false →
    Rectangular (shape value) value
  | .arr [], _ => .empty
  | .arr (row :: rest), regular => by
      simp only [irregular, List.isEmpty_cons, Bool.not_false, Bool.true_and, Bool.or_eq_false_iff,
        bne_eq_false_iff_eq] at regular
      obtain ⟨sizes, same⟩ := alike regular.1
      have inner := rectangularItems_of_regular (row :: rest) regular.2
      rw [shape, shapeItems, same row List.mem_cons_self]
      refine .rows row rest fun other member => ?_
      rw [← same other member]
      exact inner other member
  | .null, _ | .bool _, _ | .int _, _ | .float _, _ | .str _, _ | .obj _, _ => .number _ rfl

theorem rectangularItems_of_regular : (items : List Json) → irregularItems items = false →
    ∀ item ∈ items, Rectangular (shape item) item
  | [], _ => nofun
  | item :: rest, regular => by
      simp only [irregularItems, Bool.or_eq_false_iff] at regular
      exact List.forall_mem_cons.mpr ⟨rectangular_of_regular item regular.1,
        rectangularItems_of_regular rest regular.2⟩

end

theorem irregular_iff {value : Json} : irregular value = false ↔ ∃ sizes, Rectangular sizes value :=
  ⟨fun regular => ⟨_, rectangular_of_regular value regular⟩, fun ⟨_, rectangular⟩ => (regular_of_rectangular rectangular).2⟩

/-! ### Row-major order -/

/-- The place of an element in a row, behind the rows before it. -/
theorem flatten_get {rows : List (List α)} (each : ∀ row ∈ rows, row.length = m) (inside : j < m) :
    rows.flatten[i * m + j]? = rows[i]?.bind fun row => row[j]? := by
  induction rows generalizing i with
  | nil => simp
  | cons row rest ih =>
    rw [List.forall_mem_cons] at each
    rw [List.flatten_cons]
    cases i with
    | zero => simp [List.getElem?_append_left, each.1, inside]
    | succ i =>
      have place : (i + 1) * m + j = row.length + (i * m + j) := by
        rw [each.1, Nat.add_one_mul]
        omega
      rw [place, List.getElem?_append_right (by omega), Nat.add_sub_cancel_left, ih each.2,
        List.getElem?_cons_succ]

theorem flatten_length {rows : List (List α)} (each : ∀ row ∈ rows, row.length = m) :
    rows.flatten.length = rows.length * m := by
  induction rows with
  | nil => simp
  | cons row rest ih =>
    rw [List.forall_mem_cons] at each
    rw [List.flatten_cons, List.length_append, each.1, ih each.2, List.length_cons, Nat.add_one_mul,
      Nat.add_comm]

theorem flatItems_rows {items : List Json} :
    flatItems host items = .ok xs ↔
      ∃ rows, List.Forall₂ (fun item row => flat host item = .ok row) items rows ∧ xs = rows.flatten := by
  induction items generalizing xs with
  | nil =>
    rw [flatItems]
    constructor
    · intro done
      cases done
      exact ⟨[], .nil, rfl⟩
    · rintro ⟨rows, pairs, rfl⟩
      cases pairs
      rfl
  | cons item rest ih =>
    rw [flatItems, bind_ok]
    constructor
    · rintro ⟨first, here, later⟩
      obtain ⟨others, there, whole⟩ := bind_ok.mp later
      obtain ⟨rows, pairs, rfl⟩ := ih.mp there
      exact ⟨first :: rows, .cons here pairs, (pure_ok.mp whole).symm⟩
    · rintro ⟨rows, pairs, rfl⟩
      cases pairs with
      | @cons _ first _ rows here there =>
        exact ⟨first, here, bind_ok.mpr ⟨rows.flatten, ih.mpr ⟨rows, there, rfl⟩, rfl⟩⟩

/-- The flat tensor holds the element of each multi-index at its place in row-major order. -/
theorem flat_of_rectangular {value : Json} (rectangular : Rectangular sizes value) :
    ∀ xs, flat host value = .ok xs → xs.length = numel sizes ∧
      ∀ index, InBounds sizes index → ∃ leaf x, entry value index = some leaf ∧
        leaf.toDouble host = .ok x ∧ xs[ravel sizes index]? = some x := by
  induction rectangular with
  | number value scalar =>
    intro xs flattened
    have single : ∃ x, value.toDouble host = .ok x ∧ xs = [x] := by
      cases value with
      | arr => cases scalar
      | _ =>
        rw [flat.eq_def] at flattened
        obtain ⟨x, read, whole⟩ := bind_ok.mp flattened
        exact ⟨x, read, (pure_ok.mp whole).symm⟩
    obtain ⟨x, read, rfl⟩ := single
    refine ⟨rfl, fun index inside => ?_⟩
    cases inside
    exact ⟨value, x, by rw [entry.eq_def], read, rfl⟩
  | empty =>
    intro xs flattened
    cases flattened
    refine ⟨rfl, fun index inside => ?_⟩
    cases inside with
    | cons below => exact absurd below (Nat.not_lt_zero _)
  | @rows sizes row rest each ih =>
    intro xs flattened
    rw [flat] at flattened
    obtain ⟨rows, pairs, rfl⟩ := flatItems_rows.mp flattened
    have lengths : ∀ chunk ∈ rows, chunk.length = numel sizes := by
      intro chunk member
      obtain ⟨item, listed, here⟩ := forall₂_member pairs.flip member
      exact (ih item listed chunk here).1
    refine ⟨?_, fun index inside => ?_⟩
    · rw [flatten_length lengths, ← pairs.length_eq, List.length_cons, numel_cons]
    · cases inside with
      | @cons i _ index _ below within =>
        have found : i < (row :: rest).length := below
        have place := pairs.length_eq ▸ found
        obtain ⟨leaf, x, reached, read, held⟩ :=
          (ih _ (List.getElem_mem found) _ (pairs.get found place)).2 index within
        refine ⟨leaf, x, ?_, read, ?_⟩
        · rw [entry, List.getElem?_eq_getElem found]
          exact reached
        · rw [ravel, flatten_get lengths (ravel_lt within), List.getElem?_eq_getElem place]
          exact held

/-! ### What is read -/

theorem convertible_list {items : List Json} :
    Convertible (.arr items) ↔ ∀ item ∈ items, Convertible item :=
  ⟨fun whole => by cases whole; assumption, .list items⟩

/-- The numbers of an array are read, or one of them is an integer without a double. -/
def Read (host : Host) (value : Json) : Prop :=
  (Convertible value ∧ ∃ xs, flat host value = .ok xs) ∨
    (¬ Convertible value ∧ ∃ message, flat host value = .error (.overflow message))

theorem read_items {items : List Json} (each : ∀ item ∈ items, Read host item) :
    Read host (.arr items) := by
  rw [Read, convertible_list, flat]
  induction items with
  | nil => exact .inl ⟨nofun, [], rfl⟩
  | cons item rest ih =>
    rw [List.forall_mem_cons] at each
    rw [List.forall_mem_cons, flatItems]
    rcases each.1 with ⟨converts, first, here⟩ | ⟨large, message, here⟩
    · rcases ih each.2 with ⟨others, xs, there⟩ | ⟨large, message, there⟩
      · refine .inl ⟨⟨converts, others⟩, first ++ xs, ?_⟩
        rw [here, there]
        rfl
      · refine .inr ⟨fun both => large both.2, message, ?_⟩
        rw [here, there]
        rfl
    · refine .inr ⟨fun both => large both.1, message, ?_⟩
      rw [here]
      rfl

theorem read_of_overNumbers (host : Host) {value : Json} (numbers : OverNumbers value) : Read host value := by
  induction numbers with
  | bool value => exact .inl ⟨.bool value, _, rfl⟩
  | float x => exact .inl ⟨.float x, _, rfl⟩
  | int n =>
    by_cases fits : Host.fitsFloat n = true
    · refine .inl ⟨.int n fits, [.fin (host.round n)], ?_⟩
      rw [flat.eq_def]
      simp only [Json.toDouble, fits, if_true]
      rfl
    · refine .inr ⟨fun converts => by cases converts; contradiction,
        "int too large to convert to float", ?_⟩
      rw [flat.eq_def]
      simp only [Json.toDouble, fits, Bool.false_eq_true, if_false]
      rfl
  | list items _ ih => exact read_items ih

theorem fitting_iff {candidate reference : Json} : Fitting candidate reference ↔
    (irregular candidate || irregular reference) = false ∧ shape candidate = shape reference := by
  rw [Bool.or_eq_false_iff, irregular_iff, irregular_iff]
  constructor
  · rintro ⟨sizes, left, right⟩
    exact ⟨⟨⟨sizes, left⟩, sizes, right⟩, (regular_of_rectangular left).1.trans (regular_of_rectangular right).1.symm⟩
  · rintro ⟨⟨⟨sizes, left⟩, sizes', right⟩, same⟩
    rw [(regular_of_rectangular left).1, (regular_of_rectangular right).1] at same
    exact ⟨sizes, left, same ▸ right⟩

theorem operands_ok {candidate reference : Json} :
    operands host candidate reference = .ok (xs, ys) ↔
      flat host candidate = .ok xs ∧ flat host reference = .ok ys ∧ xs.length = ys.length ∧
        Fitting candidate reference := by
  rw [operands, bind_ok, fitting_iff]
  constructor
  · rintro ⟨left, first, rest⟩
    obtain ⟨right, second, rest⟩ := bind_ok.mp rest
    obtain ⟨_, sizes, rest⟩ := bind_ok.mp rest
    obtain ⟨_, regular, rest⟩ := bind_ok.mp rest
    obtain ⟨_, shapes, rest⟩ := bind_ok.mp rest
    cases pure_ok.mp rest
    rw [refuse_ok] at sizes regular shapes
    exact ⟨first, second, by simpa using sizes, regular, by simpa using shapes⟩
  · rintro ⟨first, second, sizes, regular, shapes⟩
    refine ⟨xs, first, bind_ok.mpr ⟨ys, second, bind_ok.mpr ⟨(), ?_, bind_ok.mpr ⟨(), ?_,
      bind_ok.mpr ⟨(), ?_, rfl⟩⟩⟩⟩⟩
    · simpa using sizes
    · simpa using regular
    · simpa using shapes

theorem refuse_error {condition : Bool} (e : Exn) (refused : condition = true) :
    refuse condition e = .error e := if_pos refused

/-- Tensors whose numbers are read are compared or refused. -/
theorem operands_refused {candidate reference : Json} (left : flat host candidate = .ok xs)
    (right : flat host reference = .ok ys) (unfit : ¬ Fitting candidate reference) :
    ∃ message, operands host candidate reference = .error (.value message) := by
  rw [fitting_iff, not_and_or] at unfit
  unfold operands
  rw [left, ok_bind, right, ok_bind]
  by_cases sizes : xs.length = ys.length
  · rw [refuse_ok (u := ()) |>.mpr (by simpa using sizes), ok_bind]
    by_cases regular : (irregular candidate || irregular reference) = false
    · have shapes : shape candidate ≠ shape reference :=
        unfit.resolve_left (not_not_intro regular)
      rw [refuse_ok (u := ()) |>.mpr regular, ok_bind, refuse_error _ (by simpa using shapes)]
      exact ⟨_, rfl⟩
    · rw [refuse_error _ ((Bool.not_eq_false _).mp regular)]
      exact ⟨_, rfl⟩
  · rw [refuse_error _ (by simpa using sizes)]
    exact ⟨_, rfl⟩

end Unbounded

/-! ## With a stack of some size -/

section Stacked
variable {host : Host} {stack : Stack} {value : Json} {items : List Json}

theorem calls_pos (value : Json) : 1 ≤ calls value := by
  cases value <;> simp [calls]

theorem callsItems_le : callsItems items ≤ n ↔ ∀ item ∈ items, calls item ≤ n := by
  induction items with
  | nil => simp [callsItems]
  | cons item rest ih => simp [callsItems, ih]

theorem calls_list : calls (.arr items) ≤ n + 1 ↔ ∀ item ∈ items, calls item ≤ n := by
  rw [calls, Nat.add_le_add_iff_right, callsItems_le]

theorem flat_room {xs : List Double} (done : flat host n value = .ok xs) : calls value ≤ n := by
  induction n generalizing value xs with
  | zero => cases done
  | succ n ih =>
    cases value with
    | arr items =>
      obtain ⟨rows, each, -⟩ := bind_ok.mp done
      refine calls_list.mpr fun item member => ?_
      obtain ⟨row, -, here⟩ := forall₂_member (mapM_forall₂.mp each) member
      exact ih here
    | _ => simp [calls]

theorem shape_limited : Limited .recursion (calls value ≤ n) (shape n value)
    (.ok (Unbounded.shape value)) := by
  induction n generalizing value with
  | zero => exact .out (by have := calls_pos value; omega)
  | succ n ih =>
    cases value with
    | arr items =>
      cases items with
      | nil => exact .same _
      | cons item rest =>
        have whole : (Except.ok (Unbounded.shape (.arr (item :: rest))) : Except Exn _) =
          (.ok (Unbounded.shape item) >>= fun sizes => .ok ((rest.length + 1) :: sizes)) := rfl
        rw [shape, whole]
        exact .bind (ih.mono fun enough => calls_list.mp enough item List.mem_cons_self) fun _ _ => .same _
    | _ => exact .same _

namespace Stack

theorem Room.mono (room : stack.Room n k) (fewer : k' ≤ k) : stack.Room n k' := by
  obtain ⟨deep, wide⟩ := room
  have left : (k' - 1) * stack.generator ≤ (k - 1) * stack.generator :=
    Nat.mul_le_mul_right _ (by omega)
  have right : (k' - 2) * stack.generator ≤ (k - 2) * stack.generator :=
    Nat.mul_le_mul_right _ (by omega)
  exact ⟨by omega, fun two => by have := wide (by omega); omega⟩

/-- One level down, the comprehension needs room for the shapes and the generator for itself. -/
theorem room_succ (pos : 1 ≤ k) : stack.Room (n + 1) (k + 1) ↔
    k ≤ n - stack.comprehension ∧ stack.Room (n - stack.generator) k := by
  obtain ⟨frames, c, g, hc, hg⟩ := stack
  simp only [Room]
  obtain rfl | rfl : g = 0 ∨ g = 1 := by omega
  · omega
  · omega

theorem Room.frames (room : stack.Room n k) : k ≤ n := by
  obtain ⟨deep, -⟩ := room
  omega

end Stack

theorem irregular_zero (stack : Stack) (value : Json) : irregular stack 0 value = .error .recursion := by
  cases value with
  | arr items => cases items <;> rfl
  | _ => rfl

theorem irregular_rows (item : Json) (rest : List Json) :
    (.ok (Unbounded.irregular (.arr (item :: rest))) : Except Exn Bool) = (do
      let shapes ← .ok ((item :: rest).map Unbounded.shape)
      if shapes.dedup.length != 1 then return true
      .ok (Unbounded.irregularItems (item :: rest))) := by
  rw [ok_bind, Unbounded.irregular]
  by_cases one : ((item :: rest).map Unbounded.shape).dedup.length = 1
  · rw [one]
    rfl
  · have mixed : (((item :: rest).map Unbounded.shape).dedup.length != 1) = true := by simpa using one
    rw [mixed]
    rfl

mutual

theorem irregular_limited (stack : Stack) : (value : Json) → (n : Nat) →
    Limited .recursion (stack.Room n (calls value)) (irregular stack n value)
      (.ok (Unbounded.irregular value))
  | value, 0 => by
      rw [irregular_zero]
      refine .out fun room => ?_
      have := room.frames
      have := calls_pos value
      omega
  | .arr (item :: rest), n + 1 => by
      have inner (room : stack.Room (n + 1) (calls (.arr (item :: rest)))) :=
        (Stack.room_succ (le_trans (calls_pos item) (callsItems_le.mp (Nat.le_refl _) item
          List.mem_cons_self))).mp room
      rw [irregular, irregular_rows, ← mapM_ok fun item _ => rfl]
      refine .bind (.mapM fun other member => shape_limited.mono fun room => ?_) fun shapes _ => ?_
      · exact callsItems_le.mp (inner room).1 other member
      · split
        · exact .same _
        · refine (irregularItems_limited stack (item :: rest) _).mono fun room other member => ?_
          exact (inner room).2.mono (callsItems_le.mp (Nat.le_refl _) other member)
  | .arr [], _ + 1 | .null, _ + 1 | .bool _, _ + 1 | .int _, _ + 1 | .float _, _ + 1 | .str _, _ + 1
  | .obj _, _ + 1 => .same _

theorem irregularItems_limited (stack : Stack) : (items : List Json) → (n : Nat) →
    Limited .recursion (∀ item ∈ items, stack.Room n (calls item)) (irregularItems stack n items)
      (.ok (Unbounded.irregularItems items))
  | [], _ => .same _
  | item :: rest, n => by
      have whole : (.ok (Unbounded.irregularItems (item :: rest)) : Except Exn Bool) = (do
          if ← .ok (Unbounded.irregular item) then return true
          .ok (Unbounded.irregularItems rest)) := by
        rw [ok_bind, Unbounded.irregularItems]
        cases Unbounded.irregular item <;> rfl
      rw [irregularItems, whole]
      refine .bind ((irregular_limited stack item n).mono fun room => room item List.mem_cons_self)
        fun found _ => ?_
      cases found with
      | true => exact .same _
      | false =>
        exact (irregularItems_limited stack rest n).mono fun room other member =>
          room other (List.mem_cons_of_mem _ member)

end

/-- Both arrays leave room for the recursions into them. -/
def Stack.Holds (stack : Stack) (candidate reference : Json) : Prop :=
  stack.Room stack.frames (calls candidate) ∧ stack.Room stack.frames (calls reference)

end Stacked

/-! ## What is accepted -/

theorem Unbounded.compare_eq (host : Host) (floats : Floats) (candidate reference : Json) (atol : Double) :
    (∀ result, compare host floats candidate reference atol = .ok result →
      ∃ xs ys, operands host candidate reference = .ok (xs, ys) ∧
        result = report floats atol xs ys (shape candidate) (shape reference)) ∧
    (∀ pair, operands host candidate reference = .ok pair →
      ∃ result, compare host floats candidate reference atol = .ok result) ∧
    ∀ e, operands host candidate reference = .error e →
      compare host floats candidate reference atol = .error e := by
  unfold compare
  refine ⟨fun result returned => ?_, fun pair fits => ?_, fun e failed => ?_⟩
  · obtain ⟨⟨xs, ys⟩, fits, whole⟩ := bind_ok.mp returned
    exact ⟨xs, ys, fits, (pure_ok.mp whole).symm⟩
  · rw [fits]
    exact ⟨_, rfl⟩
  · rw [failed]
    rfl

/-- What becomes of numbers in lists on a stack without end. -/
inductive Outcome (host : Host) (floats : Floats) (candidate reference : Json) (atol : Double) :
    Except Exn Comparison → Prop where
  | compared (xs ys : List Double) (left : Unbounded.flat host candidate = .ok xs)
      (right : Unbounded.flat host reference = .ok ys) (converts : Convertible candidate)
      (converts' : Convertible reference) (fits : Fitting candidate reference) :
      Outcome host floats candidate reference atol
        (.ok (report floats atol xs ys (Unbounded.shape candidate) (Unbounded.shape reference)))
  | unfit (message : Text) (converts : Convertible candidate) (converts' : Convertible reference)
      (unfit : ¬ Fitting candidate reference) :
      Outcome host floats candidate reference atol (.error (.value message))
  | large (message : Text) (large : ¬ (Convertible candidate ∧ Convertible reference)) :
      Outcome host floats candidate reference atol (.error (.overflow message))

theorem Unbounded.outcome (host : Host) (floats : Floats) {candidate reference : Json} (atol : Double)
    (left : OverNumbers candidate) (right : OverNumbers reference) :
    Outcome host floats candidate reference atol (compare host floats candidate reference atol) := by
  obtain ⟨returned, returns, raises⟩ := compare_eq host floats candidate reference atol
  rcases read_of_overNumbers host left with ⟨converts, xs, first⟩ | ⟨large, message, failed⟩
  · rcases read_of_overNumbers host right with ⟨converts', ys, second⟩ | ⟨large, message, failed⟩
    · by_cases fits : Fitting candidate reference
      · have same : xs.length = ys.length := by
          obtain ⟨sizes, here, there⟩ := fits
          rw [(flat_of_rectangular here xs first).1, (flat_of_rectangular there ys second).1]
        have both := operands_ok.mpr ⟨first, second, same, fits⟩
        obtain ⟨result, done⟩ := returns _ both
        obtain ⟨xs', ys', both', rfl⟩ := returned result done
        cases both.symm.trans both'
        rw [done]
        exact .compared xs ys first second converts converts' fits
      · obtain ⟨message, refused⟩ := operands_refused first second fits
        rw [raises _ refused]
        exact .unfit message converts converts' fits
    · have stopped : operands host candidate reference = .error (.overflow message) := by
        unfold operands
        rw [first, ok_bind, failed]
        rfl
      rw [raises _ stopped]
      exact .large message fun both => large both.2
  · have stopped : operands host candidate reference = .error (.overflow message) := by
      unfold operands
      rw [failed]
      rfl
    rw [raises _ stopped]
    exact .large message fun both => large both.1

/-- The element pairs of two tensors of one shape, in row-major order. -/
structure Paired (host : Host) (candidate reference : Json) (sizes : List Nat)
    (pairs : List (Double × Double)) : Prop where
  length_eq : pairs.length = numel sizes
  entries : ∀ i < numel sizes, ∃ index a b x y, InBounds sizes index ∧ ravel sizes index = i ∧
    entry candidate index = some a ∧ entry reference index = some b ∧
    a.toDouble host = .ok x ∧ b.toDouble host = .ok y ∧ pairs[i]? = some (x, y)

/-- What is reported is computed from the pairs. -/
structure Measures (floats : Floats) (atol : Double) (pairs : List (Double × Double))
    (result : Comparison) : Prop where
  numel : result.numel = pairs.length
  relativeL2 : result.relativeL2 =
    if ∀ pair ∈ pairs, pair.1.isFinite = true ∧ pair.2.isFinite = true then
      floats.rounding.div (norm floats (pairs.map (distance floats)))
        (larger (larger (norm floats (pairs.map Prod.snd)) atol) (floats.rounding.round (1 / 10 ^ 30)))
    else .inf false
  maxAbsError : result.maxAbsError = largest (pairs.map (distance floats))
  nanCandidate : result.nanCandidate = pairs.countP fun pair => pair.1 = .nan
  nanReference : result.nanReference = pairs.countP fun pair => pair.2 = .nan
  infCandidate : result.infCandidate = pairs.countP fun pair => !pair.1.isFinite && pair.1 ≠ .nan
  infReference : result.infReference = pairs.countP fun pair => !pair.2.isFinite && pair.2 ≠ .nan

theorem paired {host : Host} {candidate reference : Json} {xs ys : List Double}
    (left : Unbounded.flat host candidate = .ok xs) (right : Unbounded.flat host reference = .ok ys)
    (first : Rectangular sizes candidate) (second : Rectangular sizes reference) :
    Paired host candidate reference sizes (xs.zip ys) := by
  obtain ⟨size, place⟩ := Unbounded.flat_of_rectangular first xs left
  obtain ⟨size', place'⟩ := Unbounded.flat_of_rectangular second ys right
  refine ⟨by rw [List.length_zip, size, size', Nat.min_self], fun i inside => ?_⟩
  obtain ⟨index, within, rfl⟩ := exists_ravel inside
  obtain ⟨a, x, reached, read, held⟩ := place index within
  obtain ⟨b, y, reached', read', held'⟩ := place' index within
  refine ⟨index, a, b, x, y, within, rfl, reached, reached', read, read', ?_⟩
  rw [List.getElem?_zip_eq_some]
  exact ⟨held, held'⟩

/-- Exact arithmetic, with the rational square root of a square. -/
def Floats.exact : Floats where
  rounding := .exact
  sqrt := id
  sum xs := xs.foldl Rounding.exact.add (.fin 0)

def matrix : Json := .arr ([[1, 2, 3], [4, 5, 6]].map fun row => .arr (row.map .int))

/-- A thousand frames, as an interpreter leaves them that gives comprehensions frames of their own. -/
def Stack.sample : Stack := ⟨1000, 1, 1, le_refl _, le_refl _⟩

/-- A number in so many lists. -/
def nested : Nat → Json
  | 0 => .float (.fin 0)
  | n + 1 => .arr [nested n]

end InferForge.TensorDiff

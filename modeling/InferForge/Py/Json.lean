import InferForge.Py.Text
import Mathlib.Data.List.Basic

/-! The values `json.loads` produces, with Python's own equality and truth value.
Numbers keep Python's types: `True`, `1` and `1.0` are three values that compare
equal, and the three non-finite floats are ordinary results of a JSON text. -/
namespace InferForge.Py

/-- A double, by the rational it denotes. -/
inductive Double where
  | nan
  | inf (negative : Bool)
  | fin (value : Rat)
deriving DecidableEq, Repr

namespace Double

/-- IEEE equality: `nan` differs from everything. -/
def eq : Double → Double → Bool
  | .inf a, .inf b => a == b
  | .fin a, .fin b => a == b
  | _, _ => false

def isFinite : Double → Bool
  | .fin _ => true
  | _ => false

end Double

inductive Json where
  | null
  | bool (value : Bool)
  | int (value : Int)
  | float (value : Double)
  | str (value : Text)
  | arr (items : List Json)
  | obj (fields : List (Text × Json))

/-- A Python dict with string keys, in insertion order. The first binding of a key counts. -/
abbrev Dict := List (Text × Json)

namespace Dict

/-- `d.get(key)`. -/
def get? (d : Dict) (key : Text) : Option Json := d.lookup key

/-- `d.get(key, default)`. -/
def getD (d : Dict) (key : Text) (default : Json) : Json := (d.get? key).getD default

def has (d : Dict) (key : Text) : Bool := (d.get? key).isSome

/-- `d[key] = value`: an existing key keeps its place. -/
def set : Dict → Text → Json → Dict
  | [], key, value => [(key, value)]
  | (k, v) :: rest, key, value =>
      if k = key then (k, value) :: rest else (k, v) :: set rest key value

/-- `d.pop(key, None)`, the remaining entries. -/
def erase (d : Dict) (key : Text) : Dict := d.filter fun field => field.1 ≠ key

/-- `{**base, **update}`. -/
def merge (base update : Dict) : Dict := update.foldl (fun d field => d.set field.1 field.2) base

def keys (d : Dict) : List Text := d.map Prod.fst

@[simp] theorem get?_nil (key : Text) : get? [] key = none := rfl

@[simp] theorem get?_cons (k : Text) (v : Json) (d : Dict) (key : Text) :
    get? ((k, v) :: d) key = if key = k then some v else get? d key := by
  simp only [get?, List.lookup_cons]
  by_cases same : key = k
  · simp [same]
  · simp [same, beq_eq_false_iff_ne.mpr same]

theorem get?_set (d : Dict) (key other : Text) (value : Json) :
    (d.set key value).get? other = if other = key then some value else d.get? other := by
  induction d with
  | nil => simp [set]
  | cons field rest ih =>
    obtain ⟨k, v⟩ := field
    by_cases here : k = key
    · subst here
      by_cases same : other = k <;> simp [set, same]
    · by_cases same : other = k
      · subst same
        simp [set, here]
      · simp [set, here, same, ih]

@[simp] theorem get?_set_same (d : Dict) (key : Text) (value : Json) :
    (d.set key value).get? key = some value := by
  simp [get?_set]

theorem get?_set_other (d : Dict) (value : Json) (other : name ≠ key) :
    (d.set key value).get? name = d.get? name := by
  simp [get?_set, other]

@[simp] theorem set_set (d : Dict) (key : Text) (first value : Json) :
    (d.set key first).set key value = d.set key value := by
  induction d with
  | nil => simp [set]
  | cons field rest ih =>
    obtain ⟨k, v⟩ := field
    by_cases here : k = key
    · simp [set, here]
    · simp [set, here, ih]

theorem get?_erase_other (d : Dict) (other : name ≠ key) :
    (d.erase key).get? name = d.get? name := by
  induction d with
  | nil => rfl
  | cons field rest ih =>
    obtain ⟨k, v⟩ := field
    by_cases same : k = key
    · subst same
      simp only [erase, List.filter_cons, ne_eq, not_true_eq_false, decide_false,
        Bool.false_eq_true, if_false, get?_cons, if_neg other]
      exact ih
    · simp only [erase, List.filter_cons, ne_eq, same, not_false_eq_true, decide_true, if_true,
        get?_cons]
      rw [← ih]
      rfl

end Dict

namespace Json

/-- The number a `bool`, `int` or `float` stands for in a comparison. -/
def num? : Json → Option Double
  | .bool value => some (.fin (if value then 1 else 0))
  | .int value => some (.fin value)
  | .float value => some value
  | _ => none

mutual

/-- Python's `==`: dicts compare as maps, numbers across their types. -/
def eq : Json → Json → Bool
  | .null, .null => true
  | .str a, .str b => a == b
  | .arr xs, .arr ys => eqItems xs ys
  | .obj xs, .obj ys => xs.length == ys.length && eqFields xs ys
  | a, b =>
      match a.num?, b.num? with
      | some x, some y => x.eq y
      | _, _ => false

def eqItems : List Json → List Json → Bool
  | [], [] => true
  | x :: xs, y :: ys => eq x y && eqItems xs ys
  | _, _ => false

/-- Every field on the left is bound to an equal value on the right. -/
def eqFields : List (Text × Json) → List (Text × Json) → Bool
  | [], _ => true
  | (k, v) :: rest, ys =>
      (match ys.lookup k with
        | some w => eq v w
        | none => false) && eqFields rest ys

end

mutual

/-- No `NaN` or infinity: what `json.dumps(..., allow_nan=False)` accepts. -/
def finite : Json → Bool
  | .float value => value.isFinite
  | .arr items => finiteItems items
  | .obj fields => finiteFields fields
  | _ => true

def finiteItems : List Json → Bool
  | [] => true
  | item :: rest => finite item && finiteItems rest

def finiteFields : List (Text × Json) → Bool
  | [] => true
  | (_, value) :: rest => finite value && finiteFields rest

end

mutual

/-- No lone surrogate, in a key or a value: the UTF-8 writer accepts the dumped text. -/
def encodable : Json → Bool
  | .str value => value.encodable
  | .arr items => encodableItems items
  | .obj fields => encodableFields fields
  | _ => true

def encodableItems : List Json → Bool
  | [] => true
  | item :: rest => encodable item && encodableItems rest

def encodableFields : List (Text × Json) → Bool
  | [] => true
  | (key, value) :: rest => key.encodable && encodable value && encodableFields rest

end

mutual

/-- How deep arrays and objects nest. -/
def depth : Json → Nat
  | .arr items => depthItems items + 1
  | .obj fields => depthFields fields + 1
  | _ => 0

def depthItems : List Json → Nat
  | [] => 0
  | item :: rest => max (depth item) (depthItems rest)

def depthFields : List (Text × Json) → Nat
  | [] => 0
  | (_, value) :: rest => max (depth value) (depthFields rest)

end

/-- Python's truth value. -/
def truthy : Json → Bool
  | .null => false
  | .bool value => value
  | .int value => value != 0
  | .float (.fin value) => value != 0
  | .float _ => true
  | .str value => !value.isEmpty
  | .arr items => !items.isEmpty
  | .obj fields => !fields.isEmpty

/-- `value or default`. -/
def or (value default : Json) : Json := if value.truthy then value else default

/-- `value is True`. -/
def isTrue : Json → Bool
  | .bool true => true
  | _ => false

/-- `value is False`. -/
def isFalse : Json → Bool
  | .bool false => true
  | _ => false

def isNull : Json → Bool
  | .null => true
  | _ => false

/-- `type(value) is int`. -/
def isInt : Json → Bool
  | .int _ => true
  | _ => false

def isStr : Json → Bool
  | .str _ => true
  | _ => false

def isDict : Json → Bool
  | .obj _ => true
  | _ => false

def isList : Json → Bool
  | .arr _ => true
  | _ => false

def dict? : Json → Option Dict
  | .obj fields => some fields
  | _ => none

/-- `value == expected` for a value that may be missing: `d.get(key) == expected`. -/
def eqOpt (value : Option Json) (expected : Json) : Bool := (value.getD .null).eq expected

@[simp] theorem eq_str_left (t : Text) (j : Json) : (Json.str t).eq j = true ↔ j = .str t := by
  cases j with
  | str u =>
    simp only [eq, beq_iff_eq, str.injEq]
    exact eq_comm
  | null | bool | int | float | arr | obj => simp [eq, num?]

@[simp] theorem eq_str_right (t : Text) (j : Json) : j.eq (.str t) = true ↔ j = .str t := by
  cases j with
  | str u => simp only [eq, beq_iff_eq, str.injEq]
  | null | bool | int | float | arr | obj => simp [eq, num?]

/-- A field on the left of an equality of dicts has an equal value on the right. -/
theorem eqFields_lookup {xs ys : List (Text × Json)} (same : eqFields xs ys = true)
    (found : xs.lookup k = some v) : ∃ w, ys.lookup k = some w ∧ v.eq w = true := by
  induction xs with
  | nil => cases found
  | cons field rest ih =>
    obtain ⟨key, value⟩ := field
    rw [eqFields, Bool.and_eq_true] at same
    rw [List.lookup_cons] at found
    split at found
    · next here =>
      obtain rfl := Option.some.inj found
      obtain rfl := beq_iff_eq.mp here
      cases other : ys.lookup k with
      | none => simp [other] at same
      | some w => exact ⟨w, rfl, by simpa [other] using same.1⟩
    · exact ih same.2 found

theorem eqItems_forall₂ {xs ys : List Json} (same : eqItems xs ys = true) :
    List.Forall₂ (fun x y => x.eq y = true) xs ys := by
  induction xs generalizing ys with
  | nil =>
    cases ys with
    | nil => exact .nil
    | cons => cases same
  | cons x xs ih =>
    cases ys with
    | nil => cases same
    | cons y ys =>
      rw [eqItems, Bool.and_eq_true] at same
      exact .cons same.1 (ih same.2)

@[simp] theorem eq_int (a b : Int) : (Json.int a).eq (.int b) = true ↔ a = b := by
  simp [eq, num?, Double.eq]

end Json
end InferForge.Py

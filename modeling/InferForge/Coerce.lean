import InferForge.Host

/-! Python's built-in conversions on JSON values. `dict(value)` accepts more than
objects and can produce keys that are not strings, which `json.dumps` may then fail
to sort; both ways of failing are part of what a report can do to the scheduler. -/
namespace InferForge
open Py

/-- A dict whose keys need not be strings. -/
abbrev Mapping := List (Json × Json)

namespace Mapping

def get? (m : Mapping) (key : Json) : Option Json :=
  (m.find? fun entry => entry.1.eq key).map Prod.snd

/-- `m[key] = value`: equal keys, such as `1` and `True`, are one key. -/
def set : Mapping → Json → Json → Mapping
  | [], key, value => [(key, value)]
  | (k, v) :: rest, key, value =>
      if k.eq key then (k, value) :: rest else (k, v) :: set rest key value

theorem get?_set_text (m : Mapping) (key other : Text) (value : Json) :
    (m.set (.str key) value).get? (.str other) =
      if other = key then some value else m.get? (.str other) := by
  induction m with
  | nil =>
    by_cases same : other = key
    · simp [set, get?, same]
    · simp [set, get?, same, Ne.symm same]
  | cons entry rest ih =>
    obtain ⟨k, v⟩ := entry
    by_cases here : k.eq (.str key) = true
    · obtain rfl := (Json.eq_str_right _ _).mp here
      by_cases same : other = key
      · simp [set, get?, same]
      · simp [set, get?, same, Ne.symm same]
    · rw [set, if_neg here]
      by_cases found : k.eq (.str other) = true
      · obtain rfl := (Json.eq_str_right _ _).mp found
        have apart : other ≠ key := by
          rintro rfl
          exact here found
        simp [get?, apart]
      · have skip (m : Mapping) : get? ((k, v) :: m) (.str other) = get? m (.str other) := by
          simp [get?, Bool.eq_false_iff.mpr found]
        rw [skip, skip, ih]

def setDefault (m : Mapping) (key : Text) (value : Json) : Mapping :=
  if (m.get? (.str key)).isSome then m else m ++ [(.str key, value)]

def ofDict (d : Dict) : Mapping := d.map fun field => (.str field.1, field.2)

/-- `{**base, **update}`. -/
def merge (base update : Mapping) : Mapping :=
  update.foldl (fun m entry => m.set entry.1 entry.2) base

/-- `sort_keys` compares keys as soon as there are two: strings with strings, numbers
with numbers, and nothing with `None`. -/
def sortable (m : Mapping) : Bool :=
  m.length ≤ 1 || m.all (fun entry => entry.1.isStr) || m.all fun entry => entry.1.num?.isSome

/-- The text `json.dumps` writes for a key. -/
def keyText (host : Host) : Json → Text
  | .str t => t
  | .null => "null"
  | .bool value => if value then "true" else "false"
  | .int n => Text.ofInt n
  | key => host.repr key

/-- What a reader of the dumped document gets back. -/
def dumped (host : Host) (m : Mapping) : Except Exn Dict :=
  if m.sortable then .ok (m.map fun entry => (keyText host entry.1, entry.2))
  else .error (.type "'<' not supported between keys of different types")

/-- `NaN` and infinite keys are written like values, so `allow_nan=False` rejects them. -/
def finiteKeys (m : Mapping) : Bool := m.all fun entry => entry.1.finite

end Mapping

namespace Py.Json

def hashable : Json → Bool
  | .arr _ | .obj _ => false
  | _ => true

/-- `value in names`, for a set of texts. -/
def among (value : Json) (names : List Text) : Except Exn Bool :=
  if value.hashable then .ok (names.any fun name => value.eq (.str name))
  else .error (.type "unhashable type")

theorem among_listed {value : Json} {names : List Text} (listed : value.among names = .ok true) :
    ∃ name ∈ names, value = .str name := by
  unfold among at listed
  split at listed
  · obtain ⟨name, member, same⟩ := List.any_eq_true.mp (Except.ok.inj listed)
    exact ⟨name, member, (eq_str_right _ _).mp same⟩
  · cases listed

theorem among_str {name : Text} {names : List Text} (member : name ∈ names) : (Json.str name).among names = .ok true := by
  have found : (names.any fun other => (Json.str name).eq (.str other)) = true :=
    List.any_eq_true.mpr ⟨name, member, (eq_str_left _ _).mpr rfl⟩
  rw [← found]
  rfl

/-- `len(value)`. -/
def len : Json → Except Exn Nat
  | .arr items => .ok items.length
  | .obj fields => .ok fields.length
  | .str t => .ok t.codes.length
  | _ => .error (.type "object has no len()")

/-- One element of the sequence given to `dict`: any iterable of length two. -/
def pair : Json → Except Exn (Json × Json)
  | .arr [a, b] => .ok (a, b)
  | .str ⟨[a, b]⟩ => .ok (.str ⟨[a]⟩, .str ⟨[b]⟩)
  | .obj [(a, _), (b, _)] => .ok (.str a, .str b)
  | .arr _ | .str _ | .obj _ => .error (.value "dictionary update sequence element has wrong length")
  | _ => .error (.type "cannot convert dictionary update sequence element to a sequence")

def addPair (m : Mapping) (item : Json) : Except Exn Mapping := do
  let (key, value) ← pair item
  if hashable key then return m.set key value
  else throw (.type "unhashable type")

/-- `dict(value)`. -/
def toMapping : Json → Except Exn Mapping
  | .obj fields => .ok (Mapping.ofDict fields)
  | .arr items => items.foldlM addPair []
  | .str t =>
      if t.isEmpty then .ok []
      else .error (.value "dictionary update sequence element has length 1; 2 is required")
  | _ => .error (.type "object is not iterable")

/-- `dict(value or {})`. -/
def toMappingOr (value : Json) : Except Exn Mapping :=
  if value.truthy then toMapping value else .ok []

/-- `float(value)`. -/
def toDouble (host : Host) : Json → Except Exn Double
  | .bool value => .ok (.fin (if value then 1 else 0))
  | .int n =>
      if Host.fitsFloat n then .ok (.fin (host.round n))
      else .error (.overflow "int too large to convert to float")
  | .float x => .ok x
  | .str t =>
      match host.floatOfText t with
      | some x => .ok x
      | none => .error (.value "could not convert string to float")
  | _ => .error (.type "float() argument must be a string or a real number")

/-- `int(value)`. -/
def toInt (host : Host) : Json → Except Exn Int
  | .bool value => .ok (if value then 1 else 0)
  | .int n => .ok n
  | .float (.fin value) => .ok (value.num.tdiv value.den)
  | .float .nan => .error (.value "cannot convert float NaN to integer")
  | .float (.inf _) => .error (.overflow "cannot convert float infinity to integer")
  | .str t =>
      match host.intOfText t with
      | some n => .ok n
      | none => .error (.value "invalid literal for int()")
  | _ => .error (.type "int() argument must be a string or a real number")

end Py.Json
end InferForge

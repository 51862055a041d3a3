import InferForge.Py.Json
import InferForge.Py.Path
import InferForge.Effect
import Mathlib.Algebra.Order.Ring.Rat
import Mathlib.Data.Nat.Cast.Order.Basic
import Mathlib.Order.Monotone.Defs

/-! What one harness process takes from its surroundings. `Host` is fixed for a whole
history: the clock, the token generator, hashing and the library functions whose
results the harness only compares or stores. `Disk` is the file system as one call
finds it; workers change it freely between calls, so every call gets its own. -/
namespace InferForge
open Py

abbrev Bytes := List UInt8
abbrev Time := Rat

/-- Exception classes, as far as the handlers of the harness tell them apart. -/
inductive ExnKind where
  | osError | valueError | writePolicyError | unicodeError | keyError | typeError
  | attributeError | overflowError | indexError | databaseError | recursionError
deriving DecidableEq, Repr

def ExnKind.className : ExnKind → Text
  | .osError => "OSError"
  | .valueError => "ValueError"
  | .writePolicyError => "WritePolicyError"
  | .unicodeError => "UnicodeEncodeError"
  | .keyError => "KeyError"
  | .typeError => "TypeError"
  | .attributeError => "AttributeError"
  | .overflowError => "OverflowError"
  | .indexError => "IndexError"
  | .databaseError => "DatabaseError"
  | .recursionError => "RecursionError"

structure Exn where
  kind : ExnKind
  message : Text
deriving DecidableEq, Repr

namespace Exn

def os (message : Text) : Exn := ⟨.osError, message⟩
def value (message : Text) : Exn := ⟨.valueError, message⟩
def policy (message : Text) : Exn := ⟨.writePolicyError, message⟩
def key (message : Text) : Exn := ⟨.keyError, message⟩
def type (message : Text) : Exn := ⟨.typeError, message⟩
def attr (message : Text) : Exn := ⟨.attributeError, message⟩
def overflow (message : Text) : Exn := ⟨.overflowError, message⟩
def unicode (message : Text) : Exn := ⟨.unicodeError, message⟩
def recursion : Exn := ⟨.recursionError, "maximum recursion depth exceeded"⟩

/-- `except ValueError`: `WritePolicyError` and `UnicodeError` are subclasses. -/
def isValueError (e : Exn) : Bool :=
  e.kind == .valueError || e.kind == .writePolicyError || e.kind == .unicodeError

/-- `except (OSError, ValueError, KeyError, TypeError)`. -/
def isRejection (e : Exn) : Bool :=
  e.kind == .osError || e.isValueError || e.kind == .keyError || e.kind == .typeError

/-- `except (OSError, WritePolicyError)`. -/
def isRegistration (e : Exn) : Bool := e.kind == .osError || e.kind == .writePolicyError

end Exn

/-- `if condition: raise e`. -/
def refuse (condition : Bool) (e : Exn) : Except Exn Unit := if condition then .error e else .ok ()

@[simp] theorem refuse_ok : refuse condition e = .ok u ↔ condition = false := by
  cases condition <;> simp [refuse]

/-- Hexadecimal digits as `hexdigest` writes them. -/
def isHex (c : CodePoint) : Bool := (48 ≤ c.val && c.val ≤ 57) || (97 ≤ c.val && c.val ≤ 102)

/-- The code point of the last decimal digit. -/
theorem digitCode_lt (n : Nat) : 48 + n % 10 < 0x110000 := by omega

theorem isHex_digitCode (n : Nat) : isHex ⟨48 + n % 10, digitCode_lt n⟩ = true := by
  simp only [isHex, Bool.or_eq_true, Bool.and_eq_true, decide_eq_true_eq]
  omega

structure Host where
  /-- Successive readings of `time.time()`. -/
  clock : Nat → Time
  clock_mono : Monotone clock
  /-- Successive results of `secrets.token_urlsafe`. -/
  token : Nat → Text
  token_nonempty : ∀ n, (token n).isEmpty = false
  /-- Double addition of a lease length to a reading. -/
  addSeconds : Time → Rat → Time
  sha256 : Bytes → Text
  sha256_length : ∀ bytes, (sha256 bytes).codes.length = 64
  sha256_hex : ∀ bytes, (sha256 bytes).codes.all isHex = true
  /-- `json.dumps` with sorted keys, as a text to be hashed. -/
  dumps : Json → Text
  /-- `json.loads` of a file; `none` is an exception. -/
  loads : Bytes → Option Json
  /-- Whether the nesting of a file that cannot be read is what exhausts the interpreter's stack. -/
  tooDeep : Bytes → Bool
  upper : Text → Text
  repr : Json → Text
  /-- `int(text)` and `float(text)`; `none` is a `ValueError`. -/
  intOfText : Text → Option Int
  floatOfText : Text → Option Double
  /-- The nearest double to an integer in range. -/
  round : Int → Rat

namespace Host

/-- `str(value)`. -/
def str (host : Host) : Json → Text
  | .str t => t
  | value => host.repr value

/-- What `json.loads` raises: a `ValueError`, or a `RecursionError` on a text nested too deep. -/
def loadsError (host : Host) (content : Bytes) : Exn :=
  if host.tooDeep content then .recursion else .value "Expecting value"

/-- An `int` converts to a double unless it rounds to `2 ^ 1024` or beyond. -/
def fitsFloat (n : Int) : Bool := n.natAbs < 2 ^ 1024 - 2 ^ 970

end Host

/-- `d.get(key)` on a value of any JSON type: only a dict has the attribute. -/
def Py.Json.get (value : Json) (key : Text) : Except Exn (Option Json) :=
  match value with
  | .obj fields => .ok (Dict.get? fields key)
  | _ => .error (.attr "object has no attribute 'get'")

/-- `value.get(key)`, with `None` for a missing key. -/
def Py.Json.field (value : Json) (key : Text) : Except Exn Json := return (← value.get key).getD .null

/-- `value[key]` for a string key. -/
def Py.Json.item (value : Json) (key : Text) : Except Exn Json :=
  match value with
  | .obj fields =>
      match Dict.get? fields key with
      | some found => .ok found
      | none => .error (.key key)
  | _ => .error (.type "indices must be integers or slices, not str")

theorem Py.Json.item_ok {value : Json} :
    value.item key = .ok found ↔ ∃ fields, value = .obj fields ∧ Dict.get? fields key = some found := by
  unfold Json.item
  split
  · next fields =>
    split <;> simp_all
  · next other =>
    exact ⟨nofun, fun ⟨fields, same, _⟩ => (other fields same).elim⟩

/-- What a `for` loop over the value visits. -/
def Py.Json.elements : Json → Except Exn (List Json)
  | .arr items => .ok items
  | .obj fields => .ok (fields.map fun field => .str field.1)
  | .str t => .ok (t.codes.map fun c => .str ⟨[c]⟩)
  | _ => .error (.type "object is not iterable")

/-- A file system as one call sees it: what reading gives, and which writes succeed. -/
structure Disk where
  expanduser : Path → Except Exn Path
  /-- `path.resolve()`. -/
  resolve : Path → Except Exn Path
  isSymlink : Path → Except Exn Bool
  isFile : Path → Except Exn Bool
  exists' : Path → Except Exn Bool
  read : Path → Except Exn Bytes
  /-- `mkdir(parents=True, exist_ok=True)`. -/
  mkdirs : Path → Except Exn Unit
  /-- Opening the pending file beside a target, and moving it into place. -/
  openPending : Path → Except Exn Unit
  publish : Path → Except Exn Unit
  /-- `RunPaths(root, run_id).allocate_attempt(task_id)`: the new attempt directory. -/
  allocateAttempt : Json → Text → Text → Except Exn Path
  /-- `ArtifactStore(root).register(...)`: the manifest path. -/
  register : Path → Json → Text → Except Exn Path
  repoRoot : Path
  home : Path
  /-- Parent directory of the scheduler database, where default run directories go. -/
  stateParent : Except Exn Path
  /-- How the database orders the rows of equal `created_at` in a query of this call. -/
  ties : Text → Nat
  /-- `validation.base_model` of the cluster profile. -/
  baseModel : Except Exn Json

/-! A host and a disk to evaluate the definitions on: tokens are numbered, nothing can be
read, and every write succeeds. -/

def Host.sample : Host where
  clock n := n
  clock_mono := Nat.mono_cast
  token n := ⟨List.replicate (n + 1) 97⟩
  token_nonempty _ := rfl
  addSeconds t s := t + s
  sha256 _ := ⟨List.replicate 64 48⟩
  sha256_length _ := by simp
  sha256_hex _ := by decide +kernel
  dumps _ := ""
  loads _ := none
  tooDeep _ := false
  upper t := t
  repr _ := ""
  intOfText _ := none
  floatOfText _ := none
  round n := n

def Disk.sample : Disk where
  expanduser := .ok
  resolve := .ok
  isSymlink _ := .ok false
  isFile _ := .ok false
  exists' _ := .ok false
  read _ := .error (.os "No such file or directory")
  mkdirs _ := .ok ()
  openPending _ := .ok ()
  publish _ := .ok ()
  allocateAttempt _ _ _ := .error (.os "No such file or directory")
  register _ _ _ := .error (.os "No such file or directory")
  repoRoot := .ofText "/repo"
  home := .ofText "/home"
  stateParent := .ok (.ofText "/state")
  ties _ := 0
  baseModel := .error (.os "No such file or directory")

/-- A digest that shows the first byte. -/
def digestSample (content : Bytes) : Text :=
  ⟨List.replicate 64 (match content with
    | [] => 48
    | first :: _ => ⟨48 + first.toNat % 10, digitCode_lt first.toNat⟩)⟩

/-- A host that knows these documents. -/
def Host.reading (documents : List (Bytes × Json)) : Host := { Host.sample with
  loads := fun content => documents.lookup content
  sha256 := digestSample
  sha256_length := fun content => by cases content <;> simp [digestSample]
  sha256_hex := fun content => by
    cases content with
    | nil => rfl
    | cons first rest =>
      simp only [digestSample, List.all_replicate, isHex_digitCode]
      decide }

/-- A disk that holds these files. -/
def Disk.holding (files : List (Text × Bytes)) : Disk := { Disk.sample with
  isFile := fun path => .ok ((files.lookup path.toText).isSome)
  exists' := fun path => .ok ((files.lookup path.toText).isSome)
  read := fun path =>
    match files.lookup path.toText with
    | some content => .ok content
    | none => .error (.os "No such file or directory") }

end InferForge

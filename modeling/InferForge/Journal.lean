import InferForge.Storage
import InferForge.Py.Lines

/-! The journal: an append-only file of facts, one JSON object a line. -/
namespace InferForge
open Py

/-- `float.__repr__` and `float` of the host. -/
def Host.floats (host : Host) : FloatText where
  write q := (host.repr (.float (.fin q))).codes
  read cs := host.floatOfText ⟨cs⟩

namespace Journal

/-- A `dict[str, str]`. -/
structure Environment where
  fields : List (Text × Text)
  distinct : (fields.map Prod.fst).Nodup

def Environment.json (environment : Environment) : Json :=
  .obj (environment.fields.map fun field => (field.1, .str field.2))

/-- Stable digest of the facts a conclusion is only true of. -/
def fingerprint (host : Host) (environment : Environment) : Text :=
  ⟨(host.sha256 (Text.utf8 ⟨dumps host.floats .canonical environment.json.sorted⟩)).codes.take 16⟩

/-- A `dict` that JSON can hold. -/
structure Detail where
  fields : Dict
  distinct : (Json.obj fields).distinct = true

/-- The arguments of one `record`. -/
structure Fact where
  kind : Text
  subject : Text
  state : Text
  artifacts : Path
  environment : Environment
  extra : Option Detail

namespace Fact

/-- `extra or {}`. -/
def extras (fact : Fact) : Dict :=
  match fact.extra with
  | some detail => detail.fields
  | none => []

def detail (fact : Fact) : Dict :=
  if fact.extras.isEmpty then [] else [("detail", .obj fact.extras)]

def entry (host : Host) (fact : Fact) : Dict :=
  ([("kind", .str fact.kind), ("subject", .str fact.subject), ("state", .str fact.state),
    ("artifacts", .str fact.artifacts.toText), ("environment", fact.environment.json),
    ("fingerprint", .str (fingerprint host fact.environment))] : Dict) ++ fact.detail

/-- The line of an entry, without its line feed. -/
def line (host : Host) (fact : Fact) : List CodePoint :=
  dumps host.floats .line (.obj (fact.entry host))

end Fact

/-- One call of `record` with what it meets: the file system, and whether the journal opens
for appending. -/
structure Call where
  disk : Disk
  append : Except Exn Unit
  fact : Fact

/-- `record` on the content of the journal, `none` where there is no file. Opening creates
the file; encoding the line may then still fail. -/
def record (host : Host) (journal : Path) (file : Option Text) (call : Call) :
    Except Exn Dict × Option Text :=
  let prepared : Except Exn Unit := do
    let journal ← ensureExternal call.disk journal
    call.disk.mkdirs journal.parent
    call.append
  match prepared with
  | .error e => (.error e, file)
  | .ok () =>
      let content := file.getD ⟨[]⟩
      let line : Text := ⟨call.fact.line host ++ [10]⟩
      if line.encodable then (.ok (call.fact.entry host), some (content ++ line))
      else (.error (.unicode "surrogates not allowed"), some content)

/-- `json.loads(line)`. -/
def decode (host : Host) (line : Text) : Except Exn Json :=
  match loads host.floats line.codes with
  | some value => .ok value
  | none => .error (.value "Expecting value")

def load (host : Host) : Option Text → Except Exn (List Json)
  | none => .ok []
  | some content => content.fullLines.mapM (decode host)

/-- `first and next`: the right operand is evaluated only if the left one holds. -/
def andThen (first next : Except Exn Bool) : Except Exn Bool := do
  if ← first then next else return false

theorem andThen_ok (a b : Bool) : andThen (.ok a) (.ok b) = .ok (a && b) := by
  cases a <;> rfl

def itemIs (entry : Json) (key value : Text) : Except Exn Bool := do
  return (← entry.item key).eq (.str value)

/-- `entry.get(key) == value`. -/
def getIs (entry : Json) (key : Text) (value : Json) : Except Exn Bool := do
  return Json.eqOpt (← entry.get key) value

def hit (host : Host) (kind : Text) (subject : Option Text) (environment : Option Environment)
    (states : List Text) (entry : Json) : Except Exn Bool :=
  let about := match subject with
    | none => .ok true
    | some subject => itemIs entry "subject" subject
  let current := match environment with
    | none => .ok true
    | some environment =>
        andThen (getIs entry "environment" environment.json)
          (getIs entry "fingerprint" (.str (fingerprint host environment)))
  let inState := if states.isEmpty then .ok true else do
    let state ← entry.item "state"
    return states.any fun wanted => state.eq (.str wanted)
  andThen (itemIs entry "kind" kind) (andThen about (andThen current inState))

/-- `[entry for entry in entries if condition]`. -/
def keep (condition : Json → Except Exn Bool) : List Json → Except Exn (List Json)
  | [] => .ok []
  | entry :: rest => do
      if ← condition entry then return entry :: (← keep condition rest) else keep condition rest

/-- Most recent first. -/
def query (host : Host) (file : Option Text) (kind : Text) (subject : Option Text)
    (environment : Option Environment) (states : List Text) : Except Exn (List Json) := do
  if environment.any (·.fields.isEmpty) then return []
  else
    let entries ← load host file
    let hits ← keep (hit host kind subject environment states) entries
    return hits.reverse

def latest (host : Host) (file : Option Text) (kind : Text) (subject : Option Text)
    (environment : Option Environment) (states : List Text) : Except Exn (Option Json) := do
  return (← query host file kind subject environment states).head?

/-- A sequence of calls on one journal, and the facts of those that returned. -/
def recordAll (host : Host) (journal : Path) : Option Text → List Call → Option Text × List Fact
  | file, [] => (file, [])
  | file, call :: rest =>
      let (outcome, file) := record host journal file call
      let (file, facts) := recordAll host journal file rest
      match outcome with
      | .ok _ => (file, call.fact :: facts)
      | .error _ => (file, facts)

/-! ## Environments -/

theorem lookup_strings (fields : List (Text × Text)) (key : Text) :
    (fields.map fun field => (field.1, Json.str field.2)).lookup key =
      (fields.lookup key).map .str := by
  induction fields with
  | nil => rfl
  | cons field rest ih =>
    obtain ⟨k, v⟩ := field
    simp only [List.map_cons, List.lookup_cons, ih]
    split <;> rfl

theorem eqFields_strings (a b : List (Text × Text)) :
    Json.eqFields (a.map fun field => (field.1, Json.str field.2))
        (b.map fun field => (field.1, Json.str field.2)) = true ↔
      ∀ field ∈ a, b.lookup field.1 = some field.2 := by
  induction a with
  | nil => simp [Json.eqFields]
  | cons field rest ih =>
    obtain ⟨k, v⟩ := field
    simp only [List.map_cons, Json.eqFields, lookup_strings, Bool.and_eq_true, ih,
      List.forall_mem_cons]
    apply and_congr_left
    intro _
    cases b.lookup k with
    | none => simp
    | some w =>
      simp only [Option.map_some, Json.eq, beq_iff_eq, Option.some.injEq]
      exact eq_comm

/-- Two environments compare equal when they bind the same keys to the same values. -/
theorem Environment.eq_iff (a b : Environment) :
    a.json.eq b.json = true ↔ a.fields.Perm b.fields := by
  simp only [json, Json.eq, List.length_map, Bool.and_eq_true, beq_iff_eq, eqFields_strings,
    lookup_mem b.distinct]
  constructor
  · rintro ⟨size, within⟩
    have own : a.fields.Nodup := List.Nodup.of_map _ a.distinct
    apply (List.subperm_of_subset own (fun field member => within field member)).perm_of_length_le
    omega
  · intro same
    exact ⟨same.length_eq, fun field member => same.subset member⟩

theorem sortedFields_strings (fields : List (Text × Text)) :
    Json.sortedFields (fields.map fun field => (field.1, Json.str field.2)) =
      fields.map fun field => (field.1, Json.str field.2) := by
  induction fields with
  | nil => rfl
  | cons field rest ih => simp [Json.sortedFields, Json.sorted, ih]

instance : Std.Total fun a b : Text × Json => Json.keyLe a b = true where
  total a b := Json.codesLe_total a.1.codes b.1.codes

instance : IsTrans (Text × Json) fun a b => Json.keyLe a b = true where
  trans _ _ _ := Json.codesLe_trans

/-- The order in which an environment was written down does not show in its sorted form. -/
theorem Environment.sorted_perm {a b : Environment} (same : a.fields.Perm b.fields) :
    a.json.sorted = b.json.sorted := by
  simp only [json, Json.sorted, sortedFields_strings, Json.obj.injEq]
  let named := fun field : Text × Text => (field.1, Json.str field.2)
  have antisymm : ∀ x y, x ∈ List.insertionSort (Json.keyLe · ·) (a.fields.map named) →
      y ∈ List.insertionSort (Json.keyLe · ·) (b.fields.map named) →
      Json.keyLe x y = true → Json.keyLe y x = true → x = y := by
    intro x y hx hy before after
    simp only [List.mem_insertionSort, List.mem_map] at hx hy
    obtain ⟨⟨k, v⟩, inA, rfl⟩ := hx
    obtain ⟨⟨k', v'⟩, inB, rfl⟩ := hy
    obtain rfl : k = k' := Text.ext (Json.codesLe_antisymm before after)
    have first := (lookup_mem b.distinct).mpr (same.subset inA)
    have second := (lookup_mem b.distinct).mpr inB
    rw [first, Option.some.injEq] at second
    rw [second]
  have sortedA := List.perm_insertionSort (Json.keyLe · ·) (a.fields.map named)
  have sortedB := List.perm_insertionSort (Json.keyLe · ·) (b.fields.map named)
  exact List.Perm.eq_of_pairwise antisymm (List.pairwise_insertionSort _ _)
    (List.pairwise_insertionSort _ _) ((sortedA.trans (same.map named)).trans sortedB.symm)

theorem fingerprint_perm (host : Host) {a b : Environment} (same : a.fields.Perm b.fields) :
    fingerprint host a = fingerprint host b := by
  rw [fingerprint, fingerprint, Environment.sorted_perm same]

end Journal
end InferForge

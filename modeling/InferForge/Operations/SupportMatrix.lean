import InferForge.ResultValidation
import InferForge.Py.Template

/-! The support matrix: one row for each model and hardware, derived from recorded evidence. -/
namespace InferForge.SupportMatrix
open Py ResultValidation Effect

/-! ## The entry -/

/-- An evidence file: not given or not there, not readable, or a JSON value. -/
inductive Evidence where
  | absent
  | unreadable (e : Exn)
  | found (content : Json)

/-- `read_json(path) if path else {}`. -/
def Evidence.read : Evidence → Except Exn Json
  | .absent => .ok (.obj [])
  | .unreadable e => .error e
  | .found content => .ok content

structure Entry where
  model : Text
  hardware : Text
  status : Text
  revision : Json
  stackCommit : Json
  conditions : List Text
  deploymentProof : Json
  accuracyDifferential : Json
  memoryBudget : Json
  limitations : List Text

def Entry.toJson (entry : Entry) : Json :=
  .obj [("model", .str entry.model), ("hardware", .str entry.hardware), ("status", .str entry.status),
    ("revision", entry.revision), ("stack_commit", entry.stackCommit),
    ("conditions", .arr (entry.conditions.map .str)),
    ("evidence", .obj [("deployment_proof", entry.deploymentProof),
      ("accuracy_differential", entry.accuracyDifferential), ("memory_budget", entry.memoryBudget)]),
    ("limitations", .arr (entry.limitations.map .str))]

def recordedParameters : List Text := ["dtype", "tensor_parallel_size", "max_model_len", "enforce_eager"]

/-- `value.get(key) == expected`. -/
def fieldIs (value : Json) (key expected : Text) : Except Exn Bool :=
  return (← value.field key).eq (.str expected)

section Build
variable (host : Host)

/-- The launch parameters that a row depends on. -/
def conditionsOf : List Json → Except Exn (List Text)
  | [] => .ok []
  | item :: rest => do
      let parameter ← item.item "parameter"
      let rendered ←
        if recordedParameters.any fun name => parameter.eq (.str name) then do
          let value ← item.item "value"
          pure [host.str parameter ++ "=" ++ host.str value]
        else pure []
      return rendered ++ (← conditionsOf rest)

/-- `any(item["parameter"] == "enforce_eager" and item["value"] ...)`. -/
def eager : List Json → Except Exn Bool
  | [] => .ok false
  | item :: rest => do
      if (← item.item "parameter").eq (.str "enforce_eager") then
        if (← item.item "value").truthy then return true
      eager rest

def eagerLimitation : Text :=
  "eager execution only: the decode fallback is shape-dynamic and cannot be captured in a FULL graph"

/-- A differential over few prompts. -/
def accuracyLimitation (accuracy : Json) : Except Exn (List Text) := do
  let cases ← accuracy.field "cases"
  if cases.isNull then return []
  let count ← (cases.or (.arr [])).len
  if count < 10 then
    return ["accuracy is a " ++ Text.ofNat count ++ "-prompt differential, not a dataset score"]
  else return []

def statusOf (served correct : Bool) : Text :=
  if served && correct then "validated"
  else if served then "runs_unverified_accuracy"
  else "not_yet_validated"

theorem statusOf_validated : statusOf served correct = "validated" ↔ served = true ∧ correct = true := by
  revert served correct; decide

theorem statusOf_unverified :
    statusOf served correct = "runs_unverified_accuracy" ↔ served = true ∧ ¬ correct = true := by
  revert served correct; decide

theorem statusOf_unserved : statusOf served correct = "not_yet_validated" ↔ ¬ served = true := by
  revert served correct; decide

def buildEntry (subject hardware : Text) (deployment accuracy budget plan : Json) :
    Except Exn Entry := do
  let served ← fieldIs deployment "state" "DEPLOYMENT_READY"
  let correct ← fieldIs accuracy "status" "ACCURACY_PASS"
  let parameters ← ((← plan.field "parameters").or (.arr [])).elements
  let conditions ← conditionsOf host parameters
  let isEager ← eager parameters
  let few ← accuracyLimitation accuracy
  return {
    model := subject
    hardware := hardware
    status := statusOf served correct
    revision := (← accuracy.field "revision").or (← plan.field "revision")
    stackCommit := ← plan.field "stack_commit"
    conditions := conditions
    deploymentProof := ← deployment.field "state"
    accuracyDifferential := ← accuracy.field "status"
    memoryBudget := ← budget.field "state"
    limitations := (if isEager then [eagerLimitation] else []) ++ few }

end Build

/-! ## The gate -/

/-- What the contract of the task asks of an entry. -/
structure Contract where
  statusRequires : List (Text × List Text)
  requireValidityConditions : Bool
  requireLimitationsWhenConditional : Bool

def contract : Contract where
  statusRequires := [("validated", ["deployment_proof", "accuracy_differential"]),
    ("runs_unverified_accuracy", ["deployment_proof"]), ("not_yet_validated", [])]
  requireValidityConditions := true
  requireLimitationsWhenConditional := true

def statuses : List Text :=
  ["validated", "runs_unverified_accuracy", "not_yet_validated", "unsupported"]

def Entry.evidence (entry : Entry) (name : Text) : Json :=
  if name = "deployment_proof" then entry.deploymentProof
  else if name = "accuracy_differential" then entry.accuracyDifferential
  else if name = "memory_budget" then entry.memoryBudget
  else .null

def validateMatrixEntry (host : Host) (contract : Contract) (entry : Entry) : List Text :=
  let status := host.repr (.str entry.status)
  let validated := entry.status = "validated"
  let conditions := Text.join " " entry.conditions
  errorIf (!statuses.contains entry.status) ("unknown status " ++ status) ++
  errorIf entry.model.isEmpty "model is required" ++
  errorIf entry.hardware.isEmpty "hardware is required" ++
  (((contract.statusRequires.lookup entry.status).getD []).flatMap fun name =>
    errorIf (!(entry.evidence name).truthy) ("status " ++ status ++ " requires " ++ name ++
      " evidence, which is absent — a claim without it is not falsifiable")) ++
  errorIf (validated && !entry.deploymentProof.eq (.str "DEPLOYMENT_READY"))
    "validated requires a DEPLOYMENT_READY proof" ++
  errorIf (validated && !entry.accuracyDifferential.eq (.str "ACCURACY_PASS"))
    "validated requires ACCURACY_PASS: a server that answers is not a server that is right" ++
  (if contract.requireValidityConditions && entry.status ≠ "not_yet_validated" then
    errorIf (!entry.revision.truthy) "revision is required: a row is only true of one revision" ++
    errorIf (!entry.stackCommit.truthy)
      "stack_commit is required: a row is only true of one stack_commit"
  else []) ++
  errorIf (contract.requireLimitationsWhenConditional && conditions.holds "enforce_eager=True" &&
    entry.limitations.isEmpty)
    "the result depended on eager execution, so that limitation must appear in the row"

/-! ## The catalog -/

structure Run where
  subject : Text
  hardware : Text
  deployment : Evidence
  accuracy : Evidence
  budget : Evidence
  plan : Evidence
  apply : Bool
  /-- Whether the two reports can be written. -/
  out : Except Exn Unit

/-- `existing.get("model") == entry["model"] and existing.get("hardware") == entry["hardware"]`. -/
def sameKey (subject hardware : Text) (existing : Json) : Except Exn Bool := do
  if ← fieldIs existing "model" subject then fieldIs existing "hardware" hardware else return false

/-- The rows of other keys. -/
def otherRows (subject hardware : Text) : List Json → Except Exn (List Json)
  | [] => .ok []
  | existing :: rest => do
      let same ← sameKey subject hardware existing
      let kept ← otherRows subject hardware rest
      return if same then kept else existing :: kept

/-- The catalog with the entry at its end. -/
def applied (matrix : Json) (entry : Entry) : Except Exn Json := do
  match matrix with
  | .obj fields =>
      let rows ← (Dict.getD fields "entries" (.arr [])).elements
      let kept ← otherRows entry.model entry.hardware rows
      return .obj (Dict.set fields "entries" (.arr (kept ++ [entry.toJson])))
  | _ => .error (.attr "object has no attribute 'get'")

/-- `execute`: the exit code, and the catalog if it is written. -/
def execute (host : Host) (contract : Contract) (run : Run) (matrix : Json) :
    Except Exn (Nat × Option Json) := do
  let deployment ← run.deployment.read
  let accuracy ← run.accuracy.read
  let budget ← run.budget.read
  let plan ← run.plan.read
  let entry ← buildEntry host run.subject run.hardware deployment accuracy budget plan
  run.out
  if (validateMatrixEntry host contract entry).isEmpty then
    if run.apply then return (0, some (← applied matrix entry)) else return (0, none)
  else return (1, none)

/-! ## What a row may claim -/

/-- The value of a key of a recorded object, `None` where there is none. -/
def stated : Json → Text → Json
  | .obj fields, key => Dict.getD fields key .null
  | _, _ => .null

def rows : Json → List Json
  | .obj fields => (Dict.getD fields "entries" (.arr [])).elements.toOption.getD []
  | _ => []

def IsKey (subject hardware : Text) (row : Json) : Prop :=
  stated row "model" = .str subject ∧ stated row "hardware" = .str hardware

instance : DecidablePred (IsKey subject hardware) := fun row =>
  decidable_of_iff ((stated row "model").eq (.str subject) && (stated row "hardware").eq (.str hardware))
    (by simp [IsKey])

def Evidence.content : Evidence → Json
  | .found content => content
  | _ => .obj []

def Run.Served (run : Run) : Prop := stated run.deployment.content "state" = .str "DEPLOYMENT_READY"
def Run.Correct (run : Run) : Prop := stated run.accuracy.content "status" = .str "ACCURACY_PASS"

/-- What the evidence records of its model and of its revision, if it does. -/
structure About (subject : Text) (revision evidence : Json) : Prop where
  model : (stated evidence "subject").truthy → stated evidence "subject" = .str subject
  revision : (stated evidence "revision").truthy → stated evidence "revision" = revision

/-- The evidence records the model and the revision. -/
structure Attests (subject : Text) (revision evidence : Json) : Prop where
  model : stated evidence "subject" = .str subject
  revision : stated evidence "revision" = revision
  recorded : (stated evidence "revision").truthy

/-- What a validated row of a revision rests on: the deployment status and the accuracy report both
record that they are about this model and this revision, and the plan does not speak against it. -/
structure Run.Grounds (run : Run) (revision : Json) : Prop where
  deployment : Attests run.subject revision run.deployment.content
  accuracy : Attests run.subject revision run.accuracy.content
  plan : About run.subject revision run.plan.content

/-- What the rows after a run may differ in from the rows before it. -/
structure Honest (run : Run) (before after : List Json) : Prop where
  others : after.filter (¬ IsKey run.subject run.hardware ·) = before.filter (¬ IsKey run.subject run.hardware ·)
  one : (after.filter (IsKey run.subject run.hardware ·)).length = 1
  validated : ∀ row ∈ after, IsKey run.subject run.hardware row → stated row "status" = .str "validated" →
    run.Served ∧ run.Correct ∧ run.Grounds (stated row "revision")
  kept : run.deployment = .absent ∨ run.accuracy = .absent →
    ∀ recorded ∈ before, IsKey run.subject run.hardware recorded →
      ∃ row ∈ after, IsKey run.subject run.hardware row ∧ stated row "status" = stated recorded "status"

/-- The evidence of a run records one model and one revision, and what is missing was not recorded
before. -/
structure Warranted (run : Run) (before : List Json) : Prop where
  agreed : run.Served → run.Correct →
    run.Grounds ((stated run.accuracy.content "revision").or (stated run.plan.content "revision"))
  unserved : run.deployment = .absent → ∀ recorded ∈ before, IsKey run.subject run.hardware recorded →
    stated recorded "status" = .str "not_yet_validated"
  unchecked : run.accuracy = .absent → ∀ recorded ∈ before, IsKey run.subject run.hardware recorded →
    (run.Served → stated recorded "status" = .str "runs_unverified_accuracy") ∧
    (¬ run.Served → stated recorded "status" = .str "not_yet_validated")

/-! ## What a run writes -/

theorem field_ok : value.field key = .ok v ↔ ∃ fields, value = .obj fields ∧ v = stated value key := by
  cases value with
  | obj fields => simp [Json.field, Json.get, stated, Dict.getD, eq_comm]
  | _ => simp [Json.field, Json.get]

theorem fieldIs_ok (read : fieldIs value key expected = .ok b) :
    b = true ↔ stated value key = .str expected := by
  simp only [fieldIs, bind_ok, pure_ok] at read
  obtain ⟨v, found, rfl⟩ := read
  obtain ⟨-, -, rfl⟩ := field_ok.mp found
  exact Json.eq_str_right expected _

theorem sameKey_ok (read : sameKey subject hardware row = .ok b) : b = true ↔ IsKey subject hardware row := by
  simp only [sameKey, bind_ok] at read
  obtain ⟨ofModel, model, rest⟩ := read
  cases ofModel with
  | true => rw [IsKey, ← fieldIs_ok model, ← fieldIs_ok rest]; simp
  | false =>
    have other : ¬ stated row "model" = .str subject := by simpa using (fieldIs_ok model).not.mp
    have rejected : b = false := (Except.ok.inj ((if_neg Bool.false_ne_true).symm.trans rest)).symm
    simp [IsKey, other, rejected]

theorem otherRows_ok : otherRows subject hardware items = .ok kept →
    kept = items.filter (¬ IsKey subject hardware ·) := by
  induction items generalizing kept with
  | nil => intro read; simpa [otherRows, eq_comm] using read
  | cons row rest ih =>
    intro read
    simp only [otherRows, bind_ok, pure_ok] at read
    obtain ⟨same, key, others, tail, rfl⟩ := read
    rw [ih tail]
    cases same with
    | true => simp [(sameKey_ok key).mp rfl]
    | false =>
      have other : ¬ IsKey subject hardware row := fun here => by simpa using (sameKey_ok key).mpr here
      simp [other]

theorem applied_ok (read : applied matrix entry = .ok new) :
    rows new = (rows matrix).filter (¬ IsKey entry.model entry.hardware ·) ++ [entry.toJson] := by
  cases matrix with
  | obj fields =>
    simp only [applied, bind_ok, pure_ok] at read
    obtain ⟨items, listed, kept, others, rfl⟩ := read
    have before : rows (.obj fields) = items := by simp [rows, listed, Except.toOption]
    rw [before, ← otherRows_ok others]
    simp [rows, Dict.getD, Json.elements, Except.toOption]
  | _ => simp [applied] at read

theorem Entry.isKey (entry : Entry) : IsKey entry.model entry.hardware entry.toJson := by
  constructor <;> rfl

theorem Entry.stated_status (entry : Entry) : stated entry.toJson "status" = .str entry.status := rfl

theorem Entry.stated_revision (entry : Entry) : stated entry.toJson "revision" = entry.revision := rfl

theorem Evidence.read_ok {evidence : Evidence} {value : Json} (read : evidence.read = .ok value) :
    value = evidence.content := by
  cases evidence with
  | unreadable e => simp [Evidence.read] at read
  | _ => exact (Except.ok.inj read).symm

/-- The row that the evidence of a run gives. -/
structure Derived (run : Run) (entry : Entry) : Prop where
  model : entry.model = run.subject
  hardware : entry.hardware = run.hardware
  validated : entry.status = "validated" ↔ run.Served ∧ run.Correct
  unverified : entry.status = "runs_unverified_accuracy" ↔ run.Served ∧ ¬ run.Correct
  unserved : entry.status = "not_yet_validated" ↔ ¬ run.Served
  revision : entry.revision =
    (stated run.accuracy.content "revision").or (stated run.plan.content "revision")

theorem buildEntry_ok (built : buildEntry host run.subject run.hardware run.deployment.content
    run.accuracy.content run.budget.content run.plan.content = .ok entry) : Derived run entry := by
  simp only [buildEntry, bind_ok, pure_ok] at built
  obtain ⟨served, isServed, correct, isCorrect, _, _, _, _, _, _, _, _, _, _, accurate, ofAccuracy,
    planned, ofPlan, _, _, _, _, _, _, _, _, rfl⟩ := built
  obtain ⟨-, -, rfl⟩ := field_ok.mp ofAccuracy
  obtain ⟨-, -, rfl⟩ := field_ok.mp ofPlan
  have onServed : run.Served ↔ served = true := (fieldIs_ok isServed).symm
  have onCorrect : run.Correct ↔ correct = true := (fieldIs_ok isCorrect).symm
  exact {
    model := rfl
    hardware := rfl
    validated := by rw [onServed, onCorrect]; exact statusOf_validated
    unverified := by rw [onServed, onCorrect]; exact statusOf_unverified
    unserved := by rw [onServed]; exact statusOf_unserved
    revision := rfl }

/-- The inputs of a run that reaches the catalog with this entry. -/
structure Accepted (host : Host) (run : Run) (entry : Entry) : Prop where
  readable : ∀ evidence ∈ [run.deployment, run.accuracy, run.budget, run.plan],
    evidence.read = .ok evidence.content
  built : buildEntry host run.subject run.hardware run.deployment.content run.accuracy.content
    run.budget.content run.plan.content = .ok entry
  reported : run.out = .ok ()
  gate : (validateMatrixEntry host contract entry).isEmpty
  asked : run.apply = true

theorem execute_ok : execute host contract run matrix = .ok (code, some new) ↔
    ∃ entry, Accepted host run entry ∧ applied matrix entry = .ok new ∧ code = 0 := by
  constructor
  · intro ran
    simp only [execute, bind_ok] at ran
    obtain ⟨deployment, r₁, accuracy, r₂, budget, r₃, plan, r₄, entry, built, u, reported, rest⟩ := ran
    obtain rfl := Evidence.read_ok r₁
    obtain rfl := Evidence.read_ok r₂
    obtain rfl := Evidence.read_ok r₃
    obtain rfl := Evidence.read_ok r₄
    split at rest
    case isFalse => simp at rest
    case isTrue gate =>
      split at rest
      case isFalse => simp at rest
      case isTrue asked =>
        simp only [bind_ok, pure_ok, Prod.mk.injEq, Option.some.injEq] at rest
        obtain ⟨_, written, rfl, rfl⟩ := rest
        exact ⟨entry, ⟨by simp [r₁, r₂, r₃, r₄], built, reported, gate, asked⟩, written, rfl⟩
  · rintro ⟨entry, accepted, written, rfl⟩
    have readable := accepted.readable
    simp only [List.mem_cons, List.not_mem_nil, or_false, forall_eq_or_imp, forall_eq] at readable
    obtain ⟨r₁, r₂, r₃, r₄⟩ := readable
    simp only [execute, r₁, r₂, r₃, r₄, ok_bind, accepted.built, accepted.reported, accepted.gate,
      accepted.asked, written, if_true]
    rfl

/-! ## The catalog of a run -/

section Catalog
variable {run : Run} {entry : Entry} {before after : List Json} (derived : Derived run entry)
  (written : after = before.filter (¬ IsKey run.subject run.hardware ·) ++ [entry.toJson])

include derived in
theorem Derived.isKey : IsKey run.subject run.hardware entry.toJson := by
  rw [← derived.model, ← derived.hardware]
  exact entry.isKey

include written in
theorem eq_entry (member : row ∈ after) (key : IsKey run.subject run.hardware row) : row = entry.toJson := by
  rw [written, List.mem_append] at member
  rcases member with other | last
  · exact absurd key (by simpa using (List.mem_filter.mp other).2)
  · exact List.mem_singleton.mp last

include written in
theorem entry_mem : entry.toJson ∈ after := by simp [written]

theorem not_served (absent : run.deployment = .absent) : ¬ run.Served := by
  simp [Run.Served, absent, Evidence.content, stated, Dict.getD]

theorem not_correct (absent : run.accuracy = .absent) : ¬ run.Correct := by
  simp [Run.Correct, absent, Evidence.content, stated, Dict.getD]

include derived written in
theorem Honest.warranted (honest : Honest run before after) : Warranted run before := by
  have same : ∀ recorded ∈ before, IsKey run.subject run.hardware recorded →
      run.deployment = .absent ∨ run.accuracy = .absent → stated recorded "status" = .str entry.status := by
    intro recorded member key missing
    obtain ⟨row, here, ofKey, status⟩ := honest.kept missing recorded member key
    rw [← status, eq_entry written here ofKey, entry.stated_status]
  constructor
  · intro served correct
    have claimed : stated entry.toJson "status" = .str "validated" := by
      rw [entry.stated_status, derived.validated.mpr ⟨served, correct⟩]
    rw [← derived.revision]
    exact (honest.validated _ (entry_mem written) derived.isKey claimed).2.2
  · intro absent recorded member key
    rw [same recorded member key (.inl absent), derived.unserved.mpr (not_served absent)]
  · intro absent recorded member key
    rw [same recorded member key (.inr absent)]
    constructor
    · intro served
      rw [derived.unverified.mpr ⟨served, not_correct absent⟩]
    · intro unserved
      rw [derived.unserved.mpr unserved]

include derived written in
theorem Warranted.honest (warranted : Warranted run before) : Honest run before after := by
  have key := derived.isKey
  constructor
  · simp [written, key]
  · simp [written, key]
  · intro row member ofKey status
    obtain rfl := eq_entry written member ofKey
    obtain ⟨served, correct⟩ := derived.validated.mp (Json.str.inj status)
    refine ⟨served, correct, ?_⟩
    rw [entry.stated_revision, derived.revision]
    exact warranted.agreed served correct
  · intro missing recorded member ofKey
    refine ⟨entry.toJson, entry_mem written, key, ?_⟩
    rw [entry.stated_status]
    rcases missing with absent | absent
    · rw [warranted.unserved absent recorded member ofKey, derived.unserved.mpr (not_served absent)]
    · by_cases served : run.Served
      · rw [(warranted.unchecked absent recorded member ofKey).1 served,
          derived.unverified.mpr ⟨served, not_correct absent⟩]
      · rw [(warranted.unchecked absent recorded member ofKey).2 served, derived.unserved.mpr served]

end Catalog

/-- The run reaches the catalog: it is asked to, and its row passes the gate. -/
def Run.Writes (host : Host) (run : Run) (matrix : Json) : Prop :=
  ∃ entry new, Accepted host run entry ∧ applied matrix entry = .ok new

/-- A run claims and forgets nothing without evidence exactly if it does not reach the catalog or its
evidence warrants the rows it replaces. -/
theorem apply_honest_iff (host : Host) (run : Run) (matrix : Json) :
    (∀ code new, execute host contract run matrix = .ok (code, some new) →
      Honest run (rows matrix) (rows new)) ↔ (run.Writes host matrix → Warranted run (rows matrix)) := by
  constructor
  · rintro honest ⟨entry, new, accepted, written⟩
    have derived := buildEntry_ok accepted.built
    have after := applied_ok written
    rw [derived.model, derived.hardware] at after
    exact (honest 0 new (execute_ok.mpr ⟨entry, accepted, written, rfl⟩)).warranted derived after
  · intro warranted code new ran
    obtain ⟨entry, accepted, written, -⟩ := execute_ok.mp ran
    have derived := buildEntry_ok accepted.built
    have after := applied_ok written
    rw [derived.model, derived.hardware] at after
    exact (warranted ⟨entry, new, accepted, written⟩).honest derived after

/-- A server that is ready, and no accuracy report. -/
def unchecked : Run where
  subject := "Qwen3-8B"
  hardware := "Kunlunxin-3-P800"
  deployment := .found (.obj [("state", .str "DEPLOYMENT_READY")])
  accuracy := .absent
  budget := .absent
  plan := .found (.obj [("revision", .str "e962c91b"), ("stack_commit", .str "3ced109a")])
  apply := true
  out := .ok ()

def recorded : Json :=
  .obj [("entries", .arr [.obj [("model", .str "Qwen3-8B"), ("hardware", .str "Kunlunxin-3-P800"),
    ("status", .str "validated")]])]

def unverified : Entry where
  model := "Qwen3-8B"
  hardware := "Kunlunxin-3-P800"
  status := "runs_unverified_accuracy"
  revision := .str "e962c91b"
  stackCommit := .str "3ced109a"
  conditions := []
  deploymentProof := .str "DEPLOYMENT_READY"
  accuracyDifferential := .null
  memoryBudget := .null
  limitations := []

/-- The status of a validated row is not kept by a run without an accuracy report. -/
theorem recorded_downgraded : ¬ ∀ (host : Host) (run : Run) (matrix : Json) (code : Nat) (new : Json),
    execute host contract run matrix = .ok (code, some new) → Honest run (rows matrix) (rows new) := by
  intro honest
  have ran : execute Host.sample contract unchecked recorded =
      .ok (0, some (.obj [("entries", .arr [unverified.toJson])])) := by rfl
  have row : (.obj [("model", .str "Qwen3-8B"), ("hardware", .str "Kunlunxin-3-P800"),
      ("status", .str "validated")] : Json) ∈ rows recorded := List.mem_singleton.mpr rfl
  obtain ⟨new, member, -, status⟩ :=
    (honest _ _ _ _ _ ran).kept (.inr rfl) _ row ⟨rfl, rfl⟩
  obtain rfl : new = unverified.toJson := List.mem_singleton.mp member
  have kept : unverified.status = "validated" := Json.str.inj status
  exact absurd kept (by decide)

end InferForge.SupportMatrix

import InferForge.Bridge.Completeness
import InferForge.ResultSoundness

/-! The delivery gate of a graph run: what must be current before the operators count as ready,
and that `delivery_status` asks for exactly that. -/
namespace InferForge
open Py Effect Sched ResultValidation

namespace Bridge

section Gate
variable (host : Host) (disk : Disk)

/-! ## The recorded handoffs -/

/-- The comparison of a record with the file it is of. -/
def checkRecorded (complaint : Text) (record : Json) : Except Exn Unit := do
  let path ← pathOf (← record.item "path")
  let found ← fileEvidence host disk path
  refuse (!found.json.eq record) (.value (complaint ++ host.str (← record.item "path")))

/-- One round over the source reports of a handoff. -/
def checkSourceReport (report : Json) : Except Exn Unit :=
  checkRecorded host disk "accepted discovery report changed: " report

/-- The body of the `try` in the loop over the handoffs. -/
def checkHandoff (accepted : Json) : Except Exn Unit := do
  let status ← fileEvidence host disk (← pathOf (← accepted.item "status_path"))
  let digest ← accepted.item "status_sha256"
  refuse (!(Json.str status.sha256).eq digest) (.value "accepted dispatch status changed")
  let reports ← (← accepted.item "reports").elements
  reports.forM (checkSourceReport host disk)

def handoffStates : List Text := ["DISPATCHED", "DISPATCH_SKIPPED"]

/-- What a handoff that is not dispatched complains about, in whatever form it was recorded. -/
def blockedHandoff (accepted : Json) : Except Exn (List Json) := do
  let state ← accepted.field "state"
  if ← state.among handoffStates then return []
  else ((← accepted.field "errors").or (.arr [.str "operator discovery is blocked"])).elements

/-- One round over the handoffs. -/
def handoffErrors (accepted : Json) : Except Exn (List Json) := do
  let blocked ← blockedHandoff accepted
  match checkHandoff host disk accepted with
  | .ok () => return blocked
  | .error e => if e.isRejection then return blocked ++ [.str (e.text host)] else throw e

/-! ## The tasks -/

/-- The second half of a succeeded task's check: who submitted it, and whether it still passes. -/
def submittedErrors (run : AdaptationRun) (task : Task) : Except Exn (List Text) := do
  let submission := Dict.getD task.output "_submission" (.obj [])
  let producer ← submission.field "worker"
  let attempt ← submission.field "attempt"
  if !producer.truthy || !attempt.eq (.int task.attempt) then
    return [task.taskId ++ ": missing current producer submission"]
  else
    let errors ← validateResult host disk task run task.output producer
    return errors.map fun error => task.taskId ++ ": " ++ error

/-- One round over the tasks. -/
def taskErrors (run : AdaptationRun) (task : Task) : Except Exn (List Text) :=
  if task.status = .failed then .ok [task.taskId ++ ": failed"]
  else if task.stage = .diagnosis ∧ (Dict.getD task.output "next_action" .null).eq (.str "BLOCKED") then
    .ok [task.taskId ++ ": diagnosis BLOCKED"]
  else if task.status = .succeeded then submittedErrors host disk run task
  else if task.stage = .diagnosis then .ok [task.taskId ++ ": unresolved diagnosis"]
  else .ok []

def operatorStages : List Stage := [.torch, .xpu, .integration]

def stageSucceeded (tasks : List Task) (key : Text) (stage : Stage) : Bool :=
  tasks.any fun task =>
    task.operatorKey.eq (.str key) && decide (task.stage = stage) && decide (task.status = .succeeded)

/-- `keys`. -/
def deliveryKeys (tasks : List Task) : List Text :=
  sortedSet ((tasks.filter fun task => task.stage ≠ .diagnosis).map (shownKey host))

/-- An operator has a stage that has not succeeded. -/
def awaiting (tasks : List Task) : Bool :=
  (deliveryKeys host tasks).any fun key => operatorStages.any fun stage => !stageSucceeded tasks key stage

/-! ## The status -/

/-- An entry of `task_results`. -/
structure TaskResult where
  taskId : Text
  operatorKey : Json
  stage : Stage
  status : Status
  attempt : Nat
  evidence : Json
  submission : Json

def TaskResult.ofTask (task : Task) : TaskResult :=
  ⟨task.taskId, task.operatorKey, task.stage, task.status, task.attempt,
    Dict.getD task.output "evidence_sha256" (.obj []), Dict.getD task.output "_submission" (.obj [])⟩

def TaskResult.toJson (result : TaskResult) : Json :=
  .obj [("task_id", .str result.taskId), ("operator_key", result.operatorKey),
    ("stage", .str result.stage.text), ("status", .str (statusText result.status)),
    ("attempt", .int result.attempt), ("evidence_sha256", result.evidence),
    ("submission", result.submission)]

structure DeliveryStatus where
  state : Text
  runId : Text
  subject : Text
  evidenceMode : Json
  schedulerState : Path
  artifactRoot : Path
  fingerprint : Json
  taskIds : List Text
  operatorKeys : List Text
  taskResults : List TaskResult
  errors : List Json

namespace DeliveryStatus

/-- The part a snapshot token speaks of. -/
def snapshot (status : DeliveryStatus) : Dict :=
  [("state", .str status.state), ("run_id", .str status.runId),
    ("evidence_mode", status.evidenceMode), ("environment_fingerprint", status.fingerprint),
    ("task_ids", textsJson status.taskIds), ("operator_keys", textsJson status.operatorKeys),
    ("task_results", .arr (status.taskResults.map TaskResult.toJson))]

def snapshotToken (status : DeliveryStatus) : Text :=
  host.sha256 (host.dumps (.obj status.snapshot)).utf8

def toDict (status : DeliveryStatus) : Dict :=
  [("state", .str status.state), ("run_id", .str status.runId), ("subject", .str status.subject),
    ("evidence_mode", status.evidenceMode),
    ("scheduler_state", .str status.schedulerState.toText),
    ("artifact_root", .str status.artifactRoot.toText),
    ("environment_fingerprint", status.fingerprint), ("task_ids", textsJson status.taskIds),
    ("operator_keys", textsJson status.operatorKeys),
    ("task_results", .arr (status.taskResults.map TaskResult.toJson)), ("errors", .arr status.errors),
    ("snapshot_token", .str (status.snapshotToken host))]

end DeliveryStatus

def gateState (errors : List Json) (waiting : Bool) : Text :=
  if !errors.isEmpty then "OPERATORS_BLOCKED"
  else if waiting then "WAITING_FOR_OPERATORS" else "OPERATORS_READY"

def byTaskId (tasks : List Task) : List Task :=
  tasks.insertionSort fun a b => Json.codesLe a.taskId.codes b.taskId.codes = true

/-- The handoffs a run has recorded. -/
def handoffs (run : AdaptationRun) : List Json :=
  ([Text.ofString "graph_discovery", "graph_shim_discovery"]).filterMap fun key => Dict.get? run.metadata key

/-- The status of the given tasks, after the errors of the environment. -/
def settle (bridge : Bridge) (run : AdaptationRun) (environment : List Text) (tasks : List Task) :
    Except Exn DeliveryStatus := do
  let blocked ← (handoffs run).mapM (handoffErrors host disk)
  let failed ← tasks.mapM (taskErrors host disk run)
  let errors := environment.map .str ++ blocked.flatten ++ failed.flatten.map .str
  let waiting := !(Dict.getD run.metadata "graph_discovery" .null).truthy || awaiting host tasks
  let fingerprint ← run.fingerprint
  return {
    state := gateState errors waiting
    runId := bridge.runId, subject := bridge.subject, evidenceMode := run.evidenceMode
    schedulerState := bridge.state, artifactRoot := bridge.artifactRoot, fingerprint
    taskIds := (byTaskId tasks).map Task.taskId, operatorKeys := deliveryKeys host tasks
    taskResults := (byTaskId tasks).map .ofTask, errors }

def deliveryStatus (bridge : Bridge) : Sched DeliveryStatus := do
  let environment ← environmentErrors host disk bridge
  let run ← bridge.run
  let rows ← query fun db => db.tasksOf disk.ties bridge.runId
  Prog.lift (settle host disk bridge run environment (rows.map TaskRow.view))

/-! ## What the gate stands for -/

/-- A record of a file that is still as it was. -/
def Unchanged (record : Json) : Prop :=
  ∃ path file, record.item "path" = .ok (.str path) ∧
    fileEvidence host disk (.ofText path) = .ok file ∧ file.json.eq record = true

/-- A proof of this run in its mode that passes its validator. -/
structure ProofValid (bridge : Bridge) (run : AdaptationRun) (proof : Dict) (imported : Json) : Prop where
  checked : (Dict.getD proof "checks" .null).isDict = true
  passing : validateEnvironmentStatus host proof = .ok []
  own : bridge.checkIdentity run (.obj proof) true imported.truthy = .ok ()
  mode : (Dict.getD proof "evidence_mode" (.str "real")).eq run.evidenceMode = true

/-- Every file of an accepted environment record is unchanged, and its proof still validates. -/
structure RecordCurrent (bridge : Bridge) (run : AdaptationRun) (record : Dict) : Prop where
  files : ∃ listed files, record.get? "files" = some listed ∧ listed.elements = .ok files ∧
    ∀ file ∈ files, Unchanged host disk file
  proof : ∃ path proof, record.get? "status_path" = some (.str path) ∧
    loadObject host disk (.ofText path) = .ok proof ∧
    ProofValid host bridge run proof (record.getD "imported" (.bool false))

structure EnvironmentCurrent (bridge : Bridge) (run : AdaptationRun) : Prop where
  ready : run.status = "ENVIRONMENT_READY"
  current : ∃ record, Dict.get? run.metadata "graph_environment" = some (.obj record) ∧
    RecordCurrent host disk bridge run record

/-- A dispatched handoff whose status file and source reports are unchanged. -/
structure HandoffCurrent (accepted : Dict) : Prop where
  dispatched : ∃ state ∈ handoffStates, accepted.get? "state" = some (.str state)
  status : ∃ path file digest, accepted.get? "status_path" = some (.str path) ∧
    fileEvidence host disk (.ofText path) = .ok file ∧
    accepted.get? "status_sha256" = some digest ∧ (Json.str file.sha256).eq digest = true
  reports : ∃ listed reports, accepted.get? "reports" = some listed ∧ listed.elements = .ok reports ∧
    ∀ report ∈ reports, Unchanged host disk report

/-- A succeeded row whose stored result was submitted in its current attempt and still passes. -/
structure Passing (run : AdaptationRun) (row : TaskRow) : Prop where
  succeeded : row.status = .succeeded
  submitted : ∃ submission producer, Dict.get? row.output "_submission" = some (.obj submission) ∧
    Dict.get? submission "worker" = some producer ∧ producer.truthy = true ∧
    (Dict.getD submission "attempt" .null).eq (.int row.attempt) = true ∧
    validateResult host disk row.view run row.output producer = .ok []

/-- Everything that is asked before the operators of a run may be delivered. -/
structure Deliverable (bridge : Bridge) (db : Store) (run : AdaptationRun) : Prop where
  known : db.run? bridge.runId = some run
  environment : EnvironmentCurrent host disk bridge run
  discovery : ∃ accepted, Dict.get? run.metadata "graph_discovery" = some (.obj accepted) ∧
    HandoffCurrent host disk accepted
  shims : ∀ accepted, Dict.get? run.metadata "graph_shim_discovery" = some accepted →
    ∃ fields, accepted = .obj fields ∧ HandoffCurrent host disk fields
  operators : ∀ row ∈ db.tasks, row.runId = bridge.runId → row.stage ≠ .diagnosis →
    ∀ stage ∈ operatorStages, ∃ other ∈ db.tasks,
      other.place = (bridge.runId, row.operatorKey, stage) ∧ Passing host disk run other
  unfailed : ∀ row ∈ db.tasks, row.runId = bridge.runId → row.status ≠ .failed
  diagnoses : ∀ row ∈ db.tasks, row.runId = bridge.runId → row.stage = .diagnosis →
    Passing host disk run row ∧ Dict.getD row.output "next_action" .null ≠ .str "BLOCKED"

end Gate

section Reading
variable {host : Host} {disk : Disk} {bridge : Bridge} {run : AdaptationRun}

/-! ## Records and handoffs -/

theorem checkRecorded_ok : checkRecorded host disk complaint record = .ok () ↔ Unchanged host disk record := by
  simp only [checkRecorded, bind_ok, refuse_ok, pathOf_ok]
  constructor
  · rintro ⟨_, named, _, ⟨path, rfl, rfl⟩, file, found, _, _, same⟩
    exact ⟨path, file, named, found, by simpa using same⟩
  · rintro ⟨path, file, named, found, same⟩
    exact ⟨_, named, _, ⟨path, rfl, rfl⟩, file, found, _, named, by simpa using same⟩

theorem recordsUnchanged_ok {records : List Json} {u : Unit} :
    records.forM (checkRecorded host disk complaint) = .ok u ↔ ∀ record ∈ records, Unchanged host disk record := by
  rw [forM_ok]
  exact forall₂_congr fun _ _ => checkRecorded_ok

theorem checkProofDocument_ok {proof : Dict} {imported : Json} :
    checkProofDocument host bridge run proof imported = .ok () ↔ ProofValid host bridge run proof imported := by
  simp only [checkProofDocument, bind_ok, refuse_ok]
  constructor
  · rintro ⟨_, checked, errors, validated, _, none, _, own, mode⟩
    obtain rfl : errors = [] := by simpa using none
    exact ⟨by simpa using checked, validated, own, by simpa using mode⟩
  · rintro ⟨checked, passing, own, mode⟩
    exact ⟨(), by simpa using checked, [], passing, (), rfl, (), own, by simpa using mode⟩

theorem checkAccepted_ok {accepted : Json} : checkAccepted host disk bridge run accepted = .ok () ↔
    ∃ record, accepted = .obj record ∧ RecordCurrent host disk bridge run record := by
  have rounds : checkAcceptedFile host disk = checkRecorded host disk "accepted environment evidence changed: " := rfl
  simp only [checkAccepted, bind_ok, rounds, recordsUnchanged_ok, checkProofDocument_ok, pathOf_ok, Json.item_ok]
  constructor
  · rintro ⟨listed, ⟨record, rfl, held⟩, files, visited, _, same, _, ⟨_, ⟨⟩, pointed⟩, _, ⟨path, rfl, rfl⟩,
      proof, loaded, given, flagged, valid⟩
    obtain rfl := Except.ok.inj flagged
    exact ⟨record, rfl, ⟨listed, files, held, visited, same⟩, path, proof, pointed, loaded, valid⟩
  · rintro ⟨record, rfl, ⟨listed, files, held, visited, same⟩, path, proof, pointed, loaded, valid⟩
    exact ⟨listed, ⟨record, rfl, held⟩, files, visited, (), same, _, ⟨record, rfl, pointed⟩, _, ⟨path, rfl, rfl⟩,
      proof, loaded, _, rfl, valid⟩

theorem environmentValid_iff : EnvironmentValid host disk bridge run ↔ EnvironmentCurrent host disk bridge run := by
  constructor
  · rintro ⟨ready, accepted, unchanged⟩
    obtain ⟨record, same, current⟩ := checkAccepted_ok.mp unchanged
    exact ⟨ready, record, get?_of_getD same nofun, current⟩
  · rintro ⟨ready, record, found, current⟩
    have same : Dict.getD run.metadata "graph_environment" .null = .obj record := by
      rw [Dict.getD, found]
      rfl
    refine ⟨ready, ?_, checkAccepted_ok.mpr ⟨record, same, current⟩⟩
    obtain ⟨_, _, held, _⟩ := current.files
    rw [same]
    cases record with
    | nil => cases held
    | cons _ _ => rfl

theorem checkHandoff_ok {accepted : Dict} : checkHandoff host disk (.obj accepted) = .ok () ↔
    (∃ path file digest, accepted.get? "status_path" = some (.str path) ∧
      fileEvidence host disk (.ofText path) = .ok file ∧
      accepted.get? "status_sha256" = some digest ∧ (Json.str file.sha256).eq digest = true) ∧
    ∃ listed reports, accepted.get? "reports" = some listed ∧ listed.elements = .ok reports ∧
      ∀ report ∈ reports, Unchanged host disk report := by
  have rounds : checkSourceReport host disk = checkRecorded host disk "accepted discovery report changed: " := rfl
  simp only [checkHandoff, bind_ok, rounds, recordsUnchanged_ok, pathOf_ok, Json.item_ok, Json.obj.injEq,
    exists_eq_left', refuse_ok, Bool.not_eq_false']
  constructor
  · rintro ⟨_, pointed, _, ⟨path, rfl, rfl⟩, file, found, digest, recorded, _, same, listed, held, reports,
      visited, unchanged⟩
    exact ⟨⟨path, file, digest, pointed, found, recorded, same⟩, listed, reports, held, visited, unchanged⟩
  · rintro ⟨⟨path, file, digest, pointed, found, recorded, same⟩, listed, reports, held, visited, unchanged⟩
    exact ⟨_, pointed, _, ⟨path, rfl, rfl⟩, file, found, digest, recorded, (), same, listed, held, reports,
      visited, unchanged⟩

theorem elements_some {value : Json} (truthy : value.truthy = true) : value.elements ≠ .ok [] := by
  cases value with
  | arr items | obj fields => intro none; simp_all [Json.elements, Json.truthy]
  | str t => intro none; simp_all [Json.elements, Json.truthy, Text.isEmpty]
  | _ => rintro ⟨⟩

/-- A handoff is silent about its state exactly if that says it was dispatched. -/
theorem blockedHandoff_nil {accepted : Json} : blockedHandoff accepted = .ok [] ↔
    ∃ fields, accepted = .obj fields ∧ ∃ state ∈ handoffStates, Dict.get? fields "state" = some (.str state) := by
  cases accepted with
  | obj fields =>
    have read (key : Text) : (Json.obj fields).field key = .ok (Dict.getD fields key .null) := rfl
    simp only [blockedHandoff, read, ok_bind, bind_ok, Json.obj.injEq, exists_eq_left']
    constructor
    · rintro ⟨known, listed, silent⟩
      cases known with
      | true =>
        obtain ⟨state, member, same⟩ := Json.among_listed listed
        exact ⟨state, member, get?_of_getD same (by simp)⟩
      | false =>
        refine absurd silent (elements_some ?_)
        unfold Json.or
        split
        · assumption
        · rfl
    · rintro ⟨state, member, found⟩
      have same : Dict.getD fields "state" .null = .str state := by rw [Dict.getD, found]; rfl
      exact ⟨true, same ▸ Json.among_str member, rfl⟩
  | _ =>
    constructor
    · rintro ⟨⟩
    · rintro ⟨_, ⟨⟩, _⟩

theorem handoffErrors_nil {accepted : Json} : handoffErrors host disk accepted = .ok [] ↔
    ∃ fields, accepted = .obj fields ∧ HandoffCurrent host disk fields := by
  simp only [handoffErrors, bind_ok]
  constructor
  · rintro ⟨blocked, said, silent⟩
    split at silent
    · next unchanged =>
      obtain rfl := pure_ok.mp silent
      obtain ⟨fields, rfl, dispatched⟩ := blockedHandoff_nil.mp said
      obtain ⟨status, reports⟩ := checkHandoff_ok.mp unchanged
      exact ⟨fields, rfl, dispatched, status, reports⟩
    · split at silent
      · simp at silent
      · cases silent
  · rintro ⟨fields, rfl, current⟩
    refine ⟨[], blockedHandoff_nil.mpr ⟨fields, rfl, current.dispatched⟩, ?_⟩
    rw [checkHandoff_ok.mpr ⟨current.status, current.reports⟩]
    rfl

/-! ## Tasks -/

theorem submittedErrors_nil {row : TaskRow} : submittedErrors host disk run row.view = .ok [] ↔
    ∃ submission producer, Dict.get? row.output "_submission" = some (.obj submission) ∧
      Dict.get? submission "worker" = some producer ∧ producer.truthy = true ∧
      (Dict.getD submission "attempt" .null).eq (.int row.attempt) = true ∧
      validateResult host disk row.view run row.output producer = .ok [] := by
  have stored : row.view.output = row.output := rfl
  have attempt : row.view.attempt = row.attempt := rfl
  have read (fields : Dict) (key : Text) : (Json.obj fields).field key = .ok (Dict.getD fields key .null) := rfl
  unfold submittedErrors
  rw [stored, attempt]
  constructor
  · intro silent
    obtain ⟨producer, worker, silent⟩ := bind_ok.mp silent
    obtain ⟨number, numbered, silent⟩ := bind_ok.mp silent
    obtain ⟨submission, same⟩ : ∃ submission, Dict.getD row.output "_submission" (.obj []) = .obj submission := by
      cases found : Dict.getD row.output "_submission" (.obj []) with
      | obj submission => exact ⟨submission, rfl⟩
      | _ => rw [found] at worker; cases worker
    rw [same, read] at worker numbered
    obtain rfl := Except.ok.inj worker
    obtain rfl := Except.ok.inj numbered
    split at silent
    · simp at silent
    next current =>
    obtain ⟨errors, validated, silent⟩ := bind_ok.mp silent
    obtain rfl := List.map_eq_nil_iff.mp (pure_ok.mp silent)
    simp only [Bool.or_eq_true, Bool.not_eq_true', not_or, Bool.not_eq_false] at current
    have found : Dict.get? submission "worker" = some (Dict.getD submission "worker" .null) :=
      get?_of_getD rfl fun null => by simp [null, Json.truthy] at current
    refine ⟨submission, _, ?_, found, current.1, current.2, validated⟩
    cases listed : Dict.get? row.output "_submission" with
    | none =>
      rw [Dict.getD, listed] at same
      obtain rfl := Json.obj.inj same
      cases found
    | some value =>
      rw [Dict.getD, listed] at same
      exact congrArg some same
  · rintro ⟨submission, producer, found, worker, truthy, current, validated⟩
    have same : Dict.getD row.output "_submission" (.obj []) = .obj submission := by rw [Dict.getD, found]; rfl
    have given : Dict.getD submission "worker" .null = producer := by rw [Dict.getD, worker]; rfl
    simp only [same, read, given, ok_bind, truthy, current, validated]
    rfl

/-- A task is silent if it did not fail, and what is finished or has to be passes. -/
theorem taskErrors_nil {row : TaskRow} : taskErrors host disk run row.view = .ok [] ↔
    row.status ≠ .failed ∧ (row.status = .succeeded → Passing host disk run row) ∧
    (row.stage = .diagnosis →
      row.status = .succeeded ∧ Dict.getD row.output "next_action" .null ≠ .str "BLOCKED") := by
  have status : row.view.status = row.status := rfl
  have stage : row.view.stage = row.stage := rfl
  have stored : row.view.output = row.output := rfl
  have passing : row.status = .succeeded → (submittedErrors host disk run row.view = .ok [] ↔ Passing host disk run row) :=
    fun succeeded => submittedErrors_nil.trans ⟨fun submitted => ⟨succeeded, submitted⟩, fun passing => passing.submitted⟩
  rw [taskErrors, status, stage, stored]
  by_cases failed : row.status = .failed
  · simp [failed]
  rw [if_neg failed]
  by_cases blocked : row.stage = .diagnosis ∧ (Dict.getD row.output "next_action" .null).eq (.str "BLOCKED") = true
  · simp [blocked, (Json.eq_str_right _ _).mp blocked.2]
  rw [if_neg blocked]
  by_cases succeeded : row.status = .succeeded
  · rw [if_pos succeeded, passing succeeded]
    exact ⟨fun passed => ⟨failed, fun _ => passed, fun diagnosis =>
        ⟨succeeded, fun same => blocked ⟨diagnosis, (Json.eq_str_right _ _).mpr same⟩⟩⟩,
      fun silent => silent.2.1 succeeded⟩
  · rw [if_neg succeeded]
    by_cases diagnosis : row.stage = .diagnosis
    · simp [diagnosis, succeeded]
    · simp [diagnosis, succeeded, failed]

theorem mem_deliveryKeys {rows : List TaskRow} : key ∈ deliveryKeys host (rows.map TaskRow.view) ↔
    ∃ row ∈ rows, row.stage ≠ .diagnosis ∧ row.operatorKey = key := by
  have shown (row : TaskRow) (operator : row.stage ≠ .diagnosis) : shownKey host row.view = row.operatorKey := by
    rw [shownKey, view_operatorKey operator]
  rw [deliveryKeys, mem_sortedSet, List.mem_map]
  constructor
  · rintro ⟨task, member, rfl⟩
    obtain ⟨listed, operator⟩ := List.mem_filter.mp member
    obtain ⟨row, inside, rfl⟩ := List.mem_map.mp listed
    have operator : row.stage ≠ .diagnosis := of_decide_eq_true operator
    exact ⟨row, inside, operator, (shown row operator).symm⟩
  · rintro ⟨row, member, operator, rfl⟩
    exact ⟨row.view, List.mem_filter.mpr ⟨List.mem_map_of_mem member, decide_eq_true operator⟩, shown row operator⟩

theorem stageSucceeded_iff {rows : List TaskRow} {stage : Stage} (operator : stage ∈ operatorStages) :
    stageSucceeded (rows.map TaskRow.view) key stage = true ↔
      ∃ row ∈ rows, row.operatorKey = key ∧ row.stage = stage ∧ row.status = .succeeded := by
  have pipeline : stage ≠ .diagnosis := by
    rintro rfl
    simp [operatorStages] at operator
  simp only [stageSucceeded, List.any_map, List.any_eq_true, Function.comp_apply, Bool.and_eq_true, decide_eq_true_eq,
    and_assoc]
  refine exists_congr fun row => and_congr_right fun _ => ?_
  constructor
  · rintro ⟨same, rfl, succeeded⟩
    rw [view_operatorKey pipeline, Json.eq_str_left, Json.str.injEq] at same
    exact ⟨same.symm, rfl, succeeded⟩
  · rintro ⟨rfl, rfl, succeeded⟩
    rw [view_operatorKey pipeline, Json.eq_str_left]
    exact ⟨rfl, rfl, succeeded⟩

/-- Nothing is awaited exactly if every operator of the tasks has every stage. -/
theorem awaiting_false {rows : List TaskRow} : awaiting host (rows.map TaskRow.view) = false ↔
    ∀ row ∈ rows, row.stage ≠ .diagnosis → ∀ stage ∈ operatorStages, ∃ other ∈ rows,
      other.operatorKey = row.operatorKey ∧ other.stage = stage ∧ other.status = .succeeded := by
  simp only [awaiting, List.any_eq_false, Bool.not_eq_true, Bool.not_eq_false', mem_deliveryKeys]
  constructor
  · intro complete row member operator stage among
    exact (stageSucceeded_iff among).mp (complete _ ⟨row, member, operator, rfl⟩ stage among)
  · rintro complete _ ⟨row, member, operator, rfl⟩ stage among
    exact (stageSucceeded_iff among).mpr (complete row member operator stage among)

/-! ## The verdict -/

theorem gateState_ready : gateState errors waiting = "OPERATORS_READY" ↔ errors = [] ∧ waiting = false := by
  unfold gateState
  cases errors with
  | nil => cases waiting <;> decide
  | cons first rest =>
    have blocked : ("OPERATORS_BLOCKED" : Text) ≠ "OPERATORS_READY" := by decide
    simp [blocked]

/-- The verdict on a run whose environment has no errors. -/
theorem settle_ready {tasks : List Task} :
    (∃ status, settle host disk bridge run [] tasks = .ok status ∧ status.state = "OPERATORS_READY") ↔
      (∀ accepted ∈ handoffs run, handoffErrors host disk accepted = .ok []) ∧
      (∀ task ∈ tasks, taskErrors host disk run task = .ok []) ∧
      (Dict.getD run.metadata "graph_discovery" .null).truthy = true ∧ awaiting host tasks = false ∧
      ∃ fingerprint, run.fingerprint = .ok fingerprint := by
  rw [← mapM_silent, ← mapM_silent]
  simp only [settle, bind_ok, pure_ok]
  constructor
  · rintro ⟨_, ⟨blocked, handed, failed, checked, fingerprint, bound, rfl⟩, ready⟩
    obtain ⟨silent, settled⟩ := gateState_ready.mp ready
    simp only [List.map_nil, List.nil_append, List.append_eq_nil_iff, List.map_eq_nil_iff] at silent
    simp only [Bool.or_eq_false_iff, Bool.not_eq_false'] at settled
    exact ⟨⟨blocked, handed, silent.1⟩, ⟨failed, checked, silent.2⟩, settled.1, settled.2, fingerprint, bound⟩
  · rintro ⟨⟨blocked, handed, none⟩, ⟨failed, checked, none'⟩, discovered, complete, fingerprint, bound⟩
    refine ⟨_, ⟨blocked, handed, failed, checked, fingerprint, bound, rfl⟩, gateState_ready.mpr ⟨?_, ?_⟩⟩
    · rw [none, none']
      rfl
    · rw [discovered, complete]
      rfl

theorem settle_blocked {environment : List Text} {tasks : List Task} (broken : environment ≠ [])
    (settled : settle host disk bridge run environment tasks = .ok status) : status.state ≠ "OPERATORS_READY" := by
  simp only [settle, bind_ok, pure_ok] at settled
  obtain ⟨blocked, -, failed, -, fingerprint, -, rfl⟩ := settled
  intro ready
  have silent := (gateState_ready.mp ready).1
  simp [broken] at silent

/-- The identity of a proof is compared with the fingerprint of the run. -/
theorem checkIdentity_fingerprint {data : Json} {proof imported : Bool}
    (own : bridge.checkIdentity run data proof imported = .ok ()) :
    ∃ fingerprint, run.fingerprint = .ok fingerprint := by
  unfold checkIdentity at own
  split at own
  · next fields =>
    obtain ⟨expected, read, -⟩ := bind_ok.mp own
    obtain ⟨fingerprint, bound, -⟩ := bind_ok.mp read
    exact ⟨fingerprint, bound⟩
  · cases own

/-! ## The gate -/

section Rows
variable {db : Store}

/-- The two rows of one operator and stage are the same row. -/
theorem place_injective {row other : TaskRow} (member : row ∈ db.tasks) (inside : other ∈ db.tasks)
    (same : other.place = row.place) : other = row :=
  List.inj_on_of_nodup_map db.taskPlace inside member same

/-- The rows of a run that is deliverable are those no task of which complains. -/
theorem tasks_deliver (ties : Text → Nat) : (∀ row ∈ db.tasksOf ties bridge.runId, taskErrors host disk run row.view = .ok []) ∧
      awaiting host ((db.tasksOf ties bridge.runId).map TaskRow.view) = false ↔
    (∀ row ∈ db.tasks, row.runId = bridge.runId → row.stage ≠ .diagnosis →
      ∀ stage ∈ operatorStages, ∃ other ∈ db.tasks,
        other.place = (bridge.runId, row.operatorKey, stage) ∧ Passing host disk run other) ∧
    (∀ row ∈ db.tasks, row.runId = bridge.runId → row.status ≠ .failed) ∧
    ∀ row ∈ db.tasks, row.runId = bridge.runId → row.stage = .diagnosis →
      Passing host disk run row ∧ Dict.getD row.output "next_action" .null ≠ .str "BLOCKED" := by
  simp only [awaiting_false, taskErrors_nil, Store.mem_tasksOf, and_imp]
  constructor
  · rintro ⟨silent, complete⟩
    refine ⟨fun row member owned operator stage among => ?_, fun row member owned => (silent row member owned).1,
      fun row member owned diagnosis => ?_⟩
    · obtain ⟨other, ⟨inside, theirs⟩, key, staged, succeeded⟩ := complete row member owned operator stage among
      refine ⟨other, inside, ?_, (silent other inside theirs).2.1 succeeded⟩
      rw [TaskRow.place, theirs, key, staged]
    · obtain ⟨-, passing, settled⟩ := silent row member owned
      exact ⟨passing (settled diagnosis).1, (settled diagnosis).2⟩
  · rintro ⟨operators, unfailed, diagnoses⟩
    refine ⟨fun row member owned => ⟨unfailed row member owned, fun _ => ?_, fun diagnosis => ?_⟩,
      fun row member owned operator stage among => ?_⟩
    · by_cases diagnosis : row.stage = .diagnosis
      · exact (diagnoses row member owned diagnosis).1
      · have among : row.stage ∈ operatorStages := by
          cases staged : row.stage <;> simp_all [operatorStages]
        obtain ⟨other, inside, place, passing⟩ := operators row member owned diagnosis row.stage among
        have same : other.place = row.place := by rw [place, TaskRow.place, owned]
        exact place_injective member inside same ▸ passing
    · obtain ⟨passing, unblocked⟩ := diagnoses row member owned diagnosis
      exact ⟨passing.succeeded, unblocked⟩
    · obtain ⟨other, inside, place, passing⟩ := operators row member owned operator stage among
      obtain ⟨theirs, key, staged⟩ : other.runId = bridge.runId ∧ other.operatorKey = row.operatorKey ∧ other.stage = stage := by
        simpa [TaskRow.place] using place
      exact ⟨other, ⟨inside, theirs⟩, key, staged, passing.succeeded⟩

end Rows

theorem handoffs_current : (∀ accepted ∈ handoffs run, handoffErrors host disk accepted = .ok []) ∧
      (Dict.getD run.metadata "graph_discovery" .null).truthy = true ↔
    (∃ accepted, Dict.get? run.metadata "graph_discovery" = some (.obj accepted) ∧ HandoffCurrent host disk accepted) ∧
    ∀ accepted, Dict.get? run.metadata "graph_shim_discovery" = some accepted →
      ∃ fields, accepted = .obj fields ∧ HandoffCurrent host disk fields := by
  simp only [handoffErrors_nil, handoffs, List.mem_filterMap, List.mem_cons, List.not_mem_nil, or_false]
  constructor
  · rintro ⟨current, recorded⟩
    refine ⟨?_, fun accepted found => current accepted ⟨_, .inr rfl, found⟩⟩
    have found : Dict.get? run.metadata "graph_discovery" = some (Dict.getD run.metadata "graph_discovery" .null) :=
      get?_of_getD rfl fun null => by simp [null, Json.truthy] at recorded
    obtain ⟨fields, same, current⟩ := current _ ⟨_, .inl rfl, found⟩
    exact ⟨fields, same ▸ found, current⟩
  · rintro ⟨⟨accepted, found, current⟩, shims⟩
    refine ⟨?_, ?_⟩
    · rintro other ⟨key, rfl | rfl, listed⟩
      · exact ⟨accepted, Option.some.inj (listed.symm.trans found), current⟩
      · exact shims other listed
    · obtain ⟨state, -, stated⟩ := current.dispatched
      rw [Dict.getD, found]
      cases accepted with
      | nil => cases stated
      | cons _ _ => rfl

/-- The environment has no errors exactly if it is current, and is then left alone. -/
theorem environmentErrors_wp {w : World} : Prog.wp (environmentErrors host disk bridge)
    (fun errors u => (errors = [] ∧ u = w ∧ ∃ run, w.db.run? bridge.runId = some run ∧
        EnvironmentCurrent host disk bridge run) ∨
      errors ≠ [] ∧ ¬ ∃ run, w.db.run? bridge.runId = some run ∧ EnvironmentCurrent host disk bridge run)
    (fun _ _ => ¬ ∃ run, w.db.run? bridge.runId = some run ∧ EnvironmentCurrent host disk bridge run) w := by
  simp only [← environmentValid_iff, environmentErrors, run, requireRun, Prog.wp_bind, wp_query]
  cases known : w.db.run? bridge.runId with
  | none => exact fun ⟨_, found, _⟩ => nomatch found
  | some run =>
    rw [Prog.wp_pure, Prog.wp_ite]
    have only (broken : ¬ EnvironmentValid host disk bridge run) :
        ¬ ∃ other, some run = some other ∧ EnvironmentValid host disk bridge other := by
      rintro ⟨_, ⟨⟩, valid⟩
      exact broken valid
    refine ⟨fun waiting => .inr ⟨nofun, only fun valid => waiting valid.ready⟩, fun ready => ?_⟩
    rw [Prog.wp_ite]
    refine ⟨fun unbound => .inr ⟨nofun, only fun valid => ?_⟩, fun bound => ?_⟩
    · simp [valid.accepted] at unbound
    split
    · next unchanged =>
      exact .inl ⟨rfl, rfl, run, rfl, Decidable.not_not.mp ready, by simpa using bound, unchanged⟩
    · next e changed =>
      have broken : ¬ EnvironmentValid host disk bridge run := fun valid => nomatch changed.symm.trans valid.unchanged
      rw [Prog.wp_ite]
      refine ⟨fun _ => ?_, fun _ => only broken⟩
      split
      · rw [Prog.wp_bind, Prog.wp_discard]
        exact Prog.wp_of_runs (fun _ _ _ => .inr ⟨nofun, only broken⟩) fun _ _ _ => only broken
      · exact .inr ⟨nofun, only broken⟩

/-- Where the environment is current, what is left to ask of the run. -/
theorem deliverable_iff {db : Store} (ties : Text → Nat) (known : db.run? bridge.runId = some run)
    (environment : EnvironmentCurrent host disk bridge run) :
    (∃ other, Deliverable host disk bridge db other) ↔
      (∀ accepted ∈ handoffs run, handoffErrors host disk accepted = .ok []) ∧
      (∀ task ∈ (db.tasksOf ties bridge.runId).map TaskRow.view, taskErrors host disk run task = .ok []) ∧
      (Dict.getD run.metadata "graph_discovery" .null).truthy = true ∧
      awaiting host ((db.tasksOf ties bridge.runId).map TaskRow.view) = false := by
  rw [List.forall_mem_map]
  constructor
  · rintro ⟨other, deliverable⟩
    obtain rfl : run = other := Option.some.inj (known.symm.trans deliverable.known)
    obtain ⟨current, recorded⟩ := handoffs_current.mpr ⟨deliverable.discovery, deliverable.shims⟩
    obtain ⟨silent, complete⟩ := (tasks_deliver ties).mpr
      ⟨deliverable.operators, deliverable.unfailed, deliverable.diagnoses⟩
    exact ⟨current, silent, recorded, complete⟩
  · rintro ⟨current, silent, recorded, complete⟩
    obtain ⟨discovery, shims⟩ := handoffs_current.mp ⟨current, recorded⟩
    obtain ⟨operators, unfailed, diagnoses⟩ := (tasks_deliver ties).mp ⟨silent, complete⟩
    exact ⟨run, known, environment, discovery, shims, operators, unfailed, diagnoses⟩

/-- With the environment current, the status is settled, and ready, if the run is deliverable. -/
theorem settle_deliverable {db : Store} (known : db.run? bridge.runId = some run)
    (environment : EnvironmentCurrent host disk bridge run) :
    (∃ status, settle host disk bridge run [] ((db.tasksOf disk.ties bridge.runId).map TaskRow.view) = .ok status ∧
      status.state = "OPERATORS_READY") ↔ ∃ other, Deliverable host disk bridge db other := by
  obtain ⟨_, _, current⟩ := environment.current
  obtain ⟨_, _, _, _, valid⟩ := current.proof
  have bound := checkIdentity_fingerprint valid.own
  simp only [settle_ready, deliverable_iff disk.ties known environment, bound, and_true]

theorem deliveryStatus_wp {w : World} : Prog.wp (deliveryStatus host disk bridge)
    (fun status _ => status.state = "OPERATORS_READY" ↔ ∃ run, Deliverable host disk bridge w.db run)
    (fun _ _ => ¬ ∃ run, Deliverable host disk bridge w.db run) w := by
  unfold deliveryStatus
  rw [Prog.wp_bind]
  refine environmentErrors_wp.mono (fun errors u _ checked => ?_) fun _ _ _ broken => ?_
  · simp only [run, requireRun, Prog.wp_bind, wp_query]
    rcases checked with ⟨rfl, rfl, run, known, environment⟩ | ⟨complaints, broken⟩
    · simp only [known, Prog.wp_pure, Prog.wp_lift, ← settle_deliverable known environment]
      refine ⟨fun status settled => ?_, fun e raised => ?_⟩
      · constructor
        · exact fun ready => ⟨status, settled, ready⟩
        · rintro ⟨other, again, ready⟩
          exact Except.ok.inj (settled.symm.trans again) ▸ ready
      · rintro ⟨status, settled, -⟩
        cases raised.symm.trans settled
    · have refused : ¬ ∃ run, Deliverable host disk bridge w.db run :=
        fun deliverable => broken (deliverable.imp fun _ all => ⟨all.known, all.environment⟩)
      cases u.db.run? bridge.runId with
      | none => exact refused
      | some other =>
        rw [Prog.wp_pure, Prog.wp_lift]
        exact ⟨fun status settled => iff_of_false (settle_blocked complaints settled) refused, fun _ _ => refused⟩
  · exact fun deliverable => broken (deliverable.imp fun _ all => ⟨all.known, all.environment⟩)

/-- The gate opens exactly for a run whose operators may be delivered. -/
theorem deliveryStatus_ready (world : World) :
    (∃ status, (deliveryStatus host disk bridge world).1 = .ok status ∧ status.state = "OPERATORS_READY") ↔
      ∃ run, Deliverable host disk bridge world.db run := by
  have gate : Prog.wp (deliveryStatus host disk bridge)
      (fun status _ => status.state = "OPERATORS_READY" ↔ ∃ run, Deliverable host disk bridge world.db run)
      (fun _ _ => ¬ ∃ run, Deliverable host disk bridge world.db run) world := deliveryStatus_wp
  obtain ⟨returned, raised⟩ := Prog.wp_iff.mp gate
  constructor
  · rintro ⟨status, ran, ready⟩
    exact (returned status ran).mp ready
  · intro deliverable
    cases ran : (deliveryStatus host disk bridge world).1 with
    | error e => exact absurd deliverable (raised e ran)
    | ok status => exact ⟨status, rfl, (returned status ran).mpr deliverable⟩

end Reading
end Bridge
end InferForge

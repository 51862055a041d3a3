import InferForge.Scheduler.Runs

/-! `TaskScheduler` on tasks: claims and leases, submissions, diagnoses, recovery and
the repair of historical edges. -/
namespace InferForge
open Py Effect Sched ResultValidation

variable (host : Host) (disk : Disk)

def noAttribute : Exn := .attr "'NoneType' object has no attribute"

/-- The environment half of `_deps_succeeded`. -/
def environmentOpen (row : TaskRow) (run : AdaptationRun) : Sched Bool := do
  if !environmentGated run then return true
  else if run.status ≠ "ENVIRONMENT_READY" then return false
  else
    let spec ← query fun db => db.operator? row.runId row.operatorKey
    let fingerprint ← Prog.lift run.fingerprint
    if !fingerprint.truthy then return false
    else
      match spec with
      | none => Prog.raise noAttribute
      | some spec => return (Dict.getD spec.environment "fingerprint" .null).eq fingerprint

/-- The pipeline half of `_deps_succeeded`. -/
def upstreamSucceeded (db : Store) (row : TaskRow) : Bool :=
  match row.stage.prev? with
  | none => true
  | some stage =>
      (db.stageRow? row.runId row.operatorKey stage).any fun p => p.status = .succeeded

/-- `_deps_succeeded`: the environment gate, then the stage before. -/
def depsSucceeded (row : TaskRow) : Sched Bool := do
  if row.stage = .diagnosis then return true
  else
    let run ← requireRun row.runId noAttribute
    let passed ← environmentOpen row run
    if passed then query fun db => upstreamSucceeded db row else return false

/-- The `workspace` entry a claim adds to the task's input. -/
def workspaceOf (runId taskId : Text) (root : Path) : Json :=
  .obj [("run_id", .str runId), ("task_id", .str taskId), ("attempt_id", .str root.name),
    ("root", .str root.toText), ("input", .str (root.child "input").toText),
    ("scratch", .str (root.child "scratch").toText),
    ("output", .str (root.child "output").toText), ("logs", .str (root.child "logs").toText)]

/-- The contract a claimed task finds in its attempt directory. -/
def taskContract (row : TaskRow) (payload : Dict) : Json :=
  .obj [("task_id", .str row.taskId), ("run_id", .str row.runId), ("stage", .str row.stage.text),
    ("attempt", .int (row.attempt + 1)), ("input", .obj payload)]

/-- A real run without a directory gets the default one at its first claim. -/
def bindWorkspace (run : AdaptationRun) : Sched AdaptationRun := do
  if run.evidenceMode.eq (.str "real") && !run.flag "artifact_root" then
    let root ← Prog.lift (runRoot host disk run)
    let bound := { run with metadata := run.metadata.set "artifact_root" (.str root) }
    execute fun db => db.updateRun bound
    emit host bound.runId .runWorkspaceBound [("artifact_root", .str root)] none
    return bound
  else return run

/-- A fresh attempt directory, its `task.json`, and the workspace in the stored input. -/
def openAttempt (run : AdaptationRun) (row : TaskRow) : Sched Unit := do
  if run.flag "artifact_root" then
    let root ← Prog.lift
      (disk.allocateAttempt (Dict.getD run.metadata "artifact_root" .null) run.runId row.taskId)
    let payload := row.input.set "workspace" (workspaceOf run.runId row.taskId root)
    let inputRoot ← Prog.lift (ArtifactStore disk (root.child "input"))
    let _ ← Prog.lift
      (ArtifactStore.writeJson disk inputRoot (Path.ofText "task.json")
        (.ok (taskContract row payload)) true)
    execute fun db => db.updateTask row.taskId fun r => { r with input := payload }
  else return ()

/-- The lease columns and attempt number a claim writes. -/
def TaskRow.claimed (lease : Lease) (row : TaskRow) : TaskRow :=
  { row with status := .running, attempt := row.attempt + 1, lease := some lease }

/-- The `task_claimed` event of a row as it was before the claim. -/
def claimEvent (worker : Text) (row : TaskRow) : Text × Dict × Text :=
  (row.runId, [("worker_id", .str worker), ("stage", .str row.stage.text),
    ("attempt", .int (row.attempt + 1))], row.taskId)

structure Claims where
  claimed : List Task
  /-- The `task_claimed` events, emitted after the loop. -/
  events : List (Text × Dict × Text)

/-- One round of the claim loop. -/
def claimCandidate (worker : Text) (leaseSeconds : Rat) (limit : Int) (now : Time)
    (claims : Claims) (row : TaskRow) : Sched Claims := do
  if limit ≤ claims.claimed.length then return claims
  else if !(← depsSucceeded row) then return claims
  else
    let token ← drawToken host
    Prog.require worker.encodable (.unicode "surrogates not allowed")
    let lease : Lease := ⟨token, worker, host.addSeconds now leaseSeconds⟩
    let claimable := fun r : TaskRow => r.taskId = row.taskId && r.status = .pending
    let taken ← query fun db => db.tasks.any claimable
    execute fun db => db.updateTasks claimable (TaskRow.claimed lease)
    if taken then
      let run ← requireRun row.runId noAttribute
      let run ← bindWorkspace host disk run
      openAttempt disk run row
      let stored ← query fun db => db.row? row.taskId
      return {
        claimed := claims.claimed ++ (stored.map TaskRow.view).toList
        events := claims.events ++ [claimEvent worker row] }
    else return claims

/-- A running row whose lease is given up. -/
def TaskRow.released (row : TaskRow) : TaskRow := { row with status := .pending, lease := none }

theorem TaskRow.released_keeps (row : TaskRow) : SameKey row row.released := ⟨rfl, rfl, rfl, rfl⟩

def TaskRow.expired (now : Time) (row : TaskRow) : Bool :=
  row.status = .running && row.lease.any fun lease => lease.expires ≤ now

/-- `SELECT * FROM tasks WHERE status='pending' [AND stage=?] ORDER BY created_at`. -/
def Store.candidates (db : Store) (ties : Text → Nat) (stage : Option Stage) : List TaskRow :=
  (db.tasks.filter fun row => row.status = .pending && stage.all fun s => row.stage = s).insertionSort
    (earlier ties)

/-- The argument checks of `claim_ready`; a stage name must be one of the four. -/
def checkClaim (worker : Text) (stage : Option Text) (leaseSeconds : Double) (limit : Int) :
    Except Exn (Rat × Option Stage) := do
  let refusal : Exn :=
    .value "worker, positive limit and positive finite lease_seconds are required"
  let seconds ←
    match leaseSeconds with
    | .fin q => if worker.isEmpty || limit ≤ 0 || q ≤ 0 then throw refusal else pure q
    | _ => throw refusal
  match stage with
  | none => return (seconds, none)
  | some t =>
      match Stage.ofText? t with
      | some s => return (seconds, some s)
      | none => throw (.value ("invalid stage: " ++ t))

def claimReady (worker : Text) (stage : Option Text) (leaseSeconds : Double) (limit : Int) :
    Sched (List Task) := atomic do
  let (seconds, stage) ← Prog.lift (checkClaim worker stage leaseSeconds limit)
  let now ← now host
  execute fun db => db.updateTasks (TaskRow.expired now) TaskRow.released
  let candidates ← query fun db => db.candidates disk.ties stage
  let claims ← candidates.foldlM (claimCandidate host disk worker seconds limit now) ⟨[], []⟩
  claims.events.forM fun event => emit host event.1 .taskClaimed event.2.1 event.2.2
  return claims.claimed

/-- The credentials a call presents: a token given in the worker's place counts if it is
the row's own. -/
def presented (row : TaskRow) (worker token : Option Text) : Option Text × Option Text :=
  if token.all Text.isEmpty && worker = row.lease.map Lease.token then (none, worker)
  else (worker, token)

/-- The lease check of `_owned_lease` at one reading of the clock. -/
def ownsLease (row : TaskRow) (worker token : Option Text) (now : Time) : Bool :=
  let (worker, token) := presented row worker token
  !token.all Text.isEmpty && row.status = .running &&
    row.lease.any fun lease =>
      token = some lease.token && worker.all (· = lease.worker) && now < lease.expires

def ownedLease (taskId : Text) (worker token : Option Text) : Sched TaskRow := do
  match ← query fun db => db.row? taskId with
  | none => Prog.raise (.key taskId)
  | some row => do
      let now ← now host
      Prog.require (ownsLease row worker token now)
        (.value "task requires its current unexpired lease token and matching worker")
      return row

/-- `store.get_task(task_id)`, where a missing task is a `KeyError`. -/
def requireTask (taskId : Text) : Sched Task := do
  match ← query fun db => db.row? taskId with
  | some row => return row.view
  | none => Prog.raise (.key taskId)

def checkSeconds : Double → Except Exn Rat
  | .fin q => if q ≤ 0 then .error (.value "lease_seconds must be positive and finite") else .ok q
  | _ => .error (.value "lease_seconds must be positive and finite")

def TaskRow.renewed (expires : Time) (row : TaskRow) : TaskRow :=
  { row with lease := row.lease.map fun lease => { lease with expires } }

/-- `renew_lease`. The update names the token given as `lease_token`, so a token presented
in the worker's place passes the check and renews nothing. -/
def renewLease (taskId : Text) (worker token : Option Text) (leaseSeconds : Double) : Sched Task :=
  atomic do
    let seconds ← Prog.lift (checkSeconds leaseSeconds)
    let row ← ownedLease host taskId worker token
    let start ← now host
    let expires := host.addSeconds start seconds
    execute fun db => db.updateTasks
      (fun r => r.taskId = taskId && (r.lease.map Lease.token = token && token.isSome))
      (TaskRow.renewed expires)
    emit host row.runId .leaseRenewed [("lease_expires", .float (.fin expires))] taskId
    requireTask taskId

/-- `value[key]` on a JSON value. -/
def index (value : Json) (key : Text) : Except Exn Json :=
  match value with
  | .obj fields =>
      match Dict.get? fields key with
      | some found => .ok found
      | none => .error (.key key)
  | _ => .error (.type "indices must be integers or slices, not str")

/-- `_record_attempt`: the result file and manifest of an attempt that has a workspace. -/
def recordAttempt (task : Task) (dump : Except Exn Json) (keys : Bool) (outcome : Text) :
    Except Exn (Option Text) := do
  match Dict.getD task.input "workspace" .null with
  | .null => return none
  | workspace => do
      let root ← ArtifactStore disk (← pathOf (← index workspace "root"))
      let _ ← ArtifactStore.writeJson disk root (Path.ofText "result.json") dump keys
      let attemptId ← index workspace "attempt_id"
      let manifest ← disk.register root
        (.obj [("run_id", .str task.runId), ("task_id", .str task.taskId),
          ("stage", .str task.stage.text), ("attempt", .int task.attempt),
          ("attempt_id", attemptId)]) outcome
      return some manifest.toText

/-- `output["artifact_manifest"] = str(manifest)`, if one was registered. -/
def withManifest (output : Dict) (manifest : Option Text) : Dict :=
  match manifest with
  | some t => output.set "artifact_manifest" (.str t)
  | none => output

/-- Input of the diagnosis of one failed attempt. -/
def diagnosisInput (task : Task) (report : Json) : Dict :=
  [("source_task_id", .str task.taskId), ("operator_key", task.operatorKey),
    ("failed_stage", .str task.stage.text), ("source_attempt", .int task.attempt),
    ("bug_report", report)]

def diagnosisId (taskId : Text) : Text := taskId ++ ":diagnosis"

/-- The storage key of a diagnosis row, one per source task. -/
def diagnosisKey (taskId : Text) : Text := "diagnosis:" ++ taskId

def diagnosisEvent (task : Task) : Dict :=
  [("source_task_id", .str task.taskId), ("operator_key", task.operatorKey),
    ("failed_stage", .str task.stage.text), ("source_attempt", .int task.attempt)]

/-- A diagnosis row put back to work for a later failed attempt of its source. -/
def TaskRow.reopened (input : Dict) (row : TaskRow) : TaskRow :=
  { row with status := .pending, input, output := [], lease := none }

/-- `_ensure_diagnosis`: one diagnosis row per source, reopened for a later attempt. -/
def ensureDiagnosis (task : Task) (report : Json) : Sched Task := do
  let taskId := diagnosisId task.taskId
  let input := diagnosisInput task report
  let inserted ← insertTask host
    (pendingRow task.runId (diagnosisKey task.taskId) .diagnosis taskId input)
  if inserted then
    emit host task.runId .diagnosisTaskCreated (diagnosisEvent task) taskId
    requireTask taskId
  else
    match ← query fun db => db.row? taskId with
    | none => Prog.raise (.type "'NoneType' object is not subscriptable")
    | some existing => do
        let known ← Prog.lift
          (Json.toInt host (Dict.getD existing.input "source_attempt" (.int 0)))
        if known < task.attempt then
          execute fun db => db.updateTask taskId (TaskRow.reopened input)
          emit host task.runId .diagnosisTaskReopened (diagnosisEvent task) taskId
          requireTask taskId
        else requireTask taskId

/-- What `fail` adds to the worker's report: the failed task's execution contract. -/
def BugReport.withTask (report : BugReport) (task : Task) : BugReport :=
  let context := (report.context.setDefault "failed_stage" (.str task.stage.text)).setDefault
    "task_input" (.obj task.input)
  { report with
    context := if task.output.isEmpty then context
      else context.setDefault "task_output" (.obj task.output) }

/-- The report and manifest after `_record_attempt` in `fail`: a registration error becomes
part of the report. -/
def recordFailure (task : Task) (report : BugReport) : Except Exn (BugReport × Option Text) :=
  match recordAttempt disk task ((report.dumped host).map fun error => .obj [("error", error)])
      report.finiteKeys "FAILED" with
  | .ok manifest => .ok (report, manifest)
  | .error e =>
      if e.isRegistration then
        .ok ({ report with metadata :=
          report.metadata.set (.str "artifact_registration_error") (.str e.message) }, none)
      else .error e

def TaskRow.finished (status : Status) (output : Dict) (row : TaskRow) : TaskRow :=
  { row with status, output, lease := none }

/-- The body of `fail`; `complete` calls it inside its own transaction. -/
def failTask (taskId : Text) (worker : Option Text) (error : Json) (token : Option Text) :
    Sched Task := do
  let task ← requireTask taskId
  let _ ← ownedLease host taskId worker token
  let reported ← now host
  let report ← Prog.lift (BugReport.fromError host reported taskId error)
  let (report, manifest) ← Prog.lift (recordFailure host disk task (report.withTask task))
  let _ ← ownedLease host taskId worker token
  let dumped ← Prog.lift (report.dumped host)
  execute fun db => db.updateTask taskId
    (TaskRow.finished .failed (withManifest [("error", dumped)] manifest))
  if task.stage = .diagnosis then pure () else discard (ensureDiagnosis host task dumped)
  emit host task.runId .taskFailed [("stage", .str task.stage.text), ("error", dumped)] taskId
  requireTask taskId

def fail (taskId : Text) (worker : Option Text) (error : Json) (token : Option Text) : Sched Task :=
  atomic (failTask host disk taskId worker error token)

/-- `_ensure_next`: the row of the following stage. -/
def ensureNext (task : Task) (key : Text) (stage : Stage) : Sched Unit := do
  let taskId := stageTaskId task.runId key stage
  match ← query fun db => db.operator? task.runId key with
  | none => Prog.raise noAttribute
  | some spec => do
      let inserted ← insertTask host
        (pendingRow task.runId key stage taskId
          [("upstream_task_id", .str task.taskId), ("operator_spec", spec.toDict),
            ("upstream_result", .obj task.output)])
      if inserted then
        emit host task.runId .taskCreated [("stage", .str stage.text), ("operator_key", .str key)]
          taskId
      else return ()

/-- The `diagnostic_completed` event of an accepted diagnosis. -/
def diagnosticConclusion (task : Task) (output : Dict) : Dict :=
  [("source_task_id", task.sourceTaskId),
    ("bug_report", Dict.getD task.input "bug_report" (.obj [])),
    ("diagnosis", Dict.getD output "diagnosis" (Dict.getD output "analysis" .null)),
    ("repair_conclusion", Dict.getD output "repair_conclusion"
      (Dict.getD output "conclusion" (Dict.getD output "recommendation" .null))),
    ("status", Dict.getD output "status" (.str "succeeded"))]

/-- The error with which a rejected result is failed. -/
def rejectedResult (output : Dict) (errors : List Text) : Json :=
  .obj [("reason", .str "result_validation_failed"), ("result", .obj output),
    ("validation_errors", .arr (errors.map Json.str))]

def unregistered (e : Exn) : Json :=
  .obj [("reason", .str "artifact_registration_failed"), ("message", .str e.message)]

/-- The accepted output: who submitted it, for which attempt. -/
def withSubmission (output : Dict) (worker : Text) (attempt : Nat) : Dict :=
  output.set "_submission" (.obj [("worker", .str worker), ("attempt", .int attempt)])

/-- The stored output of an accepted result has the result's own fields. -/
theorem submitted_get? {key : Text} (output : Dict) (worker : Text) (attempt : Nat) (manifest : Option Text)
    (own : key ≠ "_submission") (plain : key ≠ "artifact_manifest") :
    Dict.get? (withManifest (withSubmission output worker attempt) manifest) key =
      Dict.get? output key := by
  cases manifest with
  | none => exact Dict.get?_set_other _ _ own
  | some path =>
    unfold withManifest withSubmission
    rw [Dict.get?_set_other _ _ plain, Dict.get?_set_other _ _ own]

/-- The end of `complete`: the row, its events and the next stage. -/
def succeedTask (row : TaskRow) (task : Task) (output : Dict) : Sched Task := do
  execute fun db => db.updateTask row.taskId (TaskRow.finished .succeeded output)
  let task := { task with output }
  emit host task.runId .taskSucceeded
    [("stage", .str task.stage.text), ("output", .obj output)] task.taskId
  if task.stage = .diagnosis then
    emit host task.runId .diagnosticCompleted (diagnosticConclusion task output) task.taskId
    requireTask task.taskId
  else
    match task.stage.next? with
    | some stage => do
        ensureNext host task row.operatorKey stage
        requireTask task.taskId
    | none => requireTask task.taskId

/-- The submitted mapping; `None` stands for an empty one. -/
def submitted : Option Json → Except Exn Dict
  | none | some .null => .ok []
  | some (.obj output) => .ok output
  | some _ => .error (.value "result must be a mapping")

def complete (taskId : Text) (worker : Option Text) (result : Option Json) (token : Option Text) :
    Sched Task := atomic do
  let task ← requireTask taskId
  let row ← ownedLease host taskId worker token
  match row.lease with
  | none => Prog.raise noAttribute
  | some lease => do
      let output ← Prog.lift (submitted result)
      let run ← requireRun task.runId noAttribute
      let errors ← Prog.lift (validateResult host disk task run output (.str lease.worker))
      if !errors.isEmpty then
        failTask host disk taskId (some lease.worker) (rejectedResult output errors)
          (some lease.token)
      else
        let _ ← ownedLease host taskId (some lease.worker) (some lease.token)
        let output := withSubmission output lease.worker task.attempt
        match recordAttempt disk task (.ok (.obj output)) true "PASS" with
        | .error e =>
            if e.isRegistration then
              failTask host disk taskId (some lease.worker) (unregistered e) (some lease.token)
            else Prog.raise e
        | .ok manifest => do
            let _ ← ownedLease host taskId (some lease.worker) (some lease.token)
            succeedTask host row task (withManifest output manifest)

/-- `WHERE task_id=?` with a JSON value from a stored input. -/
def taskByJson (db : Store) : Json → Except Exn (Option TaskRow)
  | .str t => .ok (db.row? t)
  | .null => .ok none
  | .bool value => .ok (db.row? (if value then "1" else "0"))
  | .int n => .ok (db.row? (Text.ofInt n))
  | .float x => .ok (db.row? (host.repr (.float x)))
  | .arr _ | .obj _ => .error ⟨.databaseError, "unsupported parameter type"⟩

/-- The operator task a diagnosis names. -/
def sourceOf (db : Store) (diagnosis : Task) : Except Exn Task := do
  match ← taskByJson host db diagnosis.sourceTaskId with
  | some row =>
      refuse (row.stage = .diagnosis) (.value "diagnosis source task is missing or invalid")
      return row.view
  | none => throw (.value "diagnosis source task is missing or invalid")

/-- The action a diagnosis asks for, if the scheduler can take it. -/
def nextAction (diagnosis : Task) : Except Exn Text := do
  let action := Dict.getD diagnosis.output "next_action" .null
  let known ← inTexts action ["RETRY", "BLOCKED"]
  refuse (!known)
    (.value "next_action requires an external repair or rediscovery before retry")
  return if action.eq (.str "RETRY") then "RETRY" else "BLOCKED"

/-- The source of a completed diagnosis, and the action it asks for. -/
def checkDiagnosis (db : Store) (diagnosis : Task) : Except Exn (Task × Text) := do
  refuse (diagnosis.stage ≠ .diagnosis) (.value "apply-diagnosis requires a diagnosis task")
  refuse (diagnosis.status ≠ .succeeded)
    (.value "diagnosis must be completed before it can be applied")
  let source ← sourceOf host db diagnosis
  refuse (source.runId ≠ diagnosis.runId ∨ !source.operatorKey.eq diagnosis.operatorKey)
    (.value "diagnosis does not match its source task")
  return (source, ← nextAction diagnosis)

/-- The `diagnosis_applied` event of this diagnosis attempt for this source attempt. -/
def isApplication (diagnosis : Task) (event : TaskEvent) : Bool :=
  event.eventType = .diagnosisApplied && event.taskId = some diagnosis.taskId &&
    (Dict.getD event.payload "source_attempt" .null).eq
      (Dict.getD diagnosis.input "source_attempt" .null) &&
    (Dict.getD event.payload "diagnosis_attempt" .null).eq (.int diagnosis.attempt)

/-- The `recovery` entry a retry leaves in the source's input. -/
def recovery (diagnosis : Task) (action : Text) : Json :=
  .obj [("diagnosis_task_id", .str diagnosis.taskId), ("diagnosis_attempt", .int diagnosis.attempt),
    ("source_attempt", Dict.getD diagnosis.input "source_attempt" .null),
    ("next_action", .str action),
    ("repair_conclusion", Dict.getD diagnosis.output "repair_conclusion" .null)]

/-- A failed source put back to work. -/
def TaskRow.retried (input : Dict) (row : TaskRow) : TaskRow :=
  { row with status := .pending, input, output := [], lease := none }

def applicationEvent (diagnosis source : Task) (action : Text) : Dict :=
  [("source_task_id", .str source.taskId),
    ("source_attempt", Dict.getD diagnosis.input "source_attempt" .null),
    ("diagnosis_attempt", .int diagnosis.attempt), ("next_action", .str action),
    ("repair_conclusion", Dict.getD diagnosis.output "repair_conclusion" .null)]

/-- The requeueing of `apply_diagnosis`, for the action `RETRY`. -/
def retrySource (diagnosis source : Task) : Sched Unit := do
  Prog.require (source.status = .failed) (.value "RETRY requires a failed source task")
  let failed := fun r : TaskRow => r.taskId = source.taskId && r.status = .failed
  let changed ← query fun db => (db.tasks.filter failed).length
  execute fun db => db.updateTasks failed
    (TaskRow.retried (source.input.set "recovery" (recovery diagnosis "RETRY")))
  Prog.require (changed = 1) (.value "source task changed while applying diagnosis")

def applyDiagnosis (diagnosisTaskId : Text) : Sched Task := atomic do
  match ← query fun db => db.row? diagnosisTaskId with
  | none => Prog.raise (.value "apply-diagnosis requires a diagnosis task")
  | some row => do
      let diagnosis := row.view
      let db ← query id
      let (source, action) ← Prog.lift (checkDiagnosis host db diagnosis)
      if (db.eventsOf diagnosis.runId).any (isApplication diagnosis) then return source
      else
        if action = "RETRY" then retrySource diagnosis source else pure ()
        emit host diagnosis.runId .diagnosisApplied (applicationEvent diagnosis source action)
          diagnosis.taskId
        requireTask source.taskId

/-- `recover(force)`. -/
def recover (force : Bool) : Sched Nat := atomic do
  let now ← now host
  let stale := fun row : TaskRow => if force then row.status = .running else row.expired now
  let count ← query fun db => (db.tasks.filter stale).length
  execute fun db => db.updateTasks stale TaskRow.released
  return count

/-- The producer of a succeeded row: its recorded submission, else its claim events. -/
def producerOf (db : Store) (task : Task) : Except Exn Json := do
  let submission := Dict.getD task.output "_submission" (.obj [])
  let attempt := (← submission.get "attempt").getD .null
  let recorded ←
    if attempt.eq (.int task.attempt) then pure ((← submission.get "worker").getD .null)
    else pure .null
  if recorded.truthy then return recorded
  else
    let claims := (db.eventsOf task.runId).filter fun event =>
      event.taskId = some task.taskId && event.eventType = .taskClaimed
    let matching := claims.filter fun event =>
      (Dict.getD event.payload "attempt" .null).eq (.int task.attempt)
    match matching.getLast? with
    | some event => return Dict.getD event.payload "worker_id" .null
    | none =>
        if claims.length = task.attempt then
          match claims.getLast? with
          | some event => return Dict.getD event.payload "worker_id" .null
          | none => throw ⟨.indexError, "list index out of range"⟩
        else return .null

structure Repairs where
  created : List Text
  blocked : List Json

/-- A succeeded row without its successor: validated again before the edge is repaired. -/
def repairSuccessor (run : AdaptationRun) (row : TaskRow) (stage : Stage) (repairs : Repairs) :
    Sched Repairs := do
  let nextId := stageTaskId run.runId row.operatorKey stage
  if ← query fun db => (db.row? nextId).isSome then return repairs
  else
    let db ← query id
    let worker ← Prog.lift (producerOf db row.view)
    let errors ← Prog.lift
      (if worker.truthy then validateResult host disk row.view run row.output worker
        else .ok ["cannot establish producer identity for independent validation"])
    if errors.isEmpty then
      ensureNext host row.view row.operatorKey stage
      return { repairs with created := repairs.created ++ [nextId] }
    else return { repairs with blocked := repairs.blocked ++
      [.obj [("task_id", .str row.taskId), ("validation_errors", .arr (errors.map Json.str))]] }

/-- One round of `reconcile`. -/
def reconcileRow (run : AdaptationRun) (repairs : Repairs) (row : TaskRow) : Sched Repairs := do
  match row.stage, row.status with
  | .diagnosis, _ => return repairs
  | _, .failed => do
      let known ← query fun db =>
        (db.row? (diagnosisId row.taskId)).any fun r => r.stage = .diagnosis
      if known then return repairs
      else
        let error := Dict.getD row.output "error" (.obj [("message", .str "historical task failure")])
        let reported ← now host
        let report ← Prog.lift (BugReport.fromError host reported row.taskId error)
        let dumped ← Prog.lift (report.dumped host)
        let diagnosis ← ensureDiagnosis host row.view dumped
        return { repairs with created := repairs.created ++ [diagnosis.taskId] }
  | stage, .succeeded =>
      match stage.next? with
      | some next => repairSuccessor host disk run row next repairs
      | none => return repairs
  | _, _ => return repairs

def reconcile (runId : Text) : Sched Repairs := atomic do
  let run ← requireRun runId (.key runId)
  let tasks ← query fun db => db.tasksOf disk.ties runId
  let repairs ← tasks.foldlM (reconcileRow host disk run) ⟨[], []⟩
  emit host runId .runReconciled
    [("created", .arr (repairs.created.map Json.str)), ("blocked", .arr repairs.blocked)] none
  return repairs

/-- The public operations of `TaskScheduler`, with their arguments. -/
inductive Call where
  | createRun (run : AdaptationRun)
  | bindEnvironment (runId : Text) (proof : Dict) (artifactRoot : Json)
  | recordEnvironmentFailure (runId : Text) (proof : Dict) (error : Text)
  | recordGraphTransition (runId key : Text) (payload : Dict)
  | discoverOperator (runId : Text) (spec : OperatorSpec)
  | claimReady (worker : Text) (stage : Option Text) (leaseSeconds : Double) (limit : Int)
  | renewLease (taskId : Text) (worker token : Option Text) (leaseSeconds : Double)
  | complete (taskId : Text) (worker : Option Text) (result : Option Json) (token : Option Text)
  | fail (taskId : Text) (worker : Option Text) (error : Json) (token : Option Text)
  | applyDiagnosis (taskId : Text)
  | recover (force : Bool)
  | reconcile (runId : Text)

/-- Run one call, for its effect. -/
def Call.body : Call → Sched Unit
  | .createRun run => discard (InferForge.createRun host disk run)
  | .bindEnvironment runId proof root => discard (InferForge.bindEnvironment host disk runId proof root)
  | .recordEnvironmentFailure runId proof error =>
      discard (InferForge.recordEnvironmentFailure host runId proof error)
  | .recordGraphTransition runId key payload =>
      discard (InferForge.recordGraphTransition host runId key payload)
  | .discoverOperator runId spec => discard (InferForge.discoverOperator host disk runId spec)
  | .claimReady worker stage seconds limit =>
      discard (InferForge.claimReady host disk worker stage seconds limit)
  | .renewLease taskId worker token seconds =>
      discard (InferForge.renewLease host taskId worker token seconds)
  | .complete taskId worker result token =>
      discard (InferForge.complete host disk taskId worker result token)
  | .fail taskId worker error token => discard (InferForge.fail host disk taskId worker error token)
  | .applyDiagnosis taskId => discard (InferForge.applyDiagnosis host taskId)
  | .recover force => discard (InferForge.recover host force)
  | .reconcile runId => discard (InferForge.reconcile host disk runId)

/-- The state after a call, accepted or rejected, on the disk the call finds. -/
def step (world : World) (call : Disk × Call) : World := (call.2.body host call.1 world).2

/-- Whether a call returned normally. -/
def accepted (world : World) (call : Disk × Call) : Bool :=
  match (call.2.body host call.1 world).1 with
  | .ok _ => true
  | .error _ => false

/-- The state after a history of calls on an empty store. -/
def history (calls : List (Disk × Call)) : World := calls.foldl (step host) World.empty

end InferForge

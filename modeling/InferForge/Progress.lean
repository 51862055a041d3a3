import InferForge.Scheduler.Tasks

/-! The progress view of a task: where it stands, who acts next, and with which command. A view
reads the tables and changes nothing; commands are argument lists for review. -/
namespace InferForge
open Py ResultValidation

structure NextAction where
  owner : Json
  action : Json
  instruction : Text
  command : Option (List Text)

structure Explanation where
  state : Text
  location : Text
  reasonCode : Text
  summary : Json
  nextAction : NextAction
  evidence : List Text
  observedAt : Time
  details : Dict

/-- The interpreter, the repository and the database that commands name. -/
structure Console where
  executable : Text
  repoRoot : Path
  store : Text

def adaptationCommand (console : Console) (args : List Text) : List Text :=
  [console.executable, (console.repoRoot.child "cli/adaptation.py").toText, "--state",
    console.store] ++ args

/-- What the branches of `_task_progress` share. -/
structure TaskContext where
  task : Task
  /-- The worker of the current claim, `None` without one. -/
  worker : Json
  evidence : List Json
  sourceError : Json
  details : Dict
  now : Time

variable (host : Host) (console : Console)

/-- The inner `result` of `_task_progress`, over `explanation`. -/
def TaskContext.result (c : TaskContext) (status code : Text) (message who action : Json)
    (instruction : Text) (command : Option (List Text)) : Explanation where
  state := status
  location := c.task.taskId
  reasonCode := code
  summary := message
  nextAction := ⟨who, action, instruction, command⟩
  evidence := ((c.evidence.filter Json.truthy).map host.str).eraseDups
  observedAt := c.now
  details := c.details

def claimCommand (task : Task) : List Text :=
  adaptationCommand console ["claim", "--worker", task.stage.text ++ "-worker", "--stage",
    task.stage.text, "--limit", "1"]

def claimNoteText : Text := "Start a worker for this stage. Claim is database-wide: verify the " ++
  "returned run/task. No worker availability registry exists; unclaimed does not prove no worker " ++
  "is configured."

def runningProgress (c : TaskContext) : Explanation :=
  let expired := c.task.lease.any fun lease => lease.expires ≤ c.now
  if expired then
    c.result host "ACTION_REQUIRED" "LEASE_EXPIRED" (.str "The worker lease has expired.")
      (.str "main_agent") (.str "RECLAIM_TASK")
      ("Claim again to recover expired work with a new attempt/token. " ++ claimNoteText)
      (claimCommand console c.task)
  else
    c.result host "RUNNING" "WORKER_RUNNING" (.str "A worker holds an unexpired task lease.")
      (c.worker.or (.str (c.task.stage.text ++ "_worker"))) (.str "MONITOR_WORKER")
      ("Inspect logs; renew the lease during long work, then submit complete or fail. " ++
        "A valid lease does not establish process liveness.") none

/-- The stage before the task's own has succeeded, as the view finds out. -/
def dependencyMet (task : Task) (tasks : List Task) : Bool :=
  match task.stage.prev? with
  | none => true
  | some previous => tasks.any fun t =>
      t.operatorKey.eq task.operatorKey && t.stage = previous && t.status = .succeeded

def previousText (task : Task) : Text := (task.stage.prev?.map Stage.text).getD ""

def pendingProgress (c : TaskContext) (tasks : List Task) : Explanation :=
  if !dependencyMet c.task tasks then
    c.result host "WAITING" "DEPENDENCY_PENDING"
      (.str ("Waiting for " ++ previousText c.task ++ " evidence.")) (.str "main_agent")
      (.str "COMPLETE_DEPENDENCY") "Finish the previous operator stage first." none
  else
    let diagnosis := c.task.stage = .diagnosis
    c.result host "WAITING" (if diagnosis then "DIAGNOSIS_PENDING" else "WORKER_UNCLAIMED")
      (.str (if diagnosis then "Diagnosis is queued. " ++ host.str c.sourceError
        else "Task is queued and unclaimed."))
      (.str (c.task.stage.text ++ "_worker")) (.str "CLAIM_TASK") claimNoteText
      (claimCommand console c.task)

/-- The diagnosed attempt of the source is still its current, failed one. -/
def sourceCurrent (task : Task) (tasks : List Task) : Bool :=
  (tasks.find? fun t => (Json.str t.taskId).eq (Dict.getD task.input "source_task_id" .null)).any
    fun source => source.status = .failed &&
      (Json.int source.attempt).eq (Dict.getD task.input "source_attempt" .null)

def concludedProgress (c : TaskContext) (tasks : List Task) (events : List TaskEvent) :
    Except Exn Explanation := do
  let applied := events.any (isApplication c.task)
  let action := Dict.getD c.task.output "next_action" .null
  if !sourceCurrent c.task tasks || (applied && action.eq (.str "RETRY")) then
    return c.result host "COMPLETED" "DIAGNOSIS_CONSUMED"
      (.str "This diagnosis no longer needs action.") (.str "none") (.str "NONE")
      "Follow the current source task attempt." none
  else
    let known ← inTexts action ["RETRY", "BLOCKED"]
    if known && !applied then
      return c.result host "ACTION_REQUIRED" "DIAGNOSIS_NOT_APPLIED"
        (.str ("Diagnosis completed with " ++ host.str action ++
          "; its conclusion has not been applied.")) (.str "main_agent") (.str "APPLY_DIAGNOSIS")
        "Review and apply the saved conclusion."
        (adaptationCommand console ["apply-diagnosis", "--task-id", c.task.taskId])
    else
      let blocked := action.eq (.str "BLOCKED")
      let conclusion := Dict.getD c.task.output "repair_conclusion" .null
      return c.result host "BLOCKED"
        (if blocked then "DIAGNOSIS_BLOCKED" else "EXTERNAL_REPAIR_REQUIRED")
        (.str (host.str ((conclusion.or action).or (.str "Diagnosis requires review."))))
        (.str "main_agent")
        (if blocked then .str "RESOLVE_BLOCKER" else action.or (.str "REVIEW_DIAGNOSIS"))
        (if blocked then "Resolve the documented blocking condition before retrying."
          else "Perform the diagnosed external repair/rediscovery; do not relabel it RETRY to " ++
            "bypass work.") none

/-- The validation errors and the message of a failed task's report. -/
def failureMessage (task : Task) : Except Exn (Dict × Json) := do
  let error := Dict.getD task.output "error" (Dict.getD task.output "bug_report" (.obj []))
  match error with
  | .obj fields => do
      let metadata := Dict.getD fields "metadata" (.obj [])
      let errors := (← metadata.get "validation_errors").getD (.arr [])
      let message := Dict.getD fields "message" .null
      if message.truthy then return ([("validation_errors", errors)], message)
      else
        let found := (← metadata.get "validation_errors").getD .null
        let reason := (← metadata.get "reason").getD .null
        return ([("validation_errors", errors)], .str (host.str ((found.or reason).or error)))
  | other => return ([], .str (host.str other))

/-- The first diagnosis of the current attempt among the run's tasks. -/
def diagnosisOf (task : Task) (tasks : List Task) : Option Task :=
  tasks.find? fun t => t.stage = .diagnosis &&
    (Dict.getD t.input "source_task_id" .null).eq (.str task.taskId) &&
    (Dict.getD t.input "source_attempt" .null).eq (.int task.attempt)

def failedProgress (c : TaskContext) (tasks : List Task) : Except Exn Explanation := do
  let (found, message) ← failureMessage host c.task
  let diagnosis := diagnosisOf c.task tasks
  let named : Json :=
    match diagnosis with
    | some d => .str d.taskId
    | none => .null
  let linked : Dict := [("diagnosis_task_id", named)]
  let c := { c with details := c.details ++ found ++ linked }
  match diagnosis with
  | some d =>
      let done := d.status = .succeeded
      return c.result host "WAITING" (if done then "DIAGNOSIS_AVAILABLE" else "WAITING_FOR_DIAGNOSIS")
        (message.or (.str "Task failed; diagnosis exists."))
        (.str (if done then "main_agent" else "diagnosis_worker")) (.str "FOLLOW_DIAGNOSIS")
        ("Follow diagnosis " ++ d.taskId ++ ".") none
  | none =>
      let operator := c.task.stage ≠ .diagnosis
      return c.result host "BLOCKED" "TASK_FAILED" (message.or (.str "Task failed."))
        (.str "main_agent") (.str (if operator then "RECONCILE" else "REVIEW_DIAGNOSIS_FAILURE"))
        (if operator then "Restore the missing diagnosis edge."
          else "Inspect diagnosis validation errors; reconcile cannot retry a failed diagnosis.")
        (if operator then adaptationCommand console ["reconcile", "--run-id", c.task.runId] else none)

/-- `details["source_error"]` of a diagnosis. -/
def sourceError (task : Task) : Except Exn Json := do
  let bug := Dict.getD task.input "bug_report" (.obj [])
  let message := (← bug.get "message").getD .null
  if message.truthy then return message
  else
    let metadata := (← bug.get "metadata").getD (.obj [])
    let errors := (← metadata.get "validation_errors").getD .null
    return .str (host.str (errors.or (.str "")))

/-- The worker that made the claim of the current attempt. -/
def claimWorker (task : Task) (events : List TaskEvent) : Json :=
  let claims := events.filter fun event =>
    event.eventType = .taskClaimed && event.taskId = some task.taskId &&
      (Dict.getD event.payload "attempt" .null).eq (.int task.attempt)
  match claims.getLast? with
  | some event => Dict.getD event.payload "worker_id" .null
  | none => .null

def leaseExpires (task : Task) : Json :=
  match task.lease with
  | some lease => .float (.fin lease.expires)
  | none => .null

/-- The head of `_task_progress`, up to its first branch. -/
def taskContext (task : Task) (events : List TaskEvent) (now : Time) : Except Exn TaskContext := do
  let worker := claimWorker task events
  let workspace := Dict.getD task.input "workspace" (.obj [])
  let output ← workspace.get "output"
  let logs ← workspace.get "logs"
  let details : Dict := [("stage", .str task.stage.text), ("attempt", .int task.attempt),
    ("worker", worker), ("lease_expires", leaseExpires task),
    ("raw_status", .str (statusText task.status))]
  let evidence := [output.getD .null, logs.getD .null]
  if task.stage = .diagnosis then
    let original ← sourceError host task
    let reason : Dict := [("source_error", original)]
    return { task, worker, evidence, now, sourceError := original, details := details ++ reason }
  else return { task, worker, evidence, now, sourceError := .null, details }

def taskProgress (task : Task) (tasks : List Task) (events : List TaskEvent) (now : Time) :
    Except Exn Explanation := do
  let c ← taskContext host task events now
  match task.status with
  | .running => return runningProgress host console c
  | .pending => return pendingProgress host console c tasks
  | .failed => failedProgress host console c tasks
  | .succeeded =>
      if task.stage = .diagnosis then concludedProgress host console c tasks events
      else
        return c.result host "COMPLETED" "TASK_COMPLETE"
          (.str "Task completed; this alone is not model readiness.") (.str "none") (.str "NONE")
          "Continue the run's remaining stages and final validation." none

end InferForge

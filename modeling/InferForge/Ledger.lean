import InferForge.Scheduler.Ids
import InferForge.Transition
import Mathlib.Logic.Function.Basic

/-! The scheduler as a ledger: what a reader of the tables can see of runs, rows and
lifecycle events, and the moves an operation is made of. An operation of the scheduler
is a sequence of these moves; invariants are proved of single moves. -/
namespace InferForge
open Py Lifecycle Transition

/-- An event without its time. -/
structure Note where
  runId : Text
  eventType : EventType
  taskId : Option Text
  payload : Dict

def TaskEvent.note (event : TaskEvent) : Note :=
  ⟨event.runId, event.eventType, event.taskId, event.payload⟩

/-- The events from which a task's status can be replayed. -/
def EventType.lifecycle : EventType → Bool
  | .taskCreated | .diagnosisTaskCreated | .taskClaimed | .taskSucceeded | .taskFailed
  | .diagnosisTaskReopened | .diagnosisApplied => true
  | _ => false

/-- An integer payload field that counts attempts. -/
def attemptField (payload : Dict) (key : Text) : Nat :=
  match Dict.getD payload key .null with
  | .int n => n.toNat
  | _ => 0

def workerField (payload : Dict) : Text :=
  match Dict.getD payload "worker_id" .null with
  | .str worker => worker
  | _ => ""

/-- What an event says about a task. A retry is logged under the diagnosis and names its source. -/
def mark? (taskId : Text) (note : Note) : Option (Mark Text) :=
  match note.eventType with
  | .taskCreated | .diagnosisTaskCreated =>
      if note.taskId = some taskId then some .created else none
  | .taskClaimed =>
      if note.taskId = some taskId then
        some (.claimed (workerField note.payload) (attemptField note.payload "attempt"))
      else none
  | .taskSucceeded => if note.taskId = some taskId then some .succeeded else none
  | .taskFailed => if note.taskId = some taskId then some .failed else none
  | .diagnosisTaskReopened => if note.taskId = some taskId then some .reopened else none
  | .diagnosisApplied =>
      if Json.eqOpt (note.payload.get? "source_task_id") (.str taskId) &&
          Json.eqOpt (note.payload.get? "next_action") (.str "RETRY") then
        some (.retried (attemptField note.payload "source_attempt"))
      else none
  | _ => none

/-- The history of one task in a log. -/
def marks (taskId : Text) (log : List Note) : List (Mark Text) := log.filterMap (mark? taskId)

theorem marks_append (taskId : Text) (log more : List Note) :
    marks taskId (log ++ more) = marks taskId log ++ marks taskId more :=
  List.filterMap_append

structure Ledger where
  run : Text → Option AdaptationRun
  spec : Text → Text → Option OperatorSpec
  row : Text → Option TaskRow
  log : List Note
  readings : Nat
  tokens : Nat

namespace Ledger

def empty : Ledger := ⟨fun _ => none, fun _ _ => none, fun _ => none, [], 0, 0⟩

def putRun (l : Ledger) (r : AdaptationRun) : Ledger :=
  { l with run := Function.update l.run r.runId (some r) }

def putSpec (l : Ledger) (runId key : Text) (spec : OperatorSpec) : Ledger :=
  { l with spec := fun i k => if i = runId ∧ k = key then some spec else l.spec i k }

def put (l : Ledger) (r : TaskRow) : Ledger :=
  { l with row := Function.update l.row r.taskId (some r) }

def note (l : Ledger) (n : Note) : Ledger := { l with log := l.log ++ [n] }

theorem put_self {l : Ledger} (here : l.row t = some r) (named : r.taskId = t) : l.put r = l := by
  rw [put, named, ← here, Function.update_eq_self]

theorem put_put (l : Ledger) {a b : TaskRow} (same : a.taskId = b.taskId) :
    (l.put a).put b = l.put b := by
  simp only [put, same, Function.update_idem]

/-- Later on the clock, with more tokens drawn. -/
def later (l : Ledger) (readings tokens : Nat) : Ledger := { l with readings, tokens }

end Ledger

def creation (eventType : EventType) (runId taskId : Text) (payload : Dict) : Note :=
  ⟨runId, eventType, some taskId, payload⟩

/-- The `task_claimed` event of a row as it was before the claim. -/
def claimNote (worker : Text) (row : TaskRow) : Note :=
  ⟨row.runId, .taskClaimed, some row.taskId, (claimEvent worker row).2.1⟩

/-- A claim may replace the workspace of the input, and nothing else. -/
def SameInput (before after : Dict) : Prop :=
  ∀ key : Text, key ≠ "workspace" → after.get? key = before.get? key

/-- The environment gate of a queued operator row, as `_deps_succeeded` reads it. -/
def Ready (l : Ledger) (row : TaskRow) : Prop :=
  ∃ r, l.run row.runId = some r ∧ (environmentGated r = true →
    r.status = "ENVIRONMENT_READY" ∧ ∃ spec fingerprint,
      l.spec row.runId row.operatorKey = some spec ∧ r.fingerprint = .ok fingerprint ∧
      fingerprint.truthy = true ∧
      (Dict.getD spec.environment "fingerprint" .null).eq fingerprint = true)

/-- The lease of a row is still running at some reading to come. -/
def Live (host : Host) (l : Ledger) (lease : Lease) : Prop :=
  ∃ k, l.readings ≤ k ∧ host.clock k < lease.expires

/-- A diagnosis that may be acted on: who its source is, and what it asks for. -/
structure Concluded (l : Ledger) (diagnosis source : TaskRow) (action : Text) : Prop where
  known : l.row diagnosis.taskId = some diagnosis
  found : l.row source.taskId = some source
  stage : diagnosis.stage = .diagnosis
  operator : source.stage ≠ .diagnosis
  succeeded : diagnosis.status = .succeeded
  names : Dict.getD diagnosis.input "source_task_id" (.str "") = .str source.taskId
  action : Dict.getD diagnosis.output "next_action" .null = .str action

inductive Action where
  | wait
  | openRun (runId : Text)
  | furnish (runId : Text)
  | bind (runId : Text)
  | adjust (runId : Text)
  | discover (taskId : Text)
  | create (taskId : Text)
  | claim (taskId : Text)
  | release
  | renew (taskId : Text)
  | succeed (taskId : Text)
  | fail (taskId : Text)
  | retry (taskId : Text)
  | consume (taskId : Text)

/-- The moves. `approves` is the verdict on a submission: the task, its run, the result and
the worker that holds the lease. -/
inductive Move (host : Host) (approves : Task → AdaptationRun → Dict → Text → Prop) :
    Ledger → Action → Ledger → Prop where
  | wait {l : Ledger} (readings : l.readings ≤ m) (tokens : l.tokens ≤ n) :
      Move host approves l .wait (l.later m n)
  | openRun {l : Ledger} (r : AdaptationRun) (fresh : l.run r.runId = none)
      (waiting : r.evidenceMode.eq (.str "real") = true → r.status = "WAITING_FOR_ENVIRONMENT") :
      Move host approves l (.openRun r.runId) (l.putRun r)
  | furnish {l : Ledger} (r : AdaptationRun) (root : Json) (here : l.run r.runId = some r) :
      Move host approves l (.furnish r.runId)
        (l.putRun { r with metadata := r.metadata.set "artifact_root" root })
  | bind {l : Ledger} (r : AdaptationRun) (handoff : Handoff) (here : l.run r.runId = some r)
      (named : handoff.fingerprint.isEmpty = false)
      (settled : ∀ t q, l.row t = some q → q.runId = r.runId → ∃ previous,
        r.fingerprint = .ok previous ∧
        (previous.truthy = true → previous = .str handoff.fingerprint)) :
      Move host approves l (.bind r.runId) (l.putRun { r with
        environment := r.environment.set "environment_proof" handoff.record
        status := "ENVIRONMENT_READY" })
  | adjust {l : Ledger} (r r' : AdaptationRun) (here : l.run r.runId = some r)
      (same : r'.runId = r.runId) (mode : r'.evidenceMode = r.evidenceMode)
      (proof : r'.fingerprint = r.fingerprint)
      (status : r'.status = r.status ∨ r'.status = "ENVIRONMENT_FAILED") :
      Move host approves l (.adjust r.runId) (l.putRun r')
  | discover {l : Ledger} (r : AdaptationRun) (key : Text) (spec : OperatorSpec)
      (input payload : Dict) (at' : Time) (here : l.run r.runId = some r)
      (valid : checkDiscovery r spec = .ok ()) (long : key.codes.length = 64)
      (unknown : l.spec r.runId key = none)
      (fresh : l.row (stageTaskId r.runId key .torch) = none) :
      Move host approves l (.discover (stageTaskId r.runId key .torch))
        (((l.putSpec r.runId key spec).put
          (pendingRow r.runId key .torch (stageTaskId r.runId key .torch) input at')).note
            (creation .taskCreated r.runId (stageTaskId r.runId key .torch) payload))
  | create {l : Ledger} (row : TaskRow) (stage : Stage) (input payload : Dict) (at' : Time)
      (here : l.row row.taskId = some row) (status : row.status = .succeeded)
      (next : row.stage.next? = some stage)
      (fresh : l.row (stageTaskId row.runId row.operatorKey stage) = none) :
      Move host approves l (.create (stageTaskId row.runId row.operatorKey stage))
        ((l.put (pendingRow row.runId row.operatorKey stage
          (stageTaskId row.runId row.operatorKey stage) input at')).note
            (creation .taskCreated row.runId (stageTaskId row.runId row.operatorKey stage) payload))
  | claim {l : Ledger} (row : TaskRow) (input : Dict) (worker : Text) (expires : Time)
      (here : l.row row.taskId = some row) (status : row.status = .pending)
      (ready : row.stage ≠ .diagnosis → Ready l row) (same : SameInput row.input input) :
      Move host approves l (.claim row.taskId)
        (({ l with tokens := l.tokens + 1 }.put
          (TaskRow.claimed ⟨host.token l.tokens, worker, expires⟩ { row with input })).note
            (claimNote worker row))
  | release {l : Ledger} (selected : TaskRow → Bool)
      (running : ∀ t r, l.row t = some r → selected r = true → r.status = .running) :
      Move host approves l .release
        { l with row := fun t => (l.row t).map fun r => if selected r then r.released else r }
  | renew {l : Ledger} (row : TaskRow) (held : Lease) (expires : Time)
      (here : l.row row.taskId = some row) (lease : row.lease = some held)
      (live : Live host l held) :
      Move host approves l (.renew row.taskId)
        (l.put { row with lease := some { held with expires } })
  | succeed {l : Ledger} (row : TaskRow) (held : Lease) (r : AdaptationRun)
      (result output payload : Dict) (here : l.row row.taskId = some row)
      (status : row.status = .running) (lease : row.lease = some held) (live : Live host l held)
      (run : l.run row.runId = some r) (approved : approves row.view r result held.worker) :
      Move host approves l (.succeed row.taskId)
        ((l.put (TaskRow.finished .succeeded output row)).note
          ⟨row.runId, .taskSucceeded, some row.taskId, payload⟩)
  | failDiagnosis {l : Ledger} (row : TaskRow) (held : Lease) (output payload : Dict)
      (here : l.row row.taskId = some row) (status : row.status = .running)
      (lease : row.lease = some held) (live : Live host l held) (stage : row.stage = .diagnosis) :
      Move host approves l (.fail row.taskId)
        ((l.put (TaskRow.finished .failed output row)).note
          ⟨row.runId, .taskFailed, some row.taskId, payload⟩)
  | failFirst {l : Ledger} (row : TaskRow) (held : Lease) (report : Json)
      (output payload : Dict) (at' : Time) (here : l.row row.taskId = some row)
      (status : row.status = .running) (lease : row.lease = some held) (live : Live host l held)
      (stage : row.stage ≠ .diagnosis) (fresh : l.row (diagnosisId row.taskId) = none) :
      Move host approves l (.fail row.taskId)
        ((((l.put (TaskRow.finished .failed output row)).put
          (pendingRow row.runId (diagnosisKey row.taskId) .diagnosis (diagnosisId row.taskId)
            (diagnosisInput row.view report) at')).note
          (creation .diagnosisTaskCreated row.runId (diagnosisId row.taskId) (diagnosisEvent row.view))).note
          ⟨row.runId, .taskFailed, some row.taskId, payload⟩)
  | failAgain {l : Ledger} (row diagnosis : TaskRow) (held : Lease) (report : Json)
      (output payload : Dict) (here : l.row row.taskId = some row)
      (status : row.status = .running) (lease : row.lease = some held) (live : Live host l held)
      (stage : row.stage ≠ .diagnosis)
      (known : l.row (diagnosisId row.taskId) = some diagnosis) :
      Move host approves l (.fail row.taskId)
        ((((l.put (TaskRow.finished .failed output row)).put
          (TaskRow.reopened (diagnosisInput row.view report) diagnosis)).note
          ⟨row.runId, .diagnosisTaskReopened, some (diagnosisId row.taskId),
            diagnosisEvent row.view⟩).note
          ⟨row.runId, .taskFailed, some row.taskId, payload⟩)
  | retry {l : Ledger} (diagnosis source : TaskRow) (input : Dict)
      (concluded : Concluded l diagnosis source "RETRY") (status : source.status = .failed) :
      Move host approves l (.retry diagnosis.taskId)
        ((l.put (TaskRow.retried input source)).note ⟨diagnosis.runId, .diagnosisApplied, some diagnosis.taskId,
          applicationEvent diagnosis.view source.view "RETRY"⟩)
  | consume {l : Ledger} (diagnosis source : TaskRow)
      (concluded : Concluded l diagnosis source "BLOCKED") :
      Move host approves l (.consume diagnosis.taskId)
        (l.note ⟨diagnosis.runId, .diagnosisApplied, some diagnosis.taskId,
          applicationEvent diagnosis.view source.view "BLOCKED"⟩)

end InferForge

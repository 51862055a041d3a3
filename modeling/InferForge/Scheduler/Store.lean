import InferForge.Contracts
import Mathlib.Data.List.Sort

/-! `EventStore`: the four tables, their queries, and the writes between them. Every
method of the scheduler runs inside one transaction, so an exception puts the tables
back while the clock and the token generator have moved on. -/
namespace InferForge
open Py Effect

structure OperatorRow where
  runId : Text
  operatorKey : Text
  spec : OperatorSpec

/-- The columns that identify a task row: its primary key, and what `UNIQUE` speaks of. -/
structure SameKey (r r' : TaskRow) : Prop where
  taskId : r'.taskId = r.taskId
  runId : r'.runId = r.runId
  operatorKey : r'.operatorKey = r.operatorKey
  stage : r'.stage = r.stage

def TaskRow.place (row : TaskRow) : Text × Text × Stage := (row.runId, row.operatorKey, row.stage)

/-- The tables, with the uniqueness constraints of their schema. -/
structure Store where
  runs : List AdaptationRun
  operators : List OperatorRow
  tasks : List TaskRow
  events : List TaskEvent
  runKey : (runs.map AdaptationRun.runId).Nodup
  operatorKey : (operators.map fun row => (row.runId, row.operatorKey)).Nodup
  taskKey : (tasks.map TaskRow.taskId).Nodup
  taskPlace : (tasks.map TaskRow.place).Nodup

def Store.empty : Store := ⟨[], [], [], [], .nil, .nil, .nil, .nil⟩

/-- The tables, with how many clock readings and tokens have been used. -/
structure World where
  db : Store
  readings : Nat
  tokens : Nat

def World.empty : World := ⟨.empty, 0, 0⟩

/-- A call never gives a clock reading or a token back. -/
instance : Preorder World where
  le before after := before.readings ≤ after.readings ∧ before.tokens ≤ after.tokens
  le_refl _ := ⟨le_rfl, le_rfl⟩
  le_trans _ _ _ first second := ⟨first.1.trans second.1, first.2.trans second.2⟩

abbrev Sched := Prog World Exn

/-- `ORDER BY created_at`; `ties` is how the database orders equal times. -/
def earlier (ties : Text → Nat) (a b : TaskRow) : Prop :=
  a.createdAt < b.createdAt ∨ (a.createdAt = b.createdAt ∧ ties a.taskId ≤ ties b.taskId)

instance (ties : Text → Nat) : DecidableRel (earlier ties) := fun _ _ =>
  inferInstanceAs (Decidable (_ ∨ _))

namespace Store

def run? (db : Store) (runId : Text) : Option AdaptationRun :=
  db.runs.find? fun run => run.runId = runId

def operator? (db : Store) (runId key : Text) : Option OperatorSpec :=
  (db.operators.find? fun row => row.runId = runId ∧ row.operatorKey = key).map OperatorRow.spec

/-- The row with this primary key. -/
def row? (db : Store) (taskId : Text) : Option TaskRow :=
  db.tasks.find? fun row => row.taskId = taskId

/-- `SELECT status FROM tasks WHERE run_id=? AND operator_key=? AND stage=?`. -/
def stageRow? (db : Store) (runId key : Text) (stage : Stage) : Option TaskRow :=
  db.tasks.find? fun row => row.runId = runId ∧ row.operatorKey = key ∧ row.stage = stage

/-- `tasks(run_id)`. -/
def tasksOf (db : Store) (ties : Text → Nat) (runId : Text) : List TaskRow :=
  (db.tasks.filter fun row => row.runId = runId).insertionSort (earlier ties)

/-- `events(run_id)`: by timestamp, and in insertion order within one timestamp. -/
def eventsOf (db : Store) (runId : Text) : List TaskEvent :=
  (db.events.filter fun event => event.runId = runId).insertionSort
    fun a b => a.timestamp ≤ b.timestamp

/-- A constraint survives a write that keeps its columns. -/
theorem nodup_map_of_keeps {key : α → β} {change : α → α} (keeps : ∀ a, key (change a) = key a)
    {rows : List α} (unique : (rows.map key).Nodup) : ((rows.map change).map key).Nodup := by
  rw [List.map_map, show key ∘ change = key from funext keeps]
  exact unique

theorem nodup_map_append {key : α → β} {rows : List α} (unique : (rows.map key).Nodup) (a : α)
    (fresh : ∀ b ∈ rows, key b ≠ key a) : ((rows ++ [a]).map key).Nodup := by
  rw [List.map_append, List.map_singleton, List.nodup_append]
  refine ⟨unique, List.nodup_singleton _, fun x member y here => ?_⟩
  obtain ⟨b, inside, rfl⟩ := List.mem_map.mp member
  rw [List.mem_singleton.mp here]
  exact fresh b inside

/-- `UPDATE tasks SET ... WHERE ...`. -/
def updateTasks (db : Store) (selected : TaskRow → Bool) (change : TaskRow → TaskRow)
    (keeps : ∀ r, SameKey r (change r) := by exact fun _ => ⟨rfl, rfl, rfl, rfl⟩) : Store :=
  { db with
    tasks := db.tasks.map fun row => if selected row then change row else row
    taskKey := nodup_map_of_keeps (fun r => by split <;> simp [(keeps r).taskId]) db.taskKey
    taskPlace := nodup_map_of_keeps
      (fun r => by
        have same := keeps r
        split <;> simp [TaskRow.place, same.runId, same.operatorKey, same.stage]) db.taskPlace }

/-- `UPDATE tasks SET ... WHERE task_id=?`. -/
def updateTask (db : Store) (taskId : Text) (change : TaskRow → TaskRow)
    (keeps : ∀ r, SameKey r (change r) := by exact fun _ => ⟨rfl, rfl, rfl, rfl⟩) : Store :=
  db.updateTasks (fun row => row.taskId = taskId) change keeps

/-- `UPDATE runs SET payload=? WHERE run_id=?`. -/
def updateRun (db : Store) (run : AdaptationRun) : Store :=
  { db with
    runs := db.runs.map fun old => if old.runId = run.runId then run else old
    runKey := nodup_map_of_keeps (fun r => by split <;> simp [*]) db.runKey }

/-- The two uniqueness constraints of the `tasks` table. -/
def conflicts (new old : TaskRow) : Bool := old.taskId = new.taskId || old.place = new.place

/-- `INSERT OR IGNORE INTO tasks`: whether a row was inserted, and the table. -/
def insertTask (db : Store) (row : TaskRow) : Bool × Store :=
  if clash : db.tasks.any (conflicts row) = true then (false, db)
  else
    have free : ∀ old ∈ db.tasks, old.taskId ≠ row.taskId ∧ old.place ≠ row.place := by
      simpa [conflicts] using clash
    (true, { db with
      tasks := db.tasks ++ [row]
      taskKey := nodup_map_append db.taskKey row fun old member => (free old member).1
      taskPlace := nodup_map_append db.taskPlace row fun old member => (free old member).2 })

/-- `INSERT OR IGNORE INTO runs`. -/
def saveRun (db : Store) (run : AdaptationRun) : Store :=
  if known : (db.run? run.runId).isSome then db
  else { db with
    runs := db.runs ++ [run]
    runKey := nodup_map_append db.runKey run (by simpa [run?] using known) }

/-- `INSERT OR IGNORE INTO operators`: whether the specification is new. -/
def putOperator (db : Store) (runId key : Text) (spec : OperatorSpec) : Bool × Store :=
  if known : (db.operator? runId key).isSome then (false, db)
  else (true, { db with
    operators := db.operators ++ [⟨runId, key, spec⟩]
    operatorKey := nodup_map_append db.operatorKey ⟨runId, key, spec⟩
      (by simpa [operator?] using known) })

def append (db : Store) (event : TaskEvent) : Store := { db with events := db.events ++ [event] }

end Store

/-- `@atomic_transition`: the outermost transaction rolls the tables back on any exception. -/
def atomic (x : Sched α) : Sched α :=
  Prog.transact (fun before after => { after with db := before.db }) (fun _ _ ahead => ahead) x

namespace Sched

def query (f : Store → α) : Sched α := do
  let world ← Prog.read
  return f world.db

def execute (f : Store → Store) : Sched Unit :=
  Prog.write (fun world => { world with db := f world.db }) fun _ => ⟨le_rfl, le_rfl⟩

/-- `time.time()`. -/
def now (host : Host) : Sched Time := do
  let world ← Prog.read
  Prog.write (fun w => { w with readings := w.readings + 1 }) fun _ => ⟨Nat.le_succ _, le_rfl⟩
  return host.clock world.readings

/-- `secrets.token_urlsafe`. -/
def drawToken (host : Host) : Sched Text := do
  let world ← Prog.read
  Prog.write (fun w => { w with tokens := w.tokens + 1 }) fun _ => ⟨le_rfl, Nat.le_succ _⟩
  return host.token world.tokens

def emit (host : Host) (runId : Text) (eventType : EventType) (payload : Dict)
    (taskId : Option Text) : Sched Unit := do
  let timestamp ← now host
  execute fun db => db.append { runId, eventType, taskId, payload, timestamp }

def insertTask (host : Host) (row : Time → TaskRow) : Sched Bool := do
  let created ← now host
  let inserted ← query fun db => (db.insertTask (row created)).1
  execute fun db => (db.insertTask (row created)).2
  return inserted

/-- `store.run(run_id)`, where the caller uses the result's attributes. -/
def requireRun (runId : Text) (missing : Exn) : Sched AdaptationRun := do
  match ← query fun db => db.run? runId with
  | some run => return run
  | none => Prog.raise missing

end Sched
end InferForge

import InferForge.Scheduler.History
import InferForge.Py.Ordered

/-! `reconcile` on any store, legacy rows included: what it adds, what it reports, and that a
second call has nothing left to do. A store that only the scheduler has written needs no repair. -/
namespace InferForge
open Py Effect Sched ResultValidation

/-- The rows are named the way every row is when it is inserted. -/
structure Store.Named (db : Store) : Prop where
  operators : ∀ row ∈ db.tasks, row.stage ≠ .diagnosis →
    row.taskId = stageTaskId row.runId row.operatorKey row.stage
  diagnoses : ∀ row ∈ db.tasks, row.stage = .diagnosis →
    ∃ source, row.taskId = diagnosisId source ∧ row.operatorKey = diagnosisKey source

section Reported
variable (host : Host) (disk : Disk) (db : Store) (run : AdaptationRun)

/-- The errors `reconcile` finds in a succeeded row without its successor. -/
def producedErrors (row : TaskRow) : Except Exn (List Text) := do
  let worker ← producerOf db row.view
  if worker.truthy then validateResult host disk row.view run row.output worker
  else .ok ["cannot establish producer identity for independent validation"]

def refusedEntry (row : TaskRow) (errors : List Text) : Json :=
  .obj [("task_id", .str row.taskId), ("validation_errors", .arr (errors.map Json.str))]

/-- What is reported of a row: the errors that keep it from its successor. -/
def blockedOf (row : TaskRow) : List Json :=
  match row.status, row.stage.next? with
  | .succeeded, some stage =>
      if (db.row? (stageTaskId run.runId row.operatorKey stage)).isSome then []
      else
        match producedErrors host disk db run row with
        | .ok [] | .error _ => []
        | .ok errors => [refusedEntry row errors]
  | _, _ => []

/-- Nothing is left to repair about this row. -/
structure Stands (row : TaskRow) : Prop where
  failed : row.stage ≠ .diagnosis → row.status = .failed →
    ∃ d, db.row? (diagnosisId row.taskId) = some d ∧ d.stage = .diagnosis
  succeeded : row.status = .succeeded → ∀ stage, row.stage.next? = some stage →
    (db.row? (stageTaskId run.runId row.operatorKey stage)).isSome ∨
      ∃ errors, producedErrors host disk db run row = .ok errors ∧ errors ≠ []

/-- A row that was added: the successor of a row that validates again, with its producer
known, or the diagnosis of a failed one. -/
inductive Repaired (r : TaskRow) : Prop where
  | successor (source : TaskRow) (worker : Json) (member : source ∈ db.tasks) (own : source.runId = run.runId)
      (status : source.status = .succeeded) (next : source.stage.next? = some r.stage)
      (producer : producerOf db source.view = .ok worker) (known : worker.truthy = true)
      (valid : validateResult host disk source.view run source.output worker = .ok [])
      (named : r.taskId = stageTaskId run.runId source.operatorKey r.stage)
      (place : r.place = (run.runId, source.operatorKey, r.stage)) (waiting : r.status = .pending)
  | diagnosis (source : TaskRow) (member : source ∈ db.tasks) (own : source.runId = run.runId)
      (failed : source.status = .failed) (operator : source.stage ≠ .diagnosis)
      (named : r.taskId = diagnosisId source.taskId)
      (place : r.place = (run.runId, diagnosisKey source.taskId, .diagnosis)) (waiting : r.status = .pending)
      (attempt : r.input.get? "source_attempt" = some (.int source.attempt))

/-- What a call of `reconcile` has done. -/
structure Reconciled (after : Store) (repairs : Repairs) (added : List TaskRow) : Prop where
  runs : after.run? = db.run?
  /-- Every row that was there is there unchanged. -/
  tasks : after.tasks = db.tasks ++ added
  created : repairs.created = added.map TaskRow.taskId
  repaired : ∀ r ∈ added, Repaired host disk db run r
  settled : ∀ row ∈ db.tasksOf disk.ties run.runId, Stands host disk after run row
  blocked : repairs.blocked = (db.tasksOf disk.ties run.runId).flatMap (blockedOf host disk after run)

end Reported

section Sorted
variable {db db' : Store}

instance (ties : Text → Nat) : Std.Total (earlier ties) where
  total a b := by
    unfold earlier
    rcases lt_trichotomy a.createdAt b.createdAt with before | same | after
    · exact .inl (.inl before)
    · rcases le_total (ties a.taskId) (ties b.taskId) with less | more
      · exact .inl (.inr ⟨same, less⟩)
      · exact .inr (.inr ⟨same.symm, more⟩)
    · exact .inr (.inl after)

instance (ties : Text → Nat) : IsTrans TaskRow (earlier ties) where
  trans a b c first second := by
    rcases first with before | ⟨same, less⟩
    · rcases second with later | ⟨equal, -⟩
      · exact .inl (before.trans later)
      · exact .inl (equal ▸ before)
    · rcases second with later | ⟨equal, more⟩
      · exact .inl (same ▸ later)
      · exact .inr ⟨same.trans equal, less.trans more⟩

/-- The rows of a run among the first rows of the table keep their order. -/
theorem tasksOf_append {ties : Text → Nat} {added : List TaskRow} (tasks : db'.tasks = db.tasks ++ added)
    {p : TaskRow → Bool} (old : ∀ r ∈ db.tasks, p r = true) (new : ∀ r ∈ added, p r = false) (runId : Text) :
    (db'.tasksOf ties runId).filter p = db.tasksOf ties runId := by
  have none : added.filter p = [] := List.filter_eq_nil_iff.mpr fun r member => by simp [new r member]
  unfold Store.tasksOf
  rw [filter_insertionSort, tasks, List.filter_append, List.filter_append]
  rw [List.filter_filter, List.filter_filter]
  have kept : db.tasks.filter (fun r => p r && decide (r.runId = runId)) = db.tasks.filter fun r => r.runId = runId :=
    List.filter_congr fun r member => by simp [old r member]
  have gone : added.filter (fun r => p r && decide (r.runId = runId)) = [] := by
    rw [List.filter_eq_nil_iff]
    intro r member
    simp [new r member]
  rw [kept, gone, List.append_nil]

def isClaim (event : TaskEvent) : Bool := event.eventType = .taskClaimed

/-- The producer of a row is read off the claims alone. -/
theorem producerOf_claims (same : db'.events.filter isClaim = db.events.filter isClaim) (task : Task) :
    producerOf db' task = producerOf db task := by
  have claims (store : Store) : ((store.eventsOf task.runId).filter fun event =>
      event.taskId = some task.taskId && event.eventType = .taskClaimed) =
      ((store.events.filter isClaim).filter fun event =>
        event.runId = task.runId && event.taskId = some task.taskId).insertionSort fun a b => a.timestamp ≤ b.timestamp := by
    unfold Store.eventsOf
    rw [filter_insertionSort, List.filter_filter, List.filter_filter]
    refine congrArg _ (List.filter_congr fun event _ => ?_)
    unfold isClaim
    cases decide (event.runId = task.runId) <;> cases decide (event.taskId = some task.taskId) <;>
      cases decide (event.eventType = .taskClaimed) <;> rfl
  unfold producerOf
  rw [claims, claims, same]

end Sorted

section Added
variable {host : Host} {disk : Disk} {db db' start : Store} {run : AdaptationRun} {row r : TaskRow}

theorem stageTaskId_own (same : stageTaskId runId key stage = stageTaskId runId key' stage') : key = key' ∧ stage = stage' := by
  have last := congrArg (fun t : Text => t.codes.getLast?) same
  simp only [stageTaskId_last, Option.some.injEq] at last
  obtain rfl := Stage.lastLetter_inj last
  have front := Text.append_right_cancel (Text.append_right_cancel same)
  exact ⟨Text.append_left_cancel front, rfl⟩

theorem row?_kept {added : List TaskRow} (tasks : db'.tasks = db.tasks ++ added) (here : db.row? t = some r) :
    db'.row? t = some r := by
  unfold Store.row? at here ⊢
  rw [tasks, List.find?_append, here, Option.some_or]

/-- The store after one row was added, with events that are not claims. -/
structure Grown (db : Store) (r : TaskRow) (db' : Store) : Prop where
  runs : db'.run? = db.run?
  tasks : db'.tasks = db.tasks ++ [r]
  claims : db'.events.filter isClaim = db.events.filter isClaim

theorem Grown.row? (grown : Grown db r db') (other : t ≠ r.taskId) : db'.row? t = db.row? t := by
  unfold Store.row?
  rw [grown.tasks, List.find?_append, List.find?_cons_of_neg (by simpa using Ne.symm other), List.find?_nil,
    Option.or_none]

theorem Grown.found (grown : Grown db r db') (free : db.row? r.taskId = none) : db'.row? r.taskId = some r := by
  unfold Store.row? at free ⊢
  rw [grown.tasks, List.find?_append, free, List.find?_cons_of_pos (by simp), Option.none_or]

theorem producedErrors_claims (same : db'.events.filter isClaim = db.events.filter isClaim) (row : TaskRow) :
    producedErrors host disk db' run row = producedErrors host disk db run row := by
  unfold producedErrors
  rw [producerOf_claims same]

theorem blockedOf_grown (grown : Grown db r db')
    (other : ∀ stage, row.stage.next? = some stage → stageTaskId run.runId row.operatorKey stage ≠ r.taskId) :
    blockedOf host disk db' run row = blockedOf host disk db run row := by
  unfold blockedOf
  split
  · next stage _ next => rw [grown.row? (other stage next), producedErrors_claims grown.claims]
  · rfl

theorem Stands.grown (stands : Stands host disk db run row) (grown : Grown db r db') :
    Stands host disk db' run row := by
  refine ⟨fun operator failed => ?_, fun succeeded stage next => ?_⟩
  · obtain ⟨d, known, diagnosis⟩ := stands.failed operator failed
    exact ⟨d, row?_kept grown.tasks known, diagnosis⟩
  · rcases stands.succeeded succeeded stage next with there | refused
    · obtain ⟨q, here⟩ := Option.isSome_iff_exists.mp there
      exact .inl (by rw [row?_kept grown.tasks here]; rfl)
    · rw [producedErrors_claims grown.claims]
      exact .inr refused

theorem insertTask_tasks {row : TaskRow} (inserted : (db.insertTask row).1 = true) :
    (db.insertTask row).2.tasks = db.tasks ++ [row] := by
  by_cases clash : db.tasks.any (Store.conflicts row) = true
  · simp [Store.insertTask, clash] at inserted
  · rw [Store.insertTask, dif_neg clash]

theorem insertTask_named (named : db.Named) {row : TaskRow} (operator : row.stage ≠ .diagnosis →
      row.taskId = stageTaskId row.runId row.operatorKey row.stage)
    (diagnosis : row.stage = .diagnosis → ∃ source, row.taskId = diagnosisId source ∧ row.operatorKey = diagnosisKey source)
    (tasks : db'.tasks = db.tasks ++ [row]) : db'.Named := by
  have members : ∀ q ∈ db'.tasks, q ∈ db.tasks ∨ q = row := fun q member => by
    rw [tasks, List.mem_append, List.mem_singleton] at member
    exact member
  refine ⟨fun q member => ?_, fun q member => ?_⟩
  · obtain old | rfl := members q member
    · exact named.operators q old
    · exact operator
  · obtain old | rfl := members q member
    · exact named.diagnoses q old
    · exact diagnosis

/-- A free id is added as a diagnosis, or nothing returns. -/
theorem ensureDiagnosis_adds {v : World} (task : Task) (report : Json)
    (free : v.db.row? (diagnosisId task.taskId) = none) :
    Prog.wlp (ensureDiagnosis host task report) (fun shown u => ∃ createdAt,
      Grown v.db (pendingRow task.runId (diagnosisKey task.taskId) .diagnosis (diagnosisId task.taskId)
        (diagnosisInput task report) createdAt) u.db ∧ shown.taskId = diagnosisId task.taskId) v := by
  unfold ensureDiagnosis
  simp only [Prog.wlp, Prog.wp_bind, wp_insertTask]
  rw [Prog.wp_ite]
  constructor
  · intro inserted
    simp only [Prog.wp_bind, wp_emit]
    refine wlp_requireTask fun row here => ⟨_, ⟨(Store.insertTask_rest _ _).1, insertTask_tasks inserted, ?_⟩, ?_⟩
    · rw [Store.append, (Store.insertTask_rest _ _).2.2, List.filter_append]
      exact List.append_nil _
    · exact Store.row?_named here
  · intro ignored
    obtain ⟨kept, -⟩ := Store.insertTask_ignored (Bool.eq_false_iff.mpr ignored)
    rw [Prog.wp_bind, wp_query, kept, free]
    trivial

/-- The row of a stage is added, unless one has its id; the place alone is never taken. -/
theorem ensureNext_adds {v : World} (named : v.db.Named) (task : Task) (key : Text) {stage : Stage}
    (operator : stage ≠ .diagnosis) :
    Prog.wlp (ensureNext host task key stage) (fun _ u =>
      (v.db.row? (stageTaskId task.runId key stage) = none ∧ ∃ input createdAt,
        Grown v.db (pendingRow task.runId key stage (stageTaskId task.runId key stage) input createdAt) u.db) ∨
      (v.db.row? (stageTaskId task.runId key stage)).isSome ∧ u.db = v.db) v := by
  unfold ensureNext
  simp only [Prog.wlp, Prog.wp_bind, wp_query]
  cases v.db.operator? task.runId key with
  | none => trivial
  | some spec =>
    simp only [Prog.wp_bind, wp_insertTask]
    rw [Prog.wp_ite]
    constructor
    · intro inserted
      rw [wp_emit]
      refine .inl ⟨(Store.row?_insertTask inserted).1, _, _, (Store.insertTask_rest _ _).1, insertTask_tasks inserted, ?_⟩
      rw [Store.append, (Store.insertTask_rest _ _).2.2, List.filter_append]
      exact List.append_nil _
    · intro ignored
      obtain ⟨kept, old, member, same⟩ := Store.insertTask_ignored (Bool.eq_false_iff.mpr ignored)
      have id : old.taskId = stageTaskId task.runId key stage := by
        rcases same with same | same
        · exact same
        · have place : old.runId = task.runId ∧ old.operatorKey = key ∧ old.stage = stage := by
            simpa [TaskRow.place, pendingRow] using same
          rw [named.operators old member (place.2.2 ▸ operator), place.1, place.2.1, place.2.2]
      exact .inr ⟨Option.isSome_iff_exists.mpr ⟨old, id ▸ Store.row?_of_mem member⟩, kept⟩

end Added

section Loop
variable {host : Host} {disk : Disk} {start : Store} {run : AdaptationRun} {row r : TaskRow}
  {done rest added : List TaskRow} {repairs : Repairs} {v : World}

/-- The loop between two rows: what was done to the store, and what it says of the rows behind. -/
structure Repairing (host : Host) (disk : Disk) (start : Store) (run : AdaptationRun) (done rest added : List TaskRow)
    (repairs : Repairs) (db : Store) : Prop where
  rows : start.tasksOf disk.ties run.runId = done ++ rest
  named : db.Named
  runs : db.run? = start.run?
  grown : db.tasks = start.tasks ++ added
  claims : db.events.filter isClaim = start.events.filter isClaim
  created : repairs.created = added.map TaskRow.taskId
  repaired : ∀ r ∈ added, Repaired host disk start run r
  settled : ∀ row ∈ done, Stands host disk db run row
  blocked : repairs.blocked = done.flatMap (blockedOf host disk db run)

/-- A row that needs nothing, or is reported. -/
theorem Repairing.leave (repairing : Repairing host disk start run done (row :: rest) added repairs db)
    (stands : Stands host disk db run row) {entries : List Json} (entry : blockedOf host disk db run row = entries) :
    Repairing host disk start run (done ++ [row]) rest added
      { repairs with blocked := repairs.blocked ++ entries } db where
  rows := by rw [repairing.rows, List.append_assoc, List.singleton_append]
  named := repairing.named
  runs := repairing.runs
  grown := repairing.grown
  claims := repairing.claims
  created := repairing.created
  repaired := repairing.repaired
  settled q member := by
    obtain before | here := List.mem_append.mp member
    · exact repairing.settled q before
    · exact List.mem_singleton.mp here ▸ stands
  blocked := by rw [repairing.blocked, List.flatMap_append, List.flatMap_singleton, entry]

/-- A row for which one is added; no row behind was waiting for that one. -/
theorem Repairing.add (repairing : Repairing host disk start run done (row :: rest) added repairs db)
    (grown : Grown db r db') (repaired : Repaired host disk start run r) (named : db'.Named)
    (stands : Stands host disk db' run row) (silent : blockedOf host disk db' run row = [])
    (other : ∀ q ∈ done, ∀ stage, q.stage.next? = some stage →
      stageTaskId run.runId q.operatorKey stage ≠ r.taskId) :
    Repairing host disk start run (done ++ [row]) rest (added ++ [r])
      { repairs with created := repairs.created ++ [r.taskId] } db' where
  rows := by rw [repairing.rows, List.append_assoc, List.singleton_append]
  named := named
  runs := grown.runs.trans repairing.runs
  grown := by rw [grown.tasks, repairing.grown, List.append_assoc]
  claims := grown.claims.trans repairing.claims
  created := by rw [repairing.created, List.map_append, List.map_singleton]
  repaired q member := by
    obtain before | here := List.mem_append.mp member
    · exact repairing.repaired q before
    · exact List.mem_singleton.mp here ▸ repaired
  settled q member := by
    obtain before | here := List.mem_append.mp member
    · exact (repairing.settled q before).grown grown
    · exact List.mem_singleton.mp here ▸ stands
  blocked := by
    rw [repairing.blocked, List.flatMap_append, List.flatMap_singleton, silent, List.append_nil]
    exact List.flatMap_congr fun q member => (blockedOf_grown grown (other q member)).symm

/-- An event that is not a claim changes nothing. -/
theorem Repairing.noted (repairing : Repairing host disk start run done rest added repairs db) (db' : Store)
    (runs : db'.run? = db.run?) (tasks : db'.tasks = db.tasks) (claims : db'.events.filter isClaim = db.events.filter isClaim) :
    Repairing host disk start run done rest added repairs db' := by
  have found : db'.row? = db.row? := funext fun t => by rw [Store.row?, tasks, Store.row?]
  refine ⟨repairing.rows, ⟨?_, ?_⟩, runs.trans repairing.runs, tasks.trans repairing.grown, claims.trans repairing.claims, repairing.created,
    repairing.repaired, fun row member => ?_, ?_⟩
  · rw [tasks]
    exact repairing.named.operators
  · rw [tasks]
    exact repairing.named.diagnoses
  · obtain ⟨failed, succeeded⟩ := repairing.settled row member
    rw [← found] at failed succeeded
    exact ⟨failed, fun status stage next => by
      rw [producedErrors_claims claims]; exact succeeded status stage next⟩
  · rw [repairing.blocked]
    refine List.flatMap_congr fun row _ => ?_
    unfold blockedOf
    rw [producedErrors_claims claims, found]

/-- The rows of a run are visited once. -/
theorem Repairing.apart (repairing : Repairing host disk start run done (row :: rest) added repairs db)
    (member : q ∈ done) : (q.runId = run.runId ∧ row.runId = run.runId) ∧ q.place ≠ row.place := by
  have inside : ∀ x ∈ done ++ row :: rest, x ∈ start.tasks ∧ x.runId = run.runId := fun x member =>
    Store.mem_tasksOf.mp (repairing.rows ▸ member)
  have first := inside q (List.mem_append_left _ member)
  have second := inside row (List.mem_append_right _ List.mem_cons_self)
  refine ⟨⟨first.2, second.2⟩, fun same => ?_⟩
  obtain rfl := List.inj_on_of_nodup_map start.taskPlace first.1 second.1 same
  have distinct : (done ++ q :: rest).Nodup := by
    rw [← repairing.rows]
    exact (List.perm_insertionSort _ _).nodup_iff.mpr
      (List.Nodup.filter _ (List.Nodup.of_map _ start.taskPlace))
  exact (List.nodup_append.mp distinct).2.2 q member q List.mem_cons_self rfl

theorem blockedOf_succeeded (status : row.status = .succeeded) (next : row.stage.next? = some stage) :
    blockedOf host disk db run row =
      if (db.row? (stageTaskId run.runId row.operatorKey stage)).isSome then []
      else
        match producedErrors host disk db run row with
        | .ok [] | .error _ => []
        | .ok errors => [refusedEntry row errors] := by
  unfold blockedOf
  rw [status, next]

theorem blockedOf_unfinished (other : row.status ≠ .succeeded) : blockedOf host disk db run row = [] := by
  unfold blockedOf
  split
  · next status _ => exact absurd status other
  · rfl

theorem blockedOf_last (last : row.stage.next? = none) : blockedOf host disk db run row = [] := by
  unfold blockedOf
  split
  · next _ next => rw [last] at next; cases next
  · rfl

/-- What is said of a succeeded row. -/
theorem Stands.of_succeeded (status : row.status = .succeeded) (next : row.stage.next? = some stage)
    (said : (db.row? (stageTaskId run.runId row.operatorKey stage)).isSome ∨
      ∃ errors, producedErrors host disk db run row = .ok errors ∧ errors ≠ []) : Stands host disk db run row where
  failed _ failed := by rw [status] at failed; cases failed
  succeeded _ other same := by
    rw [next] at same
    obtain rfl := Option.some.inj same
    exact said

/-- The successor of a row that validates again. -/
theorem Repairing.continue (repairing : Repairing host disk start run done (row :: rest) added repairs db)
    (member : row ∈ start.tasks) (own : row.runId = run.runId) (status : row.status = .succeeded)
    (next : row.stage.next? = some stage)
    (free : db.row? (stageTaskId run.runId row.operatorKey stage) = none)
    (producer : producerOf db row.view = .ok worker) (known : worker.truthy = true)
    (valid : validateResult host disk row.view run row.output worker = .ok [])
    (grown : Grown db (pendingRow run.runId row.operatorKey stage
      (stageTaskId run.runId row.operatorKey stage) input createdAt) db') :
    ∃ added', Repairing host disk start run (done ++ [row]) rest added'
      { repairs with created := repairs.created ++ [stageTaskId run.runId row.operatorKey stage] } db' := by
  have operator := (next_operator next).2.1
  have named : db'.Named := insertTask_named repairing.named (fun _ => rfl)
    (fun diagnosis => absurd diagnosis operator) grown.tasks
  have there : (db'.row? (stageTaskId run.runId row.operatorKey stage)).isSome :=
    Option.isSome_iff_exists.mpr ⟨_, grown.found free⟩
  have silent : blockedOf host disk db' run row = [] := by
    rw [blockedOf_succeeded status next, if_pos there]
  refine ⟨_, repairing.add grown ?_ named (.of_succeeded status next (.inl there)) silent
    fun q behind other follows same => ?_⟩
  · rw [producerOf_claims repairing.claims] at producer
    exact .successor row worker member own status next producer known valid rfl rfl rfl
  · -- one place has one row that leads to it
    obtain ⟨⟨first, second⟩, places⟩ := repairing.apart behind
    obtain ⟨key, rfl⟩ := stageTaskId_own same
    have stages := next_prev follows
    rw [next_prev next] at stages
    exact places (by rw [TaskRow.place, TaskRow.place, first, second, key, Option.some.inj stages])

/-- The diagnosis of a failed row. -/
theorem Repairing.diagnose (repairing : Repairing host disk start run done (row :: rest) added repairs db)
    (member : row ∈ start.tasks) (own : row.runId = run.runId) (status : row.status = .failed)
    (operator : row.stage ≠ .diagnosis) (free : db.row? (diagnosisId row.taskId) = none)
    (grown : Grown db (pendingRow run.runId (diagnosisKey row.taskId) .diagnosis (diagnosisId row.taskId)
      (diagnosisInput row.view report) createdAt) db') :
    ∃ added', Repairing host disk start run (done ++ [row]) rest added'
      { repairs with created := repairs.created ++ [diagnosisId row.taskId] } db' := by
  have named : db'.Named := insertTask_named repairing.named (fun operator => absurd rfl operator)
    (fun _ => ⟨_, rfl, rfl⟩) grown.tasks
  have stands : Stands host disk db' run row := {
    failed _ _ := ⟨_, grown.found free, rfl⟩
    succeeded succeeded := by rw [status] at succeeded; cases succeeded }
  have silent : blockedOf host disk db' run row = [] :=
    blockedOf_unfinished (by rw [status]; decide)
  refine ⟨_, repairing.add grown ?_ named stands silent fun q _ other follows same => ?_⟩
  · exact .diagnosis row member own status operator rfl rfl rfl rfl
  · exact diagnosisId_ne_stageTaskId (next_operator follows).2.1 same.symm

theorem repairSuccessor_repairs
    (repairing : Repairing host disk start run done (row :: rest) added repairs v.db)
    (member : row ∈ start.tasks) (own : row.runId = run.runId)
    (status : row.status = .succeeded) (next : row.stage.next? = some stage) :
    Prog.wlp (repairSuccessor host disk run row stage repairs) (fun repairs' u =>
      ∃ added', Repairing host disk start run (done ++ [row]) rest added' repairs' u.db) v := by
  unfold repairSuccessor
  simp only [Prog.wlp, Prog.wp_bind, wp_query]
  rw [Prog.wp_ite]
  constructor
  · intro there
    have silent : blockedOf host disk v.db run row = [] := by
      rw [blockedOf_succeeded status next, if_pos there]
    have left := repairing.leave (.of_succeeded status next (.inl there)) silent
    rw [List.append_nil] at left
    exact ⟨added, left⟩
  · intro missing
    have free : v.db.row? (stageTaskId run.runId row.operatorKey stage) = none :=
      Option.not_isSome_iff_eq_none.mp missing
    simp only [Prog.wp_bind, wp_query, id_eq]
    refine wlp_lift fun worker producer => wlp_lift fun errors checked => ?_
    rw [Prog.wp_ite]
    constructor
    · intro accepted
      obtain rfl := List.isEmpty_iff.mp accepted
      have known : worker.truthy = true := by
        by_contra unknown
        rw [if_neg unknown] at checked
        cases checked
      rw [if_pos known] at checked
      rw [Prog.wp_bind]
      have here : row.view.runId = run.runId := own
      refine (ensureNext_adds repairing.named row.view row.operatorKey (next_operator next).2.1).mono ?_
        fun _ _ _ h => h
      rintro - u - (⟨-, input, createdAt, grown⟩ | ⟨there, -⟩)
      · rw [here] at grown
        exact repairing.continue member own status next free producer known checked grown
      · rw [here, free] at there
        cases there
    · intro refused
      have produced : producedErrors host disk v.db run row = .ok errors := by
        rw [producedErrors, producer]
        exact checked
      have left : errors ≠ [] := fun none => refused (List.isEmpty_iff.mpr none)
      refine ⟨added, repairing.leave (.of_succeeded status next (.inr ⟨errors, produced, left⟩)) ?_⟩
      rw [blockedOf_succeeded status next, if_neg missing, produced]
      cases errors with
      | nil => exact absurd rfl left
      | cons _ _ => rfl

theorem reconcileRow_repairs
    (repairing : Repairing host disk start run done (row :: rest) added repairs v.db) :
    Prog.wlp (reconcileRow host disk run repairs row) (fun repairs' u =>
      ∃ added', Repairing host disk start run (done ++ [row]) rest added' repairs' u.db) v := by
  have inside : row ∈ start.tasksOf disk.ties run.runId := by
    rw [repairing.rows]
    exact List.mem_append_right _ List.mem_cons_self
  obtain ⟨member, own⟩ := Store.mem_tasksOf.mp inside
  have leave (stands : Stands host disk v.db run row) (silent : blockedOf host disk v.db run row = []) :
      ∃ added', Repairing host disk start run (done ++ [row]) rest added' repairs v.db := by
    have left := repairing.leave stands silent
    rw [List.append_nil] at left
    exact ⟨added, left⟩
  unfold reconcileRow
  split
  · next stage =>
    have last : row.stage.next? = none := by rw [stage]; rfl
    exact leave ⟨fun operator => absurd stage operator, fun _ _ next => (by rw [last] at next; cases next)⟩
      (blockedOf_last last)
  · next status operator =>
    have unfinished : row.status ≠ .succeeded := by rw [status]; decide
    simp only [Prog.wlp, Prog.wp_bind, wp_query]
    rw [Prog.wp_ite]
    constructor
    · intro known
      obtain ⟨d, here, diagnosis⟩ := (Option.any_eq_true _ _).mp known
      exact leave ⟨fun _ _ => ⟨d, here, by simpa using diagnosis⟩, fun succeeded => absurd succeeded unfinished⟩
        (blockedOf_unfinished unfinished)
    · intro unknown
      -- whatever stood under that id would be a diagnosis
      have free : v.db.row? (diagnosisId row.taskId) = none := by
        refine Option.eq_none_iff_forall_ne_some.mpr fun d here => ?_
        have other : d.stage ≠ .diagnosis := fun diagnosis => unknown (by rw [here]; simp [diagnosis])
        have id := repairing.named.operators d (Store.row?_mem here) other
        rw [Store.row?_named here] at id
        exact diagnosisId_ne_stageTaskId other id
      simp only [Prog.wp_bind, wp_now]
      refine wlp_lift fun report _ => wlp_lift fun dumped _ => ?_
      refine (ensureDiagnosis_adds (v := ⟨v.db, v.readings + 1, v.tokens⟩) row.view dumped free).mono ?_ fun _ _ _ h => h
      rintro shown u - ⟨createdAt, grown, id⟩
      have here : row.view.runId = run.runId := own
      rw [here] at grown
      rw [Prog.wp_pure, id]
      exact repairing.diagnose member own status operator free grown
  · next status _ =>
    split
    · next next follows => exact repairSuccessor_repairs repairing member own status follows
    · next last =>
      refine leave ⟨fun _ failed => (by rw [status] at failed; cases failed), fun _ _ next => ?_⟩ (blockedOf_last last)
      rw [last] at next
      cases next
  · next unfailed unfinished =>
    exact leave ⟨fun _ failed => (unfailed failed).elim, fun succeeded => (unfinished succeeded).elim⟩
      (blockedOf_unfinished unfinished)

end Loop

/-- A torch row that failed before there were diagnoses. -/
def legacyRow : TaskRow where
  taskId := stageTaskId "run" "key" .torch
  runId := "run"
  operatorKey := "key"
  stage := .torch
  status := .failed
  attempt := 1
  input := []
  output := []
  lease := none
  createdAt := 0

def legacy : World where
  db := {
    runs := [⟨"run", "model", "1", "1", "xpu", "DISCOVERED", [], []⟩]
    operators := []
    tasks := [legacyRow]
    events := []
    runKey := List.nodup_singleton _
    operatorKey := Store.empty.operatorKey
    taskKey := List.nodup_singleton _
    taskPlace := List.nodup_singleton _ }
  readings := 0
  tokens := 0

theorem legacy_named : legacy.db.Named := by
  refine ⟨fun row member _ => ?_, fun row member diagnosis => ?_⟩
  · obtain rfl := List.mem_singleton.mp member
    rfl
  · obtain rfl := List.mem_singleton.mp member
    cases diagnosis

theorem legacy_ran : (reconcile .sample .sample "run" legacy).1 = .ok ⟨[diagnosisId legacyRow.taskId], []⟩ := by
  rfl

-- otherwise every mention of a call on it would be run
attribute [irreducible] legacy

section Calls
variable {host : Host} {disk : Disk} {run : AdaptationRun} {w : World}

theorem reconcile_reconciles (host : Host) (disk : Disk) (runId : Text) (w : World) (named : w.db.Named) :
    Prog.wlp (reconcile host disk runId) (fun repairs u => ∃ run added, w.db.run? runId = some run ∧
      Reconciled host disk w.db run u.db repairs added ∧ u.db.Named) w := by
  unfold reconcile
  rw [Prog.wlp, atomic, Prog.wp_transact]
  simp only [Prog.wp_bind]
  refine wlp_requireRun fun run here => ?_
  obtain rfl := Store.run?_named here
  rw [wp_query]
  refine Prog.wp_foldlM (fun rest repairs u => ∃ done added,
      Repairing host disk w.db run done rest added repairs u.db)
    (fun row rest repairs v repairing => ?_) ⟨[], [], rfl, named, rfl, (List.append_nil _).symm, rfl, rfl, ?_, ?_, rfl⟩
    fun repairs v repairing => ?_
  · obtain ⟨done, added, repairing⟩ := repairing
    exact (reconcileRow_repairs repairing).mono (fun _ _ _ next => ⟨_, next⟩) fun _ _ _ h => h
  · intro r none
    cases none
  · intro row none
    cases none
  · obtain ⟨done, added, repairing⟩ := repairing
    have rows := repairing.rows
    rw [List.append_nil] at rows
    rw [wp_emit, Prog.wp_pure]
    -- the last event is not a claim
    have last := repairing.noted (v.db.append ⟨run.runId, .runReconciled, none,
        [("created", .arr (repairs.created.map Json.str)), ("blocked", .arr repairs.blocked)],
        host.clock v.readings⟩) rfl rfl (by rw [Store.append, List.filter_append]; exact List.append_nil _)
    exact ⟨run, added, here, ⟨last.runs, last.grown, last.created, last.repaired, rows ▸ last.settled, rows ▸ last.blocked⟩,
      last.named⟩

/-- A row about which nothing is left to repair is passed over, or reported. -/
theorem reconcileRow_stands {row : TaskRow} (stands : Stands host disk w.db run row)
    (repairs : Repairs) : Prog.wp (reconcileRow host disk run repairs row)
      (fun repairs' u => u = w ∧
        repairs' = { repairs with blocked := repairs.blocked ++ blockedOf host disk w.db run row })
      (fun _ _ => False) w := by
  unfold reconcileRow
  split
  · next stage =>
    have last : row.stage.next? = none := by rw [stage]; rfl
    rw [Prog.wp_pure, blockedOf_last last, List.append_nil]
    exact ⟨rfl, rfl⟩
  · next status operator =>
    obtain ⟨d, here, diagnosis⟩ := stands.failed operator status
    rw [Prog.wp_bind, wp_query, here, if_pos (by simp [diagnosis]), Prog.wp_pure,
      blockedOf_unfinished (by rw [status]; decide), List.append_nil]
    exact ⟨rfl, rfl⟩
  · next status _ =>
    split
    · next stage next =>
      unfold repairSuccessor
      simp only [Prog.wp_bind, wp_query]
      rw [Prog.wp_ite, blockedOf_succeeded status next]
      constructor
      · intro there
        rw [Prog.wp_pure, if_pos there, List.append_nil]
        exact ⟨rfl, rfl⟩
      · intro missing
        obtain there | ⟨errors, produced, refused⟩ := stands.succeeded status stage next
        · exact absurd there missing
        · have earned := produced
          rw [producedErrors, bind_ok] at earned
          obtain ⟨worker, producer, checked⟩ := earned
          simp only [Prog.wp_bind, wp_query, id_eq, producer, Prog.wp_lift, Except.ok.injEq, reduceCtorEq,
            false_implies, implies_true, and_true, forall_eq', checked]
          rw [if_neg (fun none => refused (List.isEmpty_iff.mp none)), Prog.wp_pure, if_neg missing, produced]
          cases errors with
          | nil => exact absurd rfl refused
          | cons _ _ => exact ⟨rfl, rfl⟩
    · next last =>
      rw [Prog.wp_pure, blockedOf_last last, List.append_nil]
      exact ⟨rfl, rfl⟩
  · next unfailed unfinished =>
    rw [Prog.wp_pure, blockedOf_unfinished unfinished, List.append_nil]
    exact ⟨rfl, rfl⟩

/-- Where nothing is left to repair, a call reports the rows that stay blocked and creates nothing. -/
theorem reconcile_stands (known : w.db.run? run.runId = some run)
    (settled : ∀ row ∈ w.db.tasksOf disk.ties run.runId, Stands host disk w.db run row) :
    Prog.wp (reconcile host disk run.runId) (fun repairs u =>
      repairs = ⟨[], (w.db.tasksOf disk.ties run.runId).flatMap (blockedOf host disk w.db run)⟩ ∧
        u.db.tasks = w.db.tasks) (fun _ _ => False) w := by
  unfold reconcile
  rw [atomic, Prog.wp_transact]
  simp only [requireRun, Prog.wp_bind, wp_query, known, Prog.wp_pure]
  refine Prog.wp_foldlM (fun rest repairs u => u = w ∧ ∃ done,
      w.db.tasksOf disk.ties run.runId = done ++ rest ∧
        repairs = ⟨[], done.flatMap (blockedOf host disk w.db run)⟩)
    (fun row rest repairs v visited => ?_) ⟨rfl, [], rfl, rfl⟩ fun repairs v visited => ?_
  · obtain ⟨rfl, done, rows, rfl⟩ := visited
    have inside : row ∈ v.db.tasksOf disk.ties run.runId := by
      rw [rows]
      exact List.mem_append_right _ List.mem_cons_self
    refine (reconcileRow_stands (settled row inside) _).mono ?_ fun _ _ _ impossible => impossible
    rintro - u - ⟨rfl, rfl⟩
    refine ⟨rfl, done ++ [row], by rw [rows, List.append_assoc, List.singleton_append], ?_⟩
    rw [List.flatMap_append, List.flatMap_singleton]
  · obtain ⟨rfl, done, rows, rfl⟩ := visited
    rw [List.append_nil] at rows
    rw [wp_emit, rows]
    exact ⟨rfl, rfl⟩

theorem Repaired.waiting {db : Store} {r : TaskRow} (repaired : Repaired host disk db run r) : r.status = .pending := by
  cases repaired with
  | successor _ _ _ _ _ _ _ _ _ _ _ waiting => exact waiting
  | diagnosis _ _ _ _ _ _ _ waiting _ => exact waiting

theorem flatMap_filter {rows : List α} {f : α → List β} {p : α → Bool} (silent : ∀ r ∈ rows, p r = false → f r = []) :
    (rows.filter p).flatMap f = rows.flatMap f := by
  induction rows with
  | nil => rfl
  | cons r rest ih =>
    have ih := ih fun q member => silent q (List.mem_cons_of_mem _ member)
    cases kept : p r with
    | true => rw [List.filter_cons_of_pos kept, List.flatMap_cons, List.flatMap_cons, ih]
    | false =>
      rw [List.filter_cons_of_neg (by simp [kept]), List.flatMap_cons, silent r List.mem_cons_self kept,
        List.nil_append, ih]

/-- The rows a call added wait, and so have nothing to report. -/
theorem Reconciled.blocked_after {db after : Store} {repairs : Repairs} {added : List TaskRow}
    (reconciled : Reconciled host disk db run after repairs added) :
    repairs.blocked = (after.tasksOf disk.ties run.runId).flatMap (blockedOf host disk after run) := by
  have known : ∀ r ∈ db.tasks, (db.row? r.taskId).isSome = true := fun r member => by
    rw [Store.row?_of_mem member]
    rfl
  have fresh : ∀ r ∈ added, (db.row? r.taskId).isSome = false := fun r member => by
    rw [Option.isSome_eq_false_iff, Option.isNone_iff_eq_none]
    refine Option.eq_none_iff_forall_ne_some.mpr fun old here => ?_
    have distinct := after.taskKey
    rw [reconciled.tasks, List.map_append, List.nodup_append] at distinct
    exact distinct.2.2 _ (List.mem_map_of_mem (Store.row?_mem here)) _ (List.mem_map_of_mem member)
      (Store.row?_named here)
  rw [reconciled.blocked, ← tasksOf_append reconciled.tasks known fresh]
  refine flatMap_filter fun r member unknown => blockedOf_unfinished fun succeeded => ?_
  obtain ⟨inside, -⟩ := Store.mem_tasksOf.mp member
  rw [reconciled.tasks, List.mem_append] at inside
  obtain old | new := inside
  · rw [known r old] at unknown
    cases unknown
  · rw [(reconciled.repaired r new).waiting] at succeeded
    cases succeeded

theorem Reconciled.stands_after {db after : Store} {repairs : Repairs} {added : List TaskRow}
    (reconciled : Reconciled host disk db run after repairs added) :
    ∀ row ∈ after.tasksOf disk.ties run.runId, Stands host disk after run row := by
  intro row member
  obtain ⟨inside, own⟩ := Store.mem_tasksOf.mp member
  rw [reconciled.tasks, List.mem_append] at inside
  obtain old | new := inside
  · exact reconciled.settled row (Store.mem_tasksOf.mpr ⟨old, own⟩)
  · have waiting := (reconciled.repaired row new).waiting
    exact ⟨fun _ failed => (by rw [waiting] at failed; cases failed),
      fun succeeded => (by rw [waiting] at succeeded; cases succeeded)⟩

/-- Over any store whose rows are named as they are inserted, legacy rows included: `reconcile`
keeps every row, adds only what was missing and could be earned, and reports the rest. A second
call, on the same files, creates nothing and reports the same. -/
theorem reconcile_repairs (host : Host) (disk : Disk) (runId : Text) (w : World) (named : w.db.Named) :
    Prog.wlp (reconcile host disk runId) (fun repairs u =>
      (∃ run added, w.db.run? runId = some run ∧ Reconciled host disk w.db run u.db repairs added) ∧
        Prog.wp (reconcile host disk runId)
          (fun again v => again = ⟨[], repairs.blocked⟩ ∧ v.db.tasks = u.db.tasks) (fun _ _ => False) u) w := by
  refine Prog.wp.mono (reconcile_reconciles host disk runId w named) ?_ fun _ _ _ h => h
  rintro repairs u - ⟨run, added, known, reconciled, -⟩
  refine ⟨⟨run, added, known, reconciled⟩, ?_⟩
  obtain rfl := Store.run?_named known
  rw [← reconciled.runs] at known
  rw [reconciled.blocked_after]
  exact reconcile_stands known reconciled.stands_after

theorem reconcile_repairs_legacy :
    (reconcile .sample .sample "run" legacy).1 = .ok ⟨[diagnosisId legacyRow.taskId], []⟩ ∧
      ∃ run added, legacy.db.run? "run" = some run ∧
        Reconciled .sample .sample legacy.db run (reconcile .sample .sample "run" legacy).2.1.db
          ⟨[diagnosisId legacyRow.taskId], []⟩ added := by
  obtain ⟨repaired, -⟩ := (reconcile_repairs .sample .sample "run" legacy legacy_named).returned legacy_ran
  exact ⟨legacy_ran, repaired⟩

end Calls

end InferForge

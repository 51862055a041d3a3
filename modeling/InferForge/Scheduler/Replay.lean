import InferForge.Scheduler.History

/-! The event log agrees with the task table: a task's attempt and status can be read off
its events alone. -/
namespace InferForge
open Py Effect Sched Transition Lifecycle

/-- The claims of a task, in insertion order. -/
def Store.claimsOf (db : Store) (t : Text) : List TaskEvent :=
  db.events.filter fun e => e.eventType = .taskClaimed && e.taskId = some t

/-- Whether an event decides the status of a task: an event of its own, or a retry that
names it as its source. -/
def TaskEvent.decides (t : Text) (e : TaskEvent) : Bool :=
  match e.eventType with
  | .taskCreated | .diagnosisTaskCreated | .taskClaimed | .taskSucceeded | .taskFailed
  | .diagnosisTaskReopened => e.taskId = some t
  | .diagnosisApplied =>
      Json.eqOpt (e.payload.get? "source_task_id") (.str t) &&
        Json.eqOpt (e.payload.get? "next_action") (.str "RETRY")
  | _ => false

/-- The lifecycle events of a task, in insertion order. -/
def Store.lifeOf (db : Store) (t : Text) : List TaskEvent := db.events.filter (TaskEvent.decides t)

section Reading
variable {db : Store} {t : Text}

theorem decides_iff (e : TaskEvent) : e.decides t = (mark? t e.note).isSome := by
  simp only [TaskEvent.decides, mark?, TaskEvent.note]
  rw [Bool.eq_iff_iff]
  by_cases own : e.taskId = some t <;> cases e.eventType <;> simp [own]

/-- Replay reads nothing but lifecycle events. -/
theorem marks_log : marks t db.log = db.events.filterMap fun e => mark? t e.note := by
  have read (n : Note) : (if n.eventType.lifecycle then mark? t n else none) = mark? t n := by
    cases h : n.eventType <;> simp [EventType.lifecycle, mark?, h]
  simp only [marks, Store.log, List.filterMap_filter, read, List.filterMap_map, Function.comp_def]

/-- A claim mark comes from a claim event. -/
theorem mark?_claimed {n : Note} : mark? t n = some (.claimed worker k) ↔
    n.eventType = .taskClaimed ∧ n.taskId = some t ∧ workerField n.payload = worker ∧
      attemptField n.payload "attempt" = k := by
  unfold mark?
  split <;> simp_all

theorem mark?_retried {n : Note} (mark : mark? t n = some (.retried k)) :
    n.eventType = .diagnosisApplied := by
  unfold mark? at mark
  split at mark <;> simp_all

theorem claimNote_attempt (worker : Text) (row : TaskRow) :
    Dict.getD (claimNote worker row).payload "attempt" .null = .int ↑(row.attempt + 1) := rfl

/-- The claim marks of a task are its claim events, with the attempts these carry. -/
theorem claims_log (events : List TaskEvent)
    (filed : ∀ e ∈ events, e.eventType = .taskClaimed → ∃ worker row, e.note = claimNote worker row) :
    (events.filter fun e => e.eventType = .taskClaimed && e.taskId = some t).map
        (fun e => Dict.getD e.payload "attempt" .null) =
      (claims (events.filterMap fun e => mark? t e.note)).map fun k : Nat => Json.int k := by
  induction events with
  | nil => rfl
  | cons e rest ih =>
    have ih := ih fun e member => filed e (List.mem_cons_of_mem _ member)
    by_cases claim : e.eventType = .taskClaimed ∧ e.taskId = some t
    · obtain ⟨worker, row, same⟩ := filed e List.mem_cons_self claim.1
      have attempt : Dict.getD e.payload "attempt" .null = .int ↑(row.attempt + 1) :=
        (congrArg (fun n => Dict.getD n.payload "attempt" .null) same).trans
          (claimNote_attempt worker row)
      have mark : mark? t e.note = some (.claimed _ (row.attempt + 1)) :=
        mark?_claimed.mpr ⟨claim.1, claim.2, rfl, by simp [attemptField, TaskEvent.note, attempt]⟩
      rw [List.filter_cons_of_pos (by simp [claim]), List.filterMap_cons_some (f := fun e : TaskEvent => mark? t e.note) mark, List.map_cons,
        ih, attempt]
      rfl
    · rw [List.filter_cons_of_neg (by simpa using claim), ih]
      cases mark : mark? t e.note with
      | none => rw [List.filterMap_cons_none (f := fun e : TaskEvent => mark? t e.note) mark]
      | some m =>
        rw [List.filterMap_cons_some (f := fun e : TaskEvent => mark? t e.note) mark]
        cases m with
        | claimed worker k => exact absurd ⟨(mark?_claimed.mp mark).1, (mark?_claimed.mp mark).2.1⟩ claim
        | created | succeeded | failed | reopened | retried => rfl

/-- The last mark is the mark of the last deciding event. -/
theorem last_mark : (marks t db.log).getLast? =
    (db.lifeOf t).getLast?.bind fun e => mark? t e.note := by
  rw [marks_log, Store.lifeOf, List.getLast?_filterMap, List.getLast?_filter]
  induction db.events.reverse with
  | nil => rfl
  | cons e rest ih =>
    rw [List.findSome?_cons, List.find?_cons, decides_iff]
    cases mark : mark? t e.note with
    | none => simpa using ih
    | some m => simp [mark]

/-- The kind of a mark is the kind of its event. -/
theorem mark?_kind {n : Note} (mark : mark? t n = some m) :
    (m = .succeeded ↔ n.eventType = .taskSucceeded) ∧ (m = .failed ↔ n.eventType = .taskFailed) ∧
      (∀ worker k, m = .claimed worker k → n.eventType = .taskClaimed) := by
  unfold mark? at mark
  split at mark <;> simp_all <;> obtain ⟨_, rfl⟩ := mark <;> simp

end Reading

section Agreement
variable {w : World}

theorem mem_log {db : Store} {e : TaskEvent} (member : e ∈ db.events)
    (counts : e.eventType.lifecycle = true) : e.note ∈ db.log :=
  List.mem_filter.mpr ⟨List.mem_map_of_mem member, counts⟩

theorem Sound.filed_event (sound : Sound w.ledger) (member : e ∈ w.db.events)
    (claim : e.eventType = .taskClaimed) : ∃ worker row, e.note = claimNote worker row :=
  (sound.filed e.note (mem_log member (by rw [claim]; rfl))).claim claim

/-- The claims of a task carry the attempts `1, 2, …` up to its own. -/
theorem Sound.claims_numbered (sound : Sound w.ledger) (here : w.db.row? t = some r) :
    (w.db.claimsOf t).map (fun e => Dict.getD e.payload "attempt" .null) =
      (List.range' 1 r.attempt).map fun k : Nat => Json.int k := by
  have track := sound.tracked t r here
  rw [← track.claims_eq]
  change _ = (claims (marks t w.db.log)).map _
  rw [marks_log]
  exact claims_log _ fun e member claim => sound.filed_event member claim

theorem Sound.claims_counted (sound : Sound w.ledger) (here : w.db.row? t = some r) :
    (w.db.claimsOf t).length = r.attempt := by
  simpa using congrArg List.length (sound.claims_numbered here)

/-- The claim of the current attempt of a running task names the worker of its lease. -/
theorem Sound.claim_of_lease (sound : Sound w.ledger) (here : w.db.row? t = some r)
    (held : r.lease = some lease) : ∃ e ∈ w.db.claimsOf t,
      e.payload.get? "worker_id" = some (.str lease.worker) ∧
      e.payload.get? "attempt" = some (.int r.attempt) := by
  have running : r.status = .running := (sound.leased here).mp (by simp [held])
  have track := sound.tracked t r here
  rw [running] at track
  obtain ⟨worker, holder, last⟩ := track.last_running
  have marked := List.mem_of_getLast? last
  change _ ∈ marks t w.db.log at marked
  rw [marks_log] at marked
  obtain ⟨e, member, mark⟩ := List.mem_filterMap.mp marked
  obtain ⟨claim, own, by', attempt⟩ := mark?_claimed.mp mark
  obtain ⟨worker', row, same⟩ := sound.filed_event member claim
  have payload : e.payload = (claimNote worker' row).payload := congrArg Note.payload same
  have worker_eq : worker' = lease.worker := by
    have : worker' = worker := by rw [← by', same]; rfl
    rw [this]
    simpa [held] using holder.symm
  have attempt_eq : row.attempt + 1 = r.attempt := by rw [← attempt, same]; rfl
  refine ⟨e, List.mem_filter.mpr ⟨member, by simpa using ⟨claim, own⟩⟩, ?_, ?_⟩
  · rw [payload, worker_eq]; rfl
  · rw [payload, ← attempt_eq]; rfl

end Agreement

/-- Every task agrees with its events: its attempt counts its claims, which are numbered in
order, and its status is what its last lifecycle event leaves it with. -/
theorem log_agrees (host : Host) (calls : List (Disk × Call)) (r : TaskRow)
    (stored : r ∈ (history host calls).db.tasks) :
    r.attempt = ((history host calls).db.claimsOf r.taskId).length ∧
    ((history host calls).db.claimsOf r.taskId).map (fun e => Dict.getD e.payload "attempt" .null) =
      (List.range' 1 r.attempt).map (fun k : Nat => Json.int k) ∧
    ∃ e, ((history host calls).db.lifeOf r.taskId).getLast? = some e ∧
      (r.status = .succeeded ↔ e.eventType = .taskSucceeded) ∧
      (r.status = .failed ↔ e.eventType = .taskFailed) ∧
      (r.status = .pending ∨ r.status = .running ↔
        e.eventType ≠ .taskSucceeded ∧ e.eventType ≠ .taskFailed) ∧
      (r.status = .running → e.eventType = .taskClaimed) := by
  have sound : Sound (history host calls).ledger := history_sound calls
  have here := Store.row?_of_mem stored
  have track : Track (marks r.taskId (history host calls).db.log) _ _ _ :=
    sound.tracked r.taskId r here
  refine ⟨(sound.claims_counted here).symm, sound.claims_numbered here, ?_⟩
  obtain ⟨m, last⟩ : ∃ m, (marks r.taskId (history host calls).db.log).getLast? = some m :=
    ⟨_, List.getLast?_eq_some_getLast track.nonempty⟩
  have shown := last_mark.symm.trans last
  obtain ⟨e, found, mark⟩ := Option.bind_eq_some_iff.mp shown
  obtain ⟨success, failure, claim⟩ := mark?_kind mark
  have succeeded : r.status = .succeeded ↔ e.eventType = .taskSucceeded := by
    rw [track.last_succeeded, last, Option.some.injEq]
    exact success
  have failed : r.status = .failed ↔ e.eventType = .taskFailed := by
    rw [track.last_failed, last, Option.some.injEq]
    exact failure
  refine ⟨e, found, succeeded, failed, ?_, fun running => ?_⟩
  · rw [Ne, Ne, ← succeeded, ← failed]
    cases r.status <;> simp
  · rw [running] at track
    obtain ⟨worker, _, marked⟩ := track.last_running
    exact claim worker r.attempt (Option.some.inj (last.symm.trans marked))

theorem log_agrees_sample : ∃ r ∈ (history .sample sampleCalls).db.tasks,
    r.attempt = ((history .sample sampleCalls).db.claimsOf r.taskId).length :=
  have known : 0 < (history .sample sampleCalls).db.tasks.length := by decide +kernel
  ⟨_, List.getElem_mem known, (log_agrees .sample sampleCalls _ (List.getElem_mem known)).1⟩

end InferForge

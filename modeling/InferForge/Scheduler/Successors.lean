import InferForge.Scheduler.Reconcile

/-! In every state the scheduler itself can reach, a succeeded stage has its successor, so
`reconcile` has nothing to repair and nothing to report. -/
namespace InferForge
open Py Effect Sched Transition Lifecycle ResultValidation

/-- Every succeeded row has the row of its next stage. -/
def Carried (row? : Text → Option TaskRow) : Prop :=
  ∀ t r, row? t = some r → r.status = .succeeded → ∀ stage, r.stage.next? = some stage →
    (row? (stageTaskId r.runId r.operatorKey stage)).isSome

section Names
variable {w : World} {db db' : Store}

theorem Sound.rowsNamed (sound : Sound w.ledger) : w.db.Named where
  operators row member operator := ((sound.shaped _ row (Store.row?_of_mem member)).operator operator).1
  diagnoses row member diagnosis := by
    obtain ⟨s, -, diagnoses⟩ := (sound.shaped _ row (Store.row?_of_mem member)).diagnosis diagnosis
    exact ⟨s.taskId, diagnoses.named, diagnoses.keyed⟩

theorem Store.Named.updateTask (named : db.Named) (taskId : Text) (change : TaskRow → TaskRow)
    (keeps : ∀ r, SameKey r (change r)) : (db.updateTask taskId change keeps).Named := by
  have same : ∀ r ∈ (db.updateTask taskId change keeps).tasks, ∃ old ∈ db.tasks, SameKey old r := fun r member => by
    obtain ⟨old, inside, rfl⟩ := List.mem_map.mp member
    refine ⟨old, inside, ?_⟩
    split
    · exact keeps old
    · exact ⟨rfl, rfl, rfl, rfl⟩
  refine ⟨fun r member operator => ?_, fun r member diagnosis => ?_⟩
  · obtain ⟨old, inside, key⟩ := same r member
    rw [key.taskId, key.runId, key.operatorKey, key.stage]
    exact named.operators old inside (key.stage ▸ operator)
  · obtain ⟨old, inside, key⟩ := same r member
    rw [key.taskId, key.operatorKey]
    exact named.diagnoses old inside (key.stage ▸ diagnosis)

end Names

section Moves
variable {host : Host} {disk : Disk} {w v : World} {l l' : Ledger}

/-- Rows never go, and only `succeed` makes a row succeed. -/
theorem Move.carries (moved : Move host (Approves host disk) l a l') (sound : Sound l)
    (other : ∀ t, a ≠ .succeed t) (carried : Carried l.row) : Carried l'.row := by
  obtain ⟨notes, rows⟩ := moved.rows sound
  intro t r here succeeded stage next
  cases old : l.row t with
  | none =>
    have waiting := (rows.new t r old here).1.1
    rw [succeeded] at waiting
    cases waiting
  | some q =>
    obtain ⟨r', found, change⟩ := rows.old t q old
    obtain rfl := Ledger.same_row found here
    generalize marks t notes = ms at change
    have same := change.sameKey
    have done : q.status = .succeeded := by
      cases change with
      | same | renew => exact succeeded
      | succeed => exact absurd rfl (other _)
      | _ => cases succeeded
    obtain ⟨p, there⟩ := Option.isSome_iff_exists.mp (carried t q old done stage (same.stage ▸ next))
    obtain ⟨p', kept, -⟩ := rows.old _ p there
    rw [same.runId, same.operatorKey, kept]
    rfl

theorem Steps.carries {allowed : Action → Prop} (steps : Steps host disk allowed l l') (sound : Sound l)
    (other : ∀ t, ¬ allowed (.succeed t)) (carried : Carried l.row) : Carried l'.row := by
  obtain ⟨as, path, labels⟩ := steps
  refine Path.preserve (I := Sound) (P := fun l => Carried l.row) allowed (fun _ _ _ moved => ?_)
    (fun _ a _ moved permitted sound => ?_) path labels sound carried
  · exact moved.keeps
  · exact moved.carries sound fun t same => other t (same ▸ permitted)

/-- Only this row may still lack its successor. -/
def CarriedBut (finished : TaskRow) (row? : Text → Option TaskRow) : Prop :=
  ∀ t r, row? t = some r → r.status = .succeeded → ∀ stage, r.stage.next? = some stage →
    r = finished ∨ (row? (stageTaskId r.runId r.operatorKey stage)).isSome

theorem CarriedBut.closed {finished : TaskRow} {row? : Text → Option TaskRow} (but : CarriedBut finished row?)
    (own : ∀ stage, finished.stage.next? = some stage →
      (row? (stageTaskId finished.runId finished.operatorKey stage)).isSome) : Carried row? := by
  intro t r here succeeded stage next
  obtain rfl | known := but t r here succeeded stage next
  · exact own stage next
  · exact known

theorem finished_carriedBut {db : Store} {row : TaskRow} (here : db.row? row.taskId = some row) (carried : Carried db.row?)
    (output : Dict) (keeps : ∀ r, SameKey r (TaskRow.finished .succeeded output r)) :
    CarriedBut (TaskRow.finished .succeeded output row)
      (db.updateTask row.taskId (TaskRow.finished .succeeded output) keeps).row? := by
  have found (t : Text) := db.row?_updateTasks (fun r : TaskRow => r.taskId = row.taskId)
    (TaskRow.finished .succeeded output) keeps t
  intro t r there succeeded stage next
  rw [Store.updateTask, found] at there
  obtain ⟨q, old, rfl⟩ := Option.map_eq_some_iff.mp there
  obtain rfl := Store.row?_named old
  by_cases same : q.taskId = row.taskId
  · rw [same, here] at old
    obtain rfl := Option.some.inj old
    exact .inl (by simp)
  · simp only [same, decide_false, Bool.false_eq_true, if_false] at succeeded next ⊢
    rw [Store.updateTask, found, Option.isSome_map]
    exact .inr (carried q.taskId q old succeeded stage next)

theorem CarriedBut.grown {db db' : Store} {finished r : TaskRow} (but : CarriedBut finished db.row?)
    (grown : Grown db r db') (free : db.row? r.taskId = none) (waiting : r.status ≠ .succeeded) :
    CarriedBut finished db'.row? := by
  intro t q here succeeded stage next
  by_cases new : t = r.taskId
  · rw [new, grown.found free] at here
    obtain rfl := Option.some.inj here
    exact absurd succeeded waiting
  · rw [grown.row? new] at here
    obtain same | known := but t q here succeeded stage next
    · exact .inl same
    · obtain ⟨p, there⟩ := Option.isSome_iff_exists.mp known
      exact .inr (Option.isSome_iff_exists.mpr ⟨p, row?_kept grown.tasks there⟩)

/-- The end of `complete` opens the next stage with the row that succeeds. -/
theorem succeedTask_carries {row : TaskRow} {output : Dict} (here : v.db.row? row.taskId = some row)
    (named : v.db.Named) (carried : Carried v.db.row?) :
    Prog.wlp (succeedTask host row row.view output) (fun _ u => Carried u.db.row?) v := by
  unfold succeedTask
  simp only [Prog.wlp, Prog.wp_bind, wp_execute, wp_emit]
  have but := finished_carriedBut here carried output fun _ => ⟨rfl, rfl, rfl, rfl⟩
  rw [Prog.wp_ite]
  constructor
  · intro diagnosis
    simp only [Prog.wp_bind, wp_emit]
    refine wlp_requireTask fun _ _ => ?_
    refine but.closed fun stage next => ?_
    have last : (TaskRow.finished .succeeded output row).stage = .diagnosis := diagnosis
    rw [last] at next
    cases next
  · intro operator
    cases next : row.view.stage.next? with
    | none =>
      refine wlp_requireTask fun _ _ => ?_
      refine but.closed fun stage follows => ?_
      have last : (TaskRow.finished .succeeded output row).stage.next? = none := next
      rw [last] at follows
      cases follows
    | some stage =>
      simp only [Prog.wp_bind]
      have stored := named.updateTask row.taskId (TaskRow.finished .succeeded output) fun _ => ⟨rfl, rfl, rfl, rfl⟩
      refine Prog.wp.mono (ensureNext_adds ⟨stored.operators, stored.diagnoses⟩ _ row.operatorKey
        (next_operator next).2.1) ?_ fun _ _ _ h => h
      rintro - u - (⟨free, input, createdAt, grown⟩ | ⟨there, same⟩)
      · refine wlp_requireTask fun _ _ => ?_
        have later : CarriedBut (TaskRow.finished .succeeded output row) u.db.row? :=
          .grown (by exact but) grown free (by simp [pendingRow])
        refine later.closed fun stage' follows => ?_
        obtain rfl := Option.some.inj (next.symm.trans follows)
        exact Option.isSome_iff_exists.mpr ⟨_, grown.found free⟩
      · refine wlp_requireTask fun _ _ => ?_
        rw [same]
        refine but.closed fun stage' follows => ?_
        obtain rfl := Option.some.inj (next.symm.trans follows)
        exact there

/-- A failure opens no stage and closes none. -/
theorem failTask_carries (sound : Sound w.ledger) (carried : Carried w.db.row?) (taskId : Text) (worker : Option Text)
    (error : Json) (token : Option Text) :
    Prog.wlp (failTask host disk taskId worker error token) (fun _ u => Carried u.db.row?) w := by
  let allowed : Action → Prop := fun a => ∀ t, a ≠ .succeed t
  have idle : allowed .wait := fun _ => Action.noConfusion
  have failing : allowed (.fail taskId) := fun _ => Action.noConfusion
  refine (failTask_steps allowed sound idle taskId failing worker error token).mono
    (fun _ _ _ steps => ?_) fun _ _ _ h => h
  exact steps.carries sound (fun t permitted => permitted t rfl) carried

theorem complete_carries (sound : Sound w.ledger) (carried : Carried w.db.row?) (taskId : Text) (worker : Option Text)
    (result : Option Json) (token : Option Text) :
    Carried (complete host disk taskId worker result token w).2.1.db.row? := by
  refine atomic_spec (P := fun v => Carried v.db.row?) ?_ fun _ _ => carried
  simp only [Prog.wlp, Prog.wp_bind]
  refine wlp_requireTask fun row here => wlp_ownedLease fun row' here' owned => ?_
  obtain rfl := Option.some.inj (here.symm.trans here')
  obtain ⟨lease, held, -, -, -⟩ := ownsLease_spec owned
  obtain rfl := Store.row?_named here
  rw [held]
  simp only [Prog.wp_bind]
  refine wlp_lift fun output _ => wlp_requireRun fun run found => wlp_lift fun errors checked => ?_
  -- the table is the one the call found, whatever the clock says by now
  have failing (n : Nat) (later : w.readings ≤ n) (error : Json) :
      Prog.wlp (failTask host disk row.taskId (some lease.worker) error (some lease.token))
        (fun _ u => Carried u.db.row?) ⟨w.db, n, w.tokens⟩ := by
    have waited : Steps host disk (fun _ => True) w.ledger (World.ledger ⟨w.db, n, w.tokens⟩) :=
      Steps.wait trivial ⟨later, le_rfl⟩ (.self w _ _)
    exact failTask_carries (waited.sound sound) carried row.taskId _ error _
  rw [Prog.wp_ite]
  refine ⟨fun _ => failing _ (Nat.le_succ _) _, fun _ => ?_⟩
  simp only [Prog.wp_bind]
  refine wlp_ownedLease fun _ _ _ => ?_
  cases recordAttempt disk row.view
      (.ok (.obj (withSubmission output lease.worker row.view.attempt))) true "PASS" with
  | error e =>
    dsimp only
    rw [Prog.wp_ite]
    exact ⟨fun _ => failing _ (Nat.le_add_right _ 2) _, fun _ => trivial⟩
  | ok manifest =>
    simp only [Prog.wp_bind]
    refine wlp_ownedLease fun _ _ _ => ?_
    exact succeedTask_carries here sound.rowsNamed carried

/-- Every call keeps it. -/
theorem step_carries (host : Host) {w : World} (sound : Sound w.ledger) (carried : Carried w.db.row?)
    (call : Disk × Call) : Carried (step host w call).db.row? := by
  have steps := step_steps host sound call
  obtain ⟨disk, call⟩ := call
  cases call with
  | complete t worker result token =>
    unfold step
    dsimp only [Call.body]
    rw [discard_run]
    exact complete_carries sound carried t worker result token
  | _ => exact steps.carries sound (fun _ permitted => permitted.elim) carried

end Moves

section Histories
variable {host : Host}

/-- In every state of every history, each succeeded stage but the last has its successor. -/
theorem history_carries (host : Host) (calls : List (Disk × Call)) : Carried (history host calls).db.row? := by
  have start : Carried World.empty.db.row? := fun t r here => by cases here
  suffices run : ∀ (w : World), Sound w.ledger → Carried w.db.row? → Carried (calls.foldl (step host) w).db.row? from
    run _ Sound.empty start
  induction calls with
  | nil => exact fun _ _ carried => carried
  | cons call rest ih => exact fun w sound carried => ih _ (step_sound sound call) (step_carries host sound carried call)

/-- A store that only the scheduler has written needs no repair: `reconcile` creates nothing and
blocks nothing, whatever is on disk. -/
theorem history_reconciled (host : Host) (calls : List (Disk × Call)) (disk : Disk) (runId : Text) :
    Prog.wp (reconcile host disk runId)
      (fun repairs u => repairs = ⟨[], []⟩ ∧ u.db.tasks = (history host calls).db.tasks)
      (fun e u => e = .key runId ∧ (history host calls).db.run? runId = none ∧ u.db = (history host calls).db)
      (history host calls) := by
  have sound : Sound (history host calls).ledger := history_sound calls
  have carried := history_carries host calls
  generalize history host calls = w at sound carried ⊢
  cases known : w.db.run? runId with
  | none =>
    unfold reconcile
    rw [atomic, Prog.wp_transact]
    simp only [requireRun, Prog.wp_bind, wp_query, known]
    exact ⟨rfl, trivial, trivial⟩
  | some run =>
    obtain rfl := Store.run?_named known
    have continued : ∀ row ∈ w.db.tasksOf disk.ties run.runId, row.status = .succeeded → ∀ stage,
        row.stage.next? = some stage → (w.db.row? (stageTaskId run.runId row.operatorKey stage)).isSome := by
      intro row member succeeded stage next
      obtain ⟨inside, own⟩ := Store.mem_tasksOf.mp member
      rw [← own]
      exact carried _ row (Store.row?_of_mem inside) succeeded stage next
    refine (reconcile_stands known fun row member => ⟨fun operator failed => ?_, fun succeeded stage next => ?_⟩).mono ?_
      fun _ _ _ impossible => impossible.elim
    · have here := Store.row?_of_mem (Store.mem_tasksOf.mp member).1
      obtain ⟨d, diagnosis, -⟩ := (sound.linked _ row here operator).failed failed
      exact ⟨d, diagnosis, (sound.diagnoses here diagnosis).1⟩
    · exact .inl (continued row member succeeded stage next)
    · rintro repairs u - ⟨rfl, tasks⟩
      refine ⟨?_, tasks⟩
      congr 1
      refine List.flatMap_eq_nil_iff.mpr fun row member => ?_
      cases next : row.stage.next? with
      | none => exact blockedOf_last next
      | some stage =>
        by_cases succeeded : row.status = .succeeded
        · rw [blockedOf_succeeded succeeded next, if_pos (continued row member succeeded stage next)]
        · exact blockedOf_unfinished succeeded

end Histories

end InferForge

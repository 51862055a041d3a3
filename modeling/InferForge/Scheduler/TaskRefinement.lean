import InferForge.Scheduler.Refinement

/-! The calls on tasks as moves of the ledger. -/
namespace InferForge
open Py Effect Sched Transition ResultValidation

/-- The token a call presents: the one it names, or the text in the worker's place. -/
def credential (worker token : Option Text) : Option Text :=
  if token.all Text.isEmpty then worker else token

/-- What passing the lease check means: the row runs under a lease that is still valid, and the
token presented is its own. -/
theorem ownsLease_spec {row : TaskRow} (owned : ownsLease row worker token reading = true) :
    ∃ lease, row.lease = some lease ∧ row.status = .running ∧ reading < lease.expires ∧
      credential worker token = some lease.token := by
  unfold ownsLease presented at owned
  cases held : row.lease with
  | none =>
    split at owned
    all_goals simp [held] at owned
  | some lease =>
    by_cases swapped : (token.all Text.isEmpty && decide (worker = row.lease.map Lease.token)) = true
    · rw [if_pos swapped] at owned
      simp only [held, Bool.and_eq_true, Option.any_some, decide_eq_true_eq] at owned swapped
      exact ⟨lease, rfl, owned.1.2, owned.2.2, (if_pos swapped.1).trans swapped.2⟩
    · rw [if_neg swapped] at owned
      simp only [held, Bool.and_eq_true, Bool.not_eq_true', Option.any_some,
        decide_eq_true_eq] at owned
      have named : ¬ token.all Text.isEmpty = true := by simp [owned.1.1]
      exact ⟨lease, rfl, owned.1.2, owned.2.2, (if_neg named).trans owned.2.1.1⟩

section Tasks
variable {host : Host} {disk : Disk} {w : World} {allowed : Action → Prop}

theorem recover_steps (force : Bool) :
    Steps host disk (Call.permits (.recover force)) w.ledger (recover host force w).2.1.ledger := by
  refine atomic_steps trivial ?_
  simp only [Prog.wlp, Prog.wp_bind, wp_now, wp_query, wp_execute, Prog.wp_pure]
  refine Steps.act (.release (fun row : TaskRow => decide
      (if force then row.status = .running else row.expired (host.clock w.readings) = true)) ?_)
    trivial trivial ⟨Nat.le_succ _, le_rfl⟩ ⟨rfl, rfl, funext fun t =>
      Store.row?_updateTasks _ TaskRow.released (fun _ => ⟨rfl, rfl, rfl, rfl⟩) t, rfl⟩
  intro t r here chosen
  cases force with
  | true => simpa using chosen
  | false =>
    simp only [Bool.false_eq_true, if_false, TaskRow.expired, Bool.and_eq_true,
      decide_eq_true_eq] at chosen
    exact chosen.1

theorem renewLease_steps (taskId : Text) (worker token : Option Text) (seconds : Double) :
    Steps host disk (Call.permits (.renewLease taskId worker token seconds)) w.ledger
      (renewLease host taskId worker token seconds w).2.1.ledger := by
  refine atomic_steps trivial ?_
  simp only [Prog.wlp, Prog.wp_bind]
  refine wlp_lift fun length _ => wlp_ownedLease fun row here owned => ?_
  simp only [wp_now, wp_execute, wp_emit]
  refine wlp_requireTask fun shown _ => ?_
  obtain ⟨lease, held, running, live, _⟩ := ownsLease_spec owned
  obtain rfl := Store.row?_named here
  let expires := host.addSeconds (host.clock (w.readings + 1)) length
  by_cases named : row.lease.map Lease.token = token
  · have shown := (World.Shows.self w 0 0).only here
      (fun r => r.taskId = row.taskId && (r.lease.map Lease.token = token && token.isSome))
      (TaskRow.renewed expires) (fun _ => ⟨rfl, rfl, rfl, rfl⟩) (by simp [← named, held])
      (fun q taken => (by simpa using taken : _ ∧ _).1) 0 0
    have alive : Live host w.ledger lease := ⟨w.readings, le_rfl, live⟩
    have moved : Move host (Approves host disk) w.ledger _ _ :=
      .renew row lease expires here held alive
    have same : TaskRow.renewed expires row = { row with lease := some { lease with expires } } := by
      simp [TaskRow.renewed, held]
    rw [← same] at moved
    exact Steps.act moved rfl trivial ⟨Nat.le_add_right _ 3, le_rfl⟩ (shown.skip _ rfl _ _)
  · refine Steps.wait trivial ⟨Nat.le_add_right _ 3, le_rfl⟩
      ⟨rfl, rfl, ?_, Store.log_skip _ _ rfl⟩
    refine funext fun t => (Store.row?_updateTasks _ (TaskRow.renewed expires)
      (fun _ => ⟨rfl, rfl, rfl, rfl⟩) t).trans ?_
    cases found : w.db.row? t with
    | none => simp [World.ledger, found]
    | some r =>
      by_cases same : t = row.taskId
      · subst same
        obtain rfl := Option.some.inj (here.symm.trans found)
        simp [named, World.ledger, here]
      · simp [same, Store.row?_named found, World.ledger, found]

/-- The diagnosis row of a running source is about an earlier attempt. -/
theorem Sound.diagnosis_behind (sound : Sound w.ledger) {row d : TaskRow}
    (here : w.db.row? row.taskId = some row) (stage : row.stage ≠ .diagnosis)
    (running : row.status = .running) (known : w.db.row? (diagnosisId row.taskId) = some d)
    (read : Json.toInt host (Dict.getD d.input "source_attempt" (.int 0)) = .ok k) :
    k < row.attempt := by
  obtain ⟨_, diagnoses⟩ := sound.diagnoses here known
  have link := sound.linked _ row here stage
  have behind := (link.bound (by simp [running]) d known).2 (by simp [running])
  simp only [Dict.getD, diagnoses.attempt, Option.getD_some, Json.toInt, Except.ok.injEq] at read
  omega

/-- `_ensure_diagnosis` for an attempt that has just failed: the tables then show the first
diagnosis row of the task, or the old one reopened. -/
theorem ensureDiagnosis_spec {v : World} {row : TaskRow} (sound : Sound w.ledger)
    (here : w.db.row? row.taskId = some row) (stage : row.stage ≠ .diagnosis)
    (running : row.status = .running) (failed : v.Shows (w.ledger.put (TaskRow.finished .failed output row)))
    (report : Json) :
    Prog.wlp (ensureDiagnosis host row.view report) (fun _ u => v ≤ u ∧
      ((w.db.row? (diagnosisId row.taskId) = none ∧ u.Shows
        (((w.ledger.put (TaskRow.finished .failed output row)).put
          (pendingRow row.runId (diagnosisKey row.taskId) .diagnosis (diagnosisId row.taskId)
            (diagnosisInput row.view report) (host.clock v.readings))).note
          (creation .diagnosisTaskCreated row.runId (diagnosisId row.taskId) (diagnosisEvent row.view)))) ∨
      ∃ d, w.db.row? (diagnosisId row.taskId) = some d ∧ u.Shows
        (((w.ledger.put (TaskRow.finished .failed output row)).put
          (TaskRow.reopened (diagnosisInput row.view report) d)).note
          ⟨row.runId, .diagnosisTaskReopened, some (diagnosisId row.taskId),
            diagnosisEvent row.view⟩))) v := by
  have other : v.db.row? (diagnosisId row.taskId) = w.db.row? (diagnosisId row.taskId) := by
    rw [failed.row]
    exact Function.update_of_ne (diagnosisId_ne_self _) _ _
  unfold ensureDiagnosis
  simp only [Prog.wlp, Prog.wp_bind, wp_insertTask]
  rw [Prog.wp_ite]
  constructor
  · intro inserted
    simp only [Prog.wp_bind, wp_emit]
    refine wlp_requireTask fun _ _ => ⟨⟨Nat.le_add_right _ 2, le_rfl⟩, .inl ⟨?_, ?_⟩⟩
    · rw [← other]
      exact (Store.row?_insertTask inserted).1
    · exact (failed.insert inserted 0 0).note _ rfl _ _
  · intro ignored
    obtain ⟨kept, _⟩ := Store.insertTask_ignored (Bool.eq_false_iff.mpr ignored)
    simp only [Prog.wp_bind, wp_query]
    rw [kept]
    cases known : v.db.row? (diagnosisId row.view.taskId) with
    | none => trivial
    | some d =>
      dsimp only
      rw [Prog.wp_bind]
      refine wlp_lift fun k read => ?_
      rw [Prog.wp_ite]
      have found := other.symm.trans known
      constructor
      · intro _
        simp only [Prog.wp_bind, wp_execute, wp_emit]
        refine wlp_requireTask fun _ _ => ⟨⟨Nat.le_add_right _ 2, le_rfl⟩, .inr ⟨d, found, ?_⟩⟩
        have known' : (w.ledger.put (TaskRow.finished .failed output row)).row
            (diagnosisId row.taskId) = some d := by
          rw [← failed.row]
          exact known
        exact (failed.update known' (TaskRow.reopened (diagnosisInput row.view report))
          (fun _ => ⟨rfl, rfl, rfl, rfl⟩) 0 0).note _ rfl _ _
      · -- a running source is ahead of its diagnosis
        intro behind
        exact absurd (sound.diagnosis_behind here stage running found read) behind

theorem failTask_steps (allowed : Action → Prop) (sound : Sound w.ledger)
    (idle : allowed .wait) (taskId : Text) (failing : allowed (.fail taskId)) (worker : Option Text) (error : Json)
    (token : Option Text) :
    Prog.wlp (failTask host disk taskId worker error token)
      (fun _ v => Steps host disk allowed w.ledger v.ledger) w := by
  unfold failTask
  simp only [Prog.wlp, Prog.wp_bind]
  refine wlp_requireTask fun row here => wlp_ownedLease fun _ _ _ => ?_
  rw [wp_now]
  refine wlp_lift fun report _ => wlp_lift ?_
  rintro ⟨report', manifest⟩ -
  refine wlp_ownedLease fun row' here' owned => wlp_lift fun dumped _ => ?_
  obtain rfl := Option.some.inj (here.symm.trans here')
  obtain ⟨lease, held, running, live, _⟩ := ownsLease_spec owned
  have alive : Live host w.ledger lease := ⟨_, Nat.le_add_right _ 2, live⟩
  obtain rfl := Store.row?_named here
  rw [wp_execute]
  have failed : World.Shows ⟨w.db.updateTask row.taskId (TaskRow.finished .failed
      (withManifest [("error", dumped)] manifest)) (fun _ => ⟨rfl, rfl, rfl, rfl⟩),
      w.readings + 3, w.tokens⟩ _ :=
    (World.Shows.self w 0 0).update here (TaskRow.finished .failed
      (withManifest [("error", dumped)] manifest)) (fun _ => ⟨rfl, rfl, rfl, rfl⟩) _ _
  by_cases stage : row.view.stage = .diagnosis
  · rw [if_pos stage, Prog.wp_bind, wp_emit]
    refine wlp_requireTask fun _ _ => ?_
    exact Steps.act (.failDiagnosis row lease _ _ here running held alive stage) failing idle
      ⟨Nat.le_add_right _ 4, le_rfl⟩ (failed.note _ rfl _ _)
  · rw [if_neg stage, Prog.wp_bind, Prog.wp_discard]
    refine (ensureDiagnosis_spec sound here stage running failed dumped).mono ?_ fun _ _ _ h => h
    rintro _ u _ ⟨ahead, shown⟩
    simp only [Prog.wp_bind, wp_emit]
    refine wlp_requireTask fun _ _ => ?_
    have ahead' : w.readings ≤ u.readings + 1 ∧ w.tokens ≤ u.tokens :=
      ⟨(Nat.le_add_right _ 3).trans (ahead.1.trans (Nat.le_succ _)), ahead.2⟩
    rcases shown with ⟨fresh, shown⟩ | ⟨d, known, shown⟩
    · exact Steps.act (.failFirst row lease dumped _ _ _ here running held alive stage fresh) failing
        idle ahead' (shown.note _ rfl _ _)
    · exact Steps.act (.failAgain row d lease dumped _ _ here running held alive stage known) failing
        idle ahead' (shown.note _ rfl _ _)

theorem fail_steps (sound : Sound w.ledger) (taskId : Text) (worker : Option Text) (error : Json)
    (token : Option Text) :
    Steps host disk (Call.permits (.fail taskId worker error token)) w.ledger
      (fail host disk taskId worker error token w).2.1.ledger :=
  atomic_steps trivial (failTask_steps (Call.permits (.fail taskId worker error token))
    sound trivial taskId rfl worker error token)

/-- `_ensure_next` opens the next stage of a succeeded row, or finds its place taken. -/
theorem ensureNext_spec (disk : Disk) (allowed : Action → Prop) {v : World} (row : TaskRow)
    (task : Task) (here : v.db.row? row.taskId = some row) (status : row.status = .succeeded)
    (next : row.stage.next? = some stage) (same : task.runId = row.runId) (idle : allowed .wait)
    (creating : ∀ id, allowed (.create id)) :
    Prog.wlp (ensureNext host task row.operatorKey stage) (fun _ u =>
      Steps host disk allowed v.ledger u.ledger ∧
        ∀ t r, v.db.row? t = some r → u.db.row? t = some r) v := by
  unfold ensureNext
  simp only [Prog.wlp, Prog.wp_bind, wp_query]
  cases v.db.operator? task.runId row.operatorKey with
  | none => trivial
  | some spec =>
    simp only [Prog.wp_bind, wp_insertTask, same]
    rw [Prog.wp_ite]
    constructor
    · intro inserted
      rw [wp_emit]
      have shown := ((World.Shows.self v 0 0).insert inserted 0 0).note
        ⟨row.runId, .taskCreated, some (stageTaskId row.runId row.operatorKey stage),
          [("stage", .str stage.text), ("operator_key", .str row.operatorKey)],
          host.clock (v.readings + 1)⟩ rfl (v.readings + 2) v.tokens
      obtain ⟨fresh, placed⟩ := Store.row?_insertTask inserted
      refine ⟨Steps.act (.create row stage _ _ _ here status next fresh) (creating _) idle
        ⟨Nat.le_add_right _ 2, le_rfl⟩ shown, fun t r found => ?_⟩
      change (v.db.insertTask _).2.row? t = some r
      rw [placed, Function.update_of_ne, found]
      rintro rfl
      rw [fresh] at found
      cases found
    · intro ignored
      obtain ⟨kept, _⟩ := Store.insertTask_ignored (Bool.eq_false_iff.mpr ignored)
      rw [kept]
      exact ⟨Steps.wait idle ⟨Nat.le_succ _, le_rfl⟩ (.self v _ _), fun _ _ found => found⟩

/-- The end of `complete`: the row succeeds, and the next stage is opened. -/
theorem succeedTask_steps (allowed : Action → Prop) {v : World} {row : TaskRow} {lease : Lease}
    {run : AdaptationRun} {result output : Dict} (here : w.db.row? row.taskId = some row)
    (running : row.status = .running) (held : row.lease = some lease)
    (live : Live host w.ledger lease) (found : w.db.run? row.runId = some run)
    (approved : Approves host disk row.view run result lease.worker) (idle : allowed .wait)
    (succeeding : allowed (.succeed row.taskId)) (creating : ∀ id, allowed (.create id))
    (later : w ≤ v) (same : v.db = w.db) :
    Prog.wlp (succeedTask host row row.view output)
      (fun _ u => Steps host disk allowed w.ledger u.ledger) v := by
  unfold succeedTask
  simp only [Prog.wlp, Prog.wp_bind, wp_execute, wp_emit, same]
  let payload : Dict := [("stage", .str row.stage.text), ("output", .obj output)]
  have moved : Move host (Approves host disk) w.ledger _ _ :=
    .succeed row lease run result output payload here running held live found approved
  have shown := ((World.Shows.self w 0 0).update here (TaskRow.finished .succeeded output)
    (fun _ => ⟨rfl, rfl, rfl, rfl⟩) 0 0).note
    ⟨row.runId, .taskSucceeded, some row.taskId, payload, host.clock v.readings⟩ rfl
  have ahead (n : Nat) : w.ledger.readings ≤ v.readings + n ∧ w.ledger.tokens ≤ v.tokens :=
    ⟨later.1.trans (Nat.le_add_right _ n), later.2⟩
  rw [Prog.wp_ite]
  constructor
  · intro diagnosis
    simp only [Prog.wp_bind, wp_emit]
    refine wlp_requireTask fun _ _ => ?_
    exact Steps.act moved succeeding idle (ahead 2) ((shown 0 0).skip _ rfl _ _)
  · intro operator
    have stepped : Steps host disk allowed w.ledger (World.ledger ⟨_, v.readings + 1, v.tokens⟩) :=
      Steps.act moved succeeding idle (ahead 1) (shown _ _)
    cases next : row.view.stage.next? with
    | none =>
      refine wlp_requireTask fun _ _ => ?_
      exact stepped
    | some stage =>
      simp only [Prog.wp_bind]
      have stored := congrFun (shown (v.readings + 1) v.tokens).row row.taskId
      have stored' : _ = some (TaskRow.finished .succeeded output row) :=
        stored.trans (Function.update_self _ _ _)
      refine (ensureNext_spec disk allowed (TaskRow.finished .succeeded output row) _ stored' rfl
        next rfl idle creating).mono
        (fun _ u _ opened => ?_) fun _ _ _ h => h
      exact wlp_requireTask fun _ _ => stepped.trans opened.1

theorem complete_steps (sound : Sound w.ledger) (taskId : Text) (worker : Option Text)
    (result : Option Json) (token : Option Text) :
    Steps host disk (Call.permits (.complete taskId worker result token)) w.ledger
      (complete host disk taskId worker result token w).2.1.ledger := by
  refine atomic_steps trivial ?_
  simp only [Prog.wlp, Prog.wp_bind]
  refine wlp_requireTask fun row here => wlp_ownedLease fun row' here' owned => ?_
  obtain rfl := Option.some.inj (here.symm.trans here')
  obtain ⟨lease, held, running, live, _⟩ := ownsLease_spec owned
  rw [held]
  simp only [Prog.wp_bind]
  refine wlp_lift fun output _ => wlp_requireRun fun run found => wlp_lift fun errors checked => ?_
  obtain rfl := Store.row?_named here
  -- a failure inside this call is a failure at a later reading
  have failing (n : Nat) (later : w.readings ≤ n) (error : Json) :
      Prog.wlp (failTask host disk row.taskId (some lease.worker) error (some lease.token))
        (fun _ u => Steps host disk (Call.permits (.complete row.taskId worker result token)) w.ledger
          u.ledger) ⟨w.db, n, w.tokens⟩ := by
    have waited : Steps host disk (Call.permits (.complete row.taskId worker result token)) w.ledger
        (World.ledger ⟨w.db, n, w.tokens⟩) :=
      Steps.wait trivial ⟨later, le_rfl⟩ (.self w _ _)
    exact (failTask_steps (Call.permits (.complete row.taskId worker result token))
      (waited.sound sound) trivial row.taskId rfl _ error _).mono
      (fun _ _ _ steps => waited.trans steps) fun _ _ _ h => h
  rw [Prog.wp_ite]
  refine ⟨fun _ => failing _ (Nat.le_succ _) _, fun accepted => ?_⟩
  obtain rfl : errors = [] := by simpa using accepted
  simp only [Prog.wp_bind]
  refine wlp_ownedLease fun _ _ _ => ?_
  cases recorded : recordAttempt disk row.view
      (.ok (.obj (withSubmission output lease.worker row.view.attempt))) true "PASS" with
  | error e =>
    dsimp only
    rw [Prog.wp_ite]
    exact ⟨fun _ => failing _ (Nat.le_add_right _ 2) _, fun _ => trivial⟩
  | ok manifest =>
    simp only [Prog.wp_bind]
    refine wlp_ownedLease fun _ _ _ => ?_
    exact succeedTask_steps (Call.permits (.complete row.taskId worker result token)) here running
      held ⟨_, le_rfl, live⟩ found checked trivial rfl (fun _ => trivial)
      ⟨Nat.le_add_right _ 3, le_rfl⟩ rfl

theorem nextAction_spec {task : Task} (ok : nextAction task = .ok action) :
    Dict.getD task.output "next_action" .null = .str action ∧
      (action = "RETRY" ∨ action = "BLOCKED") := by
  simp only [nextAction, bind_ok, refuse_ok, pure_ok] at ok
  obtain ⟨known, listed, _, accepted, rfl⟩ := ok
  simp only [inTexts] at listed
  split at listed
  · obtain rfl := Except.ok.inj listed
    simp only [Bool.not_eq_false', List.any_cons, List.any_nil, Bool.or_false, Bool.or_eq_true,
      Json.eq_str_right] at accepted
    by_cases retry : Dict.getD task.output "next_action" .null = .str "RETRY"
    · simp [retry]
    · have blocked := accepted.resolve_left retry
      simp [blocked]
  · cases listed

theorem checkDiagnosis_spec (sound : Sound w.ledger) {row : TaskRow}
    (here : w.db.row? row.taskId = some row)
    (ok : checkDiagnosis host w.db row.view = .ok (source, action)) :
    ∃ src : TaskRow, source = src.view ∧ Concluded w.ledger row src action ∧
      (action = "RETRY" ∨ action = "BLOCKED") := by
  simp only [checkDiagnosis, bind_ok, refuse_ok, pure_ok, Prod.mk.injEq] at ok
  obtain ⟨_, kind, _, done, task, found, _, _, act, next, rfl, rfl⟩ := ok
  have stage : row.stage = .diagnosis := Decidable.not_not.mp (of_decide_eq_false kind)
  obtain ⟨s, known, diagnoses⟩ := (sound.shaped _ row here).diagnosis stage
  have shown : row.view.sourceTaskId = .str s.taskId := by
    simp [TaskRow.view, stage, Dict.getD, diagnoses.source]
  simp only [sourceOf, shown, taskByJson, bind_ok] at found
  obtain ⟨row?, same, rest⟩ := found
  obtain rfl := Except.ok.inj same
  rw [show w.db.row? s.taskId = some s from known] at rest
  simp only [bind_ok, refuse_ok, pure_ok] at rest
  obtain ⟨_, _, rfl⟩ := rest
  obtain ⟨action, known'⟩ := nextAction_spec next
  have succeeded : row.status = .succeeded := Decidable.not_not.mp (of_decide_eq_false done)
  refine ⟨s, rfl, ⟨here, known, stage, diagnoses.operator, succeeded, ?_, action⟩, known'⟩
  simp [Dict.getD, diagnoses.source]

/-- A call of `apply_diagnosis` is one move, or none. -/
theorem applyDiagnosis_move (host : Host) (disk : Disk) (sound : Sound w.ledger) (taskId : Text) :
    ∃ l, (applyDiagnosis host taskId w).2.1.Shows l ∧ (l = w.ledger ∨
      ∃ a, (a = .retry taskId ∨ a = .consume taskId) ∧ Move host (Approves host disk) w.ledger a l) := by
  refine atomic_spec (P := fun v => ∃ l, v.Shows l ∧ (l = w.ledger ∨ ∃ a,
    (a = .retry taskId ∨ a = .consume taskId) ∧ Move host (Approves host disk) w.ledger a l))
    ?_ fun v _ => ⟨_, .self w _ _, .inl rfl⟩
  simp only [Prog.wlp, Prog.wp_bind, wp_query]
  cases here : w.db.row? taskId with
  | none => trivial
  | some row =>
    obtain rfl := Store.row?_named here
    simp only [Prog.wp_bind, wp_query]
    refine wlp_lift ?_
    rintro ⟨source, action⟩ ok
    obtain ⟨src, rfl, concluded, known⟩ := checkDiagnosis_spec sound here ok
    rw [Prog.wp_ite]
    refine ⟨fun _ => ⟨_, .self w _ _, .inl rfl⟩, fun _ => ?_⟩
    rw [Prog.wp_ite]
    constructor
    · rintro rfl
      simp only [Prog.wp_bind, retrySource]
      refine wlp_require fun failed => ?_
      simp only [wp_query, wp_execute]
      refine wlp_require fun _ => ?_
      rw [wp_emit]
      refine wlp_requireTask fun _ _ => ?_
      have status : src.status = .failed := of_decide_eq_true failed
      let input := src.input.set "recovery" (recovery row.view "RETRY")
      have shown := (World.Shows.self w 0 0).only concluded.found
        (fun r => r.taskId = src.taskId && r.status = .failed) (TaskRow.retried input)
        (fun _ => ⟨rfl, rfl, rfl, rfl⟩) (by simp [status])
        (fun q taken => (by simpa using taken : _ ∧ _).1) 0 0
      exact ⟨_, shown.note _ rfl _ _, .inr ⟨_, .inl rfl, .retry row src input concluded status⟩⟩
    · intro other
      obtain rfl := known.resolve_left other
      simp only [Prog.wp_bind, wp_emit]
      refine wlp_requireTask fun _ _ => ?_
      exact ⟨_, (World.Shows.self w 0 0).note _ rfl _ _,
        .inr ⟨_, .inr rfl, .consume row src concluded⟩⟩

theorem applyDiagnosis_steps (sound : Sound w.ledger) (taskId : Text) :
    Steps host disk (Call.permits (.applyDiagnosis taskId)) w.ledger
      (applyDiagnosis host taskId w).2.1.ledger := by
  obtain ⟨l, shown, rest⟩ := applyDiagnosis_move host disk sound taskId
  have ahead := (applyDiagnosis host taskId w).2.2
  rcases rest with rfl | ⟨a, label, moved⟩
  · exact Steps.wait trivial ahead shown
  · refine Steps.act moved ?_ trivial ?_ shown
    · rcases label with rfl | rfl <;> rfl
    · cases moved <;> first | exact ahead | simp at label

end Tasks
end InferForge

import InferForge.Scheduler.Replay

/-! Diagnoses: a failed task has one for its attempt, an applied diagnosis stays applied,
and a retry takes effect once. -/
namespace InferForge
open Py Effect Sched Transition Lifecycle

/-- The row is a diagnosis of this task. -/
def isDiagnosisOf (s d : TaskRow) : Bool :=
  d.stage = .diagnosis && d.view.sourceTaskId.eq (.str s.taskId)

/-- The event of applying the current attempt of `d` for its source attempt. -/
def isApplied (d : TaskRow) (e : TaskEvent) : Prop :=
  e.eventType = .diagnosisApplied ∧ e.taskId = some d.taskId ∧
    e.payload.get? "source_attempt" = d.input.get? "source_attempt" ∧
    e.payload.get? "diagnosis_attempt" = some (.int d.attempt)

section Linkage
variable {w : World}

theorem Sound.diagnosis_of (sound : Sound w.ledger) (source : s ∈ w.db.tasks)
    (member : d ∈ w.db.tasks) : isDiagnosisOf s d = true ↔ d.taskId = diagnosisId s.taskId := by
  have here := Store.row?_of_mem source
  have found := Store.row?_of_mem member
  constructor
  · intro of
    simp only [isDiagnosisOf, Bool.and_eq_true, decide_eq_true_eq, Json.eq_str_right] at of
    obtain ⟨src, _, diagnoses⟩ := (sound.shaped _ d found).diagnosis of.1
    have names : d.view.sourceTaskId = .str src.taskId := by
      simp [TaskRow.view, of.1, Dict.getD, diagnoses.source]
    rw [diagnoses.named, Json.str.inj (names.symm.trans of.2)]
  · intro named
    rw [named] at found
    obtain ⟨stage, diagnoses⟩ := sound.diagnoses here found
    simp [isDiagnosisOf, TaskRow.view, stage, Dict.getD, diagnoses.source]

/-- The rows under one id. -/
theorem Store.filter_named {db : Store} (here : db.row? t = some d) :
    (db.tasks.filter fun r => r.taskId = t) = [d] := by
  have once : (db.tasks.filter fun r => r.taskId = t).Nodup := db.taskKey.of_map.filter _
  have only : ∀ r ∈ db.tasks.filter fun r => r.taskId = t, r = d := by
    intro r member
    obtain ⟨stored, named⟩ := List.mem_filter.mp member
    rw [← of_decide_eq_true named, Store.row?_of_mem stored] at here
    exact Option.some.inj here
  have member : d ∈ db.tasks.filter fun r => r.taskId = t :=
    List.mem_filter.mpr ⟨Store.row?_mem here, by simpa using Store.row?_named here⟩
  rw [← List.perm_singleton]
  exact (List.perm_ext_iff_of_nodup once (List.nodup_singleton d)).mpr fun r =>
    ⟨fun h => List.mem_singleton.mpr (only r h), fun h => List.mem_singleton.mp h ▸ member⟩

/-- The diagnosis rows of a task are the row under its diagnosis id. -/
theorem Sound.filter_diagnosis (sound : Sound w.ledger) (source : s ∈ w.db.tasks) :
    w.db.tasks.filter (isDiagnosisOf s) =
      w.db.tasks.filter fun d => d.taskId = diagnosisId s.taskId :=
  List.filter_congr fun d member => by
    rw [Bool.eq_iff_iff, sound.diagnosis_of source member, decide_eq_true_eq]

end Linkage

/-- Failure and diagnosis, in every state of every history: a failed task has one diagnosis, for
its attempt; and the diagnosis of any other task is a succeeded `RETRY` that has been applied. -/
theorem diagnosis_linkage (host : Host) (calls : List (Disk × Call)) (s : TaskRow)
    (source : s ∈ (history host calls).db.tasks) (operator : s.stage ≠ .diagnosis) :
    (s.status = .failed → ∃ d, (history host calls).db.tasks.filter (isDiagnosisOf s) = [d] ∧
      d.input.get? "source_task_id" = some (.str s.taskId) ∧
      d.input.get? "source_attempt" = some (.int s.attempt)) ∧
    (s.status ≠ .failed → ∀ d ∈ (history host calls).db.tasks, isDiagnosisOf s d = true →
      d.status = .succeeded ∧ d.output.get? "next_action" = some (.str "RETRY") ∧
      ∃ e ∈ (history host calls).db.events, isApplied d e) := by
  have sound : Sound (history host calls).ledger := history_sound calls
  have here := Store.row?_of_mem source
  have link := sound.linked s.taskId s here operator
  refine ⟨fun failed => ?_, fun other d member of => ?_⟩
  · obtain ⟨d, known, attempt⟩ := link.failed failed
    obtain ⟨_, diagnoses⟩ := sound.diagnoses here known
    refine ⟨d, ?_, diagnoses.source, attempt ▸ diagnoses.attempt⟩
    rw [sound.filter_diagnosis source]
    exact Store.filter_named known
  · have named := (sound.diagnosis_of source member).mp of
    have known : (history host calls).db.row? (diagnosisId s.taskId) = some d :=
      named ▸ Store.row?_of_mem member
    obtain ⟨_, diagnoses⟩ := sound.diagnoses here known
    obtain ⟨succeeded, action, n, logged, applied⟩ := link.settled other d known
    refine ⟨succeeded, ?_, ?_⟩
    · cases found : d.output.get? "next_action" <;> simp_all [Dict.getD]
    · obtain ⟨e, stored, rfl⟩ := List.mem_map.mp (List.mem_filter.mp logged).1
      exact ⟨e, stored, applied.1, applied.2.1, applied.2.2.1.trans diagnoses.attempt.symm,
        applied.2.2.2⟩

/-- The sample operator, failed by its worker. -/
def sampleFailure : List (Disk × Call) :=
  sampleCalls ++ [(.sample, .fail (stageTaskId "run" (Host.sample.sha256 []) .torch) none
    (.obj [("reason", .str "crash")]) (some (Host.sample.token 0)))]

theorem diagnosis_linkage_sample : ∃ s ∈ (history .sample sampleFailure).db.tasks,
    s.status = .failed ∧ ∃ d, (history .sample sampleFailure).db.tasks.filter (isDiagnosisOf s) = [d] ∧
      d.input.get? "source_attempt" = some (.int s.attempt) := by
  have failed : ∃ s ∈ (history .sample sampleFailure).db.tasks,
      s.status = .failed ∧ s.stage ≠ .diagnosis := by decide +kernel
  obtain ⟨s, member, status, operator⟩ := failed
  obtain ⟨d, one, _, attempt⟩ := (diagnosis_linkage .sample sampleFailure s member operator).1 status
  exact ⟨s, member, status, d, one, attempt⟩

/-! A retry takes effect once. -/

/-- The retries of an attempt on file: `diagnosis_applied` events that name the task. -/
def Store.retriesOf (db : Store) (t : Text) (n : Nat) : List TaskEvent :=
  db.events.filter fun e => e.eventType = .diagnosisApplied &&
    Json.eqOpt (e.payload.get? "source_task_id") (.str t) &&
    Json.eqOpt (e.payload.get? "source_attempt") (.int n) &&
    Json.eqOpt (e.payload.get? "next_action") (.str "RETRY")

/-- The task goes from failed at attempt `n` back to pending. -/
def requeued (t : Text) (n : Nat) (before after : World) : Bool :=
  (before.db.row? t).any (fun r => r.status = .failed && r.attempt = n) &&
    (after.db.row? t).any fun r => r.status = .pending

/-- How often that happens in a history. -/
def requeueings (host : Host) (t : Text) (n : Nat) : World → List (Disk × Call) → Nat
  | _, [] => 0
  | w, call :: rest => (if requeued t n w (step host w call) then 1 else 0) +
      requeueings host t n (step host w call) rest

section Requeues
variable {host : Host} {l l' : Ledger}

/-- A move puts a failed row back by a retry, which it logs, or leaves it alone. -/
theorem Move.requeue (moved : Move host approves l a l') (sound : Sound l) (t : Text) :
    ((∀ n, retries (marks t l'.log) n = retries (marks t l.log) n) ∧
      ∀ r, l.row t = some r → r.status = .failed → l'.row t = some r) ∨
    ∃ r r', a = .retry (diagnosisId t) ∧ l.row t = some r ∧ r.status = .failed ∧
      l'.row t = some r' ∧ r'.status = .pending ∧
      ∀ n, retries (marks t l'.log) n = retries (marks t l.log) n + if r.attempt = n then 1 else 0 := by
  obtain ⟨notes, rows⟩ := moved.rows sound
  have counted (n : Nat) : retries (marks t l'.log) n =
      retries (marks t l.log) n + retries (marks t notes) n := by
    rw [rows.log, marks_append, retries, List.countP_append]
    rfl
  cases here : l.row t with
  | none =>
    refine .inl ⟨fun n => ?_, by rintro _ ⟨⟩⟩
    have none : retries (marks t notes) n = 0 := by
      cases there : l'.row t with
      | none => rw [rows.silent t there]; rfl
      | some r => rw [(rows.new t r here there).1.2.2.2]; rfl
    rw [counted, none, Nat.add_zero]
  | some r =>
    obtain ⟨r', found, change⟩ := rows.old t r here
    have named := sound.named here
    generalize marks t notes = history at change counted
    cases change with
    | retry _ status =>
      refine .inr ⟨r, _, by rw [named], rfl, status, found, rfl, fun n => ?_⟩
      rw [counted]
      simp [retries, isRetry]
    | same => exact .inl ⟨fun n => counted n, fun q same _ => Option.some.inj same ▸ found⟩
    | renew _ lease =>
      have running := (sound.leased here).mp (by simp [lease])
      exact .inl ⟨fun n => counted n, fun q same failed => by
        rw [← Option.some.inj same, running] at failed; cases failed⟩
    | claim _ status | release _ status | succeed _ status | fail _ status | reopen _ status =>
      exact .inl ⟨fun n => counted n, fun q same failed => by
        rw [← Option.some.inj same, status] at failed; cases failed⟩

/-- Nothing was put back: the retries on file stay, and a failed row is left alone. -/
structure Unmoved (t : Text) (l l' : Ledger) : Prop where
  retries : ∀ n, retries (marks t l'.log) n = retries (marks t l.log) n
  failed : ∀ r, l.row t = some r → r.status = .failed → l'.row t = some r

/-- The diagnosis `d` put its failed source back, and that is on file. -/
structure PutBack (t : Text) (l l' : Ledger) (d source : TaskRow) : Prop where
  concluded : Concluded l d source "RETRY"
  named : source.taskId = t
  failed : source.status = .failed
  pending : ∃ r, l'.row t = some r ∧ r.status = .pending
  retries : ∀ n, retries (marks t l'.log) n =
    retries (marks t l.log) n + if source.attempt = n then 1 else 0

theorem Steps.unmoved (steps : Steps host disk allowed l l') (sound : Sound l)
    (calm : ∀ id, ¬ allowed (.retry id)) (t : Text) : Unmoved t l l' := by
  obtain ⟨as, path, labels⟩ := steps
  refine path.preserve (P := Unmoved t l) allowed (fun _ _ _ moved => moved.keeps) ?_ labels sound
    ⟨fun _ => rfl, fun _ here _ => here⟩
  intro l₁ a l₂ moved permitted sound same
  rcases moved.requeue sound t with ⟨kept, alone⟩ | ⟨_, _, rfl, _⟩
  · exact ⟨fun n => (kept n).trans (same.retries n),
      fun r here failed => alone r (same.failed r here failed) failed⟩
  · exact absurd permitted (calm _)

theorem step_requeue (host : Host) {w : World} (sound : Sound w.ledger) (call : Disk × Call) (t : Text) :
    Unmoved t w.ledger (step host w call).ledger ∨
    ∃ d source, call.2 = .applyDiagnosis d.taskId ∧
      PutBack t w.ledger (step host w call).ledger d source := by
  obtain ⟨disk, call⟩ := call
  have steps := step_steps host sound (disk, call)
  cases call with
  | applyDiagnosis taskId =>
    simp only [step, Call.body, discard_run]
    obtain ⟨l, shown, rest⟩ := applyDiagnosis_move host disk sound taskId
    rw [shown.ledger]
    rcases rest with rfl | ⟨a, label, moved⟩
    · exact .inl ⟨fun _ => rfl, fun _ here _ => here⟩
    · rcases moved.requeue sound t with ⟨kept, alone⟩ | ⟨r, r', same, here, failed, found, pending, more⟩
      · exact .inl ⟨kept, alone⟩
      · have drawn : taskId = diagnosisId t := by
          rcases label with rfl | rfl
          · exact Action.retry.inj same
          · cases same
        rw [same] at moved
        generalize named : Action.retry (diagnosisId t) = b at moved
        cases moved with
        | retry d source input concluded status =>
          have own : diagnosisId t = d.taskId := Action.retry.inj named
          obtain rfl := diagnosisId_inj (own.trans (concluded.diagnoses sound).named)
          obtain rfl := Ledger.same_row here concluded.found
          exact .inr ⟨d, r, by rw [drawn, own], concluded, rfl, failed, ⟨r', found, pending⟩, more⟩
        | _ => cases named
  | _ => exact .inl (steps.unmoved sound (fun _ => id) t)

theorem Unmoved.still {w w' : World} (same : Unmoved t w.ledger w'.ledger) (n : Nat) :
    requeued t n w w' = false := by
  unfold requeued
  cases here : w.db.row? t with
  | none => rfl
  | some r =>
    by_cases failed : r.status = .failed
    · rw [show w'.db.row? t = some r from same.failed r here failed]
      simp [failed]
    · simp [failed]

/-- Retries on file go up by one exactly when the task is put back from that attempt. -/
theorem step_retries (host : Host) {w : World} (sound : Sound w.ledger) (call : Disk × Call) (t : Text) (n : Nat) :
    retries (marks t (step host w call).ledger.log) n =
      retries (marks t w.ledger.log) n + if requeued t n w (step host w call) then 1 else 0 := by
  rcases step_requeue host sound call t with same | ⟨d, source, _, back⟩
  · rw [same.still n, same.retries]
    rfl
  · obtain ⟨r, found, pending⟩ := back.pending
    have before : w.db.row? t = some source := back.named ▸ back.concluded.found
    have after : (step host w call).db.row? t = some r := found
    rw [back.retries, requeued, before, after]
    simp [back.failed, pending]

theorem foldl_retries (host : Host) {w : World} (sound : Sound w.ledger) (calls : List (Disk × Call)) (t : Text)
    (n : Nat) : retries (marks t (calls.foldl (step host) w).ledger.log) n =
      retries (marks t w.ledger.log) n + requeueings host t n w calls := by
  induction calls generalizing w with
  | nil => rfl
  | cons call rest ih =>
    rw [List.foldl_cons, ih (step_sound sound call), step_retries host sound call t n, requeueings,
      Nat.add_assoc]

/-- The retry marks of a task are the retry events that name it. -/
theorem retries_log (db : Store) (filed : ∀ e ∈ db.events, e.eventType = .diagnosisApplied →
      ∃ k : Nat, e.payload.get? "source_attempt" = some (.int k)) (t : Text) (n : Nat) :
    retries (marks t db.log) n = (db.retriesOf t n).length := by
  rw [marks_log, retries, List.countP_filterMap, Store.retriesOf, ← List.countP_eq_length_filter]
  refine List.countP_congr fun e member => ?_
  by_cases kind : e.eventType = .diagnosisApplied
  · obtain ⟨k, attempt⟩ := filed e member kind
    have field : attemptField e.payload "source_attempt" = k := by
      simp [attemptField, Dict.getD, attempt]
    have equal : (Json.int k).eq (.int n) = decide (k = n) := by
      rw [Bool.eq_iff_iff]
      simp
    simp only [mark?, TaskEvent.note, kind, field, attempt, Json.eqOpt, Option.getD_some, equal]
    split
    · next named => simp_all [isRetry]
    · next other => simp_all
  · cases mark : mark? t e.note with
    | none => simp [kind]
    | some m =>
      cases m with
      | retried k => exact absurd (mark?_retried mark) kind
      | created | claimed | succeeded | failed | reopened => simp [kind, isRetry]

end Requeues
/-- The current attempt of the diagnosis has been applied, as `apply_diagnosis` finds out. -/
def Store.applied (db : Store) (d : Task) : Bool :=
  (db.eventsOf d.runId).any (isApplication d)

section Repeats
variable {host : Host} {w : World}

theorem applied_iff {db : Store} {d : Task} :
    db.applied d = true ↔ ∃ e ∈ db.events, e.runId = d.runId ∧ isApplication d e = true := by
  simp only [Store.applied, List.any_eq_true, Store.mem_eventsOf, and_assoc]

theorem isApplication_iff {d : Task} {e : TaskEvent} : isApplication d e = true ↔
    ((e.eventType = .diagnosisApplied ∧ e.taskId = some d.taskId) ∧
      (Dict.getD e.payload "source_attempt" .null).eq
        (Dict.getD d.input "source_attempt" .null) = true) ∧
      (Dict.getD e.payload "diagnosis_attempt" .null).eq (.int d.attempt) = true := by
  simp only [isApplication, Bool.and_eq_true]
  exact and_congr_left' (and_congr_left' (and_congr decide_eq_true_iff decide_eq_true_iff))

theorem isApplication_own {d : TaskRow} (attempt : d.input.get? "source_attempt" = some (.int k))
    (source : Task) (action : Text) (reading : Time) :
    isApplication d.view ⟨runId, .diagnosisApplied, some d.taskId,
      applicationEvent d.view source action, reading⟩ = true := by
  simp [isApplication, applicationEvent, Dict.getD, TaskRow.view, attempt]

/-- A call of `apply_diagnosis` that returns has applied the diagnosis. -/
theorem applyDiagnosis_applies (sound : Sound w.ledger) {d : TaskRow}
    (here : w.db.row? d.taskId = some d)
    (returned : (applyDiagnosis host d.taskId w).1 = .ok result) :
    (applyDiagnosis host d.taskId w).2.1.db.applied d.view = true := by
  have spec : Prog.wlp (applyDiagnosis host d.taskId) (fun _ v => v.db.applied d.view = true) w := by
    rw [applyDiagnosis, atomic, Prog.wlp, Prog.wp_transact]
    simp only [Prog.wp_bind, wp_query]
    rw [here]
    simp only [Prog.wp_bind, wp_query]
    refine wlp_lift fun (source, action) ok => ?_
    obtain ⟨src, rfl, concluded, known⟩ := checkDiagnosis_spec sound here ok
    have attempt := (concluded.diagnoses sound).attempt
    have logged (db : Store) (reading : Time) : (db.append ⟨d.runId, .diagnosisApplied,
        some d.taskId, applicationEvent d.view src.view action, reading⟩).applied d.view = true :=
      applied_iff.mpr ⟨_, List.mem_append_right _ (List.mem_singleton_self _), rfl,
        isApplication_own attempt src.view action reading⟩
    rw [Prog.wp_ite]
    refine ⟨fun already => already, fun _ => ?_⟩
    rw [Prog.wp_ite]
    constructor
    · intro _
      simp only [Prog.wp_bind, retrySource]
      refine wlp_require fun _ => ?_
      simp only [wp_query, wp_execute]
      refine wlp_require fun _ => ?_
      rw [wp_emit]
      exact wlp_requireTask fun _ _ => logged _ _
    · intro _
      simp only [Prog.wp_bind, wp_emit]
      exact wlp_requireTask fun _ _ => logged _ _
  exact spec.returned returned

/-- Applied once, it is not applied again. -/
theorem applyDiagnosis_again (here : w.db.row? t = some d) (applied : w.db.applied d.view = true) :
    (applyDiagnosis host t w).2.1.db = w.db := by
  refine atomic_spec (P := fun v => v.db = w.db) ?_ fun _ _ => rfl
  simp only [Prog.wlp, Prog.wp_bind, wp_query]
  rw [here]
  simp only [Prog.wp_bind, wp_query]
  refine wlp_lift ?_
  rintro ⟨source, action⟩ -
  rw [Prog.wp_ite]
  exact ⟨fun _ => rfl, fun fresh => absurd applied fresh⟩

/-- A row stays in its run. -/
theorem row_persists (host : Host) (sound : Sound w.ledger) (here : w.db.row? t = some r)
    (more : List (Disk × Call)) :
    ∃ r', (more.foldl (step host) w).db.row? t = some r' ∧ r'.runId = r.runId := by
  refine foldl_keeps host (P := fun l => ∃ r', l.row t = some r' ∧ r'.runId = r.runId) ?_ sound
    ⟨r, here, rfl⟩ more
  intro _ l a l' moved sound ⟨r', found, same⟩
  obtain ⟨notes, rows⟩ := moved.rows sound
  obtain ⟨q, found', change⟩ := rows.old _ r' found
  exact ⟨q, found', change.sameKey.runId.trans same⟩

/-- A diagnosis stays applied for as long as it is at the same attempt for the same source attempt. -/
theorem applied_persists (sound : Sound w.ledger) {d d' : TaskRow}
    (here : ∃ r, w.db.row? d.taskId = some r ∧ r.runId = d.runId)
    (applied : w.db.applied d.view = true) (more : List (Disk × Call))
    (there : (more.foldl (step host) w).db.row? d.taskId = some d') (attempt : d'.attempt = d.attempt)
    (source : d'.input.get? "source_attempt" = d.input.get? "source_attempt") :
    (more.foldl (step host) w).db.applied d'.view = true := by
  obtain ⟨e, member, run, application⟩ := applied_iff.mp applied
  rw [isApplication_iff] at application
  have kind := application.1.1.1
  have logged : e.note ∈ w.ledger.log := mem_log member (by rw [kind]; rfl)
  have kept := foldl_keeps host (P := fun l => e.note ∈ l.log ∧
      ∃ r, l.row d.taskId = some r ∧ r.runId = d.runId) ?_ sound ⟨logged, here⟩ more
  · obtain ⟨later, r, found, same⟩ := kept
    obtain ⟨e', member', note⟩ := List.mem_map.mp (List.mem_filter.mp later).1
    obtain rfl : r = d' := Option.some.inj (found.symm.trans there)
    have named : r.taskId = d.taskId := Store.row?_named there
    refine applied_iff.mpr ⟨e', member', ?_, ?_⟩
    · exact (congrArg Note.runId note).trans (run.trans same.symm)
    · have fields : e'.eventType = e.eventType ∧ e'.taskId = e.taskId ∧ e'.payload = e.payload :=
        ⟨congrArg Note.eventType note, congrArg Note.taskId note, congrArg Note.payload note⟩
      rw [isApplication_iff]
      simpa only [TaskRow.view, Dict.getD, fields.1, fields.2.1, fields.2.2, attempt, source,
        named] using application
  · rintro _ l a l' moved sound ⟨old, r, found, same⟩
    obtain ⟨notes, rows⟩ := moved.rows sound
    obtain ⟨r', found', change⟩ := rows.old _ r found
    exact ⟨rows.log ▸ List.mem_append_left _ old, r', found', change.sameKey.runId.trans same⟩

theorem accepted_apply {disk : Disk} (returned : accepted host w (disk, .applyDiagnosis t) = true) :
    ∃ result, (applyDiagnosis host t w).1 = .ok result := by
  cases outcome : (applyDiagnosis host t w).1 with
  | ok result => exact ⟨result, rfl⟩
  | error e => simp [accepted, Call.body, discard_raises outcome] at returned

end Repeats

/-- Over any history, a failed attempt of a task is put back at most once, by applying a succeeded
diagnosis of that attempt that asks for a retry, and as often as the log says so. Applying a
diagnosis again, after it has been applied at its attempt, changes no table. -/
theorem retry_once (host : Host) (calls : List (Disk × Call)) :
    (∀ t n, requeueings host t n .empty calls = ((history host calls).db.retriesOf t n).length ∧
      requeueings host t n .empty calls ≤ 1) ∧
    (∀ call t n, requeued t n (history host calls) (step host (history host calls) call) = true →
      ∃ d ∈ (history host calls).db.tasks, call.2 = .applyDiagnosis d.taskId ∧ d.stage = .diagnosis ∧
        d.status = .succeeded ∧ d.output.get? "next_action" = some (.str "RETRY") ∧
        d.input.get? "source_task_id" = some (.str t) ∧
        d.input.get? "source_attempt" = some (.int n)) ∧
    (∀ disk, ∀ d ∈ (history host calls).db.tasks,
      accepted host (history host calls) (disk, .applyDiagnosis d.taskId) = true → ∀ more again,
      ∀ d' ∈ (history host (calls ++ (disk, .applyDiagnosis d.taskId) :: more)).db.tasks,
      d'.taskId = d.taskId → d'.attempt = d.attempt →
      d'.input.get? "source_attempt" = d.input.get? "source_attempt" →
      (step host (history host (calls ++ (disk, .applyDiagnosis d.taskId) :: more))
          (again, .applyDiagnosis d.taskId)).db =
        (history host (calls ++ (disk, .applyDiagnosis d.taskId) :: more)).db) := by
  have sound : Sound (history host calls).ledger := history_sound calls
  refine ⟨fun t n => ?_, fun call t n moved => ?_, fun disk d member returned more again d' member'
    named attempt source => ?_⟩
  · have counted := foldl_retries host (w := .empty) Sound.empty calls t n
    have track : retries (marks t (history host calls).db.log) n ≤ 1 := by
      cases here : (history host calls).db.row? t with
      | some r => exact (sound.tracked t r here).retries_le_one n
      | none => simp [retries, show marks t (history host calls).db.log = [] from sound.unmarked t here]
    have same : requeueings host t n .empty calls = retries (marks t (history host calls).db.log) n := by
      rw [show (history host calls).db.log = (calls.foldl (step host) .empty).ledger.log from rfl,
        counted]
      simp [retries, marks, World.ledger, World.empty, Store.empty, Store.log]
    refine ⟨same.trans (retries_log _ (fun e member kind => ?_) t n), same.trans_le track⟩
    exact (sound.filed e.note (mem_log member (by rw [kind]; rfl))).application kind
  · rcases step_requeue host sound call t with same | ⟨d, source, asked, back⟩
    · rw [same.still n] at moved
      cases moved
    · have concluded := back.concluded
      have link := sound.linked _ source concluded.found concluded.operator
      have diagnoses := concluded.diagnoses sound
      rw [← diagnoses.named, concluded.known] at link
      obtain ⟨_, same, attempt⟩ := link.failed back.failed
      obtain rfl := Option.some.inj same
      have before : (history host calls).db.row? t = some source := back.named ▸ concluded.found
      have current : source.attempt = n := by
        simp only [requeued, before, Option.any_some, Bool.and_eq_true, decide_eq_true_eq] at moved
        exact moved.1.2
      refine ⟨d, Store.row?_mem concluded.known, asked, concluded.stage, concluded.succeeded, ?_,
        back.named ▸ diagnoses.source, ?_⟩
      · have action := concluded.action
        cases found : d.output.get? "next_action" <;> simp_all [Dict.getD]
      · rw [diagnoses.attempt, attempt, current]
  · have here := Store.row?_of_mem member
    obtain ⟨result, outcome⟩ := accepted_apply returned
    have applied := applyDiagnosis_applies sound here outcome
    have stepped (disk : Disk) (w : World) : step host w (disk, .applyDiagnosis d.taskId) =
        (applyDiagnosis host d.taskId w).2.1 := by
      simp only [step, Call.body, discard_run]
    rw [← stepped disk] at applied
    have kept := row_persists host sound here [(disk, .applyDiagnosis d.taskId)]
    have later := history_append host calls ((disk, .applyDiagnosis d.taskId) :: more)
    rw [later] at member' ⊢
    have there := Store.row?_of_mem member'
    rw [named] at there
    rw [stepped]
    refine applyDiagnosis_again there ?_
    exact applied_persists (step_sound sound _) kept applied more there attempt source

end InferForge

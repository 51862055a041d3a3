import InferForge.Progress
import InferForge.Scheduler.Diagnosis
import InferForge.Scheduler.Payloads
import InferForge.Scheduler.Readiness

/-! The progress view against the scheduler: which of its next actions the scheduler would carry
out in the state the view was made of. -/
namespace InferForge
open Py Effect Sched ResultValidation

section Views
variable (host : Host) (console : Console) {row : TaskRow} (tasks : List Task)
  (events : List TaskEvent) (now : Time)

theorem sourceError_ok (legible : Legible row) (stage : row.stage = .diagnosis) :
    ∃ reason, sourceError host row.view = .ok reason := by
  obtain ⟨fields, metadata, stored, nested⟩ := legible.report stage
  have bug : Dict.getD row.view.input "bug_report" (.obj []) = .obj fields := by
    simp [TaskRow.view, Dict.getD, stored]
  unfold sourceError
  rw [bug]
  by_cases told : ((fields.get? "message").getD .null).truthy = true
  · simp only [Json.get, ok_bind, told, if_true]
    exact ⟨_, rfl⟩
  · simp only [Json.get, ok_bind, told, nested]
    exact ⟨_, rfl⟩

theorem taskContext_ok (legible : Legible row) : ∃ c, taskContext host row.view events now = .ok c ∧
    c.task = row.view ∧ c.now = now := by
  obtain ⟨fields, stored⟩ : ∃ fields, Dict.getD row.view.input "workspace" (.obj []) = .obj fields := by
    have shape := legible.workspace
    revert shape
    change _ → ∃ fields, Dict.getD row.input "workspace" (.obj []) = .obj fields
    cases Dict.getD row.input "workspace" (.obj []) with
    | obj fields => exact fun _ => ⟨fields, rfl⟩
    | null | bool | int | float | str | arr => exact fun h => nomatch h
  unfold taskContext
  rw [stored]
  by_cases stage : row.view.stage = .diagnosis
  · obtain ⟨reason, told⟩ := sourceError_ok host legible stage
    exact ⟨_, by simp only [Json.get, stage, told, if_true]; rfl, rfl, rfl⟩
  · exact ⟨_, by simp only [Json.get, stage, if_false]; rfl, rfl, rfl⟩

/-- The action a view names for its task. -/
def Shows (view : Except Exn Explanation) (action : Json) : Prop :=
  ∃ e, view = .ok e ∧ e.nextAction.action = action

theorem running_view (legible : Legible row) (status : row.status = .running) :
    Shows (taskProgress host console row.view tasks events now)
      (.str (if row.expired now then "RECLAIM_TASK" else "MONITOR_WORKER")) := by
  obtain ⟨c, context, task, time⟩ := taskContext_ok host events now legible
  refine ⟨runningProgress host console c, ?_, ?_⟩
  · unfold taskProgress
    rw [context]
    simp [TaskRow.view, status]
  · have expired : row.expired now = (c.task.lease.any fun lease => lease.expires ≤ c.now) := by
      simp [TaskRow.expired, status, task, time, TaskRow.view]
    unfold runningProgress
    rw [expired]
    dsimp only
    split <;> rfl

theorem pending_view (legible : Legible row) (status : row.status = .pending) :
    Shows (taskProgress host console row.view tasks events now)
      (.str (if dependencyMet row.view tasks then "CLAIM_TASK" else "COMPLETE_DEPENDENCY")) := by
  obtain ⟨c, context, task, time⟩ := taskContext_ok host events now legible
  refine ⟨pendingProgress host console c tasks, ?_, ?_⟩
  · unfold taskProgress
    rw [context]
    simp [TaskRow.view, status]
  · unfold pendingProgress
    rw [task]
    cases dependencyMet row.view tasks <;> rfl

theorem failureMessage_ok (legible : Legible row) (status : row.status = .failed) :
    ∃ found, failureMessage host row.view = .ok found := by
  obtain ⟨fields, metadata, stored, nested⟩ := legible.failed status
  have error : Dict.getD row.view.output "error" (Dict.getD row.view.output "bug_report" (.obj [])) =
      .obj fields := by
    simp [TaskRow.view, Dict.getD, stored]
  have shape : Dict.getD fields "metadata" (.obj []) = .obj metadata := by
    simp [Dict.getD, nested]
  unfold failureMessage
  rw [error]
  dsimp only
  rw [shape]
  by_cases told : (Dict.getD fields "message" .null).truthy = true
  · exact ⟨_, by simp only [Json.get, told, if_true]; rfl⟩
  · exact ⟨_, by simp only [Json.get, told]; rfl⟩

theorem failed_view (legible : Legible row) (status : row.status = .failed) :
    ∃ action : Text, action ∈ ([Text.ofString "FOLLOW_DIAGNOSIS", "RECONCILE", "REVIEW_DIAGNOSIS_FAILURE"] : List Text) ∧
      Shows (taskProgress host console row.view tasks events now) (.str action) := by
  obtain ⟨c, context, task, time⟩ := taskContext_ok host events now legible
  obtain ⟨found, message⟩ := failureMessage_ok host legible status
  have viewed : taskProgress host console row.view tasks events now = failedProgress host console c tasks := by
    unfold taskProgress
    rw [context]
    simp only [TaskRow.view, status]
    rfl
  rw [viewed]
  unfold failedProgress
  rw [task, message]
  cases diagnosisOf row.view tasks with
  | some d => exact ⟨"FOLLOW_DIAGNOSIS", by simp, _, rfl, rfl⟩
  | none =>
    by_cases operator : row.view.stage ≠ .diagnosis
    · refine ⟨"RECONCILE", by simp, _, rfl, ?_⟩
      simp [TaskContext.result, operator]
    · refine ⟨"REVIEW_DIAGNOSIS_FAILURE", by simp, _, rfl, ?_⟩
      simp [TaskContext.result, operator]

theorem succeeded_view (legible : Legible row) (status : row.status = .succeeded)
    (operator : row.stage ≠ .diagnosis) :
    Shows (taskProgress host console row.view tasks events now) (.str "NONE") := by
  obtain ⟨c, context, task, time⟩ := taskContext_ok host events now legible
  unfold Shows taskProgress
  rw [context]
  simp only [TaskRow.view, status, operator]
  exact ⟨_, rfl, rfl⟩

/-- The conclusion of a diagnosis asks for `RETRY` or `BLOCKED`. -/
def Asks (row : TaskRow) : Prop :=
  Dict.getD row.output "next_action" .null = .str "RETRY" ∨
    Dict.getD row.output "next_action" .null = .str "BLOCKED"

/-- The action of a conclusion that the scheduler does not apply. -/
theorem conclusion_named {action : Text} (listed : action ∈ nextActions) : ∃ name : Text,
    (if (Json.str action).eq (.str "BLOCKED") then Json.str "RESOLVE_BLOCKER"
      else (Json.str action).or (.str "REVIEW_DIAGNOSIS")) = .str name ∧
    name ≠ "CLAIM_TASK" ∧ name ≠ "RECLAIM_TASK" ∧ name ≠ "APPLY_DIAGNOSIS" := by
  by_cases blocked : action = "BLOCKED"
  · subst blocked
    exact ⟨"RESOLVE_BLOCKER", if_pos (by simp), by simp, by simp, by simp⟩
  · have plain : (Json.str action).or (.str "REVIEW_DIAGNOSIS") = .str action := by
      simp only [nextActions, List.mem_cons, List.not_mem_nil, or_false] at listed
      rcases listed with rfl | rfl | rfl | rfl | rfl <;> rfl
    refine ⟨action, ?_, ?_, ?_, ?_⟩
    · rw [if_neg (by simpa using blocked), plain]
    all_goals
      rintro rfl
      simp [nextActions] at listed

/-- The view of a completed diagnosis asks to apply it if its source is still failed at the diagnosed
attempt, the scheduler can take the action, and it has not been applied. -/
theorem concluded_view (legible : Legible row) (status : row.status = .succeeded)
    (stage : row.stage = .diagnosis) :
    ∃ action, Shows (taskProgress host console row.view tasks events now) action ∧
      action ≠ .str "CLAIM_TASK" ∧ action ≠ .str "RECLAIM_TASK" ∧
      (action = .str "APPLY_DIAGNOSIS" ↔ sourceCurrent row.view tasks = true ∧ Asks row ∧
        events.any (isApplication row.view) = false) := by
  obtain ⟨c, context, task, time⟩ := taskContext_ok host events now legible
  obtain ⟨action, listed, asked⟩ := legible.concluded stage status
  have viewed : taskProgress host console row.view tasks events now =
      concludedProgress host console c tasks events := by
    unfold taskProgress
    rw [context]
    simp only [TaskRow.view, status, stage]
    rfl
  have asks : Asks row ↔ action = "RETRY" ∨ action = "BLOCKED" := by simp [Asks, asked]
  have known : inTexts (.str action) ["RETRY", "BLOCKED"] =
      .ok (action == "RETRY" || action == "BLOCKED") := by
    simp [inTexts, Json.hashable, Json.eq]
  rw [viewed]
  unfold concludedProgress
  rw [task, show Dict.getD row.view.output "next_action" .null = .str action from asked, asks]
  dsimp only
  by_cases consumed : (!sourceCurrent row.view tasks ||
      (events.any (isApplication row.view) && (Json.str action).eq (.str "RETRY"))) = true
  · rw [if_pos consumed]
    refine ⟨.str "NONE", ⟨_, rfl, rfl⟩, by simp, by simp, by simp, ?_⟩
    rintro ⟨current, _, fresh⟩
    simp [current, fresh] at consumed
  · rw [if_neg consumed, known, ok_bind]
    have current : sourceCurrent row.view tasks = true := by
      by_contra stale
      simp [stale] at consumed
    by_cases applicable : ((action == "RETRY" || action == "BLOCKED") &&
        !events.any (isApplication row.view)) = true
    · rw [if_pos applicable]
      refine ⟨.str "APPLY_DIAGNOSIS", ⟨_, rfl, rfl⟩, by simp, by simp, fun _ => ?_, fun _ => rfl⟩
      simpa [current] using applicable
    · rw [if_neg applicable]
      have refused : ¬ ((action = "RETRY" ∨ action = "BLOCKED") ∧
          events.any (isApplication row.view) = false) := by
        simpa using applicable
      obtain ⟨name, named, notClaim, notReclaim, notApply⟩ := conclusion_named listed
      refine ⟨.str name, ⟨_, rfl, named⟩, by simpa using notClaim, by simpa using notReclaim, ?_, ?_⟩
      · intro applies
        exact absurd (Json.str.inj applies) notApply
      · rintro ⟨_, asks, fresh⟩
        exact absurd ⟨asks, fresh⟩ refused

end Views

/-! The scheduler's side: the stage before a row has succeeded in every reachable state, and a
diagnosis that asks to be applied is applied. -/

section Reachable
variable {host : Host} {disk : Disk} {w : World}

/-- The row of the stage before, which has succeeded. -/
theorem Sound.upstream (sound : Sound w.ledger) {r : TaskRow} (stored : r ∈ w.db.tasks)
    (previous : r.stage.prev? = some before) : ∃ q ∈ w.db.tasks, q.runId = r.runId ∧
      q.operatorKey = r.operatorKey ∧ q.stage = before ∧ q.status = .succeeded := by
  have here := Store.row?_of_mem stored
  obtain ⟨q, found, succeeded⟩ := sound.staged _ r here before previous
  have operator : r.stage ≠ .diagnosis := fun h => by simp [h, Stage.prev?] at previous
  have earlier : before ≠ .diagnosis := by
    rintro rfl
    cases h : r.stage <;> simp [h, Stage.prev?] at previous
  have place := sound.place_of_id found earlier ((sound.shaped _ r here).operator operator).2.1
  simp only [TaskRow.place, Prod.mk.injEq] at place
  exact ⟨q, Store.row?_mem found, place.1, place.2.1, place.2.2, succeeded⟩

theorem Sound.upstreamSucceeded (sound : Sound w.ledger) {r : TaskRow} (stored : r ∈ w.db.tasks) :
    upstreamSucceeded w.db r = true := by
  unfold InferForge.upstreamSucceeded
  cases previous : r.stage.prev? with
  | none => rfl
  | some before =>
    obtain ⟨q, member, run, key, stage, succeeded⟩ := sound.upstream stored previous
    have place : q.place = (r.runId, r.operatorKey, before) := by simp [TaskRow.place, run, key, stage]
    cases found : w.db.stageRow? r.runId r.operatorKey before with
    | none =>
      have missing := List.find?_eq_none.mp found q member
      simp [run, key, stage] at missing
    | some q' =>
      have same : q'.runId = r.runId ∧ q'.operatorKey = r.operatorKey ∧ q'.stage = before := by
        simpa using List.find?_some found
      have alike : q'.place = q.place := by simp [TaskRow.place, same, run, key, stage]
      obtain rfl := List.inj_on_of_nodup_map w.db.taskPlace (List.mem_of_find?_eq_some found) member alike
      simp [found, succeeded]

/-- The tasks of a run, as a view is given them. -/
def Store.views (db : Store) (ties : Text → Nat) (runId : Text) : List Task :=
  (db.tasksOf ties runId).map TaskRow.view

theorem Sound.dependencyMet (sound : Sound w.ledger) {r : TaskRow} (stored : r ∈ w.db.tasks)
    (ties : Text → Nat) : dependencyMet r.view (w.db.views ties r.runId) = true := by
  unfold InferForge.dependencyMet
  cases previous : r.view.stage.prev? with
  | none => rfl
  | some before =>
    obtain ⟨q, member, run, key, stage, succeeded⟩ := sound.upstream stored previous
    have operator : r.stage ≠ .diagnosis := fun h => by simp [TaskRow.view, h, Stage.prev?] at previous
    have earlier : before ≠ .diagnosis := by
      rintro rfl
      revert previous
      cases r.view.stage <;> simp [Stage.prev?]
    refine List.any_eq_true.mpr ⟨q.view, List.mem_map_of_mem (Store.mem_tasksOf.mpr ⟨member, run⟩), ?_⟩
    simp [TaskRow.view, operator, earlier, stage, key, succeeded]

/-- The applications in the log are those of stored diagnoses, under their run. -/
def Placed (l : Ledger) : Prop := ∀ n ∈ l.log, n.eventType = .diagnosisApplied →
  ∃ r, l.row r.taskId = some r ∧ n.taskId = some r.taskId ∧ n.runId = r.runId

theorem Move.application {approves : Task → AdaptationRun → Dict → Text → Prop} {l l' : Ledger}
    {n : Note} (moved : Move host approves l a l') (member : n ∈ l'.log)
    (kind : n.eventType = .diagnosisApplied) :
    n ∈ l.log ∨ ∃ r, l.row r.taskId = some r ∧ n.taskId = some r.taskId ∧ n.runId = r.runId := by
  have added {m : Note} (last : n ∈ l.log ++ [m]) : n ∈ l.log ∨ n = m := by simpa using last
  have twice {m m' : Note} (last : n ∈ l.log ++ [m] ++ [m']) : n ∈ l.log ∨ n = m ∨ n = m' := by
    simpa [or_assoc] using last
  cases moved with
  | wait | openRun | furnish | bind | adjust | release | renew => exact .inl member
  | discover | create | claim | succeed | failDiagnosis =>
    rcases added member with old | rfl
    · exact .inl old
    · cases kind
  | failFirst | failAgain =>
    rcases twice member with old | rfl | rfl
    · exact .inl old
    · cases kind
    · cases kind
  | retry d s input concluded =>
    rcases added member with old | rfl
    · exact .inl old
    · exact .inr ⟨d, concluded.known, rfl, rfl⟩
  | consume d s concluded =>
    rcases added member with old | rfl
    · exact .inl old
    · exact .inr ⟨d, concluded.known, rfl, rfl⟩

theorem history_placed (calls : List (Disk × Call)) : Placed (history host calls).ledger := by
  refine foldl_keeps host (P := Placed) ?_ (w := World.empty) Sound.empty (fun n member => nomatch member) calls
  intro _ l a l' moved sound placed n member kind
  obtain ⟨notes, rows⟩ := moved.rows sound
  have before : ∃ r, l.row r.taskId = some r ∧ n.taskId = some r.taskId ∧ n.runId = r.runId := by
    rcases moved.application member kind with old | new
    · exact placed n old kind
    · exact new
  obtain ⟨r, here, named, run⟩ := before
  obtain ⟨r', there, change⟩ := rows.old _ r here
  have same := change.sameKey
  exact ⟨r', same.taskId ▸ there, same.taskId ▸ named, run.trans same.runId.symm⟩

/-- What the tables hold of a completed diagnosis and its source. -/
structure Conclusion (w : World) (d s : TaskRow) : Prop where
  stored : d ∈ w.db.tasks
  source : s ∈ w.db.tasks
  diagnoses : Diagnoses d s
  current : s.status = .failed → sourceAttempt d = s.attempt
  applied : s.status ≠ .failed → w.db.applied d.view = true

theorem Sound.conclusion (sound : Sound w.ledger) (placed : Placed w.ledger) {d : TaskRow}
    (stored : d ∈ w.db.tasks) (stage : d.stage = .diagnosis) : ∃ s, Conclusion w d s := by
  have here := Store.row?_of_mem stored
  obtain ⟨s, known, diagnoses⟩ := (sound.shaped _ d here).diagnosis stage
  have link := sound.linked _ s known diagnoses.operator
  rw [← diagnoses.named, show w.ledger.row d.taskId = some d from here] at link
  refine ⟨s, stored, Store.row?_mem known, diagnoses, fun failed => ?_, fun other => ?_⟩
  · obtain ⟨_, same, attempt⟩ := link.failed failed
    exact Option.some.inj same ▸ attempt
  · obtain ⟨n, logged, kind, named, attempt, count⟩ := (link.settled other d rfl).applied
    obtain ⟨r, found, same, run⟩ := placed n logged kind
    obtain ⟨e, member, rfl⟩ := List.mem_map.mp (List.mem_filter.mp logged).1
    obtain rfl : r = d := by
      rw [Option.some.inj (same.symm.trans named)] at found
      exact Option.some.inj (found.symm.trans here)
    refine applied_iff.mpr ⟨e, member, run, isApplication_iff.mpr ⟨⟨⟨kind, named⟩, ?_⟩, ?_⟩⟩
    · have payload : Dict.get? e.payload "source_attempt" = _ := attempt
      simp [Dict.getD, payload, TaskRow.view, diagnoses.attempt]
    · have payload : Dict.get? e.payload "diagnosis_attempt" = _ := count
      simp [Dict.getD, payload, TaskRow.view]

/-- The source is current for the view exactly while it is failed. -/
theorem Conclusion.sourceCurrent {d s : TaskRow} (conclusion : Conclusion w d s) (ties : Text → Nat) :
    sourceCurrent d.view (w.db.views ties d.runId) = true ↔ s.status = .failed := by
  have diagnoses := conclusion.diagnoses
  have names : Dict.getD d.view.input "source_task_id" .null = .str s.taskId := by
    simp [TaskRow.view, Dict.getD, diagnoses.source]
  have attempt : Dict.getD d.view.input "source_attempt" .null = .int (sourceAttempt d) := by
    simp [TaskRow.view, Dict.getD, diagnoses.attempt]
  have listed : s.view ∈ w.db.views ties d.runId :=
    List.mem_map_of_mem (Store.mem_tasksOf.mpr ⟨conclusion.source, diagnoses.run.symm⟩)
  have found : (w.db.views ties d.runId).find? (fun t => (Json.str t.taskId).eq (.str s.taskId)) =
      some s.view := by
    cases search : (w.db.views ties d.runId).find? (fun t => (Json.str t.taskId).eq (.str s.taskId)) with
    | none =>
      have missing := List.find?_eq_none.mp search s.view listed
      simp [TaskRow.view] at missing
    | some t =>
      obtain ⟨r, member, rfl⟩ := List.mem_map.mp (List.mem_of_find?_eq_some search)
      have hit : (Json.str r.view.taskId).eq (.str s.taskId) = true := by
        simpa only using List.find?_some search
      have same : r.taskId = s.taskId := Json.str.inj ((Json.eq_str_right _ _).mp hit)
      have stored := (Store.mem_tasksOf.mp member).1
      rw [List.inj_on_of_nodup_map w.db.taskKey stored conclusion.source same]
  unfold InferForge.sourceCurrent
  rw [names, found, attempt]
  simp only [Option.any_some, Bool.and_eq_true, decide_eq_true_eq, TaskRow.view, Json.eq_int]
  constructor
  · exact fun h => h.1
  · exact fun failed => ⟨failed, by rw [conclusion.current failed]⟩

theorem Conclusion.checked (host : Host) {d s : TaskRow} (conclusion : Conclusion w d s) (stage : d.stage = .diagnosis)
    (status : d.status = .succeeded) (asks : Asks d) :
    ∃ action, checkDiagnosis host w.db d.view = .ok (s.view, action) := by
  have diagnoses := conclusion.diagnoses
  have shown : d.view.sourceTaskId = .str s.taskId := by
    simp [TaskRow.view, stage, Dict.getD, diagnoses.source]
  have sourced : sourceOf host w.db d.view = .ok s.view := by
    simp only [sourceOf, shown, taskByJson, ok_bind, Store.row?_of_mem conclusion.source]
    simp [refuse, diagnoses.operator]
  have next : ∃ action, nextAction d.view = .ok action := by
    rcases asks with retry | blocked
    · refine ⟨"RETRY", ?_⟩
      rw [nextAction, show Dict.getD d.view.output "next_action" .null = .str "RETRY" from retry]
      rfl
    · refine ⟨"BLOCKED", ?_⟩
      rw [nextAction, show Dict.getD d.view.output "next_action" .null = .str "BLOCKED" from blocked]
      rfl
  obtain ⟨action, next⟩ := next
  have key : s.view.operatorKey.eq d.view.operatorKey = true := by
    simp [TaskRow.view, stage, diagnoses.operator, Dict.getD, diagnoses.key]
  refine ⟨action, ?_⟩
  unfold checkDiagnosis
  rw [sourced, next]
  have kind : d.view.stage = .diagnosis := stage
  have done : d.view.status = .succeeded := status
  have run : s.view.runId = d.view.runId := diagnoses.run.symm
  simp [refuse, kind, done, run, key]

/-- Applying a completed diagnosis raises unless it asks for an action the scheduler takes; it logs
that it was applied, unless it was before. -/
theorem Conclusion.apply_exact (host : Host) {d s : TaskRow} (sound : Sound w.ledger) (conclusion : Conclusion w d s)
    (stage : d.stage = .diagnosis) (status : d.status = .succeeded) :
    Prog.wp (applyDiagnosis host d.taskId)
      (fun _ v => Asks d ∧ v.db.events.length =
        w.db.events.length + if w.db.applied d.view = true then 0 else 1)
      (fun _ _ => ¬ Asks d) w := by
  have here := Store.row?_of_mem conclusion.stored
  rw [applyDiagnosis, atomic, Prog.wp_transact]
  simp only [Prog.wp_bind, wp_query]
  rw [here]
  simp only [Prog.wp_bind, wp_query]
  rw [Prog.wp_lift]
  constructor
  · rintro ⟨source, action⟩ ok
    obtain ⟨src, rfl, concluded, known⟩ := checkDiagnosis_spec sound here ok
    have asks : Asks d := by
      rcases known with rfl | rfl
      · exact .inl concluded.action
      · exact .inr concluded.action
    obtain rfl : src = s := by
      have named := Json.str.inj (Option.some.inj
        ((concluded.diagnoses sound).source.symm.trans conclusion.diagnoses.source))
      exact List.inj_on_of_nodup_map w.db.taskKey (Store.row?_mem concluded.found) conclusion.source named
    rw [Prog.wp_ite]
    constructor
    · intro applied
      exact ⟨asks, by rw [if_pos (show w.db.applied d.view = true from applied)]; rfl⟩
    · intro fresh
      have failed : src.status = .failed := by
        by_contra other
        exact fresh (conclusion.applied other)
      have fresh : ¬ w.db.applied d.view = true := fresh
      have stored := Store.row?_of_mem conclusion.source
      -- the event is logged, and the source is still there to be returned
      have logged {v : World} (events : v.db.events = w.db.events) (there : (v.db.row? src.taskId).isSome) :
          Prog.wp (do
            emit host d.view.runId .diagnosisApplied (applicationEvent d.view src.view action)
              d.view.taskId
            requireTask src.view.taskId)
            (fun _ v => Asks d ∧ v.db.events.length = w.db.events.length + 1) (fun _ _ => ¬ Asks d) v := by
        obtain ⟨q, found⟩ := Option.isSome_iff_exists.mp there
        rw [Prog.wp_bind, wp_emit]
        simp only [requireTask, Prog.wp_bind, wp_query]
        rw [show (v.db.append _).row? src.view.taskId = some q from found]
        exact ⟨asks, by simp [Store.append, events]⟩
      rw [if_neg fresh, Prog.wp_ite]
      constructor
      · intro _
        simp only [retrySource, Prog.wp_bind]
        rw [Prog.wp_require]
        refine ⟨fun _ => ?_, fun other => by simp [TaskRow.view, failed] at other⟩
        simp only [wp_query, wp_execute]
        rw [Prog.wp_require]
        have one : (w.db.tasks.filter fun r => r.taskId = src.view.taskId && r.status = .failed).length = 1 := by
          have split := List.filter_filter (p := fun r : TaskRow => decide (r.status = .failed))
            (q := fun r => decide (r.taskId = src.view.taskId)) (l := w.db.tasks)
          simp only [Bool.and_comm] at split ⊢
          rw [← split, show w.db.tasks.filter (fun r => r.taskId = src.view.taskId) = [src] from
            Store.filter_named stored]
          simp [failed]
        refine ⟨fun _ => ?_, fun none => by simp [one] at none⟩
        have kept := logged (v := ⟨w.db.updateTasks
          (fun r => r.taskId = src.view.taskId && r.status = .failed)
          (TaskRow.retried (src.view.input.set "recovery" (recovery d.view "RETRY"))), w.readings, w.tokens⟩) rfl
          (by rw [Store.row?_updateTasks, stored]; rfl)
        rwa [Prog.wp_bind] at kept
      · intro _
        exact logged (v := w) rfl (by rw [stored]; rfl)
  · intro e rejected asks
    obtain ⟨action, ok⟩ := conclusion.checked host stage status asks
    cases rejected.symm.trans ok

end Reachable

/-- The view of a stored row at a time, as `run_progress` makes it. -/
def progressOf (host : Host) (console : Console) (disk : Disk) (w : World) (row : TaskRow) (now : Time) :
    Except Exn Explanation :=
  taskProgress host console row.view (w.db.views disk.ties row.runId) (w.db.eventsOf row.runId) now

/-- The view gives this next action. -/
def names (view : Except Exn Explanation) (action : Text) : Bool :=
  match view with
  | .ok e => e.nextAction.action.eq (.str action)
  | .error _ => false

/-- A claim for the row's stage returns the row. -/
def claimsTask (host : Host) (disk : Disk) (w : World) (worker : Text) (seconds : Rat) (limit : Int)
    (row : TaskRow) : Bool :=
  match (claimReady host disk worker (some row.stage.text) (.fin seconds) limit w).1 with
  | .ok tasks => tasks.any fun task => task.taskId = row.taskId
  | .error _ => false

/-- Applying the row as a diagnosis succeeds and appends an event. -/
def appliesTask (host : Host) (w : World) (row : TaskRow) : Bool :=
  match applyDiagnosis host row.taskId w with
  | (.ok _, v) => v.1.db.events.length = w.db.events.length + 1
  | (.error _, _) => false

/-- The next actions of the view are what the scheduler would do at that time. -/
def Agrees (host : Host) (console : Console) (disk : Disk) (w : World) (worker : Text) (seconds : Rat)
    (limit : Int) (t : TaskRow) : Prop :=
  ((names (progressOf host console disk w t (host.clock w.readings)) "CLAIM_TASK" = true ∨
      names (progressOf host console disk w t (host.clock w.readings)) "RECLAIM_TASK" = true) ↔
    claimsTask host disk w worker seconds limit t = true) ∧
  (names (progressOf host console disk w t (host.clock w.readings)) "APPLY_DIAGNOSIS" = true ↔
    appliesTask host w t = true)

/-- Nothing beyond the task's own queue state keeps a claim from returning it: the environment gate
of an operator task is open, and a claim for its stage gets past every queued row. -/
def Unobstructed (host : Host) (disk : Disk) (w : World) (t : TaskRow) : Prop :=
  Queued w (host.clock w.readings) t.stage t → (t.stage ≠ .diagnosis → Ready w.ledger t) ∧
    ∀ c, Queued w (host.clock w.readings) t.stage c → Passes host disk w c

section Agreement
variable {host : Host} {console : Console} {disk : Disk} {w : World} {row : TaskRow}

theorem Shows.names {view : Except Exn Explanation} {action : Json} (shown : Shows view action)
    (text : Text) : names view text = true ↔ action = .str text := by
  obtain ⟨e, rfl, rfl⟩ := shown
  exact Json.eq_str_right _ _

/-- The view offers a claim for the rows that are queued. -/
theorem names_claim (sound : Sound w.ledger) (legible : w.db.Legible) (stored : row ∈ w.db.tasks)
    (now : Time) :
    (names (progressOf host console disk w row now) "CLAIM_TASK" = true ∨
      names (progressOf host console disk w row now) "RECLAIM_TASK" = true) ↔
    Queued w now row.stage row := by
  have own := legible row stored
  unfold progressOf
  cases status : row.status with
  | running =>
    have shown := running_view host console
      (w.db.views disk.ties row.runId) (w.db.eventsOf row.runId) now own status
    rw [shown.names, shown.names]
    simp only [Queued, stored, status, true_and, reduceCtorEq, false_or]
    by_cases expired : row.expired now = true <;> simp [expired]
  | pending =>
    have shown := pending_view host console
      (w.db.views disk.ties row.runId) (w.db.eventsOf row.runId) now own status
    rw [shown.names, shown.names, sound.dependencyMet stored]
    simp [Queued, stored, status]
  | failed =>
    obtain ⟨action, listed, shown⟩ := failed_view host console
      (w.db.views disk.ties row.runId) (w.db.eventsOf row.runId) now own status
    rw [shown.names, shown.names]
    simp only [Queued, TaskRow.expired, status, Json.str.injEq]
    simp only [List.mem_cons, List.not_mem_nil, or_false] at listed
    rcases listed with rfl | rfl | rfl <;> simp
  | succeeded =>
    have idle : ¬ Queued w now row.stage row := by simp [Queued, TaskRow.expired, status]
    by_cases stage : row.stage = .diagnosis
    · obtain ⟨action, shown, notClaim, notReclaim, _⟩ := concluded_view host console
        (w.db.views disk.ties row.runId) (w.db.eventsOf row.runId) now own
        status stage
      rw [shown.names, shown.names]
      simp only [notClaim, notReclaim, idle, or_self]
    · have shown := succeeded_view host console
        (w.db.views disk.ties row.runId) (w.db.eventsOf row.runId) now own
        status stage
      rw [shown.names, shown.names]
      simp [idle]

theorem appliesTask_conclusion {s : TaskRow} (sound : Sound w.ledger) (conclusion : Conclusion w row s)
    (stage : row.stage = .diagnosis) (status : row.status = .succeeded) :
    appliesTask host w row = true ↔ Asks row ∧ w.db.applied row.view = false := by
  have applied := conclusion.apply_exact host sound stage status
  unfold appliesTask
  rcases run : applyDiagnosis host row.taskId w with ⟨e | a, v⟩
  · have refused := applied.raised (congrArg Prod.fst run)
    simp [refused]
  · obtain ⟨asks, events⟩ := applied.returned (congrArg Prod.fst run)
    rw [show (applyDiagnosis host row.taskId w).2 = v from congrArg Prod.snd run] at events
    simp only [events, asks, true_and, decide_eq_true_eq]
    by_cases fresh : w.db.applied row.view = true <;> simp [fresh]

/-- Nothing but a completed diagnosis is applied. -/
theorem appliesTask_other (stored : row ∈ w.db.tasks)
    (other : ¬ (row.stage = .diagnosis ∧ row.status = .succeeded)) : appliesTask host w row = false := by
  have stuck : Prog.wp (applyDiagnosis host row.taskId) (fun _ _ => False) (fun _ _ => True) w := by
    rw [applyDiagnosis, atomic, Prog.wp_transact]
    simp only [Prog.wp_bind, wp_query]
    rw [Store.row?_of_mem stored]
    simp only [Prog.wp_bind, wp_query]
    refine wlp_lift fun checked ok => absurd ?_ other
    simp only [checkDiagnosis, bind_ok, refuse_ok, decide_eq_false_iff_not, ne_eq, not_not] at ok
    obtain ⟨_, stage, _, status, _⟩ := ok
    exact ⟨stage, status⟩
  unfold appliesTask
  rcases run : applyDiagnosis host row.taskId w with ⟨e | a, v⟩
  · rfl
  · exact (stuck.returned (congrArg Prod.fst run)).elim

/-- The view offers to apply exactly the diagnoses whose application changes the log. -/
theorem names_apply (host : Host) (console : Console) (disk : Disk) (sound : Sound w.ledger) (placed : Placed w.ledger) (legible : w.db.Legible)
    (stored : row ∈ w.db.tasks) (now : Time) :
    names (progressOf host console disk w row now) "APPLY_DIAGNOSIS" = true ↔
      appliesTask host w row = true := by
  have own := legible row stored
  unfold progressOf
  by_cases completed : row.stage = .diagnosis ∧ row.status = .succeeded
  · obtain ⟨stage, status⟩ := completed
    obtain ⟨s, conclusion⟩ := sound.conclusion placed stored stage
    obtain ⟨action, shown, _, _, applies⟩ := concluded_view host console
      (w.db.views disk.ties row.runId) (w.db.eventsOf row.runId) now own
      status stage
    rw [shown.names, applies, conclusion.sourceCurrent, appliesTask_conclusion sound conclusion stage status]
    have same : (w.db.eventsOf row.runId).any (isApplication row.view) = w.db.applied row.view := rfl
    rw [same]
    constructor
    · exact fun h => h.2
    · rintro ⟨asks, fresh⟩
      refine ⟨?_, asks, fresh⟩
      by_contra other
      simp [conclusion.applied other] at fresh
  · rw [appliesTask_other stored completed]
    simp only [Bool.false_eq_true, iff_false]
    cases status : row.status with
    | running =>
      have shown := running_view host console
        (w.db.views disk.ties row.runId) (w.db.eventsOf row.runId) now own status
      rw [shown.names]
      split <;> simp
    | pending =>
      have shown := pending_view host console
        (w.db.views disk.ties row.runId) (w.db.eventsOf row.runId) now own status
      rw [shown.names]
      split <;> simp
    | failed =>
      obtain ⟨action, listed, shown⟩ := failed_view host console
        (w.db.views disk.ties row.runId) (w.db.eventsOf row.runId) now own status
      rw [shown.names]
      simp only [List.mem_cons, List.not_mem_nil, or_false] at listed
      rcases listed with rfl | rfl | rfl <;> simp
    | succeeded =>
      have operator : row.stage ≠ .diagnosis := fun stage => completed ⟨stage, status⟩
      have shown := succeeded_view host console
        (w.db.views disk.ties row.runId) (w.db.eventsOf row.runId) now own
        status operator
      rw [shown.names]
      simp

theorem claimsTask_iff (sound : Sound w.ledger) (stored : row ∈ w.db.tasks) {worker : Text}
    (named : worker.isEmpty = false) (encodable : worker.encodable = true) {seconds : Rat}
    (positive : 0 < seconds) {limit : Int} (large : w.db.tasks.length ≤ limit) (some' : 0 < limit) :
    claimsTask host disk w worker seconds limit row = true ↔
      (∀ c, Queued w (host.clock w.readings) row.stage c → Passes host disk w c) ∧
        Queued w (host.clock w.readings) row.stage row ∧ Claimable w row := by
  have exact' := claimReady_exact host disk sound row.stage named encodable positive
    large some'
  unfold claimsTask
  cases outcome : (claimReady host disk worker (some row.stage.text) (.fin seconds) limit w).1 with
  | error e =>
    obtain ⟨c, queued, stuck⟩ := exact'.raised outcome
    simp only [Bool.false_eq_true, false_iff]
    exact fun h => stuck (h.1 c queued)
  | ok tasks =>
    obtain ⟨passes, ids⟩ := exact'.returned outcome
    have listed : (tasks.any fun task => decide (task.taskId = row.taskId)) = true ↔
        row.taskId ∈ tasks.map Task.taskId := by
      simp
    rw [listed, ids]
    constructor
    · rintro ⟨c, queued, same, claimable⟩
      obtain rfl := List.inj_on_of_nodup_map w.db.taskKey queued.1 stored same
      exact ⟨passes, queued, claimable⟩
    · rintro ⟨_, queued, claimable⟩
      exact ⟨row, queued, rfl, claimable⟩

end Agreement
/-- The progress view and the scheduler. In every reachable state, the view of a task offers the
claim that would return it, and the application that would be logged, if and only if nothing
obstructs the task. -/
theorem progress_agrees (host : Host) (console : Console) (calls : List (Disk × Call)) (disk : Disk)
    (t : TaskRow) (stored : t ∈ (history host calls).db.tasks) (worker : Text)
    (named : worker.isEmpty = false) (encodable : worker.encodable = true) (seconds : Rat)
    (positive : 0 < seconds) (limit : Int) (some' : 0 < limit)
    (large : (history host calls).db.tasks.length ≤ limit) :
    Agrees host console disk (history host calls) worker seconds limit t ↔
      Unobstructed host disk (history host calls) t := by
  have sound : Sound (history host calls).ledger := history_sound calls
  have legible : (history host calls).db.Legible := history_legible calls
  have apply := names_apply host console disk sound
    (history_placed calls) legible stored (host.clock (history host calls).readings)
  have claimable : Claimable (history host calls) t ↔
      (t.stage ≠ .diagnosis → Ready (history host calls).ledger t) := by
    constructor
    · exact fun h operator => (h operator).1
    · exact fun h operator => ⟨h operator, sound.upstreamSucceeded stored⟩
  unfold Agrees
  rw [and_iff_left apply, names_claim sound legible stored,
    claimsTask_iff sound stored named encodable positive large some', claimable]
  constructor
  · intro agree queued
    obtain ⟨passes, _, ready⟩ := agree.mp queued
    exact ⟨ready, passes⟩
  · intro condition
    constructor
    · intro queued
      obtain ⟨ready, passes⟩ := condition queued
      exact ⟨passes, queued, ready⟩
    · exact fun h => h.2.1

/-- A simulation run that asks for an environment after its operator was discovered. -/
def gatedCalls : List (Disk × Call) :=
  [.createRun ⟨"run", "model", "1", "1", "xpu", "DISCOVERED", [],
      [("evidence_mode", .str "simulation")]⟩,
    .discoverOperator "run" .sample,
    .recordGraphTransition "run" "graph_environment_required" []].map (Disk.sample, ·)

def Console.sample : Console := ⟨"python3", .ofText "/repo", "/state/state.db"⟩

theorem progress_agrees_sample : ∃ t ∈ (history .sample gatedCalls).db.tasks,
    Agrees .sample .sample .sample (history .sample gatedCalls) "torch-worker" 300 1 t ↔
      Unobstructed .sample .sample (history .sample gatedCalls) t := by
  have one : (history .sample gatedCalls).db.tasks.length = 1 := by decide +kernel
  obtain ⟨t, stored⟩ := List.exists_mem_of_length_pos (one ▸ Nat.one_pos)
  refine ⟨t, stored, ?_⟩
  exact progress_agrees .sample .sample gatedCalls .sample t stored "torch-worker" (by decide) (by decide)
    300 (by decide +kernel) 1 one_pos (by rw [one]; rfl)

/-- A queued task behind a closed gate: the view offers a claim that returns nothing. -/
theorem gated_task_unclaimed : ∃ t ∈ (history .sample gatedCalls).db.tasks,
    ¬ Agrees .sample .sample .sample (history .sample gatedCalls) "torch-worker" 300 1 t := by
  have drift : (history .sample gatedCalls).db.tasks.any (fun t =>
      names (progressOf .sample .sample .sample (history .sample gatedCalls) t
        (Host.sample.clock (history .sample gatedCalls).readings)) "CLAIM_TASK" &&
      !claimsTask .sample .sample (history .sample gatedCalls) "torch-worker" 300 1 t) = true := by
    decide +kernel
  obtain ⟨t, stored, seen⟩ := List.any_eq_true.mp drift
  refine ⟨t, stored, fun agrees => ?_⟩
  rw [Bool.and_eq_true, Bool.not_eq_true'] at seen
  exact Bool.false_ne_true (seen.2.symm.trans (agrees.1.mp (.inl seen.1)))

end InferForge

import InferForge.Scheduler.Replay

/-! The stage pipeline: one row per stage, stages in order, success final, and a
validated submission as the only way to it. -/
namespace InferForge
open Py Effect Sched Transition Lifecycle ResultValidation

/-- The task has succeeded. -/
def Ledger.Done (l : Ledger) (t : Text) : Prop := ∃ r, l.row t = some r ∧ r.status = .succeeded

section Moves
variable {host : Host} {disk : Disk} {l l' : Ledger}

/-- Only one kind of move makes a task succeed. -/
theorem Move.done (moved : Move host approves l a l') (sound : Sound l) (after : l'.Done t)
    (other : a ≠ .succeed t) : l.Done t := by
  obtain ⟨notes, rows⟩ := moved.rows sound
  obtain ⟨r', here', status⟩ := after
  cases here : l.row t with
  | none =>
    obtain ⟨⟨pending, _⟩, _⟩ := rows.new t r' here here'
    simp [status] at pending
  | some r =>
    obtain ⟨_, found, change⟩ := rows.old t r here
    obtain rfl := Option.some.inj (found.symm.trans here')
    generalize marks t notes = history at change
    cases change with
    | same => exact ⟨r, here, status⟩
    | succeed => exact absurd (congrArg Action.succeed (sound.named here)) other
    | renew => exact ⟨r, here, status⟩
    | claim | release | fail | reopen | retry => cases status

theorem Steps.done (steps : Steps host disk allowed l l') (sound : Sound l)
    (other : ¬ allowed (.succeed t)) (after : l'.Done t) : l.Done t := by
  obtain ⟨as, path, labels⟩ := steps
  by_contra before
  obtain ⟨u, a, v, permitted, moved, sound', here, there⟩ := path.exists_step
    (P := (Ledger.Done · t)) allowed (fun _ _ _ moved _ => moved.keeps) labels sound before after
  exact here (moved.done sound' there fun same => other (same ▸ permitted))

/-- A succeeded operator row is never written again. -/
theorem Move.keeps_row (moved : Move host approves l a l') (sound : Sound l)
    (here : l.row t = some r) (status : r.status = .succeeded) (stage : r.stage ≠ .diagnosis) :
    l'.row t = some r := by
  obtain ⟨_, rows⟩ := moved.rows sound
  obtain ⟨r', found, change⟩ := rows.old t r here
  have free : r.lease = none := by
    have leased := sound.leased here
    cases held : r.lease with
    | none => rfl
    | some lease => simp [held, status] at leased
  rw [found, change.of_succeeded status stage free]

end Moves

/-- A submission the scheduler accepts: under the live lease of the row, and valid for the row
as it stands and the worker recorded at its claim. -/
structure Approved (host : Host) (disk : Disk) (w : World) (row : TaskRow) (lease : Lease)
    (worker : Option Text) (result : Option Json) (token : Option Text) : Prop where
  stored : row ∈ w.db.tasks
  held : row.lease = some lease
  live : host.clock w.readings < lease.expires
  owned : ownsLease row worker token (host.clock w.readings) = true
  claimed : ∃ e ∈ w.db.claimsOf row.taskId,
    e.payload.get? "worker_id" = some (.str lease.worker) ∧
    e.payload.get? "attempt" = some (.int row.attempt)
  valid : ∃ run output, w.db.run? row.runId = some run ∧ submitted result = .ok output ∧
    validateResult host disk row.view run output (.str lease.worker) = .ok []

section Calls
variable {host : Host} {w : World}

theorem failTask_done {disk : Disk} (sound : Sound w.ledger) (t : Text) (worker : Option Text) (error : Json)
    (token : Option Text) (fresh : ¬ w.ledger.Done t) :
    Prog.wlp (failTask host disk t worker error token) (fun _ v => ¬ v.ledger.Done t) w :=
  (failTask_steps (fun a => a = .wait ∨ a = .fail t) sound (.inl rfl) t (.inr rfl) worker error
    token).mono (fun _ _ _ steps after => fresh (steps.done sound (by simp) after))
      fun _ _ _ h => h

/-- A task that succeeds in a `complete` was approved. -/
theorem complete_approved {disk : Disk} (sound : Sound w.ledger) (fresh : ¬ w.ledger.Done t)
    (after : (complete host disk t worker result token w).2.1.ledger.Done t) :
    ∃ row lease, row.taskId = t ∧ Approved host disk w row lease worker result token := by
  revert after
  refine atomic_spec (P := fun v => v.ledger.Done t → _) ?_ fun v _ done => absurd done fresh
  simp only [Prog.wlp, Prog.wp_bind]
  refine wlp_requireTask fun row here => wlp_ownedLease fun row' here' owned => ?_
  obtain rfl := Option.some.inj (here.symm.trans here')
  obtain ⟨lease, held, _, live, _⟩ := ownsLease_spec owned
  rw [held]
  simp only [Prog.wp_bind]
  refine wlp_lift fun output given => wlp_requireRun fun run found => wlp_lift fun errors checked => ?_
  have named := Store.row?_named here
  rw [Prog.wp_ite]
  refine ⟨fun _ => ?_, fun accepted => ?_⟩
  · let u : World := ⟨w.db, w.readings + 1, w.tokens⟩
    have waited : Steps host disk (· = .wait) w.ledger u.ledger :=
      Steps.wait rfl ⟨Nat.le_succ _, le_rfl⟩ (.self w _ _)
    exact (failTask_done (w := u) (waited.sound sound) t _ _ _ fresh).mono
      (fun _ _ _ stopped done => absurd done stopped) fun _ _ _ h => h
  · obtain rfl : errors = [] := by simpa using accepted
    refine Prog.wp_of_runs (fun _ _ _ _ => ⟨row, lease, named, ?_⟩) fun _ _ _ => trivial
    exact ⟨Store.row?_mem here, held, live, owned, sound.claim_of_lease (named.symm ▸ here) held,
      run, output, found, given, checked⟩

/-- A task that succeeds in a call was approved in it. -/
theorem step_done (sound : Sound w.ledger) (call : Disk × Call) (fresh : ¬ w.ledger.Done t)
    (after : (step host w call).ledger.Done t) : ∃ worker result token row lease,
      call.2 = .complete t worker result token ∧ row.taskId = t ∧
      Approved host call.1 w row lease worker result token := by
  have permitted : call.2.permits (.succeed t) := by
    by_contra other
    exact fresh ((step_steps host sound call).done sound other after)
  obtain ⟨disk, call⟩ := call
  cases call with
  | complete t' worker result token =>
    obtain rfl : t = t' := permitted
    simp only [step, Call.body, discard_run] at after
    obtain ⟨row, lease, named, approved⟩ := complete_approved sound fresh after
    exact ⟨worker, result, token, row, lease, rfl, named, approved⟩
  | _ => exact absurd permitted (by simp [Call.permits])

theorem done_iff : w.ledger.Done t ↔
    ∃ r ∈ w.db.tasks, r.taskId = t ∧ r.status = .succeeded := by
  constructor
  · rintro ⟨r, here, status⟩
    exact ⟨r, Store.row?_mem here, Store.row?_named here, status⟩
  · rintro ⟨r, member, rfl, status⟩
    exact ⟨r, Store.row?_of_mem member, status⟩

theorem place_unique (db : Store) (place : Text × Text × Stage) :
    (db.tasks.filter fun r => r.place = place).length ≤ 1 := by
  have once := List.nodup_iff_count_le_one.mp db.taskPlace place
  rw [List.count, List.countP_map, List.countP_eq_length_filter] at once
  simpa only [Function.comp_def, beq_eq_decide] using once

end Calls

/-- The stage pipeline, in every state of every history: one row per stage, a stage only after
the one before it has succeeded, success final, and reached by an approved submission only. -/
theorem stage_pipeline (host : Host) (calls : List (Disk × Call)) :
    (∀ runId key stage, ((history host calls).db.tasks.filter fun r =>
      r.place = (runId, key, stage)).length ≤ 1) ∧
    (∀ r ∈ (history host calls).db.tasks, ∀ before, r.stage.prev? = some before →
      ∃ q ∈ (history host calls).db.tasks, q.place = (r.runId, r.operatorKey, before) ∧
        q.status = .succeeded) ∧
    (∀ r ∈ (history host calls).db.tasks, r.stage ≠ .diagnosis → r.status = .succeeded →
      ∀ more, r ∈ (history host (calls ++ more)).db.tasks) ∧
    (∀ call, ∀ r ∈ (step host (history host calls) call).db.tasks, r.status = .succeeded →
      (∀ q ∈ (history host calls).db.tasks, q.taskId = r.taskId → q.status ≠ .succeeded) →
      ∃ worker result token row lease, call.2 = .complete r.taskId worker result token ∧
        row.taskId = r.taskId ∧
        Approved host call.1 (history host calls) row lease worker result token) := by
  have sound : Sound (history host calls).ledger := history_sound calls
  refine ⟨fun runId key stage => place_unique _ _, fun r member before follows => ?_,
    fun r member stage status more => ?_, fun call r member status fresh => ?_⟩
  · obtain ⟨q, found, status⟩ := sound.staged r.taskId r (Store.row?_of_mem member) before follows
    obtain ⟨operator, earlier, _⟩ := prev_operator follows
    have long := ((sound.shaped r.taskId r (Store.row?_of_mem member)).operator operator).2.1
    exact ⟨q, Store.row?_mem found, sound.place_of_id found earlier long, status⟩
  · have kept : (history host (calls ++ more)).ledger.row r.taskId = some r := by
      rw [history_append]
      exact foldl_keeps host (P := fun l => l.row r.taskId = some r)
        (fun _ _ _ _ moved sound here => moved.keeps_row sound here status stage) sound
        (Store.row?_of_mem member) more
    exact Store.row?_mem kept
  · refine step_done sound call ?_ (done_iff.mpr ⟨r, member, rfl, status⟩)
    rintro before
    obtain ⟨q, stored, same, done⟩ := done_iff.mp before
    exact fresh q stored same done
end InferForge

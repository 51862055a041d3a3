import InferForge.Discovery
import InferForge.Scheduler.History

/-! What `discover_operator` leaves behind: the specification and the torch task of its key, and
everything else as it was. -/
namespace InferForge
open Py Effect Sched

/-- A step that only adds operators and their tasks. -/
structure Grows (before after : Store) : Prop where
  run : after.run? = before.run?
  spec : ∀ {runId key spec}, before.operator? runId key = some spec →
    after.operator? runId key = some spec
  row : ∀ {t r}, before.row? t = some r → after.row? t = some r

namespace Grows
variable {db db' db'' : Store}

theorem refl : Grows db db := ⟨rfl, id, id⟩

theorem of_eq (same : db' = db) : Grows db db' := by
  rw [same]
  exact refl

theorem trans (first : Grows db db') (second : Grows db' db'') : Grows db db'' :=
  ⟨second.run.trans first.run, fun here => second.spec (first.spec here),
    fun here => second.row (first.row here)⟩

end Grows

/-- An operator of a run: its specification and its torch task are stored. -/
structure Enrolled (db : Store) (runId key operatorId : Text) : Prop where
  spec : ∃ spec, db.operator? runId key = some spec ∧ spec.operatorId = operatorId
  task : ∃ row, db.row? (stageTaskId runId key .torch) = some row ∧ row.place = (runId, key, .torch)

theorem Enrolled.grows {db db' : Store} (enrolled : Enrolled db runId key operatorId)
    (grows : Grows db db') : Enrolled db' runId key operatorId := by
  obtain ⟨⟨spec, known, named⟩, row, here, place⟩ := enrolled
  exact ⟨⟨spec, grows.spec known, named⟩, row, grows.row here, place⟩

/-- One key belongs to one operator id. -/
theorem Enrolled.unique {db : Store} {a b : Text} (one : Enrolled db runId key a)
    (other : Enrolled db runId key b) : a = b := by
  obtain ⟨spec, known, rfl⟩ := one.spec
  obtain ⟨spec', known', rfl⟩ := other.spec
  rw [Option.some.inj (known.symm.trans known')]

section Discover
variable {host : Host} {disk : Disk} {w : World}

/-- The task `discover_operator` returned, under its key. -/
structure Discovered (before after : Store) (runId key : Text) (spec : OperatorSpec)
    (task : Task) : Prop where
  grows : Grows before after
  enrolled : Enrolled after runId key (((before.operator? runId key).getD spec).operatorId)
  named : task.taskId = stageTaskId runId key .torch
  keyed : task.operatorKey = .str key

/-- A torch row of a sound ledger has the id of its place. -/
theorem Sound.torch_id (sound : Sound w.ledger) {row : TaskRow} (stored : row ∈ w.db.tasks)
    (torch : row.stage = .torch) :
    row.taskId = stageTaskId row.runId row.operatorKey .torch ∧
      (w.db.operator? row.runId row.operatorKey).isSome := by
  have shaped := sound.shaped _ row (Store.row?_of_mem stored)
  have operator := shaped.operator (by simp [torch])
  rw [torch] at operator
  exact ⟨operator.1, operator.2.2⟩

theorem discoverOperator_spec (sound : Sound w.ledger) (runId : Text) (spec : OperatorSpec) :
    Prog.wp (discoverOperator host disk runId spec)
      (fun task u => ∃ key, spec.operatorKey host = .ok key ∧
        Discovered w.db u.db runId key spec task)
      (fun _ u => u.db = w.db) w := by
  unfold discoverOperator
  rw [atomic, Prog.wp_transact]
  refine Prog.wp.mono (E := fun _ _ => True) ?_ (fun _ _ _ h => h) fun _ _ _ _ => rfl
  simp only [Prog.wp_bind]
  refine wlp_requireRun fun run here => wlp_lift fun _ _ => wlp_lift fun key keyed => ?_
  simp only [wp_query, wp_execute]
  obtain ⟨rows, tasks, runs, _⟩ := Store.putOperator_rest w.db runId key spec
  have long := operatorKey_long keyed
  rw [isTorchOf_fold]
  cases existing : ((w.db.putOperator runId key spec).2.tasksOf disk.ties runId).find?
      (isTorchOf key) with
  | some row =>
    dsimp only
    rw [Prog.wp_pure]
    obtain ⟨stored, rfl⟩ := Store.mem_tasksOf.mp (List.mem_of_find?_eq_some existing)
    obtain ⟨rfl, torch⟩ := isTorchOf_iff.mp (List.find?_some existing)
    rw [tasks] at stored
    obtain ⟨named, known⟩ := sound.torch_id stored torch
    obtain ⟨old, found⟩ := Option.isSome_iff_exists.mp known
    rw [Store.putOperator_known known]
    refine ⟨row.operatorKey, keyed, Grows.refl, ⟨⟨old, found, by rw [found]; rfl⟩, row, ?_, ?_⟩,
      named, view_operatorKey (by simp [torch])⟩
    · rw [← named]
      exact Store.row?_of_mem stored
    · rw [TaskRow.place, torch]
  | none =>
    dsimp only
    simp only [Prog.wp_bind, wp_insertTask, wp_emit, Prog.wp_pure]
    obtain ⟨fresh, unknown⟩ := sound.undiscovered disk.ties runId long
      (by rw [← existing, Store.tasksOf, Store.tasksOf, tasks])
    generalize made : pendingRow runId key .torch (stageTaskId runId key .torch)
      [("operator_spec", spec.toDict)] (host.clock w.readings) = row
    have inserted : ((w.db.putOperator runId key spec).2.insertTask row).1 = true := by
      rw [Store.insertTask_inserts, tasks, ← Store.insertTask_inserts]
      subst made
      exact inserted_of_fresh sound rfl (by rintro ⟨⟩) fresh
    obtain ⟨_, placed⟩ := Store.row?_insertTask inserted
    obtain ⟨runs', specs', _⟩ := Store.insertTask_rest (w.db.putOperator runId key spec).2 row
    have specs := specs'.trans (Store.operator?_putOperator unknown).2
    have rowId : row.taskId = stageTaskId runId key .torch := by rw [← made]; rfl
    rw [rows, rowId] at placed
    refine ⟨key, keyed, ⟨runs'.trans runs, fun {i k s} found => ?_, fun {t r} found => ?_⟩,
      ⟨⟨spec, ?_, by rw [unknown]; rfl⟩, row, ?_, by rw [← made]; rfl⟩, rfl, ?_⟩
    · change ((w.db.putOperator runId key spec).2.insertTask row).2.operator? i k = some s
      rw [specs]
      dsimp only
      by_cases same : i = runId ∧ k = key
      · obtain ⟨rfl, rfl⟩ := same
        cases unknown.symm.trans found
      · rw [if_neg same]
        exact found
    · change ((w.db.putOperator runId key spec).2.insertTask row).2.row? t = some r
      rw [placed, Function.update_of_ne]
      · exact found
      · rintro rfl
        cases fresh.symm.trans found
    · change ((w.db.putOperator runId key spec).2.insertTask row).2.operator? runId key = some spec
      rw [specs]
      exact if_pos ⟨rfl, rfl⟩
    · change ((w.db.putOperator runId key spec).2.insertTask row).2.row? _ = some row
      rw [placed, Function.update_self]
    · rfl

/-- Evidence is no part of the identity a key is made from. -/
theorem Measured.persisted_same {measured : Measured} {spec : OperatorSpec}
    (stored : measured.persisted host = .ok spec) :
    spec.operatorKey host = measured.spec.operatorKey host ∧
      spec.operatorId = measured.spec.operatorId := by
  obtain ⟨evidence, _, made⟩ := bind_ok.mp stored
  obtain rfl := pure_ok.mp made
  exact ⟨rfl, rfl⟩

variable (host disk) in
theorem discoverMeasured_spec (sound : Sound w.ledger) (runId : Text) (measured : Measured) :
    Prog.wp (discoverMeasured host disk runId measured)
      (fun task u => ∃ key, measured.spec.operatorKey host = .ok key ∧
        Discovered w.db u.db runId key measured.spec task)
      (fun _ u => u.db = w.db) w := by
  unfold discoverMeasured
  cases stored : measured.persisted host with
  | ok spec =>
    obtain ⟨sameKey, sameId⟩ := Measured.persisted_same stored
    refine (discoverOperator_spec sound runId spec).mono ?_ fun _ _ _ h => h
    rintro task u _ ⟨key, keyed, grows, enrolled, named, shown⟩
    refine ⟨key, sameKey ▸ keyed, grows, ?_, named, shown⟩
    cases known : w.db.operator? runId key with
    | none => simpa [known, sameId] using enrolled
    | some old => simpa [known] using enrolled
  | error e =>
    dsimp only
    rw [atomic, Prog.wp_transact]
    refine Prog.wp.mono (E := fun _ _ => True) ?_ (fun _ _ _ h => h) fun _ _ _ _ => rfl
    simp only [Prog.wp_bind]
    exact wlp_requireRun fun _ _ => wlp_lift fun _ _ => wlp_lift fun _ _ => trivial

variable (host disk) in
theorem discoverMeasured_sound (sound : Sound w.ledger) (runId : Text) (measured : Measured) :
    Sound (discoverMeasured host disk runId measured w).2.1.ledger := by
  unfold discoverMeasured
  cases stored : measured.persisted host with
  | ok spec => exact (discoverOperator_steps sound runId spec).sound sound
  | error e =>
    have steps : Steps host disk (fun _ => True) w.ledger ((atomic do
        let run ← requireRun runId (.key ("unknown run: " ++ runId))
        Prog.lift (checkDiscovery run measured.spec)
        let _ ← Prog.lift (measured.spec.operatorKey host)
        Prog.raise e : Sched Task) w).2.1.ledger := by
      refine atomic_steps trivial ?_
      simp only [Prog.wlp, Prog.wp_bind]
      exact wlp_requireRun fun _ _ => wlp_lift fun _ _ => wlp_lift fun _ _ => trivial
    exact steps.sound sound

end Discover
end InferForge

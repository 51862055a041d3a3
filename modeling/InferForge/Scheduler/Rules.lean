import InferForge.Scheduler.Tasks

/-! What the writes of `EventStore` do to its queries, and the rules of the scheduler's
basic steps. -/
namespace InferForge
open Py Effect

namespace Store
variable {db : Store}

theorem row?_named (here : db.row? t = some r) : r.taskId = t := by
  simpa using List.find?_some here

theorem row?_mem (here : db.row? t = some r) : r ∈ db.tasks := List.mem_of_find?_eq_some here

/-- A stored row is found under its id. -/
theorem row?_of_mem (member : r ∈ db.tasks) : db.row? r.taskId = some r := by
  cases found : db.row? r.taskId with
  | none => simpa using List.find?_eq_none.mp found r member
  | some q =>
    have same := List.inj_on_of_nodup_map db.taskKey (row?_mem found) member (row?_named found)
    rw [same]

/-- A stored run is found under its id. -/
theorem run?_of_mem (member : r ∈ db.runs) : db.run? r.runId = some r := by
  cases found : db.run? r.runId with
  | none => simpa using List.find?_eq_none.mp found r member
  | some q =>
    have named : q.runId = r.runId := by simpa using List.find?_some found
    have same := List.inj_on_of_nodup_map db.runKey (List.mem_of_find?_eq_some found) member named
    rw [same]

theorem run?_named (here : db.run? runId = some r) : r.runId = runId := by
  simpa using List.find?_some here

theorem row?_updateTasks (selected : TaskRow → Bool) (change : TaskRow → TaskRow)
    (keeps : ∀ r, SameKey r (change r)) (t : Text) :
    (db.updateTasks selected change keeps).row? t =
      (db.row? t).map fun r => if selected r then change r else r := by
  have kept : ((fun r : TaskRow => decide (r.taskId = t)) ∘
      fun r => if selected r then change r else r) = fun r => decide (r.taskId = t) := by
    funext r
    simp only [Function.comp_apply]
    split <;> simp [(keeps r).taskId]
  simp only [row?, updateTasks, List.find?_map, kept]

theorem row?_insertTask {row : TaskRow} (inserted : (db.insertTask row).1 = true) :
    db.row? row.taskId = none ∧
      (db.insertTask row).2.row? = Function.update db.row? row.taskId (some row) := by
  by_cases clash : db.tasks.any (conflicts row) = true
  · simp [insertTask, clash] at inserted
  · have fresh : db.row? row.taskId = none := by
      refine List.find?_eq_none.mpr fun old member => ?_
      have : ¬ (conflicts row old = true) := fun h =>
        clash (List.any_eq_true.mpr ⟨old, member, h⟩)
      simp only [conflicts, Bool.or_eq_true, decide_eq_true_eq, not_or] at this
      simpa using this.1
    refine ⟨fresh, funext fun u => ?_⟩
    rw [insertTask, dif_neg clash]
    simp only [row?, List.find?_append, Function.update_apply]
    by_cases same : u = row.taskId
    · subst same
      rw [show db.tasks.find? (fun r => r.taskId = row.taskId) = none from fresh]
      simp
    · simp [same, Ne.symm same]

theorem insertTask_inserts (row : TaskRow) :
    (db.insertTask row).1 = !db.tasks.any (conflicts row) := by
  unfold insertTask
  by_cases clash : db.tasks.any (conflicts row) = true <;> simp [clash]

/-- An ignored insertion: some row already has the id or the place. -/
theorem insertTask_ignored {row : TaskRow} (ignored : (db.insertTask row).1 = false) :
    (db.insertTask row).2 = db ∧
      ∃ old ∈ db.tasks, old.taskId = row.taskId ∨ old.place = row.place := by
  by_cases clash : db.tasks.any (conflicts row) = true
  · obtain ⟨old, member, same⟩ := List.any_eq_true.mp clash
    exact ⟨by rw [insertTask, dif_pos clash], old, member, by simpa [conflicts] using same⟩
  · simp [insertTask, clash] at ignored

theorem insertTask_rest (db : Store) (row : TaskRow) : (db.insertTask row).2.run? = db.run? ∧
    (db.insertTask row).2.operator? = db.operator? ∧ (db.insertTask row).2.events = db.events := by
  unfold insertTask
  split <;> exact ⟨rfl, rfl, rfl⟩

theorem run?_updateRun (here : db.run? r.runId = some old) :
    (db.updateRun r).run? = Function.update db.run? r.runId (some r) := by
  funext id
  have kept : ((fun q : AdaptationRun => decide (q.runId = id)) ∘
      fun q => if q.runId = r.runId then r else q) = fun q => decide (q.runId = id) := by
    funext q
    simp only [Function.comp_apply]
    split <;> simp [*]
  have mapped : (db.updateRun r).run? id =
      (db.run? id).map fun q => if q.runId = r.runId then r else q := by
    simp only [run?, updateRun, List.find?_map, kept]
  rw [mapped, Function.update_apply]
  by_cases same : id = r.runId
  · subst same
    simp only [here, Option.map_some, run?_named here, if_pos]
  · rw [if_neg same]
    cases found : db.run? id with
    | none => rfl
    | some q => simp only [Option.map_some, run?_named found, if_neg same]

theorem run?_saveRun (fresh : db.run? r.runId = none) :
    (db.saveRun r).run? = Function.update db.run? r.runId (some r) := by
  funext id
  simp only [saveRun, fresh, Option.isSome_none, Bool.false_eq_true, dif_neg, not_false_eq_true]
  simp only [run?, List.find?_append, Function.update_apply]
  by_cases same : id = r.runId
  · subst same
    rw [show db.runs.find? (fun q => q.runId = r.runId) = none from fresh]
    simp
  · simp [same, Ne.symm same]

theorem saveRun_rest (db : Store) (r : AdaptationRun) : (db.saveRun r).row? = db.row? ∧
    (db.saveRun r).operator? = db.operator? ∧ (db.saveRun r).events = db.events := by
  unfold saveRun
  split <;> exact ⟨rfl, rfl, rfl⟩

theorem operator?_putOperator (fresh : db.operator? runId key = none) :
    (db.putOperator runId key spec).1 = true ∧
      (db.putOperator runId key spec).2.operator? =
        fun i k => if i = runId ∧ k = key then some spec else db.operator? i k := by
  have unknown : db.operators.find? (fun row => row.runId = runId ∧ row.operatorKey = key) = none := by
    simpa [operator?] using fresh
  simp only [putOperator, fresh, Option.isSome_none, Bool.false_eq_true, dif_neg, not_false_eq_true,
    true_and]
  funext i k
  simp only [operator?, List.find?_append]
  by_cases same : i = runId ∧ k = key
  · obtain ⟨rfl, rfl⟩ := same
    rw [unknown]
    simp
  · have other : ¬ (runId = i ∧ key = k) := fun h => same ⟨h.1.symm, h.2.symm⟩
    simp [same, other]

theorem putOperator_known (known : (db.operator? runId key).isSome) :
    db.putOperator runId key spec = (false, db) := dif_pos known

theorem putOperator_rest (db : Store) (runId key : Text) (spec : OperatorSpec) :
    (db.putOperator runId key spec).2.row? = db.row? ∧
    (db.putOperator runId key spec).2.tasks = db.tasks ∧
    (db.putOperator runId key spec).2.run? = db.run? ∧
    (db.putOperator runId key spec).2.events = db.events := by
  unfold putOperator
  split <;> exact ⟨rfl, rfl, rfl, rfl⟩

theorem mem_tasksOf {ties : Text → Nat} : r ∈ db.tasksOf ties runId ↔ r ∈ db.tasks ∧ r.runId = runId := by
  simp [tasksOf, (List.perm_insertionSort _ _).mem_iff]

theorem mem_eventsOf : e ∈ db.eventsOf runId ↔ e ∈ db.events ∧ e.runId = runId := by
  simp [eventsOf, (List.perm_insertionSort _ _).mem_iff]

theorem mem_candidates {ties : Text → Nat} : r ∈ db.candidates ties stage ↔
    r ∈ db.tasks ∧ r.status = .pending ∧ stage.all (fun s => decide (r.stage = s)) = true := by
  simp [candidates, (List.perm_insertionSort _ _).mem_iff]

theorem candidates_nodup (db : Store) (ties : Text → Nat) (stage : Option Stage) :
    ((db.candidates ties stage).map TaskRow.taskId).Nodup :=
  ((List.perm_insertionSort _ _).map _).nodup_iff.mpr
    (db.taskKey.sublist (List.filter_sublist.map _))

end Store

namespace Sched
variable {Q : α → World → Prop} {E : Exn → World → Prop} {w : World} {host : Host}

@[simp] theorem wp_query {f : Store → α} : Prog.wp (query f) Q E w ↔ Q (f w.db) w := Iff.rfl

@[simp] theorem wp_execute {Q : Unit → World → Prop} {f : Store → Store} :
    Prog.wp (execute f) Q E w ↔ Q () { w with db := f w.db } := Iff.rfl

@[simp] theorem wp_now {Q : Time → World → Prop} : Prog.wp (now host) Q E w ↔
    Q (host.clock w.readings) { w with readings := w.readings + 1 } := Iff.rfl

@[simp] theorem wp_drawToken {Q : Text → World → Prop} : Prog.wp (drawToken host) Q E w ↔
    Q (host.token w.tokens) { w with tokens := w.tokens + 1 } := Iff.rfl

@[simp] theorem wp_emit {Q : Unit → World → Prop} : Prog.wp (emit host runId kind payload taskId) Q E w ↔
    Q () { w with
      db := w.db.append ⟨runId, kind, taskId, payload, host.clock w.readings⟩
      readings := w.readings + 1 } := Iff.rfl

@[simp] theorem wp_insertTask {Q : Bool → World → Prop} {row : Time → TaskRow} :
    Prog.wp (insertTask host row) Q E w ↔ Q (w.db.insertTask (row (host.clock w.readings))).1
      { w with
        db := (w.db.insertTask (row (host.clock w.readings))).2
        readings := w.readings + 1 } := Iff.rfl

theorem wlp_lift {r : Except Exn α} (h : ∀ a, r = .ok a → Q a w) :
    Prog.wlp (Prog.lift r : Sched α) Q w := Prog.wlp_lift r h

theorem wlp_require {Q : Unit → World → Prop} {condition : Bool} {e : Exn}
    (h : condition = true → Q () w) : Prog.wlp (Prog.require condition e : Sched Unit) Q w :=
  Prog.wlp_require condition e h

theorem wlp_requireRun {Q : AdaptationRun → World → Prop}
    (h : ∀ run, w.db.run? runId = some run → Q run w) : Prog.wlp (requireRun runId missing) Q w := by
  simp only [requireRun, Prog.wlp, Prog.wp_bind, wp_query]
  cases found : w.db.run? runId with
  | none => trivial
  | some run => exact h run found

theorem wlp_requireTask {Q : Task → World → Prop}
    (h : ∀ row, w.db.row? taskId = some row → Q row.view w) : Prog.wlp (requireTask taskId) Q w := by
  simp only [requireTask, Prog.wlp, Prog.wp_bind, wp_query]
  cases found : w.db.row? taskId with
  | none => trivial
  | some row => exact h row found

theorem wlp_ownedLease {Q : TaskRow → World → Prop}
    (h : ∀ row, w.db.row? taskId = some row →
      ownsLease row worker token (host.clock w.readings) = true →
      Q row { w with readings := w.readings + 1 }) :
    Prog.wlp (ownedLease host taskId worker token) Q w := by
  simp only [ownedLease, Prog.wlp, Prog.wp_bind, wp_query]
  cases found : w.db.row? taskId with
  | none => trivial
  | some row =>
    simp only [Prog.wp_bind, wp_now]
    exact wlp_require fun owned => h row found owned

/-- A transaction either returns with its effect, or leaves the tables as they were. -/
theorem atomic_spec {x : Sched α} {P : World → Prop} (returned : Prog.wlp x (fun _ => P) w)
    (raised : ∀ v, w ≤ v → P { v with db := w.db }) : P (atomic x w).2 := by
  refine Prog.wp.final (x := atomic x) ?_
  rw [atomic, Prog.wp_transact]
  exact returned.mono (fun _ _ _ h => h) fun _ v ahead _ => raised v ahead

theorem discard_run (x : Sched α) : (((discard x : Sched Unit) w).2 : World) = (x w).2 := by
  change ((Prog.bind x fun _ => pure ()) w).2.1 = _
  unfold Prog.bind
  rcases x w with ⟨_ | _, _⟩ <;> rfl

theorem discard_raises {x : Sched α} (raised : (x w).1 = .error e) :
    ((discard x : Sched Unit) w).1 = .error e := by
  change (Prog.bind x (fun _ => pure ()) w).1 = _
  unfold Prog.bind
  rcases run : x w with ⟨e | a, v⟩
  · rw [run] at raised
    obtain rfl := Except.error.inj raised
    rfl
  · rw [run] at raised
    cases raised

theorem atomic_raised {x : Sched α} (raised : (atomic x w).1 = .error e) :
    (atomic x w).2.1.db = w.db := by
  have undone : Prog.wp (atomic x) (fun _ _ => True) (fun _ v => v.db = w.db) w := by
    rw [atomic, Prog.wp_transact]
    exact Prog.wp_of_runs (fun _ _ _ => trivial) fun _ _ _ => rfl
  exact undone.raised raised

theorem discard_returns {x : Sched α} (returned : (x w).1 = .ok a) :
    ((discard x : Sched Unit) w).1 = .ok ⟨⟩ := by
  change (Prog.bind x (fun _ => pure ()) w).1 = _
  unfold Prog.bind
  rcases run : x w with ⟨e | a, v⟩
  · rw [run] at returned
    cases returned
  · rfl

/-- A call that raises leaves the tables as they were. -/
theorem rejected_unchanged (call : Disk × Call) (rejected : accepted host w call = false) :
    (step host w call).db = w.db := by
  have undone {α : Type} {x : Sched α} (body : call.2.body host call.1 = discard (atomic x)) :
      (step host w call).db = w.db := by
    simp only [step, body, discard_run]
    cases outcome : (atomic x w).1 with
    | error e => exact atomic_raised outcome
    | ok a => simp [accepted, body, discard_returns outcome] at rejected
  obtain ⟨disk, call⟩ := call
  cases call <;> exact undone rfl

end Sched
end InferForge

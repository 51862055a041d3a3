import InferForge.Scheduler.History

/-! What the stored payloads of task rows look like: workspaces are objects, reports are the
documents that failures become, and an accepted diagnosis asks for one of the known actions. -/
namespace InferForge
open Py Effect Sched ResultValidation

/-- A document with a `metadata` object, as a `BugReport` is dumped. -/
def IsReport (value : Option Json) : Prop :=
  ∃ (fields metadata : Dict), value = some (.obj fields) ∧ fields.get? "metadata" = some (.obj metadata)

structure Legible (r : TaskRow) : Prop where
  workspace : (Dict.getD r.input "workspace" (.obj [])).isDict = true
  report : r.stage = .diagnosis → IsReport (r.input.get? "bug_report")
  failed : r.status = .failed → IsReport (r.output.get? "error")
  concluded : r.stage = .diagnosis → r.status = .succeeded →
    ∃ action ∈ nextActions, Dict.getD r.output "next_action" .null = .str action

def Store.Legible (db : Store) : Prop := ∀ r ∈ db.tasks, InferForge.Legible r

namespace Sched
variable {P : Store → Prop}

/-- The operation keeps an invariant of the tables whenever it returns. -/
def Keeps (P : Store → Prop) (x : Sched α) : Prop := ∀ w : World, P w.db → Prog.wlp x (fun _ v => P v.db) w

namespace Keeps

theorem bind {x : Sched α} {f : α → Sched β} (first : Keeps P x) (rest : ∀ a, Keeps P (f a)) :
    Keeps P (x >>= f) := by
  intro w holds
  rw [Prog.wlp, Prog.wp_bind]
  exact (first w holds).mono (fun a v _ kept => rest a v kept) fun _ _ _ h => h

theorem pure (a : α) : Keeps P (Pure.pure a : Sched α) := fun _ holds => holds

theorem raise (e : Exn) : Keeps P (Prog.raise e : Sched α) := fun _ _ => trivial

theorem lift {r : Except Exn α} {f : α → Sched β} (rest : ∀ a, r = .ok a → Keeps P (f a)) :
    Keeps P (Prog.lift r >>= f) := by
  intro w holds
  rw [Prog.wlp, Prog.wp_bind]
  exact wlp_lift fun a ok => rest a ok w holds

theorem require {f : Unit → Sched β} {condition : Bool} {e : Exn}
    (rest : condition = true → Keeps P (f ())) : Keeps P (Prog.require condition e >>= f) := by
  intro w holds
  rw [Prog.wlp, Prog.wp_bind]
  exact wlp_require fun h => rest h w holds

theorem ite {x y : Sched α} {condition : Prop} [Decidable condition] (yes : condition → Keeps P x)
    (no : ¬ condition → Keeps P y) : Keeps P (if condition then x else y) := by
  by_cases h : condition
  · rw [if_pos h]
    exact yes h
  · rw [if_neg h]
    exact no h

theorem query (f : Store → α) : Keeps P (Sched.query f) := fun _ holds => holds

/-- The value of a query holds of the tables it was read from. -/
theorem asked {f : Store → α} {g : α → Sched β}
    (rest : ∀ w : World, P w.db → Prog.wlp (g (f w.db)) (fun _ v => P v.db) w) :
    Keeps P (Sched.query f >>= g) := by
  intro w holds
  rw [Prog.wlp, Prog.wp_bind, wp_query]
  exact rest w holds

theorem execute {f : Store → Store} (keeps : ∀ db, P db → P (f db)) : Keeps P (Sched.execute f) :=
  fun w holds => keeps w.db holds

theorem now {host : Host} : Keeps P (Sched.now host) := fun _ holds => holds

theorem drawToken {host : Host} : Keeps P (Sched.drawToken host) := fun _ holds => holds

theorem emit {host : Host} (logs : ∀ db event, P db → P (db.append event)) :
    Keeps P (Sched.emit host runId kind payload taskId) := fun w holds => logs w.db _ holds

theorem requireTask : Keeps P (requireTask taskId) := fun _ holds => wlp_requireTask fun _ _ => holds

theorem requireRun : Keeps P (Sched.requireRun runId missing) := fun _ holds =>
  wlp_requireRun fun _ _ => holds

theorem ownedLease {host : Host} : Keeps P (ownedLease host taskId worker token) := fun _ holds =>
  wlp_ownedLease fun _ _ _ => holds

theorem discard {x : Sched α} (keeps : Keeps P x) : Keeps P (Functor.discard x) := by
  intro w holds
  rw [Prog.wlp, Prog.wp_discard]
  exact keeps w holds

theorem foldlM {body : β → α → Sched β} {items : List α} (round : ∀ b, ∀ a ∈ items, Keeps P (body b a))
    (b : β) : Keeps P (items.foldlM body b) := by
  induction items generalizing b with
  | nil => exact pure b
  | cons item rest ih =>
    rw [List.foldlM_cons]
    refine bind (round b item List.mem_cons_self) fun b' => ih (fun b a member => ?_) b'
    exact round b a (List.mem_cons_of_mem _ member)

theorem forM {body : α → Sched PUnit} (round : ∀ a, Keeps P (body a)) (items : List α) :
    Keeps P (items.forM body) := by
  induction items with
  | nil => exact pure _
  | cons item rest ih => exact bind (round item) fun _ => ih

/-- An operation of the scheduler keeps what its body keeps. -/
theorem final {x : Sched α} {w : World} (keeps : Keeps P x) (holds : P w.db) :
    P (atomic x w).2.1.db :=
  atomic_spec (P := fun v => P v.db) (keeps w holds) fun _ _ => holds

end Keeps
end Sched

section Rows
variable {db : Store}

theorem Store.Legible.append (legible : db.Legible) (event : TaskEvent) : (db.append event).Legible :=
  legible

theorem Store.Legible.update (legible : db.Legible) {selected : TaskRow → Bool}
    {change : TaskRow → TaskRow} {keeps : ∀ r, SameKey r (change r)}
    (changed : ∀ r, InferForge.Legible r → selected r = true → InferForge.Legible (change r)) :
    (db.updateTasks selected change keeps).Legible := by
  intro r member
  obtain ⟨old, stored, rfl⟩ := List.mem_map.mp member
  by_cases chosen : selected old = true
  · rw [if_pos chosen]
    exact changed old (legible old stored) chosen
  · rw [if_neg chosen]
    exact legible old stored

theorem Store.Legible.insert (legible : db.Legible) {row : TaskRow} (new : InferForge.Legible row) :
    (db.insertTask row).2.Legible := by
  unfold Store.insertTask
  split
  · exact legible
  · intro r member
    rcases List.mem_append.mp member with old | fresh
    · exact legible r old
    · rwa [List.mem_singleton.mp fresh]

theorem Store.Legible.put (legible : db.Legible) (runId key : Text) (spec : OperatorSpec) :
    (db.putOperator runId key spec).2.Legible := by
  unfold Store.Legible
  rwa [(Store.putOperator_rest db runId key spec).2.1]

theorem Store.Legible.row (legible : db.Legible) (here : db.row? t = some r) : InferForge.Legible r :=
  legible r (Store.row?_mem here)

end Rows

section Shapes
variable {host : Host} {disk : Disk}

theorem dumped_report {report : BugReport} {value : Json} (ok : report.dumped host = .ok value) :
    IsReport (some value) := by
  simp only [BugReport.dumped, bind_ok, pure_ok] at ok
  obtain ⟨context, _, metadata, _, rfl⟩ := ok
  exact ⟨_, metadata, rfl, rfl⟩

theorem diagnosisErrors_action {result report : Dict} (none : diagnosisErrors result report = .ok []) :
    ∃ action ∈ nextActions, Dict.getD result "next_action" .null = .str action := by
  simp only [diagnosisErrors, bind_ok, pure_ok, List.append_eq_nil_iff, List.flatMap_eq_nil_iff] at none
  obtain ⟨_, _, ⟨⟨matched, _⟩, known⟩, _⟩ := none
  have matched := errorIf_nil (matched "next_action" (by simp))
  have known := errorIf_nil known
  simp only [Bool.or_eq_false_iff, Bool.not_eq_false'] at matched
  cases asked : Dict.getD report "next_action" .null with
  | str action =>
    rw [asked] at known matched
    refine ⟨action, by simpa using known, ?_⟩
    simpa using matched.1
  | null | bool | int | float | arr | obj => simp [asked] at known

theorem reportErrors_action {task : Task} {run : AdaptationRun} {fingerprint worker : Json}
    {result evidence hashes report : Dict} (stage : task.stage = .diagnosis)
    (none : reportErrors host task run fingerprint result evidence hashes report worker = .ok []) :
    ∃ action ∈ nextActions, Dict.getD result "next_action" .null = .str action := by
  simp only [reportErrors, stage, if_true, bind_ok, pure_ok, List.append_eq_nil_iff] at none
  obtain ⟨errors, ok, _, rfl⟩ := none
  exact diagnosisErrors_action ok

/-- A diagnosis that was accepted asks for one of the known actions. -/
theorem accepted_action {task : Task} {run : AdaptationRun} {result : Dict} {worker : Json}
    (stage : task.stage = .diagnosis) (accepted : validateResult host disk task run result worker = .ok []) :
    ∃ action ∈ nextActions, Dict.getD result "next_action" .null = .str action := by
  simp only [validateResult, bind_ok] at accepted
  obtain ⟨fingerprint, _, rest⟩ := accepted
  split at rest
  · simp only [bind_ok, pure_ok, List.append_eq_nil_iff] at rest
    obtain ⟨_, _, report, ok, _, rfl⟩ := rest
    simp only [reportFileErrors] at ok
    split at ok
    · simp at ok
    · split at ok
      · split at ok <;> simp at ok
      · exact reportErrors_action stage ok
      · simp at ok
  · simp at rest

theorem submitted_action (output : Dict) (worker : Text) (attempt : Nat) (manifest : Option Text) :
    Dict.getD (withManifest (withSubmission output worker attempt) manifest) "next_action" .null =
      Dict.getD output "next_action" .null :=
  congrArg (Option.getD · _) (submitted_get? output worker attempt manifest (by simp) (by simp))

theorem failure_report {dumped : Json} (report : IsReport (some dumped)) (manifest : Option Text) :
    IsReport (Dict.get? (withManifest [("error", dumped)] manifest) "error") := by
  cases manifest with
  | none => simpa [withManifest] using report
  | some path =>
    unfold withManifest
    rw [Dict.get?_set_other _ _ (by simp)]
    simpa using report

end Shapes

section Operations
variable {host : Host} {disk : Disk}

/-- A row that is put back into the queue, or taken from it. -/
theorem Legible.open {r : TaskRow} (workspace : (Dict.getD r.input "workspace" (.obj [])).isDict = true)
    (report : r.stage = .diagnosis → IsReport (r.input.get? "bug_report"))
    (active : r.status = .pending ∨ r.status = .running) : Legible r := by
  refine ⟨workspace, report, fun failed => ?_, fun _ succeeded => ?_⟩
  · rcases active with h | h <;> simp [h] at failed
  · rcases active with h | h <;> simp [h] at succeeded

theorem Legible.restated {r r' : TaskRow} (legible : Legible r) (input : r'.input = r.input)
    (stage : r'.stage = r.stage) (active : r'.status = .pending ∨ r'.status = .running) : Legible r' := by
  apply Legible.open
  · rw [input]
    exact legible.workspace
  · rw [stage, input]
    exact legible.report
  · exact active

theorem Legible.failing {r : TaskRow} (legible : Legible r) {output : Dict}
    (error : IsReport (output.get? "error")) : Legible (TaskRow.finished .failed output r) :=
  ⟨legible.workspace, legible.report, fun _ => error, fun _ succeeded => by simp [TaskRow.finished] at succeeded⟩

theorem Legible.succeeding {r : TaskRow} (legible : Legible r) {output : Dict}
    (action : r.stage = .diagnosis →
      ∃ action ∈ nextActions, Dict.getD output "next_action" .null = .str action) :
    Legible (TaskRow.finished .succeeded output r) :=
  ⟨legible.workspace, legible.report, fun failed => by simp [TaskRow.finished] at failed, fun stage _ => action stage⟩

theorem diagnosisInput_legible {task : Task} {dumped : Json} {r : TaskRow}
    (report : IsReport (some dumped)) (input : r.input = diagnosisInput task dumped)
    (active : r.status = .pending) : Legible r := by
  apply Legible.open
  · rw [input]
    rfl
  · intro _
    rw [input]
    exact report
  · exact .inl active

theorem discoverOperator_legible (runId : Text) (spec : OperatorSpec) {w : World}
    (legible : w.db.Legible) : (discoverOperator host disk runId spec w).2.1.db.Legible := by
  refine Keeps.final (P := Store.Legible) ?_ legible
  refine .bind .requireRun fun run => .lift fun _ _ => .lift fun key _ => .bind (.query _) fun _ => ?_
  refine .bind (.execute fun db h => h.put _ _ _) fun _ => .asked fun w h => ?_
  generalize (w.db.tasksOf disk.ties runId).find? _ = found
  cases found with
  | some existing => exact h
  | none =>
    simp only [Prog.wlp, Prog.wp_bind, wp_insertTask, wp_emit, Prog.wp_pure]
    refine Store.Legible.append (Store.Legible.append (h.insert ?_) _) _
    exact .open rfl (fun stage => by cases stage) (.inl rfl)

/-- The tables while the rows of a claim are visited one by one. -/
structure Visited (rows : List TaskRow) (db : Store) : Prop where
  legible : db.Legible
  queued : ∀ c ∈ rows, Legible c ∧ ∀ r ∈ db.tasks, r.taskId = c.taskId → r.stage = c.stage

theorem Visited.update {rows : List TaskRow} {db : Store} (visited : Visited rows db)
    {selected : TaskRow → Bool} {change : TaskRow → TaskRow} {keeps : ∀ r, SameKey r (change r)}
    (changed : ∀ r, r ∈ db.tasks → Legible r → selected r = true → Legible (change r)) :
    Visited rows (db.updateTasks selected change keeps) := by
  constructor
  · intro r member
    obtain ⟨old, stored, rfl⟩ := List.mem_map.mp member
    by_cases chosen : selected old = true
    · rw [if_pos chosen]
      exact changed old stored (visited.legible old stored) chosen
    · rw [if_neg chosen]
      exact visited.legible old stored
  · intro c member
    refine ⟨(visited.queued c member).1, fun r stored named => ?_⟩
    obtain ⟨old, before, rfl⟩ := List.mem_map.mp stored
    have same : SameKey old (if selected old = true then change old else old) := by
      split
      · exact keeps old
      · exact ⟨rfl, rfl, rfl, rfl⟩
    rw [same.stage]
    exact (visited.queued c member).2 old before (same.taskId.symm.trans named)

theorem bindWorkspace_visited (rows : List TaskRow) (run : AdaptationRun) :
    Keeps (Visited rows) (bindWorkspace host disk run) := by
  refine .ite (fun _ => .lift fun root _ => ?_) fun _ => .pure _
  refine .bind (.execute fun _ h => ⟨h.legible, h.queued⟩) fun _ => ?_
  exact .bind (.emit fun _ _ h => ⟨h.legible, h.queued⟩) fun _ => .pure _

theorem openAttempt_visited {rows : List TaskRow} {row : TaskRow} (queued : row ∈ rows)
    (run : AdaptationRun) : Keeps (Visited rows) (openAttempt disk run row) := by
  refine .ite (fun _ => .lift fun root _ => .lift fun _ _ => .lift fun _ _ => ?_) fun _ => .pure _
  refine .execute fun db visited => visited.update fun r stored legible chosen => ?_
  obtain ⟨own, alike⟩ := visited.queued row queued
  have stage := alike r stored (of_decide_eq_true chosen)
  refine ⟨?_, fun diagnosis => ?_, legible.failed, legible.concluded⟩
  · unfold Dict.getD
    rw [Dict.get?_set_same]
    rfl
  · rw [Dict.get?_set_other _ _ (by simp)]
    exact own.report (stage ▸ diagnosis)

theorem claimCandidate_visited {rows : List TaskRow} {row : TaskRow} (queued : row ∈ rows)
    (worker : Text) (seconds : Rat) (limit : Int) (reading : Time) (claims : Claims) :
    Keeps (Visited rows) (claimCandidate host disk worker seconds limit reading claims row) := by
  refine .ite (fun _ => .pure _) fun _ => .bind (fun w visited => ?_) fun ok => ?_
  · exact (depsSucceeded_spec row).mono (fun _ _ _ h => h.1 ▸ visited) fun _ _ _ h => h
  refine .ite (fun _ => .pure _) fun _ => .bind .drawToken fun token => .require fun _ => ?_
  refine .bind (.query _) fun taken => .bind (.execute fun db visited => visited.update ?_) fun _ => ?_
  · exact fun r _ legible _ => legible.restated rfl rfl (.inr rfl)
  refine .ite (fun _ => .bind .requireRun fun run => ?_) fun _ => .pure _
  refine .bind (bindWorkspace_visited rows run) fun run => .bind (openAttempt_visited queued run) fun _ => ?_
  exact .bind (.query _) fun _ => .pure _

theorem claimReady_legible (worker : Text) (stage : Option Text) (seconds : Double) (limit : Int)
    {w : World} (legible : w.db.Legible) :
    (claimReady host disk worker stage seconds limit w).2.1.db.Legible := by
  refine Keeps.final (P := Store.Legible) ?_ legible
  refine .lift fun (length, chosen) _ => .bind .now fun reading => .bind (.execute ?_) fun _ => ?_
  · exact fun db h => h.update fun r legible _ => legible.restated rfl rfl (.inl rfl)
  refine .asked fun w h => ?_
  have start : Visited (w.db.candidates disk.ties chosen) w.db := by
    refine ⟨h, fun c member => ?_⟩
    obtain ⟨stored, _⟩ := Store.mem_candidates.mp member
    refine ⟨h c stored, fun r other named => ?_⟩
    rw [List.inj_on_of_nodup_map w.db.taskKey other stored named]
  have visit : Keeps (Visited (w.db.candidates disk.ties chosen)) ((w.db.candidates disk.ties chosen).foldlM
      (claimCandidate host disk worker length limit reading) ⟨[], []⟩ >>= fun claims => do
        claims.events.forM fun event => emit host event.1 .taskClaimed event.2.1 event.2.2
        return claims.claimed) := by
    refine .bind (.foldlM (fun claims row member => claimCandidate_visited member _ _ _ _ claims) _) ?_
    intro claims
    refine .bind (.forM (fun event => .emit fun _ _ h => ?_) _) fun _ => .pure _
    exact ⟨h.legible, h.queued⟩
  exact (visit w start).mono (fun _ _ _ h => h.legible) fun _ _ _ h => h

theorem renewLease_legible (taskId : Text) (worker token : Option Text) (seconds : Double) {w : World}
    (legible : w.db.Legible) : (renewLease host taskId worker token seconds w).2.1.db.Legible := by
  refine Keeps.final (P := Store.Legible) ?_ legible
  refine .lift fun length _ => .bind .ownedLease fun row => .bind .now fun start => ?_
  refine .bind (.execute fun db h => h.update fun r legible _ => ?_) fun _ => ?_
  · exact ⟨legible.workspace, legible.report, legible.failed, legible.concluded⟩
  · exact .bind (.emit fun _ _ h => h) fun _ => .requireTask

theorem ensureDiagnosis_legible (task : Task) {dumped : Json} (report : IsReport (some dumped)) :
    Keeps Store.Legible (ensureDiagnosis host task dumped) := by
  refine .bind (fun w h => ?_) fun inserted => ?_
  · rw [Prog.wlp, wp_insertTask]
    exact h.insert (diagnosisInput_legible report rfl rfl)
  refine .ite (fun _ => .bind (.emit fun _ _ h => h) fun _ => .requireTask) fun _ => .bind (.query _) ?_
  intro existing
  cases existing with
  | none => exact .raise _
  | some row =>
    refine .lift fun known _ => .ite (fun _ => ?_) fun _ => .requireTask
    refine .bind (.execute fun db h => h.update fun r _ _ => ?_) fun _ => ?_
    · exact diagnosisInput_legible report rfl rfl
    · exact .bind (.emit fun _ _ h => h) fun _ => .requireTask

theorem failTask_legible (taskId : Text) (worker : Option Text) (error : Json) (token : Option Text) :
    Keeps Store.Legible (failTask host disk taskId worker error token) := by
  refine .bind .requireTask fun task => .bind .ownedLease fun _ => .bind .now fun reported => ?_
  refine .lift fun report _ => .lift fun (report, manifest) _ => .bind .ownedLease fun _ => ?_
  refine .lift fun dumped ok => ?_
  have shaped := dumped_report ok
  refine .bind (.execute fun db h => h.update fun r legible _ => ?_) fun _ => ?_
  · exact legible.failing (failure_report shaped manifest)
  have last : Keeps Store.Legible (do
      emit host task.runId .taskFailed [("stage", .str task.stage.text), ("error", dumped)] taskId
      InferForge.requireTask taskId) := .bind (.emit fun _ _ h => h) fun _ => .requireTask
  refine .ite (fun _ => last) fun _ => ?_
  exact .bind (.discard (ensureDiagnosis_legible task shaped)) fun _ => last

theorem ensureNext_legible (task : Task) (key : Text) {stage : Stage} (operator : stage ≠ .diagnosis) :
    Keeps Store.Legible (ensureNext host task key stage) := by
  refine .bind (.query _) fun spec => ?_
  cases spec with
  | none => exact .raise _
  | some spec =>
    refine .bind (fun w h => ?_) fun inserted => .ite (fun _ => .emit fun _ _ h => h) fun _ => .pure _
    rw [Prog.wlp, wp_insertTask]
    exact h.insert (.open rfl (fun stage => absurd stage operator) (.inl rfl))

theorem next?_operator {stage next : Stage} (h : stage.next? = some next) : next ≠ .diagnosis := by
  rintro rfl
  cases stage <;> simp [Stage.next?] at h

theorem succeedTask_legible {row : TaskRow} (task : Task) {output : Dict} {w : World}
    (legible : w.db.Legible) (here : w.db.row? row.taskId = some row)
    (action : row.stage = .diagnosis →
      ∃ action ∈ nextActions, Dict.getD output "next_action" .null = .str action) :
    Prog.wlp (succeedTask host row task output) (fun _ v => v.db.Legible) w := by
  have written : (w.db.updateTask row.taskId (TaskRow.finished .succeeded output)).Legible := by
    intro r member
    obtain ⟨old, stored, rfl⟩ := List.mem_map.mp member
    by_cases named : old.taskId = row.taskId
    · have found := Store.row?_of_mem stored
      rw [named, here] at found
      obtain rfl := Option.some.inj found
      simpa using (legible row stored).succeeding action
    · simpa [named] using legible old stored
  unfold succeedTask
  rw [Prog.wlp, Prog.wp_bind, wp_execute]
  refine (?rest : Keeps Store.Legible _) _ written
  refine .bind (.emit fun _ _ h => h) fun _ => .ite (fun _ => ?_) fun _ => ?_
  · exact .bind (.emit fun _ _ h => h) fun _ => .requireTask
  · cases next : task.stage.next? with
    | none => exact .requireTask
    | some stage => exact .bind (ensureNext_legible _ _ (next?_operator next)) fun _ => .requireTask

theorem complete_legible (taskId : Text) (worker : Option Text) (result : Option Json)
    (token : Option Text) {w : World} (legible : w.db.Legible) :
    (complete host disk taskId worker result token w).2.1.db.Legible := by
  refine Keeps.final (P := Store.Legible) ?_ legible
  intro w legible
  simp only [Prog.wlp, Prog.wp_bind]
  refine wlp_requireTask fun row here => wlp_ownedLease fun row' here' _ => ?_
  obtain rfl := Option.some.inj (here.symm.trans here')
  obtain rfl := Store.row?_named here
  cases row.lease with
  | none => trivial
  | some lease =>
    simp only [Prog.wp_bind]
    refine wlp_lift fun output _ => wlp_requireRun fun run _ => wlp_lift fun errors checked => ?_
    rw [Prog.wp_ite]
    refine ⟨fun _ => failTask_legible _ _ _ _ _ legible, fun accepted => ?_⟩
    obtain rfl : errors = [] := by simpa using accepted
    simp only [Prog.wp_bind]
    refine wlp_ownedLease fun _ _ _ => ?_
    cases recordAttempt disk row.view
        (.ok (.obj (withSubmission output lease.worker row.view.attempt))) true "PASS" with
    | error e =>
      dsimp only
      rw [Prog.wp_ite]
      exact ⟨fun _ => failTask_legible _ _ _ _ _ legible, fun _ => trivial⟩
    | ok manifest =>
      simp only [Prog.wp_bind]
      refine wlp_ownedLease fun _ _ _ => succeedTask_legible row.view legible here fun stage => ?_
      rw [submitted_action]
      exact accepted_action stage checked

theorem taskByJson_mem {db : Store} {value : Json} (found : taskByJson host db value = .ok (some row)) :
    row ∈ db.tasks := by
  cases value with
  | null => cases found
  | arr | obj => cases found
  | str | bool | int | float => exact Store.row?_mem (Except.ok.inj found)

/-- The source of a diagnosis is a stored operator row. -/
theorem sourceOf_stored {db : Store} {diagnosis source : Task}
    (found : sourceOf host db diagnosis = .ok source) :
    ∃ row ∈ db.tasks, source = row.view ∧ row.stage ≠ .diagnosis := by
  simp only [sourceOf, bind_ok] at found
  obtain ⟨answer, asked, rest⟩ := found
  cases answer with
  | none => simp at rest
  | some row =>
    simp only [bind_ok, refuse_ok, pure_ok, decide_eq_false_iff_not] at rest
    obtain ⟨_, operator, rfl⟩ := rest
    exact ⟨row, taskByJson_mem asked, rfl, operator⟩

theorem retrySource_legible (diagnosis : Task) {row : TaskRow} {w : World} (legible : w.db.Legible)
    (stored : row ∈ w.db.tasks) (operator : row.stage ≠ .diagnosis) :
    Prog.wlp (retrySource diagnosis row.view) (fun _ v => v.db.Legible) w := by
  unfold retrySource
  simp only [Prog.wlp, Prog.wp_bind]
  refine wlp_require fun _ => ?_
  simp only [wp_query, wp_execute]
  refine wlp_require fun _ r member => ?_
  obtain ⟨old, before, rfl⟩ := List.mem_map.mp member
  by_cases chosen : old.taskId = row.taskId ∧ old.status = .failed
  · obtain rfl : old = row := List.inj_on_of_nodup_map w.db.taskKey before stored chosen.1
    have own := (legible old stored).workspace
    have selected : (decide (old.taskId = old.view.taskId) && decide (old.status = .failed)) = true := by
      simp [TaskRow.view, chosen.2]
    rw [if_pos selected]
    refine .open ?_ (fun stage => absurd stage operator) (.inl rfl)
    have kept := Dict.get?_set_other old.input (recovery diagnosis "RETRY")
      (show Text.ofString "workspace" ≠ Text.ofString "recovery" by simp)
    unfold Dict.getD at own ⊢
    exact (congrArg (fun value : Option Json => (value.getD (.obj [])).isDict) kept).trans own
  · have passed : (decide (old.taskId = row.view.taskId) && decide (old.status = .failed)) = false := by
      rw [Bool.eq_false_iff]
      intro h
      rw [Bool.and_eq_true, decide_eq_true_eq, decide_eq_true_eq] at h
      exact chosen h
    rw [if_neg (Bool.eq_false_iff.mp passed)]
    exact legible old before

theorem applyDiagnosis_legible (taskId : Text) {w : World} (legible : w.db.Legible) :
    (applyDiagnosis host taskId w).2.1.db.Legible := by
  refine Keeps.final (P := Store.Legible) ?_ legible
  intro w legible
  simp only [Prog.wlp, Prog.wp_bind, wp_query]
  cases w.db.row? taskId with
  | none => trivial
  | some d =>
    simp only [Prog.wp_bind, wp_query]
    refine wlp_lift ?_
    rintro ⟨source, action⟩ checked
    rw [Prog.wp_ite]
    refine ⟨fun _ => legible, fun _ => ?_⟩
    simp only [checkDiagnosis, bind_ok] at checked
    obtain ⟨_, _, _, _, found, sourced, _, _, _, _, same⟩ := checked
    obtain ⟨row, stored, rfl, operator⟩ := sourceOf_stored sourced
    obtain ⟨rfl, rfl⟩ := Prod.mk.inj (pure_ok.mp same)
    have last (action : Text) : Keeps Store.Legible (do
        emit host d.view.runId .diagnosisApplied (applicationEvent d.view row.view action) d.view.taskId
        requireTask row.view.taskId) := .bind (.emit fun _ _ h => h) fun _ => .requireTask
    rw [Prog.wp_ite]
    constructor
    · intro _
      rw [Prog.wp_bind]
      exact (retrySource_legible d.view legible stored operator).mono
        (fun _ v _ h => last _ v h) fun _ _ _ h => h
    · intro _
      exact last _ w legible

theorem recover_legible (force : Bool) {w : World} (legible : w.db.Legible) :
    (recover host force w).2.1.db.Legible := by
  refine Keeps.final (P := Store.Legible) ?_ legible
  refine .bind .now fun reading => .bind (.query _) fun count => .bind (.execute fun db h => ?_) fun _ => .pure _
  exact h.update fun r legible _ => legible.restated rfl rfl (.inl rfl)

theorem reconcileRow_legible (run : AdaptationRun) (repairs : Repairs) (row : TaskRow) :
    Keeps Store.Legible (reconcileRow host disk run repairs row) := by
  have repairing {stage next : Stage} (h : stage.next? = some next) :
      Keeps Store.Legible (repairSuccessor host disk run row next repairs) := by
    refine .bind (.query _) fun known => .ite (fun _ => .pure _) fun _ => .bind (.query _) fun db => ?_
    refine .lift fun worker _ => .lift fun errors _ => .ite (fun _ => ?_) fun _ => .pure _
    exact .bind (ensureNext_legible _ _ (next?_operator h)) fun _ => .pure _
  unfold reconcileRow
  split
  · exact .pure _
  · refine .bind (.query _) fun known => .ite (fun _ => .pure _) fun _ => .bind .now fun reported => ?_
    refine .lift fun report _ => .lift fun dumped ok => ?_
    exact .bind (ensureDiagnosis_legible _ (dumped_report ok)) fun _ => .pure _
  · split
    · next h => exact repairing h
    · exact .pure _
  · exact .pure _

theorem reconcile_legible (runId : Text) {w : World} (legible : w.db.Legible) :
    (reconcile host disk runId w).2.1.db.Legible := by
  refine Keeps.final (P := Store.Legible) ?_ legible
  refine .bind .requireRun fun run => .bind (.query _) fun tasks => ?_
  refine .bind (.foldlM (fun repairs row _ => reconcileRow_legible run repairs row) _) fun repairs => ?_
  exact .bind (.emit fun _ _ h => h) fun _ => .pure _

/-! Calls on runs leave the task rows alone. -/

theorem createRun_tasks (run : AdaptationRun) (w : World) :
    (createRun host disk run w).2.1.db.tasks = w.db.tasks := by
  refine Keeps.final (P := fun db => db.tasks = w.db.tasks) ?_ rfl
  refine .require fun _ => .bind (.query _) fun found => ?_
  cases found with
  | some existing => exact .pure _
  | none =>
    refine .lift fun prepared _ => .bind (.execute fun db same => ?_) fun _ => ?_
    · unfold Store.saveRun
      split <;> exact same
    · exact .bind (.emit fun _ _ same => same) fun _ => .pure _

theorem bindEnvironment_tasks (runId : Text) (proof : Dict) (root : Json) (w : World) :
    (bindEnvironment host disk runId proof root w).2.1.db.tasks = w.db.tasks := by
  refine Keeps.final (P := fun db => db.tasks = w.db.tasks) ?_ rfl
  refine .bind .requireRun fun run => .lift fun handoff _ => .lift fun previous _ => ?_
  refine .bind (.query _) fun started => .require fun _ => .bind (.execute fun _ same => same) fun _ => ?_
  exact .bind (.emit fun _ _ same => same) fun _ => .pure _

theorem recordEnvironmentFailure_tasks (runId : Text) (proof : Dict) (error : Text) (w : World) :
    (recordEnvironmentFailure host runId proof error w).2.1.db.tasks = w.db.tasks := by
  refine Keeps.final (P := fun db => db.tasks = w.db.tasks) ?_ rfl
  refine .bind .requireRun fun run => .lift fun handoff _ => .bind (.execute fun _ same => same) fun _ => ?_
  exact .bind (.emit fun _ _ same => same) fun _ => .pure _

theorem recordGraphTransition_tasks (runId key : Text) (payload : Dict) (w : World) :
    (recordGraphTransition host runId key payload w).2.1.db.tasks = w.db.tasks := by
  refine Keeps.final (P := fun db => db.tasks = w.db.tasks) ?_ rfl
  cases GraphKey.ofText? key with
  | none => exact .raise _
  | some graphKey =>
    refine .bind .requireRun fun run => .ite (fun _ => .pure _) fun _ => ?_
    refine .bind (.execute fun _ same => same) fun _ => ?_
    exact .bind (.emit fun _ _ same => same) fun _ => .pure _

theorem Store.Legible.of_tasks {db db' : Store} (legible : db.Legible) (same : db'.tasks = db.tasks) :
    db'.Legible := by
  unfold Store.Legible
  rwa [same]

/-- Every call keeps the payloads legible. -/
theorem step_legible {w : World} (legible : w.db.Legible) (call : Disk × Call) :
    (step host w call).db.Legible := by
  obtain ⟨disk, call⟩ := call
  cases call <;> simp only [step, Call.body, discard_run]
  case createRun run => exact legible.of_tasks (createRun_tasks run w)
  case bindEnvironment runId proof root => exact legible.of_tasks (bindEnvironment_tasks runId proof root w)
  case recordEnvironmentFailure runId proof error =>
    exact legible.of_tasks (recordEnvironmentFailure_tasks runId proof error w)
  case recordGraphTransition runId key payload =>
    exact legible.of_tasks (recordGraphTransition_tasks runId key payload w)
  case discoverOperator runId spec => exact discoverOperator_legible runId spec legible
  case claimReady worker stage seconds limit =>
    exact claimReady_legible worker stage seconds limit legible
  case renewLease taskId worker token seconds =>
    exact renewLease_legible taskId worker token seconds legible
  case complete taskId worker result token => exact complete_legible taskId worker result token legible
  case fail taskId worker error token => exact (failTask_legible taskId worker error token).final legible
  case applyDiagnosis taskId => exact applyDiagnosis_legible taskId legible
  case recover force => exact recover_legible force legible
  case reconcile runId => exact reconcile_legible runId legible

theorem history_legible (calls : List (Disk × Call)) : (history host calls).db.Legible := by
  have start : World.empty.db.Legible := fun r member => nomatch member
  unfold history
  generalize World.empty = w at start
  induction calls generalizing w with
  | nil => exact start
  | cons call rest ih => exact ih _ (step_legible start call)

end Operations
end InferForge

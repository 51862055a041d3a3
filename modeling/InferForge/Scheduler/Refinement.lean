import InferForge.Scheduler.Rules
import InferForge.Sound

/-! Every scheduler call is a sequence of moves of the ledger, and the moves it may make
are fixed by the call. A rejected call only lets time pass. -/
namespace InferForge
open Py Effect Sched Transition ResultValidation

/-- The events replay reads. -/
def Store.log (db : Store) : List Note :=
  (db.events.map TaskEvent.note).filter fun n => n.eventType.lifecycle

theorem Store.log_append (db : Store) (event : TaskEvent)
    (counts : event.eventType.lifecycle = true) :
    (db.append event).log = db.log ++ [event.note] := by
  simp [Store.append, Store.log, TaskEvent.note, counts]

theorem Store.log_skip (db : Store) (event : TaskEvent)
    (other : event.eventType.lifecycle = false) : (db.append event).log = db.log := by
  simp [Store.append, Store.log, TaskEvent.note, other]

theorem Store.log_of_events {db db' : Store} (same : db'.events = db.events) :
    db'.log = db.log := by
  rw [Store.log, same, Store.log]

/-- What the tables say, to a reader of the ledger. -/
def World.ledger (w : World) : Ledger where
  run := w.db.run?
  spec := w.db.operator?
  row := w.db.row?
  log := w.db.log
  readings := w.readings
  tokens := w.tokens

/-- The tables of a state say what the ledger `l` says. -/
structure World.Shows (w : World) (l : Ledger) : Prop where
  run : w.db.run? = l.run
  spec : w.db.operator? = l.spec
  row : w.db.row? = l.row
  log : w.db.log = l.log

namespace World.Shows
variable {w : World} {l : Ledger}

theorem self (w : World) (n m : Nat) : World.Shows ⟨w.db, n, m⟩ w.ledger := ⟨rfl, rfl, rfl, rfl⟩

theorem ledger (shows' : w.Shows l) : w.ledger = l.later w.readings w.tokens := by
  simp only [World.ledger, Ledger.later]
  rw [shows'.run, shows'.spec, shows'.row, shows'.log]

/-- An event replay does not read. -/
theorem skip (shows' : w.Shows l) (event : TaskEvent) (other : event.eventType.lifecycle = false)
    (n m : Nat) : World.Shows ⟨w.db.append event, n, m⟩ l :=
  ⟨shows'.run, shows'.spec, shows'.row, (Store.log_skip _ _ other).trans shows'.log⟩

theorem note (shows' : w.Shows l) (event : TaskEvent) (counts : event.eventType.lifecycle = true)
    (n m : Nat) : World.Shows ⟨w.db.append event, n, m⟩ (l.note event.note) :=
  ⟨shows'.run, shows'.spec, shows'.row, by
    rw [Store.log_append _ _ counts, shows'.log]
    rfl⟩

/-- A write that selects one row. -/
theorem only (shows' : w.Shows l) (here : l.row t = some r) (selected : TaskRow → Bool)
    (change : TaskRow → TaskRow) (keeps : ∀ r, SameKey r (change r)) (chosen : selected r = true)
    (others : ∀ q, selected q = true → q.taskId = t) (n m : Nat) :
    World.Shows ⟨w.db.updateTasks selected change keeps, n, m⟩ (l.put (change r)) := by
  rw [← shows'.row] at here
  have named := Store.row?_named here
  refine ⟨shows'.run, shows'.spec, funext fun u => ?_, shows'.log⟩
  refine (Store.row?_updateTasks selected change keeps u).trans ?_
  simp only [Ledger.put, (keeps r).taskId, named, ← shows'.row, Function.update_apply]
  by_cases same : u = t
  · subst same
    rw [if_pos rfl, here, Option.map_some, if_pos chosen]
  · rw [if_neg same]
    cases found : w.db.row? u with
    | none => rfl
    | some q =>
      have skipped : ¬ selected q = true := fun taken =>
        same ((Store.row?_named found).symm.trans (others q taken))
      rw [Option.map_some, if_neg skipped]

theorem update (shows' : w.Shows l) (here : l.row t = some r) (change : TaskRow → TaskRow)
    (keeps : ∀ r, SameKey r (change r)) (n m : Nat) :
    World.Shows ⟨w.db.updateTask t change keeps, n, m⟩ (l.put (change r)) :=
  shows'.only here _ change keeps (by simpa using Store.row?_named (shows'.row ▸ here))
    (fun _ taken => of_decide_eq_true taken) n m

theorem insert (shows' : w.Shows l) {row : TaskRow} (inserted : (w.db.insertTask row).1 = true)
    (n m : Nat) : World.Shows ⟨(w.db.insertTask row).2, n, m⟩ (l.put row) := by
  obtain ⟨runs, specs, events⟩ := Store.insertTask_rest w.db row
  refine ⟨runs.trans shows'.run, specs.trans shows'.spec, ?_,
    (Store.log_of_events events).trans shows'.log⟩
  rw [(Store.row?_insertTask inserted).2, shows'.row, Ledger.put]

theorem updateRun (shows' : w.Shows l) {r : AdaptationRun} (here : l.run r.runId = some old)
    (n m : Nat) : World.Shows ⟨w.db.updateRun r, n, m⟩ (l.putRun r) := by
  rw [← shows'.run] at here
  refine ⟨?_, shows'.spec, shows'.row, shows'.log⟩
  rw [Store.run?_updateRun here, shows'.run, Ledger.putRun]

end World.Shows

/-- The validator's verdict, with the evidence found on one disk. -/
def Approves (host : Host) (disk : Disk) (task : Task) (run : AdaptationRun) (result : Dict)
    (worker : Text) : Prop :=
  validateResult host disk task run result (.str worker) = .ok []

/-- The moves a call may make. -/
def Call.permits : Call → Action → Prop
  | _, .wait => True
  | .createRun run, .openRun id => id = run.runId
  | .bindEnvironment runId _ _, .bind id => id = runId
  | .recordEnvironmentFailure runId _ _, .adjust id => id = runId
  | .recordGraphTransition runId _ _, .adjust id => id = runId
  | .discoverOperator _ _, .discover _ => True
  | .claimReady _ _ _ _, .release => True
  | .claimReady _ _ _ _, .claim _ => True
  | .claimReady _ _ _ _, .furnish _ => True
  | .renewLease t _ _ _, .renew id => id = t
  | .complete t _ _ _, .succeed id => id = t
  | .complete t _ _ _, .fail id => id = t
  | .complete _ _ _ _, .create _ => True
  | .fail t _ _ _, .fail id => id = t
  | .applyDiagnosis d, .retry id => id = d
  | .applyDiagnosis d, .consume id => id = d
  | .recover _, .release => True
  | .reconcile _, .create _ => True
  | _, _ => False

/-- `l'` is reached from `l` by permitted moves. -/
def Steps (host : Host) (disk : Disk) (allowed : Action → Prop) (l l' : Ledger) : Prop :=
  ∃ as, Path (Move host (Approves host disk)) l as l' ∧ ∀ a ∈ as, allowed a

namespace Steps
variable {host : Host} {disk : Disk} {allowed : Action → Prop} {l l' l'' : Ledger}

theorem refl : Steps host disk allowed l l := ⟨[], .nil, nofun⟩

theorem trans (first : Steps host disk allowed l l') (second : Steps host disk allowed l' l'') :
    Steps host disk allowed l l'' := by
  obtain ⟨as, path, labels⟩ := first
  obtain ⟨bs, more, labels'⟩ := second
  refine ⟨as ++ bs, path.append more, fun a member => ?_⟩
  rcases List.mem_append.mp member with early | late
  · exact labels a early
  · exact labels' a late

theorem one (moved : Move host (Approves host disk) l a l') (permitted : allowed a) :
    Steps host disk allowed l l' :=
  ⟨[a], .single moved, fun _ member => List.mem_singleton.mp member ▸ permitted⟩

theorem sound (steps : Steps host disk allowed l l') (start : Sound l) : Sound l' := by
  obtain ⟨_, path, _⟩ := steps
  exact path.invariant (fun _ _ _ moved => moved.keeps) start

theorem mono (weaker : ∀ a, allowed a → allowed' a) (steps : Steps host disk allowed l l') :
    Steps host disk allowed' l l' := by
  obtain ⟨as, path, labels⟩ := steps
  exact ⟨as, path, fun a member => weaker a (labels a member)⟩

theorem later (idle : allowed .wait) (readings : l.readings ≤ m) (tokens : l.tokens ≤ n) :
    Steps host disk allowed l (l.later m n) := one (.wait readings tokens) idle

/-- Time passes and nothing is written. -/
theorem wait {w v : World} (idle : allowed .wait) (ahead : w ≤ v) (shows' : v.Shows w.ledger) :
    Steps host disk allowed w.ledger v.ledger := by
  rw [shows'.ledger]
  exact later idle ahead.1 ahead.2

/-- One move, and the time the call took. -/
theorem act {v : World} (moved : Move host (Approves host disk) l a l') (permitted : allowed a)
    (idle : allowed .wait) (ahead : l'.readings ≤ v.readings ∧ l'.tokens ≤ v.tokens)
    (shows' : v.Shows l') : Steps host disk allowed l v.ledger := by
  rw [shows'.ledger]
  exact (one moved permitted).trans (later idle ahead.1 ahead.2)

end Steps

section Runs
variable {host : Host} {disk : Disk} {w : World}

theorem atomic_steps {x : Sched α} {allowed : Action → Prop} (idle : allowed .wait)
    (returned : Prog.wlp x (fun _ v => Steps host disk allowed w.ledger v.ledger) w) :
    Steps host disk allowed w.ledger (atomic x w).2.1.ledger :=
  atomic_spec (P := fun v => Steps host disk allowed w.ledger v.ledger) returned
    fun _ ahead => .wait idle ahead (.self w _ _)

theorem evidenceMode_set (run : AdaptationRun) (value : Json) (other : key ≠ Text.ofString "evidence_mode") :
    Dict.getD (run.metadata.set key value) "evidence_mode" (.str "real") = run.evidenceMode := by
  rw [Dict.getD, Dict.get?_set_other _ _ other.symm]
  rfl

theorem preparedRun_spec {run r : AdaptationRun} (ok : preparedRun host disk run = .ok r) :
    r.runId = run.runId ∧
      (r.evidenceMode.eq (.str "real") = true → r.status = "WAITING_FOR_ENVIRONMENT") := by
  have other (value : Json) :
      Dict.getD (run.metadata.set "artifact_root" value) "evidence_mode" (.str "real") =
        run.evidenceMode := evidenceMode_set _ _ (by simp)
  unfold preparedRun at ok
  by_cases real : run.evidenceMode.eq (.str "real") = true
  · simp only [real, if_true, bind_ok, pure_ok] at ok
    obtain ⟨root, _, rfl⟩ := ok
    exact ⟨rfl, fun _ => rfl⟩
  · simp only [real, if_false, Bool.false_eq_true] at ok
    by_cases simulation : run.evidenceMode.eq (.str "simulation") = true
    · simp only [simulation, if_true] at ok
      split at ok
      · simp only [bind_ok, pure_ok] at ok
        obtain ⟨path, _, root, _, rfl⟩ := ok
        refine ⟨rfl, fun h => absurd ?_ real⟩
        rwa [AdaptationRun.evidenceMode, other] at h
      · obtain rfl := pure_ok.mp ok
        exact ⟨rfl, fun h => absurd h real⟩
    · simp [simulation] at ok

theorem createRun_steps (run : AdaptationRun) :
    Steps host disk (Call.permits (.createRun run)) w.ledger (createRun host disk run w).2.1.ledger := by
  refine atomic_steps trivial ?_
  simp only [Prog.wlp, Prog.wp_bind]
  refine wlp_require fun _ => ?_
  simp only [wp_query]
  cases known : w.db.run? run.runId with
  | some existing => exact Steps.refl
  | none =>
    dsimp only
    rw [Prog.wp_bind]
    refine wlp_lift fun prepared ok => ?_
    simp only [Prog.wp_bind, wp_execute, wp_emit, Prog.wp_pure]
    obtain ⟨named, waiting⟩ := preparedRun_spec ok
    have fresh : w.db.run? prepared.runId = none := named ▸ known
    obtain ⟨rows, specs, events⟩ := Store.saveRun_rest w.db prepared
    exact Steps.act (.openRun prepared fresh waiting) named trivial ⟨Nat.le_succ _, le_rfl⟩
      ⟨Store.run?_saveRun fresh, specs, rows,
        (Store.log_skip _ _ rfl).trans (Store.log_of_events events)⟩

/-- Every digest in the record of a proof is a digest. -/
theorem evidenceHashes_digest {root : Path} {names : List Text} {hashes : Dict}
    (ok : evidenceHashes host disk root names = .ok hashes) (found : hashes.get? key = some value) :
    ∃ content, value = .str (host.sha256 content) := by
  induction names generalizing hashes with
  | nil =>
    obtain rfl := Except.ok.inj ok
    cases found
  | cons name rest ih =>
    simp only [evidenceHashes] at ok
    cases content : disk.read (root.child name) with
    | error e =>
      simp only [content] at ok
      split at ok <;> simp at ok
    | ok bytes =>
      simp only [content] at ok
      split at ok
      · simp at ok
      · simp only [bind_ok, pure_ok] at ok
        obtain ⟨tail, more, rfl⟩ := ok
        rw [Dict.get?_cons] at found
        split at found
        · exact ⟨bytes, (Option.some.inj found).symm⟩
        · exact ih more found

theorem sha256_named (host : Host) (content : Bytes) : (host.sha256 content).isEmpty = false := by
  have long := host.sha256_length content
  cases codes : (host.sha256 content).codes with
  | nil => simp [codes] at long
  | cons c rest => simp [Text.isEmpty, codes]

theorem checkProof_named {run : AdaptationRun} {proof : Dict} {root : Json} {handoff : Handoff}
    (ok : checkProof host disk run proof root = .ok handoff) :
    handoff.fingerprint.isEmpty = false := by
  simp only [checkProof, bind_ok, pure_ok] at ok
  obtain ⟨mode, -, ⟨checks, owner⟩, -, artifacts, -, ⟨path, hashes⟩, evidence, fingerprint, named, rfl⟩ := ok
  have found : Dict.get? hashes "environment_fingerprint.txt" = some (.str fingerprint) := by
    dsimp only [fingerprintOf] at named
    split at named
    · next found =>
      rw [found, Except.ok.inj named]
    · cases named
  simp only [proofEvidence, bind_ok] at evidence
  obtain ⟨_, -, given, -, base, -, identity, -, _, -, digests, hashed, recorded, -, rest⟩ := evidence
  have same : Dict.get? digests "environment_fingerprint.txt" = some (.str fingerprint) := by
    cases recorded with
    | true =>
      simp only [if_true, bind_ok, pure_ok, Prod.mk.injEq] at rest
      obtain ⟨content, -, rfl, rfl⟩ := rest
      rwa [Dict.get?_set_other _ _ (by simp)] at found
    | false =>
      simp only [Bool.false_eq_true, if_false, pure_ok, Prod.mk.injEq] at rest
      rwa [rest.2]
  obtain ⟨content, digest⟩ := evidenceHashes_digest hashed same
  rw [Json.str.inj digest]
  exact sha256_named host content

/-- A run rewritten in place, and an event replay does not read. -/
theorem updateRun_steps {v : World} {r r' : AdaptationRun} {event : TaskEvent}
    {allowed : Action → Prop} (moved : Move host (Approves host disk) w.ledger a (w.ledger.putRun r'))
    (permitted : allowed a) (idle : allowed .wait) (here : w.db.run? r.runId = some r)
    (same : r'.runId = r.runId) (ahead : w ≤ v)
    (db : v.db = (w.db.updateRun r').append event) (other : event.eventType.lifecycle = false) :
    Steps host disk allowed w.ledger v.ledger := by
  refine Steps.act moved permitted idle ahead ?_
  have shown := (World.Shows.self w 0 0).updateRun (r := r') (same ▸ here) w.readings w.tokens
  have skipped := shown.skip event other v.readings v.tokens
  rwa [← db] at skipped

theorem bindEnvironment_steps (runId : Text) (proof : Dict) (root : Json) :
    Steps host disk (Call.permits (.bindEnvironment runId proof root)) w.ledger
      (bindEnvironment host disk runId proof root w).2.1.ledger := by
  refine atomic_steps trivial ?_
  simp only [Prog.wlp, Prog.wp_bind]
  refine wlp_requireRun fun run here => ?_
  refine wlp_lift fun handoff ok => ?_
  refine wlp_lift fun previous bound => ?_
  rw [wp_query]
  refine wlp_require fun open' => ?_
  simp only [wp_execute, wp_emit, Prog.wp_pure]
  have named := Store.run?_named here
  refine updateRun_steps (r := run) (.bind run handoff (named.symm ▸ here) (checkProof_named ok) ?_)
    named trivial (named.symm ▸ here) rfl ⟨Nat.le_succ _, le_rfl⟩ rfl rfl
  intro t q found task
  refine ⟨previous, bound, fun truthy => ?_⟩
  have member : q ∈ w.db.tasksOf disk.ties runId :=
    Store.mem_tasksOf.mpr ⟨Store.row?_mem found, task.trans named⟩
  have started : (w.db.tasksOf disk.ties runId).isEmpty = false := by
    rw [List.isEmpty_eq_false_iff]
    exact List.ne_nil_of_mem member
  simpa [truthy, started] using open'

theorem fingerprint_set (run : AdaptationRun) (value : Json) (status : Text)
    (other : key ≠ Text.ofString "environment_proof") :
    AdaptationRun.fingerprint { run with environment := run.environment.set key value, status } =
      run.fingerprint := by
  simp only [AdaptationRun.fingerprint, nestedGet, Dict.getD]
  rw [Dict.get?_set_other _ _ other.symm]

variable (host disk w) in
theorem recordEnvironmentFailure_steps (runId : Text) (proof : Dict) (error : Text) :
    Steps host disk (Call.permits (.recordEnvironmentFailure runId proof error)) w.ledger
      (recordEnvironmentFailure host runId proof error w).2.1.ledger := by
  refine atomic_steps trivial ?_
  simp only [Prog.wlp, Prog.wp_bind]
  refine wlp_requireRun fun run here => ?_
  refine wlp_lift fun handoff ok => ?_
  simp only [wp_execute, wp_emit, Prog.wp_pure]
  have named := Store.run?_named here
  exact updateRun_steps (r := run)
    (.adjust run { run with
        environment := run.environment.set "failed_environment_proof" handoff
        status := "ENVIRONMENT_FAILED" } (named.symm ▸ here) rfl rfl
      (fingerprint_set run handoff _ (by simp)) (.inr rfl))
    named trivial (named.symm ▸ here) rfl ⟨Nat.le_succ _, le_rfl⟩ rfl rfl

theorem GraphKey.text_ne (h : GraphKey.ofText? key = some graphKey) :
    key ≠ Text.ofString "evidence_mode" := by
  rintro rfl
  have none : GraphKey.ofText? "evidence_mode" = none := by decide
  rw [none] at h
  cases h

theorem recordGraphTransition_steps (runId key : Text) (payload : Dict) :
    Steps host disk (Call.permits (.recordGraphTransition runId key payload)) w.ledger
      (recordGraphTransition host runId key payload w).2.1.ledger := by
  refine atomic_steps trivial ?_
  unfold Prog.wlp
  cases known : GraphKey.ofText? key with
  | none => trivial
  | some graphKey =>
    dsimp only
    rw [Prog.wp_bind]
    refine wlp_requireRun fun run here => ?_
    rw [Prog.wp_ite]
    refine ⟨fun _ => Steps.refl, fun _ => ?_⟩
    simp only [Prog.wp_bind, wp_execute, wp_emit, Prog.wp_pure]
    have named := Store.run?_named here
    exact updateRun_steps (r := run)
      (.adjust run { run with metadata := run.metadata.set key _ } (named.symm ▸ here) rfl
        (evidenceMode_set run _ (GraphKey.text_ne known)) rfl (.inl rfl))
      named trivial (named.symm ▸ here) rfl ⟨Nat.le_succ _, le_rfl⟩ rfl rfl

/-- The id of a stored operator row is the one its place gives. -/
theorem Sound.id_of_place (sound : Sound w.ledger) (here : w.db.row? t = some r)
    (place : r.place = (runId, key, stage)) (operator : stage ≠ .diagnosis) :
    t = stageTaskId runId key stage := by
  simp only [TaskRow.place, Prod.mk.injEq] at place
  obtain ⟨rfl, rfl, rfl⟩ := place
  exact ((sound.shaped t r here).operator operator).1

/-- Conversely, the row under a stage id is the row of that stage. -/
theorem Sound.place_of_id (sound : Sound w.ledger)
    (here : w.db.row? (stageTaskId runId key stage) = some r) (operator : stage ≠ .diagnosis)
    (long : key.codes.length = 64) : r.place = (runId, key, stage) := by
  have shaped := sound.shaped _ r here
  have kind : r.stage ≠ .diagnosis := by
    intro kind
    obtain ⟨s, _, diagnoses⟩ := shaped.diagnosis kind
    exact diagnosisId_ne_stageTaskId operator (diagnoses.named.symm.trans shaped.named)
  obtain ⟨same, long', _⟩ := shaped.operator kind
  obtain ⟨rfl, rfl, rfl⟩ := stageTaskId_inj same long long'
  rfl

/-- A new operator row is never ignored: a row in its place would have its id. -/
theorem inserted_of_fresh {row : TaskRow} (sound : Sound w.ledger)
    (named : row.taskId = stageTaskId row.runId row.operatorKey row.stage)
    (operator : row.stage ≠ .diagnosis) (fresh : w.db.row? row.taskId = none) :
    (w.db.insertTask row).1 = true := by
  by_contra ignored
  obtain ⟨_, old, member, same⟩ := Store.insertTask_ignored (Bool.eq_false_iff.mpr ignored)
  have here := Store.row?_of_mem member
  have taken : old.taskId = row.taskId := by
    rcases same with same | place
    · exact same
    · exact (sound.id_of_place here place operator).trans named.symm
  rw [taken, fresh] at here
  cases here

theorem operatorKey_long {spec : OperatorSpec} (ok : spec.operatorKey host = .ok key) :
    key.codes.length = 64 := by
  unfold OperatorSpec.operatorKey at ok
  split at ok
  · rw [← Except.ok.inj ok]
    exact host.sha256_length _
  · cases ok

/-- Whether a stored row is the torch row `discover_operator` looks for. -/
def isTorchOf (key : Text) (row : TaskRow) : Bool :=
  row.view.operatorKey.eq (.str key) && row.stage = .torch

theorem isTorchOf_fold (key : Text) :
    (fun row : TaskRow => row.view.operatorKey.eq (.str key) && decide (row.stage = .torch)) = isTorchOf key := rfl

theorem isTorchOf_iff : isTorchOf key row = true ↔ row.operatorKey = key ∧ row.stage = .torch := by
  constructor
  · intro h
    simp only [isTorchOf, Bool.and_eq_true, decide_eq_true_eq] at h
    have shown := view_operatorKey (by simp [h.2] : row.stage ≠ .diagnosis)
    exact ⟨by simpa [shown] using h.1, h.2⟩
  · rintro ⟨rfl, stage⟩
    simp [isTorchOf, stage, view_operatorKey (by simp [stage] : row.stage ≠ .diagnosis)]

/-- An operator without a torch task in the table is unknown altogether. -/
theorem Sound.undiscovered (sound : Sound w.ledger) (ties : Text → Nat) (runId : Text)
    (long : key.codes.length = 64)
    (missing : (w.db.tasksOf ties runId).find? (isTorchOf key) = none) :
    w.db.row? (stageTaskId runId key .torch) = none ∧ w.db.operator? runId key = none := by
  have fresh : w.db.row? (stageTaskId runId key .torch) = none := by
    by_contra present
    obtain ⟨r, found⟩ := Option.ne_none_iff_exists'.mp present
    have place := sound.place_of_id found (by decide) long
    simp only [TaskRow.place, Prod.mk.injEq] at place
    have missed := List.find?_eq_none.mp missing r
      (Store.mem_tasksOf.mpr ⟨Store.row?_mem found, place.1⟩)
    exact missed (isTorchOf_iff.mpr ⟨place.2.1, place.2.2⟩)
  refine ⟨fresh, ?_⟩
  by_contra present
  obtain ⟨old, found⟩ := Option.ne_none_iff_exists'.mp present
  obtain ⟨q, rooted, _⟩ := sound.rooted runId key old found
  cases rooted.symm.trans fresh

theorem discoverOperator_steps (sound : Sound w.ledger) (runId : Text) (spec : OperatorSpec) :
    Steps host disk (Call.permits (.discoverOperator runId spec)) w.ledger
      (discoverOperator host disk runId spec w).2.1.ledger := by
  refine atomic_steps trivial ?_
  simp only [Prog.wlp, Prog.wp_bind]
  refine wlp_requireRun fun run here => wlp_lift fun _ valid => wlp_lift fun key keyed => ?_
  simp only [wp_query, wp_execute]
  obtain ⟨rows, tasks, runs, events⟩ :=
    Store.putOperator_rest w.db runId key spec
  have long := operatorKey_long keyed
  rw [isTorchOf_fold]
  cases existing : ((w.db.putOperator runId key spec).2.tasksOf disk.ties runId).find?
      (isTorchOf key) with
  | some row =>
    -- the torch row came with its specification, so nothing is stored
    dsimp only
    rw [Prog.wp_pure]
    obtain ⟨stored, belongs⟩ := Store.mem_tasksOf.mp (List.mem_of_find?_eq_some existing)
    obtain ⟨named, torch⟩ := isTorchOf_iff.mp (List.find?_some existing)
    have shaped := sound.shaped _ row (Store.row?_of_mem (tasks ▸ stored))
    have known := (shaped.operator (by simp [torch])).2.2
    rw [belongs, named] at known
    rw [Store.putOperator_known known]
    exact Steps.refl
  | none =>
    dsimp only
    simp only [Prog.wp_bind, wp_insertTask, wp_emit, Prog.wp_pure]
    obtain ⟨fresh, unknown⟩ := sound.undiscovered disk.ties runId long
      (by rw [← existing, Store.tasksOf, Store.tasksOf, tasks])
    generalize made : pendingRow runId key .torch (stageTaskId runId key .torch)
      [("operator_spec", spec.toDict)] (host.clock w.readings) = row
    have inserted : ((w.db.putOperator runId key spec).2.insertTask row).1 = true := by
      rw [Store.insertTask_inserts, tasks, ← Store.insertTask_inserts]
      subst made
      exact inserted_of_fresh sound rfl (by rintro ⟨⟩) fresh
    obtain ⟨_, placed⟩ := Store.row?_insertTask inserted
    obtain ⟨runs', specs', events'⟩ :=
      Store.insertTask_rest (w.db.putOperator runId key spec).2 row
    have named := Store.run?_named here
    subst named
    refine Steps.act
      (.discover run key spec [("operator_spec", spec.toDict)]
        [("stage", .str "torch"), ("operator_key", .str key)] (host.clock w.readings) here valid long
        unknown fresh)
      trivial trivial ⟨Nat.le_add_right _ 3, le_rfl⟩ ⟨runs'.trans runs,
        specs'.trans (Store.operator?_putOperator unknown).2,
        placed.trans (by rw [rows, ← made]; rfl), ?_⟩
    rw [Store.log_append _ _ rfl, Store.log_skip _ _ rfl, Store.log_of_events (events'.trans events)]
    rfl

end Runs
end InferForge

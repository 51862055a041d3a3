import InferForge.Scheduler.Gating

/-! When `claim_ready` returns, and which rows it returns: its loop visits every queued row of
the stage, and what one round does to the tables does not decide about the rows after it. -/
namespace InferForge
open Py Effect Sched Transition

/-- The run a claim works in, with its directory. -/
def workspaceRun (host : Host) (disk : Disk) (run : AdaptationRun) : Except Exn AdaptationRun :=
  if run.evidenceMode.eq (.str "real") && !run.flag "artifact_root" then do
    let root ← runRoot host disk run
    return { run with metadata := run.metadata.set "artifact_root" (.str root) }
  else return run

/-- The attempt directory of a row about to be claimed, with its `task.json`. -/
def attemptRoom (disk : Disk) (run : AdaptationRun) (row : TaskRow) : Except Exn Unit :=
  if run.flag "artifact_root" then do
    let root ← disk.allocateAttempt (Dict.getD run.metadata "artifact_root" .null) run.runId row.taskId
    let payload := row.input.set "workspace" (workspaceOf run.runId row.taskId root)
    let inputRoot ← ArtifactStore disk (root.child "input")
    let _ ← ArtifactStore.writeJson disk inputRoot (Path.ofText "task.json")
      (.ok (taskContract row payload)) true
    return ()
  else return ()

/-- What `_deps_succeeded` asks of a row. -/
def Claimable (w : World) (row : TaskRow) : Prop :=
  row.stage ≠ .diagnosis → Ready w.ledger row ∧ upstreamSucceeded w.db row = true

/-- The binding of the row's run can be read where the gate reads it. -/
def GateReadable (w : World) (row : TaskRow) : Prop :=
  ∀ r, w.db.run? row.runId = some r → row.stage ≠ .diagnosis → environmentGated r = true →
    r.status = "ENVIRONMENT_READY" → ∃ fingerprint, r.fingerprint = .ok fingerprint

/-- `claim_ready` gets past the row: its gate can be read, and there is room for its attempt if
it is to be claimed. -/
structure Passes (host : Host) (disk : Disk) (w : World) (row : TaskRow) : Prop where
  gate : GateReadable w row
  room : Claimable w row → ∀ r, w.db.run? row.runId = some r →
    ∃ bound, workspaceRun host disk r = .ok bound ∧ attemptRoom disk bound row = .ok ()

namespace Store
variable {db : Store}

theorem stageRow?_updateTasks (selected : TaskRow → Bool) (change : TaskRow → TaskRow)
    (keeps : ∀ r, SameKey r (change r)) (runId key : Text) (stage : Stage) :
    (db.updateTasks selected change keeps).stageRow? runId key stage =
      (db.stageRow? runId key stage).map fun r => if selected r then change r else r := by
  have kept : ((fun r : TaskRow => decide (r.runId = runId ∧ r.operatorKey = key ∧ r.stage = stage)) ∘
      fun r => if selected r then change r else r) =
        fun r => decide (r.runId = runId ∧ r.operatorKey = key ∧ r.stage = stage) := by
    funext r
    have same := keeps r
    simp only [Function.comp_apply]
    split <;> simp [same.runId, same.operatorKey, same.stage]
  simp only [stageRow?, updateTasks, List.find?_map, kept]

/-- The stages that have succeeded, as `_deps_succeeded` asks for them. -/
def settled (db : Store) (runId key : Text) (stage : Stage) : Bool :=
  (db.stageRow? runId key stage).any fun p => p.status = .succeeded

/-- A write that makes no row succeed and takes no success back. -/
theorem settled_updateTasks (selected : TaskRow → Bool) (change : TaskRow → TaskRow)
    (keeps : ∀ r, SameKey r (change r))
    (same : ∀ r, selected r = true → ((change r).status = .succeeded ↔ r.status = .succeeded)) :
    (db.updateTasks selected change keeps).settled = db.settled := by
  funext runId key stage
  simp only [settled, stageRow?_updateTasks, Option.any_map]
  congr 1
  funext r
  by_cases chosen : selected r = true
  · simp [chosen, same r chosen]
  · simp [chosen]

end Store

theorem upstreamSucceeded_settled {db db' : Store} (same : db'.settled = db.settled) (row : TaskRow) :
    upstreamSucceeded db' row = upstreamSucceeded db row := by
  unfold upstreamSucceeded
  cases row.stage.prev? with
  | none => rfl
  | some stage => exact congrFun (congrFun (congrFun same row.runId) row.operatorKey) stage

section Rounds
variable {host : Host} {disk : Disk} {start : World} {w : World}

/-- A run before and after it may have been given its directory. -/
def Furnished (host : Host) (disk : Disk) (r r' : AdaptationRun) : Prop :=
  r' = r ∨ workspaceRun host disk r = .ok r'

theorem workspaceRun_ok {r r' : AdaptationRun} (ok : workspaceRun host disk r = .ok r') : r' = r ∨
    ∃ root, runRoot host disk r = .ok root ∧ (r.evidenceMode.eq (.str "real") && !r.flag "artifact_root") = true ∧
      r' = { r with metadata := r.metadata.set "artifact_root" (.str root) } := by
  unfold workspaceRun at ok
  by_cases unbound : (r.evidenceMode.eq (.str "real") && !r.flag "artifact_root") = true
  · rw [if_pos unbound] at ok
    obtain ⟨root, found, same⟩ := bind_ok.mp ok
    exact .inr ⟨root, found, unbound, (pure_ok.mp same).symm⟩
  · rw [if_neg unbound] at ok
    exact .inl (pure_ok.mp ok).symm

/-- A run that has been given its directory keeps it. -/
theorem workspaceRun_idem {r r' : AdaptationRun} (ok : workspaceRun host disk r = .ok r') :
    workspaceRun host disk r' = .ok r' := by
  rcases workspaceRun_ok ok with rfl | ⟨root, found, unbound, rfl⟩
  · exact ok
  rw [Bool.and_eq_true, Bool.not_eq_true'] at unbound
  let bound : AdaptationRun := { r with metadata := r.metadata.set "artifact_root" (.str root) }
  have given : Dict.getD bound.metadata "artifact_root" .null = .str root := by
    simp [bound, Dict.getD]
  have mode : bound.evidenceMode = r.evidenceMode := evidenceMode_set r (.str root) (by simp)
  unfold workspaceRun
  by_cases truthy : (Json.str root).truthy = true
  · have flag : bound.flag "artifact_root" = true := by
      unfold AdaptationRun.flag
      rw [given, truthy]
    exact if_neg (by rw [flag]; simp)
  · have flag : bound.flag "artifact_root" = false := by
      simpa [AdaptationRun.flag, given] using truthy
    have again : runRoot host disk bound = .ok root := by
      rw [← found]
      have before : (Dict.getD r.metadata "artifact_root" .null).truthy = false := unbound.2
      simp only [runRoot, given, before, Bool.eq_false_iff.mpr truthy, Bool.false_eq_true, if_false]
      rfl
    rw [if_pos (by rw [mode, flag, unbound.1]; rfl), again]
    simp

theorem Furnished.runId {r r' : AdaptationRun} (furnished : Furnished host disk r r') :
    r'.runId = r.runId := by
  rcases furnished with rfl | ok
  · rfl
  · rcases workspaceRun_ok ok with rfl | ⟨_, _, _, rfl⟩ <;> rfl

/-- The directory makes no difference to the gate. -/
theorem Furnished.gate {r r' : AdaptationRun} (furnished : Furnished host disk r r') :
    environmentGated r' = environmentGated r ∧ r'.status = r.status ∧ r'.fingerprint = r.fingerprint := by
  rcases furnished with rfl | ok
  · exact ⟨rfl, rfl, rfl⟩
  · rcases workspaceRun_ok ok with rfl | ⟨root, _, _, rfl⟩
    · exact ⟨rfl, rfl, rfl⟩
    · exact ⟨environmentGated_set r (.str root), rfl, rfl⟩

theorem Furnished.workspace {r r' : AdaptationRun} (furnished : Furnished host disk r r') :
    workspaceRun host disk r' = workspaceRun host disk r := by
  rcases furnished with rfl | ok
  · rfl
  · rw [ok, workspaceRun_idem ok]

/-- The tables after some rounds, as far as later rounds read them. -/
structure Drift (host : Host) (disk : Disk) (start : World) (db : Store) : Prop where
  operator : db.operator? = start.db.operator?
  settled : db.settled = start.db.settled
  run : ∀ runId r, start.db.run? runId = some r →
    ∃ r', db.run? runId = some r' ∧ Furnished host disk r r'

theorem Drift.refl : Drift host disk start start.db :=
  ⟨rfl, rfl, fun _ r here => ⟨r, here, .inl rfl⟩⟩

/-- The row's run and specification are known. -/
structure Grounded (w : World) (row : TaskRow) : Prop where
  run : ∃ r, w.db.run? row.runId = some r
  spec : row.stage ≠ .diagnosis → (w.db.operator? row.runId row.operatorKey).isSome

theorem environmentOpen_exact {row : TaskRow} {r : AdaptationRun}
    (spec : (w.db.operator? row.runId row.operatorKey).isSome) :
    Prog.wp (environmentOpen row r) (fun ok u => u = w ∧
        (environmentGated r = true → r.status = "ENVIRONMENT_READY" → ∃ f, r.fingerprint = .ok f) ∧
        (ok = true ↔ (environmentGated r = true → r.status = "ENVIRONMENT_READY" ∧ ∃ spec fingerprint,
          w.db.operator? row.runId row.operatorKey = some spec ∧
          r.fingerprint = .ok fingerprint ∧ fingerprint.truthy = true ∧
          (Dict.getD spec.environment "fingerprint" .null).eq fingerprint = true)))
      (fun _ _ => environmentGated r = true ∧ r.status = "ENVIRONMENT_READY" ∧
        ∀ f, r.fingerprint ≠ .ok f) w := by
  obtain ⟨spec, known⟩ := Option.isSome_iff_exists.mp spec
  unfold environmentOpen
  rw [Prog.wp_ite]
  constructor
  · intro free
    have free : environmentGated r = false := by simpa using free
    exact ⟨rfl, by simp [free], by simp [free]⟩
  intro gated
  have gated : environmentGated r = true := by simpa using gated
  rw [Prog.wp_ite]
  constructor
  · intro waiting
    exact ⟨rfl, fun _ ready => absurd ready waiting, by simp [gated, waiting]⟩
  intro ready
  have ready : r.status = "ENVIRONMENT_READY" := Decidable.not_not.mp ready
  simp only [Prog.wp_bind, wp_query]
  rw [Prog.wp_lift]
  constructor
  · intro fingerprint bound
    rw [Prog.wp_ite]
    constructor
    · intro unbound
      refine ⟨rfl, fun _ _ => ⟨_, bound⟩, ?_⟩
      simp_all
    · intro truthy
      rw [known]
      refine ⟨rfl, fun _ _ => ⟨_, bound⟩, ?_⟩
      simp_all
  · intro e unreadable
    exact ⟨gated, ready, fun f h => by simp [h] at unreadable⟩

/-- `_deps_succeeded` after some rounds answers as it would have answered before them. -/
theorem depsSucceeded_exact {row : TaskRow} (drift : Drift host disk start w.db)
    (grounded : Grounded start row) :
    Prog.wp (depsSucceeded row)
      (fun ok u => u = w ∧ GateReadable start row ∧ (ok = true ↔ Claimable start row))
      (fun _ _ => ¬ GateReadable start row) w := by
  obtain ⟨r, known⟩ := grounded.run
  obtain ⟨r', here, furnished⟩ := drift.run _ r known
  obtain ⟨gated, status, proof⟩ := furnished.gate
  unfold depsSucceeded
  rw [Prog.wp_ite]
  constructor
  · intro diagnosis
    exact ⟨rfl, fun _ _ operator => absurd diagnosis operator,
      fun _ operator => absurd diagnosis operator, fun _ => rfl⟩
  intro operator
  have spec := grounded.spec operator
  have ready : Ready start.ledger row ↔ (environmentGated r' = true → r'.status = "ENVIRONMENT_READY" ∧
      ∃ spec fingerprint, w.db.operator? row.runId row.operatorKey = some spec ∧
        r'.fingerprint = .ok fingerprint ∧ fingerprint.truthy = true ∧
        (Dict.getD spec.environment "fingerprint" .null).eq fingerprint = true) := by
    rw [gated, status, proof, drift.operator]
    constructor
    · rintro ⟨q, found, opens⟩
      obtain rfl := Option.some.inj (found.symm.trans known)
      exact opens
    · exact fun opens => ⟨r, known, opens⟩
  simp only [Prog.wp_bind, requireRun, wp_query, here, Prog.wp_pure]
  refine (environmentOpen_exact (drift.operator ▸ spec)).mono ?_ ?_
  · rintro ok _ _ ⟨rfl, readable, opens⟩
    have gate : GateReadable start row := by
      intro q found _ required waiting
      obtain rfl := Option.some.inj (found.symm.trans known)
      exact proof ▸ readable (gated.trans required) (status.trans waiting)
    rw [← ready] at opens
    rw [Prog.wp_ite]
    constructor
    · intro passed
      rw [wp_query, upstreamSucceeded_settled drift.settled]
      exact ⟨rfl, gate, fun up _ => ⟨opens.mp passed, up⟩, fun claimable => (claimable operator).2⟩
    · intro closed
      refine ⟨rfl, gate, by rintro ⟨⟩, fun claimable => ?_⟩
      exact absurd (opens.mpr (claimable operator).1) closed
  · rintro _ _ _ ⟨required, waiting, unreadable⟩ gate
    obtain ⟨f, bound⟩ := gate r known operator (gated.symm.trans required) (status.symm.trans waiting)
    exact unreadable f (proof.trans bound)

theorem bindWorkspace_exact (host : Host) (disk : Disk) {r : AdaptationRun} (here : w.db.run? r.runId = some r) :
    Prog.wp (bindWorkspace host disk r)
      (fun r' u => workspaceRun host disk r = .ok r' ∧ u.db.tasks = w.db.tasks ∧
        u.db.operator? = w.db.operator? ∧ u.db.run? = Function.update w.db.run? r.runId (some r'))
      (fun _ _ => ∀ r', workspaceRun host disk r ≠ .ok r') w := by
  unfold bindWorkspace workspaceRun
  rw [Prog.wp_ite]
  constructor
  · intro unbound
    rw [if_pos unbound, Prog.wp_bind, Prog.wp_lift]
    constructor
    · intro root found
      simp only [Prog.wp_bind, wp_execute, wp_emit, Prog.wp_pure]
      refine ⟨by simp [found], rfl, rfl, ?_⟩
      exact Store.run?_updateRun (r := { r with metadata := r.metadata.set "artifact_root" (.str root) }) here
    · intro e failed r' ok
      obtain ⟨root, found, _⟩ := bind_ok.mp ok
      rw [failed] at found
      cases found
  · intro bound
    rw [if_neg bound]
    exact ⟨rfl, rfl, rfl, by rw [← here, Function.update_eq_self]⟩

theorem openAttempt_exact (run : AdaptationRun) (row : TaskRow) :
    Prog.wp (openAttempt disk run row)
      (fun _ u => attemptRoom disk run row = .ok () ∧ u.db.run? = w.db.run? ∧
        u.db.operator? = w.db.operator? ∧ u.db.settled = w.db.settled ∧
        (∀ t, t ≠ row.taskId → u.db.row? t = w.db.row? t) ∧
        ((w.db.row? row.taskId).isSome → (u.db.row? row.taskId).isSome))
      (fun _ _ => attemptRoom disk run row ≠ .ok ()) w := by
  unfold openAttempt attemptRoom
  rw [Prog.wp_ite]
  constructor
  · intro housed
    simp only [if_pos housed, Prog.wp_bind]
    rw [Prog.wp_lift]
    constructor
    swap
    · intro e failed ok
      simp [failed] at ok
    intro root allocated
    rw [Prog.wp_lift]
    constructor
    swap
    · intro e failed ok
      simp [allocated, failed] at ok
    intro inputRoot stored
    rw [Prog.wp_lift]
    constructor
    swap
    · intro e failed ok
      simp [allocated, stored, failed] at ok
    intro path written
    rw [wp_execute]
    refine ⟨by simp [allocated, stored, written], rfl, rfl, ?_, fun t other => ?_, fun known => ?_⟩
    · exact Store.settled_updateTasks _
        (fun r => { r with input := row.input.set "workspace" (workspaceOf run.runId row.taskId root) })
        (fun _ => ⟨rfl, rfl, rfl, rfl⟩) fun _ _ => Iff.rfl
    · rw [Store.updateTask, Store.row?_updateTasks]
      cases found : w.db.row? t with
      | none => rfl
      | some q => simp [Store.row?_named found, other]
    · rw [Store.updateTask, Store.row?_updateTasks]
      simpa using known
  · intro homeless
    rw [if_neg homeless]
    exact ⟨rfl, rfl, rfl, rfl, fun _ _ => rfl, id⟩

/-- The rows a finished round has claimed. -/
def ClaimedIds (claims : InferForge.Claims) : List Text := claims.claimed.map Task.taskId

/-- What holds before each round: the rows visited so far all passed, and those to be claimed have
been. -/
structure Sweep (host : Host) (disk : Disk) (start : World) (all rest : List TaskRow)
    (claims : InferForge.Claims) (v : World) : Prop where
  drift : Drift host disk start v.db
  distinct : (rest.map TaskRow.taskId).Nodup
  queued : ∀ r ∈ rest, v.db.row? r.taskId = some r ∧ r.status = .pending
  room : claims.claimed.length + rest.length ≤ all.length
  visited : ∃ done, all = done ++ rest ∧ (∀ r ∈ done, Passes host disk start r) ∧
    ∀ t, t ∈ ClaimedIds claims ↔ ∃ r ∈ done, r.taskId = t ∧ Claimable start r

theorem Sweep.next {all rest : List TaskRow} {row : TaskRow} {claims claims' : InferForge.Claims}
    {v u : World} (sweep : Sweep host disk start all (row :: rest) claims v)
    (drift : Drift host disk start u.db) (passes : Passes host disk start row)
    (same : ∀ t, t ≠ row.taskId → u.db.row? t = v.db.row? t)
    (claimed : Claimable start row ∧ ClaimedIds claims' = ClaimedIds claims ++ [row.taskId] ∨
      ¬ Claimable start row ∧ claims' = claims) :
    Sweep host disk start all rest claims' u := by
  obtain ⟨fresh, distinct⟩ := List.nodup_cons.mp sweep.distinct
  obtain ⟨done, split, passed, ids⟩ := sweep.visited
  refine ⟨drift, distinct, fun r member => ?_, ?_, done ++ [row], by simp [split], ?_, fun t => ?_⟩
  · obtain ⟨stored, pending⟩ := sweep.queued r (List.mem_cons_of_mem _ member)
    have other : r.taskId ≠ row.taskId := fun h => fresh (h ▸ List.mem_map_of_mem member)
    exact ⟨(same _ other).trans stored, pending⟩
  · have bound := sweep.room
    rw [List.length_cons] at bound
    rcases claimed with ⟨_, added⟩ | ⟨_, rfl⟩
    · have length := congrArg List.length added
      simp only [ClaimedIds, List.length_map, List.length_append, List.length_singleton] at length
      omega
    · omega
  · intro r member
    rcases List.mem_append.mp member with before | here
    · exact passed r before
    · rwa [List.mem_singleton.mp here]
  · simp only [List.mem_append, List.mem_singleton, or_and_right, exists_or, exists_eq_left]
    rcases claimed with ⟨claimable, added⟩ | ⟨closed, rfl⟩
    · rw [added, List.mem_append, ids, List.mem_singleton]
      simp only [claimable, and_true]
      exact or_congr_right eq_comm
    · rw [ids]
      simp [closed]

/-- One round: the row is passed over or claimed as the tables before the loop say, or the call
raises because the row does not pass. -/
theorem claimCandidate_exact {all rest : List TaskRow} {row : TaskRow} {claims : InferForge.Claims}
    {v : World} (sweep : Sweep host disk start all (row :: rest) claims v)
    (grounded : Grounded start row) {worker : Text} (encodable : worker.encodable = true)
    (seconds : Rat) {limit : Int} (large : all.length ≤ limit) (reading : Time) :
    Prog.wp (claimCandidate host disk worker seconds limit reading claims row)
      (fun claims' u => Sweep host disk start all rest claims' u)
      (fun _ _ => ¬ Passes host disk start row) v := by
  obtain ⟨here, pending⟩ := sweep.queued row List.mem_cons_self
  have room := sweep.room
  rw [List.length_cons] at room
  unfold claimCandidate
  rw [Prog.wp_ite]
  refine ⟨fun full => absurd full (by omega), fun _ => ?_⟩
  rw [Prog.wp_bind]
  refine (depsSucceeded_exact sweep.drift grounded).mono ?_ fun _ _ _ unreadable passes =>
    unreadable passes.gate
  rintro ok u _ ⟨rfl, gate, opens⟩
  rw [Prog.wp_ite]
  constructor
  · intro closed
    have closed : ¬ Claimable start row := fun h => by simp [opens.mpr h] at closed
    exact sweep.next sweep.drift ⟨gate, fun h => absurd h closed⟩ (fun _ _ => rfl) (.inr ⟨closed, rfl⟩)
  intro passed
  have claimable : Claimable start row := opens.mp (by simpa using passed)
  simp only [Prog.wp_bind, wp_drawToken]
  rw [Prog.wp_require]
  refine ⟨fun _ => ?_, fun bad => by simp [encodable] at bad⟩
  simp only [wp_query, wp_execute]
  rw [Prog.wp_ite]
  refine ⟨fun _ => ?_, fun free => absurd ?_ free⟩
  swap
  · exact List.any_eq_true.mpr ⟨row, Store.row?_mem here, by simp [pending]⟩
  obtain ⟨r, known⟩ := grounded.run
  obtain ⟨r', found, furnished⟩ := sweep.drift.run _ r known
  have named : r'.runId = row.runId := Store.run?_named found
  let lease : Lease := ⟨host.token u.tokens, worker, host.addSeconds reading seconds⟩
  let taken : Store := u.db.updateTasks (fun r => r.taskId = row.taskId && r.status = .pending)
    (TaskRow.claimed lease)
  have settled : taken.settled = u.db.settled := by
    refine Store.settled_updateTasks _ _ _ fun q chosen => ?_
    have waiting : q.status = .pending := (by simpa using chosen : _ ∧ _).2
    simp [TaskRow.claimed, waiting]
  have moved (t : Text) (other : t ≠ row.taskId) : taken.row? t = u.db.row? t := by
    rw [Store.row?_updateTasks]
    cases known : u.db.row? t with
    | none => rfl
    | some q => simp [Store.row?_named known, other]
  have present : (taken.row? row.taskId).isSome := by
    rw [Store.row?_updateTasks, here]
    rfl
  simp only [Prog.wp_bind, requireRun, wp_query]
  rw [show (u.db.updateTasks _ _ _).run? row.runId = some r' from found]
  simp only [Prog.wp_pure]
  refine (bindWorkspace_exact host disk (named ▸ found)).mono ?_ ?_
  swap
  · intro _ _ _ homeless passes
    obtain ⟨bound, housed, _⟩ := passes.room claimable r known
    exact homeless bound (furnished.workspace.trans housed)
  rintro bound w₁ _ ⟨housed, tasks₁, operators₁, runs₁⟩
  refine (openAttempt_exact bound row).mono ?_ ?_
  swap
  · intro _ _ _ cramped passes
    obtain ⟨bound', housed', room⟩ := passes.room claimable r known
    rw [← furnished.workspace, housed] at housed'
    exact cramped (Except.ok.inj housed' ▸ room)
  rintro - w₂ _ ⟨opened, runs₂, operators₂, settled₂, rows₂, present₂⟩
  have rows₁ : w₁.db.row? = taken.row? := funext fun t => by rw [Store.row?, tasks₁]; rfl
  have settled₁ : w₁.db.settled = taken.settled := by
    funext runId key stage
    rw [Store.settled, Store.stageRow?, tasks₁]
    rfl
  obtain ⟨stored, shown⟩ := Option.isSome_iff_exists.mp (present₂ (rows₁ ▸ present))
  simp only [shown, Option.map_some]
  refine sweep.next ⟨?_, ?_, fun runId q before => ?_⟩ ⟨gate, fun _ q before => ?_⟩ (fun t other => ?_)
    (.inl ⟨claimable, ?_⟩)
  · exact operators₂.trans (operators₁.trans sweep.drift.operator)
  · exact settled₂.trans (settled₁.trans (settled.trans sweep.drift.settled))
  · rw [runs₂, runs₁]
    by_cases same : runId = r'.runId
    · subst same
      rw [named, known] at before
      obtain rfl := Option.some.inj before
      exact ⟨bound, Function.update_self _ _ _, .inr (furnished.workspace.symm.trans housed)⟩
    · rw [Function.update_of_ne same]
      exact sweep.drift.run runId q before
  · obtain rfl := Option.some.inj (before.symm.trans known)
    exact ⟨bound, furnished.workspace.symm.trans housed, opened⟩
  · rw [rows₂ t other, rows₁, moved t other]
  · simp [ClaimedIds, TaskRow.view, Store.row?_named shown]

/-- A queued row of the stage: pending, or running under a lease that has expired. -/
def Queued (w : World) (now : Time) (stage : Stage) (row : TaskRow) : Prop :=
  row ∈ w.db.tasks ∧ row.stage = stage ∧ (row.status = .pending ∨ row.expired now = true)

/-- Giving leases up decides nothing about a row. -/
structure Reopened (w u : World) (q c : TaskRow) : Prop where
  run : u.db.run? = w.db.run?
  operator : u.db.operator? = w.db.operator?
  settled : u.db.settled = w.db.settled
  row : c = q ∨ c = q.released

theorem Reopened.claimable {u : World} {q c : TaskRow} (reopened : Reopened w u q c) :
    Claimable u c ↔ Claimable w q := by
  have same : Claimable u c ↔ Claimable u q := by rcases reopened.row with rfl | rfl <;> exact Iff.rfl
  have ready : Ready u.ledger q ↔ Ready w.ledger q := by
    simp only [Ready, World.ledger, reopened.run, reopened.operator]
  rw [same, Claimable, Claimable, ready, upstreamSucceeded_settled reopened.settled]

theorem Reopened.passes {u : World} {q c : TaskRow} (reopened : Reopened w u q c) :
    Passes host disk u c ↔ Passes host disk w q := by
  have same : Passes host disk u c ↔ Passes host disk u q := by
    rcases reopened.row with rfl | rfl
    · exact Iff.rfl
    · exact ⟨fun h => ⟨h.gate, h.room⟩, fun h => ⟨h.gate, h.room⟩⟩
  have claimable : Claimable u q ↔ Claimable w q :=
    Reopened.claimable ⟨reopened.run, reopened.operator, reopened.settled, .inl rfl⟩
  rw [same]
  constructor
  · intro h
    refine ⟨?_, fun claim => ?_⟩
    · simpa only [GateReadable, reopened.run] using h.gate
    · simpa only [reopened.run] using h.room (claimable.mpr claim)
  · intro h
    refine ⟨?_, fun claim => ?_⟩
    · simpa only [GateReadable, reopened.run] using h.gate
    · simpa only [reopened.run] using h.room (claimable.mp claim)

theorem checkClaim_stage {worker : Text} (named : worker.isEmpty = false) (stage : Stage) {seconds : Rat}
    (positive : 0 < seconds) {limit : Int} (some' : 0 < limit) :
    checkClaim worker (some stage.text) (.fin seconds) limit = .ok (seconds, some stage) := by
  have known : Stage.ofText? stage.text = some stage := by cases stage <;> decide
  have fine : (worker.isEmpty || decide (limit ≤ 0) || decide (seconds ≤ 0)) = false := by
    simp [named, some', positive]
  simp only [checkClaim, fine, Bool.false_eq_true, if_false, known]
  rfl

/-- The tables once the expired leases are given up. -/
def reopenedWorld (host : Host) (w : World) : World :=
  ⟨w.db.updateTasks (TaskRow.expired (host.clock w.readings)) TaskRow.released TaskRow.released_keeps,
    w.readings + 1, w.tokens⟩

theorem reopened_settled : (reopenedWorld host w).db.settled = w.db.settled := by
  refine Store.settled_updateTasks (TaskRow.expired (host.clock w.readings)) TaskRow.released
    TaskRow.released_keeps fun q expired => ?_
  have running : q.status = .running := by
    simp only [TaskRow.expired, Bool.and_eq_true, decide_eq_true_eq] at expired
    exact expired.1
  simp [TaskRow.released, running]

/-- The candidates are the queued rows of the stage, with their leases given up. -/
theorem reopened_candidates (host : Host) (ties : Text → Nat) (stage : Stage) :
    (∀ c ∈ (reopenedWorld host w).db.candidates ties (some stage),
      ∃ q, Queued w (host.clock w.readings) stage q ∧ q.taskId = c.taskId ∧
        Reopened w (reopenedWorld host w) q c) ∧
    ∀ q, Queued w (host.clock w.readings) stage q →
      ∃ c ∈ (reopenedWorld host w).db.candidates ties (some stage), q.taskId = c.taskId ∧
        Reopened w (reopenedWorld host w) q c := by
  have same {q c : TaskRow} (row : c = q ∨ c = q.released) : Reopened w (reopenedWorld host w) q c :=
    ⟨rfl, rfl, reopened_settled, row⟩
  constructor
  · intro c member
    obtain ⟨stored, pending, chosen⟩ := Store.mem_candidates.mp member
    obtain ⟨q, before, rfl⟩ := List.mem_map.mp stored
    by_cases expired : q.expired (host.clock w.readings) = true
    · rw [if_pos expired] at chosen ⊢
      exact ⟨q, ⟨before, of_decide_eq_true chosen, .inr expired⟩, rfl, same (.inr rfl)⟩
    · rw [if_neg expired] at pending chosen ⊢
      exact ⟨q, ⟨before, by simpa using chosen, .inl pending⟩, rfl, same (.inl rfl)⟩
  · rintro q ⟨stored, rfl, waiting⟩
    have member := List.mem_map_of_mem
      (f := fun r => if r.expired (host.clock w.readings) then r.released else r) stored
    by_cases expired : q.expired (host.clock w.readings) = true
    · rw [if_pos expired] at member
      exact ⟨q.released, Store.mem_candidates.mpr ⟨member, rfl, by simp [TaskRow.released]⟩, rfl,
        same (.inr rfl)⟩
    · rw [if_neg expired] at member
      have pending := waiting.resolve_right expired
      exact ⟨q, Store.mem_candidates.mpr ⟨member, pending, by simp⟩, rfl, same (.inl rfl)⟩

/-- What `claim_ready` returns for one stage: it raises unless every queued row passes, and then it
claims all those whose dependencies are met. -/
theorem claimReady_exact (host : Host) (disk : Disk) (sound : Sound w.ledger) (stage : Stage) {worker : Text}
    (named : worker.isEmpty = false) (encodable : worker.encodable = true) {seconds : Rat}
    (positive : 0 < seconds) {limit : Int} (large : w.db.tasks.length ≤ limit) (some' : 0 < limit) :
    Prog.wp (claimReady host disk worker (some stage.text) (.fin seconds) limit)
      (fun tasks _ =>
        (∀ c, Queued w (host.clock w.readings) stage c → Passes host disk w c) ∧
        ∀ t, t ∈ tasks.map Task.taskId ↔
          ∃ c, Queued w (host.clock w.readings) stage c ∧ c.taskId = t ∧ Claimable w c)
      (fun _ _ => ∃ c, Queued w (host.clock w.readings) stage c ∧ ¬ Passes host disk w c) w := by
  let u := reopenedWorld host w
  let all := u.db.candidates disk.ties (some stage)
  obtain ⟨queued, listed⟩ := reopened_candidates (w := w) host disk.ties stage
  have grounded (c : TaskRow) (member : c ∈ all) : Grounded u c := by
    obtain ⟨q, ⟨stored, _, _⟩, _, reopened⟩ := queued c member
    have shaped := sound.shaped _ q (Store.row?_of_mem stored)
    have run := Option.isSome_iff_exists.mp shaped.run
    rcases reopened.row with rfl | rfl
    · exact ⟨run, fun operator => (shaped.operator operator).2.2⟩
    · exact ⟨run, fun operator => (shaped.operator operator).2.2⟩
  have start : Sweep host disk u all all ⟨[], []⟩ u := by
    refine ⟨.refl, Store.candidates_nodup _ _ _, fun r member => ?_, ?_, [], rfl, nofun, fun t => ?_⟩
    · obtain ⟨stored, pending, _⟩ := Store.mem_candidates.mp member
      exact ⟨Store.row?_of_mem stored, pending⟩
    · exact (Nat.zero_add _).le
    · simp [ClaimedIds]
  have few : all.length ≤ limit := by
    have shorter : all.length ≤ w.db.tasks.length := by
      rw [show all.length = _ from List.length_insertionSort _ _]
      exact (List.length_filter_le _ _).trans (List.length_map _).le
    omega
  rw [claimReady, atomic, Prog.wp_transact, checkClaim_stage named stage positive some']
  rw [show (Prog.lift (Except.ok (seconds, some stage)) : Sched _) = pure (seconds, some stage) from rfl]
  simp only [Prog.wp_bind, Prog.wp_pure, wp_now, wp_execute, wp_query]
  refine Prog.wp_foldlM (fun rest claims v => (∃ done, all = done ++ rest) ∧ Sweep host disk u all rest claims v)
    (fun row rest claims v inv => ?_) ⟨⟨[], rfl⟩, start⟩ fun claims v inv => ?_
  · obtain ⟨⟨done, split⟩, sweep⟩ := inv
    have member : row ∈ all := split ▸ List.mem_append_right _ List.mem_cons_self
    refine (claimCandidate_exact sweep (grounded row member) encodable seconds few _).mono ?_ ?_
    · exact fun claims' v' _ sweep => ⟨⟨done ++ [row], by simp [split]⟩, sweep⟩
    · intro e v' _ stuck
      obtain ⟨q, here, _, reopened⟩ := queued row member
      exact ⟨q, here, fun passes => stuck (reopened.passes.mpr passes)⟩
  · obtain ⟨_, ⟨_, _, _, _, done, split, passed, ids⟩⟩ := inv
    rw [List.append_nil] at split
    subst split
    -- the events are written last, and nothing fails there
    refine Prog.wp_forM (fun _ _ => True) (fun event rest v _ => ?_) trivial fun v _ => ?_
    · rw [wp_emit]
      trivial
    refine ⟨fun q here => ?_, fun t => ?_⟩
    · obtain ⟨c, member, _, reopened⟩ := listed q here
      exact reopened.passes.mp (passed c member)
    · refine (ids t).trans ⟨?_, ?_⟩
      · rintro ⟨c, member, rfl, claimable⟩
        obtain ⟨q, here, same, reopened⟩ := queued c member
        exact ⟨q, here, same, reopened.claimable.mp claimable⟩
      · rintro ⟨q, here, rfl, claimable⟩
        obtain ⟨c, member, same, reopened⟩ := listed q here
        exact ⟨c, member, same.symm, reopened.claimable.mpr claimable⟩

end Rounds
end InferForge

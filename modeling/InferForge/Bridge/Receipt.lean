import InferForge.Bridge.Acceptance
import InferForge.Bridge.Examination

/-! What a delivery leaves behind: a receipt of the state it is committed with, or a withdrawn
delivery, or nothing. -/
namespace InferForge
open Py Effect Sched ResultValidation

/-! ## A run with a recorded delivery

No check of the gate reads the delivery of a run, so recording one leaves the gate as it was. -/

/-- The run with its delivery recorded. -/
def AdaptationRun.delivered (run : AdaptationRun) (value : Json) : AdaptationRun :=
  { run with metadata := run.metadata.set "graph_delivery" value }

namespace AdaptationRun
variable {host : Host} {disk : Disk} (run : AdaptationRun) (value : Json)

@[simp] theorem delivered_getD {key : Text} (other : key ≠ "graph_delivery") (default : Json) :
    Dict.getD (run.delivered value).metadata key default = Dict.getD run.metadata key default := by
  simp only [Dict.getD, delivered, Dict.get?_set_other _ _ other]

@[simp] theorem delivered_evidenceMode : (run.delivered value).evidenceMode = run.evidenceMode :=
  run.delivered_getD value (by decide) _

@[simp] theorem delivered_flag {key : Text} (other : key ≠ "graph_delivery") :
    (run.delivered value).flag key = run.flag key := by
  rw [flag, delivered_getD run value other, flag]

@[simp] theorem delivered_fingerprint : (run.delivered value).fingerprint = run.fingerprint := rfl

end AdaptationRun

namespace ResultValidation
variable {host : Host} {disk : Disk} {task : Task} {run : AdaptationRun} {value : Json}

theorem identity_delivered : identity task (run.delivered value) fingerprint = identity task run fingerprint := by
  rw [identity, AdaptationRun.delivered_evidenceMode, identity]

theorem modeErrors_delivered :
    modeErrors task (run.delivered value) fingerprint = modeErrors task run fingerprint := by
  have required : environmentRequired (run.delivered value) = environmentRequired run := by
    rw [environmentRequired, AdaptationRun.delivered_evidenceMode, AdaptationRun.delivered_flag _ _ (by decide),
      environmentRequired]
  rw [modeErrors, required, AdaptationRun.delivered_evidenceMode, AdaptationRun.delivered_flag _ _ (by decide),
    modeErrors]
  rfl

theorem evidencePath_delivered : evidencePath (run.delivered value) = evidencePath run := by
  funext text
  rw [evidencePath, AdaptationRun.delivered_getD _ _ (by decide), evidencePath]

theorem checkEvidence_delivered : checkEvidence host disk task (run.delivered value) = checkEvidence host disk task run := by
  funext hashes key text
  simp only [checkEvidence, evidencePath_delivered]

theorem checkAll_delivered (hashes evidence : Dict) :
    checkAll host disk task (run.delivered value) hashes evidence = checkAll host disk task run hashes evidence := by
  induction evidence with
  | nil => rfl
  | cons field rest ih => rw [checkAll, checkAll, checkEvidence_delivered, ih]

theorem reportFileErrors_delivered :
    reportFileErrors host task (run.delivered value) = reportFileErrors host task run := by
  funext fingerprint result evidence hashes worker content
  simp only [reportFileErrors, reportErrors, identity_delivered]

end ResultValidation

theorem validateResult_delivered {host : Host} {disk : Disk} {run : AdaptationRun} (task : Task) (value : Json) :
    validateResult host disk task (run.delivered value) = validateResult host disk task run := by
  funext result worker
  simp only [validateResult, AdaptationRun.delivered_fingerprint, headErrors, identity_delivered,
    modeErrors_delivered, checkAll_delivered, reportFileErrors_delivered]

namespace Bridge
variable {host : Host} {disk : Disk} {bridge : Bridge} {run : AdaptationRun} {value : Json}

theorem checkIdentityWithin_delivered (fuel : Nat) : bridge.checkIdentityWithin (run.delivered value) fuel =
    bridge.checkIdentityWithin run fuel := by
  have expected : bridge.expectedIdentity (run.delivered value) = bridge.expectedIdentity run := by
    funext proof imported
    have own : runIdentity (run.delivered value) = runIdentity run := by
      rw [runIdentity, AdaptationRun.delivered_evidenceMode, runIdentity]
      rfl
    rw [expectedIdentity, own, expectedIdentity]
    rfl
  induction fuel with
  | zero => rfl
  | succ fuel ih =>
    funext proof imported data
    rw [checkIdentityWithin, checkIdentityWithin, expected, ih]
    rfl

theorem checkIdentity_delivered : bridge.checkIdentity (run.delivered value) = bridge.checkIdentity run := by
  funext data proof imported
  cases data with
  | obj fields => rw [checkIdentity, checkIdentityWithin_delivered, checkIdentity]
  | _ => rfl

theorem environmentCurrent_delivered (current : EnvironmentCurrent host disk bridge run) :
    EnvironmentCurrent host disk bridge (run.delivered value) := by
  obtain ⟨ready, record, found, listed, path, proof, pointed, loaded, valid⟩ := current
  refine ⟨ready, record, ?_, listed, path, proof, pointed, loaded, valid.checked, valid.passing, ?_, ?_⟩
  · rw [AdaptationRun.delivered, Dict.get?_set_other _ _ (by decide), found]
  · rw [checkIdentity_delivered]
    exact valid.own
  · rw [AdaptationRun.delivered_evidenceMode]
    exact valid.mode

theorem settle_delivered (environment : List Text) (tasks : List Task) :
    settle host disk bridge (run.delivered value) environment tasks = settle host disk bridge run environment tasks := by
  have handed : handoffs (run.delivered value) = handoffs run := by
    simp +decide only [handoffs, AdaptationRun.delivered, List.filterMap_cons, Dict.get?_set_other,
      ne_eq, List.filterMap_nil]
  have checked : taskErrors host disk (run.delivered value) = taskErrors host disk run := by
    funext task
    simp only [taskErrors, submittedErrors, validateResult_delivered]
  simp only [settle, handed, checked, AdaptationRun.delivered_fingerprint, AdaptationRun.delivered_evidenceMode,
    AdaptationRun.delivered_getD run value (show ("graph_discovery" : Text) ≠ "graph_delivery" by decide)]

/-! ## The gate of a deliverable run -/

section Gate
variable {other : Disk} {db : Store} {w : World}

/-- The rows of a run in the order of their names, whatever order they were read in. -/
theorem byTaskId_rows (first second : Text → Nat) (runId : Text) :
    byTaskId ((db.tasksOf first runId).map TaskRow.view) = byTaskId ((db.tasksOf second runId).map TaskRow.view) := by
  have : Std.Total fun a b : Task => Json.codesLe a.taskId.codes b.taskId.codes = true :=
    ⟨fun a b => Json.codesLe_total a.taskId.codes b.taskId.codes⟩
  have : IsTrans Task fun a b => Json.codesLe a.taskId.codes b.taskId.codes = true :=
    ⟨fun _ _ _ => Json.codesLe_trans⟩
  have rows (ties : Text → Nat) : (byTaskId ((db.tasksOf ties runId).map TaskRow.view)).Perm
      ((db.tasks.filter fun row => row.runId = runId).map TaskRow.view) :=
    (List.perm_insertionSort _ _).trans ((List.perm_insertionSort _ _).map _)
  refine List.Perm.eq_of_pairwise (fun a b inA inB ab ba => ?_) (List.pairwise_insertionSort _ _)
    (List.pairwise_insertionSort _ _) ((rows first).trans (rows second).symm)
  -- no two rows of the table have one name
  obtain ⟨row, memberA, rfl⟩ := List.mem_map.mp ((rows first).mem_iff.mp inA)
  obtain ⟨row', memberB, rfl⟩ := List.mem_map.mp ((rows second).mem_iff.mp inB)
  have same : row.taskId = row'.taskId := Text.ext (Json.codesLe_antisymm ab ba)
  rw [List.inj_on_of_nodup_map db.taskKey (List.mem_filter.mp memberA).1 (List.mem_filter.mp memberB).1 same]

theorem deliveryKeys_rows (first second : Text → Nat) (runId : Text) :
    deliveryKeys host ((db.tasksOf first runId).map TaskRow.view) =
      deliveryKeys host ((db.tasksOf second runId).map TaskRow.view) := by
  have listed (ties : Text → Nat) (row : TaskRow) : row ∈ db.tasksOf ties runId ↔ row ∈ db.tasks ∧ row.runId = runId :=
    Store.mem_tasksOf
  refine sortedSet_congr fun t => ?_
  simp only [List.mem_map, List.mem_filter, listed]

/-- Two disks on which the gate is open show the same gate. -/
theorem settle_agrees (first : settle host disk bridge run [] ((db.tasksOf disk.ties bridge.runId).map TaskRow.view) = .ok a)
    (openA : a.state = "OPERATORS_READY")
    (second : settle host other bridge run [] ((db.tasksOf other.ties bridge.runId).map TaskRow.view) = .ok b)
    (openB : b.state = "OPERATORS_READY") : a = b := by
  simp only [settle, bind_ok, pure_ok] at first second
  obtain ⟨blockedA, -, failedA, -, fingerprint, bound, rfl⟩ := first
  obtain ⟨blockedB, -, failedB, -, fingerprint', bound', rfl⟩ := second
  obtain rfl := Except.ok.inj (bound.symm.trans bound')
  have silentA := (gateState_ready.mp openA).1
  have silentB := (gateState_ready.mp openB).1
  dsimp only at openA openB
  rw [openA, openB, silentA, silentB, byTaskId_rows other.ties disk.ties, deliveryKeys_rows other.ties disk.ties]

/-- With the environment current, the status is settled and nothing is written. -/
theorem deliveryStatus_ran (known : w.db.run? bridge.runId = some run) (environment : EnvironmentCurrent host disk bridge run) :
    Prog.wp (deliveryStatus host disk bridge)
      (fun status u => u = w ∧
        settle host disk bridge run [] ((w.db.tasksOf disk.ties bridge.runId).map TaskRow.view) = .ok status)
      (fun e u => u = w ∧
        settle host disk bridge run [] ((w.db.tasksOf disk.ties bridge.runId).map TaskRow.view) = .error e) w := by
  have current : ∃ run, w.db.run? bridge.runId = some run ∧ EnvironmentCurrent host disk bridge run :=
    ⟨run, known, environment⟩
  unfold deliveryStatus
  rw [Prog.wp_bind]
  refine environmentErrors_wp.mono (fun errors u _ checked => ?_) fun _ _ _ broken => absurd current broken
  rcases checked with ⟨rfl, rfl, -⟩ | ⟨_, broken⟩
  · simp only [Bridge.run, requireRun, Prog.wp_bind, wp_query, known, Prog.wp_pure, Prog.wp_lift, true_and]
    exact ⟨fun _ settled => settled, fun _ settled => settled⟩
  · exact absurd current broken

/-- The gate of a deliverable run, as `delivery_status` returns it. -/
structure OpenGate (host : Host) (disk : Disk) (bridge : Bridge) (db : Store) (run : AdaptationRun)
    (gate : DeliveryStatus) : Prop where
  deliverable : Deliverable host disk bridge db run
  settled : settle host disk bridge run [] ((db.tasksOf disk.ties bridge.runId).map TaskRow.view) = .ok gate
  ready : gate.state = "OPERATORS_READY"

theorem deliveryStatus_opened : Prog.wp (deliveryStatus host disk bridge)
    (fun gate u => gate.state = "OPERATORS_READY" → u = w ∧ ∃ run, OpenGate host disk bridge w.db run gate)
    (fun _ _ => True) w := by
  by_cases open' : ∃ run, Deliverable host disk bridge w.db run
  · obtain ⟨run, deliverable⟩ := open'
    refine (deliveryStatus_ran deliverable.known deliverable.environment).mono ?_ fun _ _ _ _ => trivial
    rintro gate u - ⟨rfl, settled⟩ ready
    exact ⟨rfl, run, deliverable, settled, ready⟩
  · exact deliveryStatus_wp.mono (fun _ _ _ exact' ready => absurd (exact'.mp ready) open') fun _ _ _ _ => trivial

/-- With the tasks as they were, a current run has the gate that they settle. -/
theorem deliveryStatus_same {after : World} (known : after.db.run? bridge.runId = some found)
    (current : EnvironmentCurrent host disk bridge found) (tasks : after.db.tasks = db.tasks)
    (settled : settle host disk bridge found [] ((db.tasksOf disk.ties bridge.runId).map TaskRow.view) = .ok status) :
    (deliveryStatus host disk bridge after).1 = .ok status := by
  have ran := deliveryStatus_ran known current
  have rows : after.db.tasksOf disk.ties bridge.runId = db.tasksOf disk.ties bridge.runId := by
    rw [Store.tasksOf, tasks, Store.tasksOf]
  rw [rows, settled] at ran
  cases outcome : (deliveryStatus host disk bridge after).1 with
  | ok given => rw [Except.ok.inj (ran.returned outcome).2]
  | error e => cases (ran.raised outcome).2

/-- The gate stays open, as it is, when the delivery is recorded. -/
theorem OpenGate.delivered {after : World} (gate : OpenGate host disk bridge db run status)
    (known : after.db.run? bridge.runId = some (run.delivered value)) (tasks : after.db.tasks = db.tasks) :
    (deliveryStatus host disk bridge after).1 = .ok status := by
  refine deliveryStatus_same known (environmentCurrent_delivered gate.deliverable.environment) tasks ?_
  rw [settle_delivered]
  exact gate.settled

theorem OpenGate.again {after : World} (gate : OpenGate host disk bridge db run status)
    (known : after.db.run? bridge.runId = some run) (tasks : after.db.tasks = db.tasks) :
    (deliveryStatus host disk bridge after).1 = .ok status :=
  deliveryStatus_same known gate.deliverable.environment tasks gate.settled

end Gate

/-! ## The delivery -/

section Delivery
variable {course : Course} {walk : Path → Except Exn (List Path)} {stores : Stores} {facts : Facts} {w : World}

/-- The delivery of a run is the only thing its recording changes. -/
theorem recordDelivery_exact {runId : Text} (known : w.db.run? runId = some run) (payload : Dict) :
    Prog.wp (recordGraphTransition host runId "graph_delivery" payload)
      (fun _ u => u.db.tasks = w.db.tasks ∧ u.db.operators = w.db.operators ∧
        ∃ kept, u.db.run? runId = some kept ∧ (kept = run ∨ kept = run.delivered (.obj payload)) ∧
          Alike (Dict.getD kept.metadata "graph_delivery" .null) (.obj payload))
      (fun _ _ => False) w := by
  obtain rfl := Store.run?_named known
  have key : GraphKey.ofText? "graph_delivery" = some .delivery := by decide
  unfold recordGraphTransition
  rw [atomic, Prog.wp_transact, key]
  simp only [requireRun, Prog.wp_bind, wp_query, known, Prog.wp_pure]
  have value : (if GraphKey.delivery = .environmentRequired then Json.bool true else .obj payload) = .obj payload :=
    if_neg (by decide)
  rw [value, Prog.wp_ite]
  constructor
  · exact fun same => ⟨rfl, rfl, run, known, .inl rfl, .inr same⟩
  · intro _
    simp only [Prog.wp_bind, wp_execute, wp_emit, Prog.wp_pure]
    refine ⟨rfl, rfl, run.delivered (.obj payload), ?_, .inr rfl, .inl ?_⟩
    · have updated := Store.run?_updateRun (r := run.delivered (.obj payload)) known
      change (w.db.updateRun (run.delivered (.obj payload))).run? (run.delivered (.obj payload)).runId = _
      rw [updated, Function.update_self]
    · simp [AdaptationRun.delivered, Dict.getD]

theorem openErrors_nil {gate : DeliveryStatus} (none : (openErrors facts gate).isEmpty = true) :
    gate.state = "OPERATORS_READY" ∧ ∀ entry ∈ factStatus, (facts.root? entry.1).isSome := by
  have silent := List.isEmpty_iff.mp none
  simp only [openErrors, List.append_eq_nil_iff, List.map_eq_nil_iff, errorIf_iff_nil,
    List.flatMap_eq_nil_iff, Option.isNone_eq_false_iff] at silent
  exact ⟨by simpa using silent.2.1, silent.2.2⟩

theorem inspect_spec (gate : DeliveryStatus) : Prog.wlp (inspect host course walk stores bridge facts gate)
    (fun inventory u => u = w ∧ gate.state = "OPERATORS_READY" ∧ ∃ run final, w.db.run? bridge.runId = some run ∧
      Examined host course.first bridge run facts stores w.db gate inventory ∧
      OpenGate host course.last bridge w.db run final ∧
      checkAgain host course.last bridge facts final inventory = .ok ()) w := by
  rw [Prog.wlp, inspect, Prog.wp_ite]
  refine ⟨fun none => ?_, fun _ => ?_⟩
  · rw [Prog.wp_bind]
    refine wlp_requireRun fun run known => ?_
    simp only [Prog.wp_bind, wp_query]
    refine wlp_lift fun inventory examined => ?_
    refine deliveryStatus_opened.mono (fun final u _ opened => ?_) fun _ _ _ _ => trivial
    refine wlp_lift fun _ again => ?_
    obtain ⟨rfl, other, gate'⟩ := opened (checkAgain_ok again).1
    obtain rfl := Option.some.inj (known.symm.trans gate'.deliverable.known)
    exact ⟨rfl, (openErrors_nil none).1, run, final, known, examine_examined examined, gate', again⟩
  · rw [Prog.wp_bind]
    exact wlp_lift fun _ _ => trivial

/-- What a published receipt says of the state it is committed with. -/
structure Delivered (host : Host) (course : Course) (stores : Stores) (bridge : Bridge) (facts : Facts)
    (before after : World) (run : AdaptationRun) (publication : Publication) : Prop where
  /-- The gate was open when the delivery started, and is what the receipt repeats. -/
  opened : OpenGate host course.first bridge before.db run publication.receipt.gate
  /-- It is the gate of the state that is committed, on the files as they are by then. -/
  committed : (deliveryStatus host course.last bridge after).1 = .ok publication.receipt.gate
  tasks : after.db.tasks = before.db.tasks ∧ after.db.operators = before.db.operators
  recorded : ∃ kept, after.db.run? bridge.runId = some kept ∧
    Alike (Dict.getD kept.metadata "graph_delivery" .null) (.obj (publication.toDict host))
  examined : Examined host course.first bridge run facts stores before.db publication.receipt.gate
    publication.receipt.inventory
  /-- Both regressions still show this gate. -/
  unchanged : ∃ root serviceRoot, facts.root? "AccuracyDifferential" = some root ∧
    facts.root? "DeploymentProof" = some serviceRoot ∧
    StartedFrom host course.last bridge serviceRoot publication.receipt.gate publication.receipt.inventory.service ∧
    StartedFrom host course.last bridge root publication.receipt.gate publication.receipt.inventory.accuracy ∧
    RefersTo host course.last serviceRoot publication.receipt.inventory.accuracy
  verdict : publication.receipt.verdict =
    if run.evidenceMode.eq (.str "simulation") then ("SIMULATION_PASS" : Text) else "FUNCTIONAL_READY"

theorem publish_receipt {gate : DeliveryStatus} {inventory : Inventory} {publication : Publication}
    (ok : publish host course bridge run gate inventory = .ok publication) :
    publication.receipt.gate = gate ∧ publication.receipt.inventory = inventory ∧ publication.receipt.verdict =
      if run.evidenceMode.eq (.str "simulation") then ("SIMULATION_PASS" : Text) else "FUNCTIONAL_READY" := by
  simp only [publish, bind_ok, pure_ok] at ok
  obtain ⟨attempt, -, proof, -, fingerprint, -, output, -, path, -, root, -, manifest, -, written, -, registered, -, rfl⟩ := ok
  exact ⟨rfl, rfl, rfl⟩

theorem deliver_spec : Prog.wlp (deliver host course walk stores bridge facts)
    (fun publication after => ∃ run, Delivered host course stores bridge facts w after run publication) w := by
  rw [Prog.wlp, deliver, Prog.wp_bind]
  refine deliveryStatus_opened.mono (fun gate u _ opened => ?_) fun _ _ _ _ => trivial
  rw [Prog.wp_bind, Prog.wp_handle]
  refine (inspect_spec gate).mono (fun inventory v _ inspected => ?_) fun e v _ _ => ?_
  · obtain ⟨rfl, ready, run, final, known, examined, lastGate, again⟩ := inspected
    obtain ⟨rfl, other, firstGate⟩ := opened ready
    obtain rfl := Option.some.inj (known.symm.trans firstGate.deliverable.known)
    obtain rfl := settle_agrees firstGate.settled ready lastGate.settled lastGate.ready
    rw [Prog.wp_bind]
    refine wlp_requireRun fun found here => ?_
    obtain rfl := Option.some.inj (known.symm.trans here)
    rw [Prog.wp_bind]
    refine wlp_lift fun publication published => ?_
    obtain ⟨same, listed, verdict⟩ := publish_receipt published
    rw [Prog.wp_bind, Prog.wp_discard]
    refine (recordDelivery_exact known _).mono ?_ fun _ _ _ impossible => impossible.elim
    rintro _ after - ⟨tasks, operators, kept, held, either, recorded⟩
    obtain ⟨-, root, serviceRoot, measured, served, startedS, startedA, refers⟩ := checkAgain_ok again
    have committed : (deliveryStatus host course.last bridge after).1 = .ok gate := by
      rcases either with rfl | rfl
      · exact lastGate.again held tasks
      · exact lastGate.delivered held tasks
    subst same
    subst listed
    exact ⟨run, firstGate, committed, ⟨tasks, operators⟩, ⟨kept, held, recorded⟩, examined,
      ⟨root, serviceRoot, measured, served, startedS, startedA, refers⟩, verdict⟩
  · split <;> trivial

/-- Nothing is published unless every kind of fact was handed over. -/
theorem deliver_complete : Prog.wlp (deliver host course walk stores bridge facts)
    (fun _ _ => ∀ entry ∈ factStatus, (facts.root? entry.1).isSome) w := by
  have inspected (gate : DeliveryStatus) (u : World) : Prog.wlp (inspect host course walk stores bridge facts gate)
      (fun _ _ => ∀ entry ∈ factStatus, (facts.root? entry.1).isSome) u := by
    rw [Prog.wlp, inspect, Prog.wp_ite]
    refine ⟨fun none => Prog.wp_of_runs (fun _ _ _ => (openErrors_nil none).2) fun _ _ _ => trivial, fun _ => ?_⟩
    rw [Prog.wp_bind]
    exact wlp_lift fun _ _ => trivial
  rw [Prog.wlp, deliver, Prog.wp_bind]
  refine Prog.wp_of_runs (fun gate u _ => ?_) fun _ _ _ => trivial
  rw [Prog.wp_bind, Prog.wp_handle]
  refine (inspected gate u).mono (fun _ _ _ complete => ?_) fun _ _ _ _ => ?_
  · exact Prog.wp_of_runs (fun _ _ _ => complete) fun _ _ _ => trivial
  · split <;> trivial

/-- What a finalization returns is what its delivery returned: the handler always raises. -/
theorem finalize_of_deliver {Q : Publication → World → Prop}
    (delivers : Prog.wlp (deliver host course walk stores bridge facts) Q w) :
    Prog.wlp (finalize host course walk stores bridge facts) Q w := by
  rw [Prog.wlp, finalize, Prog.wp_bind]
  refine wlp_require fun _ => ?_
  rw [Prog.wp_handle, atomic, Prog.wp_transact]
  refine delivers.mono (fun _ _ _ delivered => delivered) fun e v _ _ => ?_
  split
  · simp only [Prog.wp_bind]
    exact Prog.wp_of_runs (fun _ _ _ => Prog.wp_of_runs (fun _ _ _ => trivial) fun _ _ _ => trivial) fun _ _ _ => trivial
  · trivial

/-- A receipt is only ever published for the state that it is committed with. -/
theorem finalize_delivers (host : Host) (course : Course) (walk : Path → Except Exn (List Path)) (stores : Stores)
    (bridge : Bridge) (facts : Facts) (world : World) :
    Prog.wlp (finalize host course walk stores bridge facts)
      (fun publication after => ∃ run, Delivered host course stores bridge facts world after run publication) world :=
  finalize_of_deliver deliver_spec

/-- The delivery on record is refused, with the error that refused it. -/
def Withdrawn (host : Host) (bridge : Bridge) (e : Exn) (after : World) : Prop :=
  ∃ run record, after.db.run? bridge.runId = some run ∧
    Alike (Dict.getD run.metadata "graph_delivery" .null) (.obj record) ∧
    Dict.get? record "state" = some (.str "OPERATORS_BLOCKED") ∧
    Dict.get? record "errors" = some (.arr [.str (e.text host)])

theorem refusal_blocked (gate : DeliveryStatus) (error : Text) :
    Dict.get? (refusal host gate error) "state" = some (.str "OPERATORS_BLOCKED") ∧
      Dict.get? (refusal host gate error) "errors" = some (.arr [.str error]) := by
  constructor
  · rw [refusal, Dict.get?_set_other _ _ (by decide), Dict.get?_set_same]
  · rw [refusal, Dict.get?_set_same]

/-- A gate that was computed is the gate of a run that is there. -/
theorem deliveryStatus_known : Prog.wlp (deliveryStatus host disk bridge)
    (fun _ u => ∃ run, u.db.run? bridge.runId = some run) w := by
  rw [Prog.wlp, deliveryStatus, Prog.wp_bind]
  refine Prog.wp_of_runs (fun errors u _ => ?_) fun _ _ _ => trivial
  rw [Prog.wp_bind]
  refine wlp_requireRun fun run known => ?_
  simp only [Prog.wp_bind, wp_query]
  exact wlp_lift fun _ _ => ⟨run, known⟩

/-- What is recorded of the runs of a store is what is recorded of them in another, with the same tasks. -/
structure SameRecords (before after : Store) : Prop where
  tasks : after.tasks = before.tasks
  operators : after.operators = before.operators
  metadata : ∀ runId, (after.run? runId).map AdaptationRun.metadata = (before.run? runId).map AdaptationRun.metadata

/-- A failed environment changes the status of its run, and nothing that is recorded of it. -/
theorem recordEnvironmentFailure_same (runId : Text) (proof : Dict) (error : Text) :
    Prog.wp (recordEnvironmentFailure host runId proof error) (fun _ u => SameRecords w.db u.db)
      (fun _ u => SameRecords w.db u.db) w := by
  have kept : SameRecords w.db w.db := ⟨rfl, rfl, fun _ => rfl⟩
  unfold recordEnvironmentFailure
  rw [atomic, Prog.wp_transact, Prog.wp_bind]
  simp only [requireRun, Prog.wp_bind, wp_query]
  cases known : w.db.run? runId with
  | none => exact kept
  | some run =>
    obtain rfl := Store.run?_named known
    simp only [Prog.wp_pure, Prog.wp_lift, wp_execute, wp_emit]
    refine ⟨fun handoff _ => ⟨rfl, rfl, fun id => ?_⟩, fun _ _ => kept⟩
    have updated := Store.run?_updateRun (r := run.failed handoff) known
    change ((w.db.updateRun (run.failed handoff)).run? id).map _ = _
    rw [updated]
    by_cases same : id = run.runId
    · subst same
      rw [show (run.failed handoff).runId = run.runId from rfl, Function.update_self, known]
      rfl
    · exact congrArg _ (Function.update_of_ne same _ _)

theorem environmentErrors_same : Prog.wp (environmentErrors host disk bridge) (fun _ u => SameRecords w.db u.db)
    (fun _ u => SameRecords w.db u.db) w := by
  have kept : SameRecords w.db w.db := ⟨rfl, rfl, fun _ => rfl⟩
  simp only [environmentErrors, Bridge.run, requireRun, Prog.wp_bind, wp_query]
  cases w.db.run? bridge.runId with
  | none => exact kept
  | some run =>
    rw [Prog.wp_pure, Prog.wp_ite]
    refine ⟨fun _ => kept, fun _ => ?_⟩
    rw [Prog.wp_ite]
    refine ⟨fun _ => kept, fun _ => ?_⟩
    split
    · exact kept
    · rw [Prog.wp_ite]
      refine ⟨fun _ => ?_, fun _ => kept⟩
      split
      · rw [Prog.wp_bind, Prog.wp_discard]
        exact recordEnvironmentFailure_same _ _ _
      · exact kept

/-- The gate may find the environment failed, and records nothing else. -/
theorem deliveryStatus_same_records : Prog.wp (deliveryStatus host disk bridge) (fun _ u => SameRecords w.db u.db)
    (fun _ u => SameRecords w.db u.db) w := by
  rw [deliveryStatus, Prog.wp_bind]
  refine environmentErrors_same.mono (fun errors u _ kept => ?_) fun _ _ _ kept => kept
  simp only [Bridge.run, requireRun, Prog.wp_bind, wp_query]
  cases u.db.run? bridge.runId with
  | none => exact kept
  | some run =>
    rw [Prog.wp_pure, Prog.wp_lift]
    exact ⟨fun _ _ => kept, fun _ _ => kept⟩

/-- A delivery that raises is withdrawn, unless its exception is not caught, which leaves the
store as it was, or the gate itself can no longer be computed, which leaves every earlier record. -/
theorem finalize_withdraws (host : Host) (course : Course) (walk : Path → Except Exn (List Path)) (stores : Stores)
    (bridge : Bridge) (facts : Facts) (world : World) :
    Prog.wp (finalize host course walk stores bridge facts) (fun _ _ => True)
      (fun e after => (bridge.execute = false ∧ after = world) ∨ (e.isRejection = false ∧ after.db = world.db) ∨
        Withdrawn host bridge e after ∨
        (∃ start, start.db = world.db ∧ (deliveryStatus host course.last bridge start).1 = .error e) ∧
          SameRecords world.db after.db) world := by
  rw [finalize, Prog.wp_bind, Prog.wp_require]
  refine ⟨fun _ => ?_, fun planned => .inl ⟨planned, rfl⟩⟩
  rw [Prog.wp_handle, atomic, Prog.wp_transact]
  refine Prog.wp_of_runs (fun _ _ _ => trivial) fun e t _ => ?_
  -- the store the handler finds is the one the delivery started from
  split
  · rw [Prog.wp_bind]
    refine Prog.wp_of_runs (fun gate u ran => ?_) fun e' u ran => ?_
    · obtain ⟨run, known⟩ := deliveryStatus_known.returned (congrArg Prod.fst ran)
      rw [ran] at known
      rw [Prog.wp_bind, Prog.wp_discard]
      refine (recordDelivery_exact known _).mono ?_ fun _ _ _ impossible => impossible.elim
      rintro _ after - ⟨-, -, kept, held, -, recorded⟩
      exact .inr (.inr (.inl ⟨kept, _, held, recorded, refusal_blocked gate _⟩))
    · let start : World := ⟨world.db, t.1.readings, t.1.tokens⟩
      have gate : Prog.wp (deliveryStatus host course.last bridge) _ _ start := deliveryStatus_same_records
      have kept := gate.raised (congrArg Prod.fst ran)
      rw [ran] at kept
      exact .inr (.inr (.inr ⟨⟨start, rfl, congrArg Prod.fst ran⟩, kept⟩))
  · next uncaught => exact .inr (.inl ⟨by simpa using uncaught, rfl⟩)

end Delivery
end Bridge
end InferForge

import InferForge.Scheduler.ClaimRefinement

/-! Histories of scheduler calls. Every call is a sequence of moves, so every state of a
history is sound, and what a whole history did is read off the moves of its calls. -/
namespace InferForge
open Py Effect Sched Transition Lifecycle

section Reconcile
variable {host : Host} {disk : Disk} {w v : World} {allowed : Action → Prop}

/-- The rows still to be visited are stored as they were read. -/
structure Visiting (host : Host) (disk : Disk) (allowed : Action → Prop) (start : Ledger)
    (run : AdaptationRun) (rest : List TaskRow) (v : World) : Prop where
  steps : Steps host disk allowed start v.ledger
  stored : ∀ r ∈ rest, v.db.row? r.taskId = some r ∧ r.runId = run.runId

theorem Visiting.skip (visiting : Visiting host disk allowed l run (row :: rest) v) :
    Visiting host disk allowed l run rest v :=
  ⟨visiting.steps, fun r member => visiting.stored r (List.mem_cons_of_mem _ member)⟩

theorem repairSuccessor_visiting {row : TaskRow}
    (visiting : Visiting host disk allowed l run (row :: rest) v)
    (status : row.status = .succeeded) (next : row.stage.next? = some stage)
    (idle : allowed .wait) (creating : ∀ id, allowed (.create id)) (repairs : Repairs) :
    Prog.wlp (repairSuccessor host disk run row stage repairs)
      (fun _ u => Visiting host disk allowed l run rest u) v := by
  obtain ⟨here, _⟩ := visiting.stored row List.mem_cons_self
  unfold repairSuccessor
  simp only [Prog.wlp, Prog.wp_bind, wp_query]
  rw [Prog.wp_ite]
  refine ⟨fun _ => visiting.skip, fun _ => ?_⟩
  simp only [Prog.wp_bind, wp_query]
  refine wlp_lift fun worker _ => wlp_lift fun errors _ => ?_
  rw [Prog.wp_ite]
  refine ⟨fun _ => ?_, fun _ => visiting.skip⟩
  rw [Prog.wp_bind]
  refine (ensureNext_spec disk allowed row row.view here status next rfl idle creating).mono ?_ fun _ _ _ h => h
  rintro _ u _ ⟨steps, kept⟩
  exact ⟨visiting.steps.trans steps, fun r member =>
    ⟨kept _ _ (visiting.skip.stored r member).1, (visiting.skip.stored r member).2⟩⟩

theorem reconcileRow_visiting (sound : Sound l) {row : TaskRow}
    (visiting : Visiting host disk allowed l run (row :: rest) v) (idle : allowed .wait)
    (creating : ∀ id, allowed (.create id)) (repairs : Repairs) :
    Prog.wlp (reconcileRow host disk run repairs row)
      (fun _ u => Visiting host disk allowed l run rest u) v := by
  obtain ⟨here, _⟩ := visiting.stored row List.mem_cons_self
  have sound := visiting.steps.sound sound
  unfold reconcileRow
  split
  · exact visiting.skip
  · next status operator =>
    rw [Prog.wlp, Prog.wp_bind, wp_query]
    -- every failed operator row has its diagnosis already
    obtain ⟨d, known, _⟩ := (sound.linked _ row here operator).failed status
    have stage := (sound.diagnoses here known).1
    have found : v.db.row? (diagnosisId row.taskId) = some d := known
    rw [found, if_pos (by simp [stage])]
    exact visiting.skip
  · next status operator =>
    split
    · next next follows =>
      exact repairSuccessor_visiting visiting status follows idle creating repairs
    · exact visiting.skip
  · exact visiting.skip

theorem reconcile_steps (sound : Sound w.ledger) (runId : Text) :
    Steps host disk (Call.permits (.reconcile runId)) w.ledger
      (reconcile host disk runId w).2.1.ledger := by
  refine atomic_steps trivial ?_
  simp only [Prog.wlp, Prog.wp_bind]
  refine wlp_requireRun fun run here => ?_
  rw [wp_query]
  refine Prog.wp_foldlM (fun rest _ u =>
      Visiting host disk (Call.permits (.reconcile runId)) w.ledger run rest u)
    (fun row rest _ v visiting => reconcileRow_visiting sound visiting trivial (fun _ => trivial) _)
    ⟨Steps.refl, fun r member => ?_⟩ fun _ v visiting => ?_
  · obtain ⟨stored, same⟩ := Store.mem_tasksOf.mp member
    exact ⟨Store.row?_of_mem stored, same.trans (Store.run?_named here).symm⟩
  · simp only [wp_emit, Prog.wp_pure]
    refine visiting.steps.trans (Steps.wait trivial ⟨Nat.le_succ _, le_rfl⟩
      ((World.Shows.self v 0 0).skip _ rfl _ _))

end Reconcile

section Histories
variable {host : Host}

/-- Every call is a sequence of the moves it permits. -/
theorem step_steps (host : Host) {w : World} (sound : Sound w.ledger) (call : Disk × Call) :
    Steps host call.1 call.2.permits w.ledger (step host w call).ledger := by
  obtain ⟨disk, call⟩ := call
  unfold step
  cases call <;> dsimp only [Call.body] <;> rw [discard_run]
  case createRun run => exact createRun_steps run
  case bindEnvironment runId proof root => exact bindEnvironment_steps runId proof root
  case recordEnvironmentFailure runId proof error =>
    exact recordEnvironmentFailure_steps _ _ _ runId proof error
  case recordGraphTransition runId key payload =>
    exact recordGraphTransition_steps runId key payload
  case discoverOperator runId spec => exact discoverOperator_steps sound runId spec
  case claimReady worker stage seconds limit => exact claimReady_steps worker stage seconds limit
  case renewLease t worker token seconds => exact renewLease_steps t worker token seconds
  case complete t worker result token => exact complete_steps sound t worker result token
  case fail t worker error token => exact fail_steps sound t worker error token
  case applyDiagnosis t => exact applyDiagnosis_steps sound t
  case recover force => exact recover_steps force
  case reconcile runId => exact reconcile_steps sound runId

theorem step_sound {w : World} (sound : Sound w.ledger) (call : Disk × Call) :
    Sound (step host w call).ledger := (step_steps host sound call).sound sound

theorem foldl_sound (host : Host) {w : World} (sound : Sound w.ledger) (calls : List (Disk × Call)) :
    Sound (calls.foldl (step host) w).ledger := by
  induction calls generalizing w with
  | nil => exact sound
  | cons call rest ih => exact ih (step_sound sound call)

/-- Every state of every history is sound. -/
theorem history_sound (calls : List (Disk × Call)) : Sound (history host calls).ledger :=
  foldl_sound host (w := World.empty) Sound.empty calls

theorem history_append (host : Host) (past more : List (Disk × Call)) :
    history host (past ++ more) = more.foldl (step host) (history host past) :=
  List.foldl_append

/-- What every move keeps of a sound ledger, a history keeps. -/
theorem foldl_keeps (host : Host) {P : Ledger → Prop}
    (keeps : ∀ disk l a l', Move host (Approves host disk) l a l' → Sound l → P l → P l')
    {w : World} (sound : Sound w.ledger) (start : P w.ledger) (calls : List (Disk × Call)) :
    P (calls.foldl (step host) w).ledger := by
  induction calls generalizing w with
  | nil => exact start
  | cons call rest ih =>
    obtain ⟨_, path, _⟩ := step_steps host sound call
    refine ih (step_sound sound call) ?_
    exact path.preserve (fun _ => True) (fun _ _ _ moved => moved.keeps)
      (fun _ _ _ moved _ => keeps call.1 _ _ _ moved) (fun _ _ => trivial) sound start

end Histories

/-- A simulation run with one operator, claimed by one worker. -/
def sampleCalls : List (Disk × Call) :=
  [.createRun ⟨"run", "model", "1", "1", "xpu", "DISCOVERED", [],
      [("evidence_mode", .str "simulation")]⟩,
    .discoverOperator "run" .sample, .claimReady "worker" none (.fin 10) 1].map (Disk.sample, ·)

end InferForge

import InferForge.Bridge.Environment
import InferForge.Scheduler.History

/-! Outcomes of `bind_environment`. A proof is accepted, or the handler records its rejection; the
handler's own checks decide whether a rejected proof can leave the run ready. -/
namespace InferForge
open Py Effect Sched ResultValidation

section Scheduler
variable {host : Host} {disk : Disk} {w : World} {run : AdaptationRun}

/-- The checks of the scheduler's `bind_environment`. -/
def bindable (host : Host) (disk : Disk) (db : Store) (run : AdaptationRun) (proof : Dict)
    (artifactRoot : Json) : Except Exn Handoff := do
  let handoff ← checkProof host disk run proof artifactRoot
  let previous ← run.fingerprint
  refuse (previous.truthy && !previous.eq (.str handoff.fingerprint) &&
      !(db.tasksOf disk.ties run.runId).isEmpty)
    (.value "environment changed after discovery; existing tasks cannot inherit a new proof")
  return handoff

/-- A run under an accepted proof. -/
def AdaptationRun.bound (run : AdaptationRun) (handoff : Handoff) : AdaptationRun :=
  { run with
    environment := run.environment.set "environment_proof" handoff.record
    status := "ENVIRONMENT_READY" }

/-- A run under a failed one. -/
def AdaptationRun.failed (run : AdaptationRun) (handoff : Json) : AdaptationRun :=
  { run with
    environment := run.environment.set "failed_environment_proof" handoff
    status := "ENVIRONMENT_FAILED" }

theorem bindEnvironment_exact (known : w.db.run? runId = some run) (proof : Dict) (artifactRoot : Json) :
    Prog.wp (bindEnvironment host disk runId proof artifactRoot)
      (fun _ u => ∃ handoff, bindable host disk w.db run proof artifactRoot = .ok handoff ∧
        u.db.run? = Function.update w.db.run? runId (some (run.bound handoff)))
      (fun e u => bindable host disk w.db run proof artifactRoot = .error e ∧ u.db = w.db) w := by
  obtain rfl := Store.run?_named known
  unfold bindEnvironment bindable
  rw [atomic, Prog.wp_transact, Prog.wp_bind]
  simp only [requireRun, Prog.wp_bind, wp_query, known, Prog.wp_pure]
  rw [Prog.wp_lift]
  constructor
  swap
  · intro e failed
    exact ⟨by rw [failed]; rfl, trivial⟩
  intro handoff checked
  rw [Prog.wp_lift]
  constructor
  swap
  · intro e failed
    exact ⟨by rw [checked, failed]; rfl, trivial⟩
  intro previous bound
  rw [Prog.wp_require]
  rw [checked, bound, ok_bind, ok_bind]
  constructor
  · intro allowed
    rw [Bool.not_eq_true'] at allowed
    simp only [wp_execute, wp_emit]
    refine ⟨handoff, by rw [allowed]; rfl, ?_⟩
    exact Store.run?_updateRun (r := run.bound handoff) known
  · intro started
    rw [Bool.not_eq_false'] at started
    exact ⟨by rw [started]; rfl, trivial⟩

theorem recordEnvironmentFailure_exact (known : w.db.run? runId = some run) (proof : Dict)
    (error : Text) :
    Prog.wp (recordEnvironmentFailure host runId proof error)
      (fun _ u => ∃ handoff, failedHandoff run proof error = .ok handoff ∧
        u.db.run? = Function.update w.db.run? runId (some (run.failed handoff)))
      (fun e u => failedHandoff run proof error = .error e ∧ u.db = w.db) w := by
  obtain rfl := Store.run?_named known
  unfold recordEnvironmentFailure
  rw [atomic, Prog.wp_transact, Prog.wp_bind]
  simp only [requireRun, Prog.wp_bind, wp_query, known, Prog.wp_pure]
  rw [Prog.wp_lift]
  constructor
  · intro handoff recorded
    simp only [wp_execute, wp_emit]
    exact ⟨handoff, recorded, Store.run?_updateRun (r := run.failed handoff) known⟩
  · exact fun e failed => ⟨failed, trivial⟩

/-- The same value, or one that compares equal. -/
def Alike (a b : Json) : Prop := a = b ∨ a.eq b = true

theorem recordGraphTransition_exact (known : w.db.run? runId = some run) (payload : Dict) :
    Prog.wp (recordGraphTransition host runId "graph_environment" payload)
      (fun _ u => ∃ run', u.db.run? runId = some run' ∧ run'.status = run.status ∧
        run'.environment = run.environment ∧
        Alike (Dict.getD run'.metadata "graph_environment" .null) (.obj payload))
      (fun _ _ => False) w := by
  obtain rfl := Store.run?_named known
  have key : GraphKey.ofText? "graph_environment" = some .environment := by decide
  unfold recordGraphTransition
  rw [atomic, Prog.wp_transact, key]
  dsimp only
  simp only [requireRun, Prog.wp_bind, wp_query, known, Prog.wp_pure]
  have value : (if GraphKey.environment = .environmentRequired then Json.bool true else .obj payload) =
      .obj payload := if_neg (by decide)
  rw [value, Prog.wp_ite]
  constructor
  · exact fun same => ⟨run, known, rfl, rfl, .inr same⟩
  · intro _
    simp only [Prog.wp_bind, wp_execute, wp_emit, Prog.wp_pure]
    let changed : AdaptationRun :=
      { run with metadata := run.metadata.set "graph_environment" (.obj payload) }
    refine ⟨changed, ?_, rfl, rfl, .inl ?_⟩
    · have updated := Store.run?_updateRun (r := changed) known
      change (w.db.updateRun changed).run? changed.runId = some changed
      rw [updated, Function.update_self]
    · simp [changed, Dict.getD]

end Scheduler

namespace Bridge

/-- What the checks make of a proof directory: the record it would be kept as, or the first
complaint with the proof as far as it was read. -/
def verdict (host : Host) (disk : Disk) (bridge : Bridge) (db : Store) (run : AdaptationRun)
    (artifacts : Path) : Except (Dict × Exn) EnvironmentRecord :=
  match locateProof host disk bridge run artifacts with
  | .error e => .error ([], e)
  | .ok (root, imported) =>
      match loadObject host disk (root.child "status.json") with
      | .error e => .error ([], e)
      | .ok proof =>
          match acceptProof host disk bridge run root imported proof with
          | .error e => .error (proof, e)
          | .ok record =>
              if alreadyBound run record then .ok record
              else
                match bindable host disk db run proof (.str root.toText) with
                | .error e => .error (proof, e)
                | .ok _ => .ok record

/-- A rejection that raises on, and one the handler records. -/
inductive Rejected (host : Host) (run : AdaptationRun) (before : Text → Option AdaptationRun)
    (runId : Text) (proof : Dict) (e : Exn) : Exn → (Text → Option AdaptationRun) → Prop
  | escaped (other : e.isRejection = false) : Rejected host run before runId proof e e before
  | unrecorded (caught : e.isRejection = true)
      (failed : failedHandoff run proof (e.text host) = .error e') :
      Rejected host run before runId proof e e' before
  | recorded (caught : e.isRejection = true)
      (done : failedHandoff run proof (e.text host) = .ok handoff) :
      Rejected host run before runId proof e
        (.value ("environment proof rejected: " ++ e.text host))
        (Function.update before runId (some (run.failed handoff)))

section Outcome
variable {host : Host} {disk : Disk} {bridge : Bridge} {w : World} {run : AdaptationRun}

/-- The run before a call, known to the bridge. -/
theorem run_exact {Q : AdaptationRun → World → Prop} {E : Exn → World → Prop}
    (known : w.db.run? bridge.runId = some run) : Prog.wp bridge.run Q E w ↔ Q run w := by
  simp only [Bridge.run, requireRun, Prog.wp_bind, wp_query, known, Prog.wp_pure]

theorem rejectProof_exact (known : w.db.run? bridge.runId = some run) (proof : Dict) (e : Exn)
    (caught : e.isRejection = true) {Q : α → World → Prop} :
    Prog.wp (rejectProof host bridge proof e : Sched α) Q
      (fun e' u => Rejected host run w.db.run? bridge.runId proof e e' u.db.run?) w := by
  unfold rejectProof
  rw [Prog.wp_bind, Prog.wp_discard]
  refine (recordEnvironmentFailure_exact known proof (e.text host)).mono ?_ ?_
  · rintro _ u _ ⟨handoff, done, updated⟩
    rw [Prog.wp_raise, updated]
    exact .recorded caught done
  · rintro e' u _ ⟨failed, same⟩
    rw [same]
    exact .unrecorded caught failed

/-- A part of `bind_environment` under its handler; a step that raises has changed nothing. -/
theorem handled_exact (known : w.db.run? bridge.runId = some run) {x : Sched α} {proof : Dict}
    {Q : α → World → Prop} {P : Exn → Prop} (body : Prog.wp x Q (fun e u => P e ∧ u.db = w.db) w) :
    Prog.wp (Prog.handle x Exn.isRejection (rejectProof host bridge proof)) Q
      (fun e u => ∃ e', P e' ∧ Rejected host run w.db.run? bridge.runId proof e' e u.db.run?) w := by
  rw [Prog.wp_handle]
  refine body.mono (fun _ _ _ h => h) ?_
  rintro e u _ ⟨raised, same⟩
  have known : u.db.run? bridge.runId = some run := by rw [same, known]
  by_cases caught : e.isRejection = true
  · rw [if_pos caught]
    refine (rejectProof_exact known proof e caught).mono (fun _ _ _ h => h) fun e' v _ rejected => ?_
    rw [same] at rejected
    exact ⟨e, raised, rejected⟩
  · rw [if_neg caught, same]
    exact ⟨e, raised, .escaped (Bool.eq_false_iff.mpr caught)⟩

variable (host disk) in
theorem bindEnvironment_exact (known : w.db.run? bridge.runId = some run) (artifacts : Path)
    (execute : bridge.execute = true) :
    Prog.wp (bindEnvironment host disk bridge artifacts)
      (fun record u => verdict host disk bridge w.db run artifacts = .ok record ∧
        ∃ run', u.db.run? bridge.runId = some run' ∧ run'.status = "ENVIRONMENT_READY" ∧
          Alike (Dict.getD run'.metadata "graph_environment" .null) (.obj record.toDict))
      (fun e u => ∃ proof e', verdict host disk bridge w.db run artifacts = .error (proof, e') ∧
        Rejected host run w.db.run? bridge.runId proof e' e u.db.run?) w := by
  unfold bindEnvironment
  rw [Prog.wp_bind, Prog.wp_require]
  refine ⟨fun _ => ?_, fun plan => by simp [execute] at plan⟩
  rw [Prog.wp_bind]
  -- the first part reads the proof
  refine (handled_exact (Q := fun found u => u = w ∧
      locateProof host disk bridge run artifacts = .ok (found.1, found.2.1) ∧
      loadObject host disk (found.1.child "status.json") = .ok found.2.2)
    (P := fun e => verdict host disk bridge w.db run artifacts = .error ([], e)) known ?_).mono ?_ ?_
  · rw [Prog.wp_bind, run_exact known, Prog.wp_bind, Prog.wp_lift]
    refine ⟨fun ⟨root, imported⟩ located => ?_, fun e failed => ⟨by rw [verdict, failed], rfl⟩⟩
    rw [Prog.wp_bind, Prog.wp_lift]
    refine ⟨fun proof loaded => ⟨rfl, located, loaded⟩, fun e failed => ⟨?_, rfl⟩⟩
    rw [verdict, located]
    dsimp only
    rw [failed]
  · -- the second part checks and binds it
    rintro ⟨root, imported, proof⟩ u _ ⟨rfl, located, loaded⟩
    dsimp only at located loaded ⊢
    have decided : verdict host disk bridge u.db run artifacts =
        match acceptProof host disk bridge run root imported proof with
        | .error e => .error (proof, e)
        | .ok record =>
            if alreadyBound run record then .ok record
            else
              match bindable host disk u.db run proof (.str root.toText) with
              | .error e => .error (proof, e)
              | .ok _ => .ok record := by
      rw [verdict, located]
      dsimp only
      rw [loaded]
    refine (handled_exact (Q := fun record v => verdict host disk bridge u.db run artifacts = .ok record ∧
        ∃ run', v.db.run? bridge.runId = some run' ∧ run'.status = "ENVIRONMENT_READY" ∧
          Alike (Dict.getD run'.metadata "graph_environment" .null) (.obj record.toDict))
      (P := fun e => verdict host disk bridge u.db run artifacts = .error (proof, e)) known ?_).mono
      (fun _ _ _ h => h) ?_
    · rw [Prog.wp_bind, run_exact known, Prog.wp_bind, Prog.wp_lift]
      refine ⟨fun record accepted => ?_, fun e failed => ⟨by rw [decided, failed], rfl⟩⟩
      rw [accepted] at decided
      dsimp only at decided
      rw [Prog.wp_ite]
      constructor
      · intro already
        rw [if_pos already] at decided
        simp only [alreadyBound, Bool.and_eq_true, decide_eq_true_eq] at already
        exact ⟨decided, run, known, already.1, .inr already.2⟩
      · intro fresh
        rw [if_neg fresh] at decided
        rw [Prog.wp_bind, Prog.wp_discard]
        refine (InferForge.bindEnvironment_exact known proof _).mono ?_ ?_
        · rintro _ v _ ⟨handoff, checked, updated⟩
          rw [checked] at decided
          have known : v.db.run? bridge.runId = some (run.bound handoff) := by
            rw [updated, Function.update_self]
          rw [Prog.wp_bind, Prog.wp_discard]
          refine (recordGraphTransition_exact known record.toDict).mono ?_ fun _ _ _ => False.elim
          rintro _ t _ ⟨run', known', status, _, alike⟩
          exact ⟨decided, run', known', status, alike⟩
        · rintro e v _ ⟨failed, same⟩
          rw [failed] at decided
          exact ⟨decided, same⟩
    · rintro e v _ ⟨e', rejected, outcome⟩
      exact ⟨proof, e', rejected, outcome⟩
  · rintro e u _ ⟨e', rejected, outcome⟩
    exact ⟨[], e', rejected, outcome⟩

/-! ## What a rejection leaves -/

/-- The handler puts the rejection of a proof on file, if there is one. -/
def settles (host : Host) (disk : Disk) (bridge : Bridge) (db : Store) (artifacts : Path)
    (run : AdaptationRun) : Bool :=
  match verdict host disk bridge db run artifacts with
  | .ok _ => true
  | .error (proof, e) => e.isRejection && (failedHandoff run proof "").toOption.isSome

theorem locateProof_root {imported : Json}
    (ok : locateProof host disk bridge run artifacts = .ok (root, imported)) :
    ensureExternal disk artifacts = .ok root := by
  obtain ⟨found, resolved, ok⟩ := bind_ok.mp ok
  obtain ⟨_, _, ok⟩ := bind_ok.mp ok
  have same := congrArg Prod.fst (pure_ok.mp ok)
  dsimp only at same
  rw [resolved, same]

end Outcome

end Bridge
end InferForge

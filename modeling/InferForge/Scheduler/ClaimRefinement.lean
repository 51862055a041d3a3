import InferForge.Scheduler.TaskRefinement

/-! Claiming as moves of the ledger. The events of a claim are written after the loop, so
between two rounds the ledger is ahead of the log by the claims made so far. -/
namespace InferForge
open Py Effect Sched Transition

/-- A ledger that already shows claim events still to be written. -/
def Ledger.deferred (l : Ledger) (events : List (Text × Dict × Text)) : Ledger :=
  { l with log := l.log ++ events.map fun e => ⟨e.1, .taskClaimed, some e.2.2, e.2.1⟩ }

theorem deferred_none (l : Ledger) : l.deferred [] = l := by
  simp [Ledger.deferred]

/-- Writing the first deferred event only takes time. -/
theorem deferred_emit (v : World) (event : Text × Dict × Text) (rest : List (Text × Dict × Text))
    (reading : Time) (n : Nat) :
    (World.ledger ⟨v.db.append ⟨event.1, .taskClaimed, some event.2.2, event.2.1, reading⟩, n,
      v.tokens⟩).deferred rest = (v.ledger.deferred (event :: rest)).later n v.tokens := by
  have written := Store.log_append v.db
    ⟨event.1, .taskClaimed, some event.2.2, event.2.1, reading⟩ rfl
  simp only [Ledger.deferred, World.ledger, Ledger.later, written, List.append_assoc]
  rfl

section Claims
variable {host : Host} {disk : Disk} {v w : World} {l : Ledger} {allowed : Action → Prop}

theorem environmentOpen_spec (row : TaskRow) (run : AdaptationRun) :
    Prog.wlp (environmentOpen row run) (fun ok u => u = w ∧
      (ok = true → environmentGated run = true →
        run.status = "ENVIRONMENT_READY" ∧ ∃ spec fingerprint,
          w.db.operator? row.runId row.operatorKey = some spec ∧
          run.fingerprint = .ok fingerprint ∧ fingerprint.truthy = true ∧
          (Dict.getD spec.environment "fingerprint" .null).eq fingerprint = true)) w := by
  unfold environmentOpen
  rw [Prog.wlp, Prog.wp_ite]
  refine ⟨fun free => ⟨rfl, fun _ gated => by simp [gated] at free⟩, fun _ => ?_⟩
  rw [Prog.wp_ite]
  refine ⟨fun _ => ⟨rfl, nofun⟩, fun ready => ?_⟩
  simp only [Prog.wp_bind, wp_query]
  refine wlp_lift fun fingerprint bound => ?_
  rw [Prog.wp_ite]
  refine ⟨fun _ => ⟨rfl, nofun⟩, fun truthy => ?_⟩
  cases known : w.db.operator? row.runId row.operatorKey with
  | none => trivial
  | some spec =>
    exact ⟨rfl, fun same _ => ⟨Decidable.not_not.mp ready, spec, fingerprint, rfl, bound,
      by simpa using truthy, same⟩⟩

theorem depsSucceeded_spec (row : TaskRow) :
    Prog.wlp (depsSucceeded row) (fun ok u => u = w ∧
      (ok = true → row.stage ≠ .diagnosis → Ready w.ledger row)) w := by
  unfold depsSucceeded
  rw [Prog.wlp, Prog.wp_ite]
  refine ⟨fun kind => ⟨rfl, fun _ operator => absurd kind operator⟩, fun _ => ?_⟩
  simp only [Prog.wp_bind]
  refine wlp_requireRun fun run here => (environmentOpen_spec row run).mono ?_ fun _ _ _ h => h
  rintro ok _ _ ⟨rfl, passed⟩
  rw [Prog.wp_ite]
  constructor
  · intro yes
    rw [wp_query]
    exact And.intro rfl fun _ _ => ⟨run, here, passed yes⟩
  · intro no
    exact ⟨rfl, by rintro ⟨⟩⟩

/-- `bind_workspace` leaves the tables as they are, or gives the run its directory. -/
theorem bindWorkspace_spec (run : AdaptationRun) (shown : v.Shows l)
    (here : l.run run.runId = some run) :
    Prog.wlp (bindWorkspace host disk run) (fun _ u => v ≤ u ∧ ∃ l', u.Shows l' ∧
      (l' = l ∨ ∃ root, l' = l.putRun
        { run with metadata := run.metadata.set "artifact_root" root })) v := by
  unfold bindWorkspace
  rw [Prog.wlp, Prog.wp_ite]
  refine ⟨fun _ => ?_, fun _ => ⟨le_rfl, l, shown, .inl rfl⟩⟩
  simp only [Prog.wp_bind]
  refine wlp_lift fun root _ => ?_
  simp only [wp_execute, wp_emit, Prog.wp_pure]
  refine ⟨⟨Nat.le_succ _, le_rfl⟩, _, ?_, .inr ⟨.str root, rfl⟩⟩
  exact (World.Shows.updateRun shown (r := { run with
    metadata := run.metadata.set "artifact_root" (.str root) }) here 0 0).skip _ rfl _ _

/-- An attempt directory only shows in the workspace of the claimed row. -/
theorem openAttempt_spec {row claimed : TaskRow} (run : AdaptationRun) (shown : v.Shows l)
    (here : l.row row.taskId = some claimed) (same : claimed.input = row.input) :
    Prog.wlp (openAttempt disk run row) (fun _ u => v ≤ u ∧ ∃ input, SameInput row.input input ∧
      u.Shows (l.put { claimed with input })) v := by
  have kept : l.put { claimed with input := row.input } = l := by
    rw [← same]
    exact Ledger.put_self here (Store.row?_named (shown.row ▸ here))
  unfold openAttempt
  rw [Prog.wlp, Prog.wp_ite]
  refine ⟨fun _ => ?_, fun _ => ⟨le_rfl, row.input, fun _ _ => rfl, by rwa [kept]⟩⟩
  simp only [Prog.wp_bind]
  refine wlp_lift fun root _ => wlp_lift fun _ _ => wlp_lift fun _ _ => ?_
  simp only [wp_execute]
  let payload := row.input.set "workspace" (workspaceOf run.runId row.taskId root)
  refine ⟨⟨le_rfl, le_rfl⟩, payload, fun key other => Dict.get?_set_other _ _ other, ?_⟩
  exact shown.update here (fun r => { r with input := payload }) (fun _ => ⟨rfl, rfl, rfl, rfl⟩) _ _

/-- What holds before each round of the claim loop. -/
structure Round (host : Host) (disk : Disk) (allowed : Action → Prop) (start : Ledger)
    (rest : List TaskRow) (claims : InferForge.Claims) (v : World) : Prop where
  steps : Steps host disk allowed start (v.ledger.deferred claims.events)
  distinct : (rest.map TaskRow.taskId).Nodup
  queued : ∀ r ∈ rest, v.db.row? r.taskId = some r ∧ r.status = .pending

theorem Round.skip (round : Round host disk allowed l (row :: rest) claims v) :
    Round host disk allowed l rest claims v :=
  ⟨round.steps, (List.nodup_cons.mp round.distinct).2,
    fun r member => round.queued r (List.mem_cons_of_mem _ member)⟩

/-- The claim itself: the ledger makes the move, and the log of it is deferred. -/
theorem deferred_claim {row : TaskRow} {l' : Ledger} {u : World} {worker : Text} {lease : Lease}
    {input : Dict} (steps : Steps host disk allowed l (v.ledger.deferred events))
    (here : v.db.row? row.taskId = some row) (status : row.status = .pending)
    (ready : row.stage ≠ .diagnosis → Ready v.ledger row) (same : SameInput row.input input)
    (permitted : allowed (.claim row.taskId)) (furnishing : ∀ id, allowed (.furnish id))
    (idle : allowed .wait) (issued : lease = ⟨host.token v.tokens, worker, expires⟩)
    (run : v.db.run? r.runId = some r)
    (shown : u.Shows l')
    (bound : l' = v.ledger.put (TaskRow.claimed lease { row with input }) ∨ ∃ root,
      l' = (v.ledger.put (TaskRow.claimed lease { row with input })).putRun
        { r with metadata := r.metadata.set "artifact_root" root })
    (ahead : v.readings ≤ u.readings ∧ v.tokens + 1 ≤ u.tokens) :
    Steps host disk allowed l (u.ledger.deferred (events ++ [claimEvent worker row])) := by
  subst issued
  let claimed := ({ v.ledger.deferred events with tokens := v.tokens + 1 }.put (TaskRow.claimed
    ⟨host.token v.tokens, worker, expires⟩ { row with input })).note (claimNote worker row)
  have moved : Steps host disk allowed (v.ledger.deferred events) claimed :=
    .one (.claim row input worker expires here status ready same) permitted
  refine (steps.trans moved).trans ?_
  rw [shown.ledger]
  rcases bound with rfl | ⟨root, rfl⟩
  · have passed : Steps host disk allowed claimed (claimed.later u.readings u.tokens) :=
      .later idle ahead.1 ahead.2
    simpa [claimed, Ledger.deferred, Ledger.later, Ledger.put, Ledger.note, World.ledger, claimNote,
      claimEvent] using passed
  · have furnished : Steps host disk allowed claimed (claimed.putRun _) :=
      .one (.furnish r root run) (furnishing _)
    have passed := furnished.trans (.later idle ahead.1 ahead.2)
    simpa [claimed, Ledger.deferred, Ledger.later, Ledger.put, Ledger.note, Ledger.putRun,
      World.ledger, claimNote, claimEvent] using passed

/-- The tables after a claim: the row with its lease and workspace, perhaps a run directory. -/
theorem bound_ledger {row : TaskRow} {lease : Lease} {input : Dict} {u' : World} {l' : Ledger}
    {r : AdaptationRun}
    (after : u'.Shows (l'.put { TaskRow.claimed lease row with input }))
    (bound : l' = v.ledger.put (TaskRow.claimed lease row) ∨ ∃ root,
      l' = (v.ledger.put (TaskRow.claimed lease row)).putRun
        { r with metadata := r.metadata.set "artifact_root" root }) :
    ∃ l'', u'.Shows l'' ∧ (l'' = v.ledger.put (TaskRow.claimed lease { row with input }) ∨ ∃ root,
      l'' = (v.ledger.put (TaskRow.claimed lease { row with input })).putRun
        { r with metadata := r.metadata.set "artifact_root" root }) := by
  have folded : (v.ledger.put (TaskRow.claimed lease row)).put
      { TaskRow.claimed lease row with input } =
        v.ledger.put (TaskRow.claimed lease { row with input }) := Ledger.put_put _ rfl
  refine ⟨_, after, ?_⟩
  rcases bound with rfl | ⟨root, rfl⟩
  · exact .inl folded
  · exact .inr ⟨root, congrArg (Ledger.putRun · _) folded⟩

/-- One round: the row is passed over, or claimed. -/
theorem claimCandidate_round {start : Ledger} {row : TaskRow} {rest : List TaskRow}
    {claims : InferForge.Claims} (round : Round host disk allowed start (row :: rest) claims v)
    (claiming : ∀ id, allowed (.claim id)) (furnishing : ∀ id, allowed (.furnish id))
    (idle : allowed .wait) (worker : Text) (seconds : Rat) (limit : Int) (reading : Time) :
    Prog.wlp (claimCandidate host disk worker seconds limit reading claims row)
      (fun claims' u => Round host disk allowed start rest claims' u) v := by
  obtain ⟨here, pending⟩ := round.queued row List.mem_cons_self
  unfold claimCandidate
  rw [Prog.wlp, Prog.wp_ite]
  refine ⟨fun _ => round.skip, fun _ => ?_⟩
  rw [Prog.wp_bind]
  refine (depsSucceeded_spec row).mono ?_ fun _ _ _ h => h
  rintro ok u _ ⟨same, ready⟩
  rw [same, Prog.wp_ite]
  refine ⟨fun _ => round.skip, fun passed => ?_⟩
  simp only [Prog.wp_bind, wp_drawToken]
  refine wlp_require fun _ => ?_
  simp only [wp_query, wp_execute]
  rw [Prog.wp_ite]
  refine ⟨fun _ => ?_, fun free => absurd ?_ free⟩
  · rw [Prog.wp_bind]
    refine wlp_requireRun fun run found => ?_
    rw [Prog.wp_bind]
    let lease : Lease := ⟨host.token v.tokens, worker, host.addSeconds reading seconds⟩
    have shown := (World.Shows.self v 0 0).only here
      (fun r => r.taskId = row.taskId && r.status = .pending) (TaskRow.claimed lease)
      (fun _ => ⟨rfl, rfl, rfl, rfl⟩) (by simp [pending])
      (fun q taken => (by simpa using taken : _ ∧ _).1) v.readings (v.tokens + 1)
    have named : run.runId = row.runId := Store.run?_named found
    refine (bindWorkspace_spec run shown (named ▸ found)).mono ?_ fun _ _ _ h => h
    rintro run' u _ ⟨ahead, l', shownU, bound⟩
    have claimed : l'.row row.taskId = some (TaskRow.claimed lease row) := by
      rcases bound with rfl | ⟨root, rfl⟩ <;> exact Function.update_self _ _ _
    rw [Prog.wp_bind]
    refine (openAttempt_spec run' shownU claimed rfl).mono ?_ fun _ _ _ h => h
    rintro - u' - ⟨ahead', input, sameInput, opened⟩
    simp only [Prog.wp_bind, wp_query, Prog.wp_pure]
    obtain ⟨l'', shownU', bound'⟩ := bound_ledger opened bound
    have ahead'' : v.readings ≤ u'.readings ∧ v.tokens + 1 ≤ u'.tokens :=
      ⟨ahead.1.trans ahead'.1, ahead.2.trans ahead'.2⟩
    refine ⟨deferred_claim round.steps here pending (ready (by simpa using passed)) sameInput
      (claiming _) furnishing idle rfl (named ▸ found) shownU' bound' ahead'', ?_, ?_⟩
    · exact (List.nodup_cons.mp round.distinct).2
    · intro r member
      obtain ⟨stored, status⟩ := round.queued r (List.mem_cons_of_mem _ member)
      refine ⟨?_, status⟩
      have other : r.taskId ≠ row.taskId := fun h =>
        (List.nodup_cons.mp round.distinct).1 (h ▸ List.mem_map_of_mem member)
      rw [shownU'.row]
      rcases bound' with rfl | ⟨root, rfl⟩ <;>
        exact (Function.update_of_ne other _ _).trans stored
  · exact List.any_eq_true.mpr ⟨row, Store.row?_mem here, by simp [pending]⟩

/-- The moves that give expired leases up, and those of the claim loop. -/
def Action.releases : Action → Prop
  | .wait | .release => True
  | _ => False

def Action.claims : Action → Prop
  | .wait | .claim _ | .furnish _ => True
  | _ => False

/-- A call of `claim_ready` gives expired leases up first, and then only claims. -/
theorem claimReady_phases (worker : Text) (stage : Option Text) (seconds : Double) (limit : Int) :
    ∃ mid, Steps host disk Action.releases w.ledger mid ∧
      Steps host disk Action.claims mid (claimReady host disk worker stage seconds limit w).2.1.ledger := by
  refine atomic_spec (P := fun v => ∃ mid, Steps host disk Action.releases w.ledger mid ∧
    Steps host disk Action.claims mid v.ledger) ?_ fun v ahead =>
      ⟨_, .refl, .wait trivial ahead (.self w _ _)⟩
  simp only [Prog.wlp, Prog.wp_bind]
  refine wlp_lift fun (length, chosen) _ => ?_
  simp only [wp_now, wp_execute, wp_query]
  let reading := host.clock w.readings
  let u : World := ⟨w.db.updateTasks (TaskRow.expired reading) TaskRow.released,
    w.readings + 1, w.tokens⟩
  have released : Steps host disk Action.releases w.ledger u.ledger := by
    refine Steps.act (.release (TaskRow.expired reading) fun t r _ expired => ?_) trivial trivial
      ⟨Nat.le_succ _, le_rfl⟩ ⟨rfl, rfl, funext fun t =>
        Store.row?_updateTasks _ TaskRow.released (fun _ => ⟨rfl, rfl, rfl, rfl⟩) t, rfl⟩
    simp only [TaskRow.expired, Bool.and_eq_true, decide_eq_true_eq] at expired
    exact expired.1
  have start : Steps host disk Action.claims u.ledger (u.ledger.deferred []) := by
    rw [deferred_none]
    exact .refl
  refine Prog.wp_foldlM (Round host disk Action.claims u.ledger)
    (fun row rest claims v round => ?_) ⟨start, ?_, ?_⟩ fun claims v round => ?_
  · exact claimCandidate_round round (fun _ => trivial) (fun _ => trivial) trivial _ _ _ _
  · exact Store.candidates_nodup _ _ _
  · intro r member
    obtain ⟨stored, pending, _⟩ := Store.mem_candidates.mp member
    exact ⟨Store.row?_of_mem stored, pending⟩
  · refine Prog.wp_forM (fun rest v => Steps host disk Action.claims u.ledger (v.ledger.deferred rest))
      (fun event rest v written => ?_) round.steps fun v done => ?_
    · rw [wp_emit]
      have passed := written.trans (.later trivial (Nat.le_succ v.readings) (le_refl v.tokens))
      rwa [← deferred_emit v event rest (host.clock v.readings)] at passed
    · rw [Prog.wp_pure]
      rw [deferred_none] at done
      exact ⟨_, released, done⟩

theorem claimReady_steps (worker : Text) (stage : Option Text) (seconds : Double) (limit : Int) :
    Steps host disk (Call.permits (.claimReady worker stage seconds limit)) w.ledger
      (claimReady host disk worker stage seconds limit w).2.1.ledger := by
  obtain ⟨mid, released, claimed⟩ := claimReady_phases worker stage seconds limit
  refine (released.mono fun a phase => ?_).trans (claimed.mono fun a phase => ?_)
  · cases a <;> simp_all [Action.releases, Call.permits]
  · cases a <;> simp_all [Action.claims, Call.permits]

end Claims
end InferForge

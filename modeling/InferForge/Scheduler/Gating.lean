import InferForge.Scheduler.Leases

/-! The environment gate: what a real run is bound to once it has work, and the state in
which operator tasks are claimed. -/
namespace InferForge
open Py Effect Sched Transition Lifecycle

/-- The run is bound to this fingerprint. -/
def BoundTo (r : AdaptationRun) (fingerprint : Text) : Prop :=
  r.fingerprint = .ok (.str fingerprint) ∧ fingerprint.isEmpty = false

/-- The run has tasks. -/
def Ledger.Started (l : Ledger) (runId : Text) : Prop := ∃ t q, l.row t = some q ∧ q.runId = runId

/-- What holds of a real run: it is bound when it is ready or has work, and its specifications
carry that binding. -/
structure Proved (runId : Text) (l : Ledger) (r : AdaptationRun) : Prop where
  real : r.evidenceMode.eq (.str "real") = true
  ready : r.status = "ENVIRONMENT_READY" ∨ l.Started runId → ∃ f, BoundTo r f
  specs : ∀ key spec, l.spec runId key = some spec → ∃ f, BoundTo r f ∧
    spec.environment.get? "fingerprint" = some (.str f)

section Moves
variable {host : Host} {approves : Task → AdaptationRun → Dict → Text → Prop} {l l' : Ledger}
  {r r' : AdaptationRun}

/-- How a move treats a run: the binding stays, or a proof is bound that existing work allows. -/
inductive Rebound (l l' : Ledger) (r : AdaptationRun) : AdaptationRun → Prop where
  | kept (r' : AdaptationRun) (mode : r'.evidenceMode = r.evidenceMode)
      (proof : r'.fingerprint = r.fingerprint)
      (status : r'.status = r.status ∨ r'.status = "ENVIRONMENT_FAILED") : Rebound l l' r r'
  | bound (r' : AdaptationRun) (f : Text) (mode : r'.evidenceMode = r.evidenceMode)
      (proof : BoundTo r' f) (specs : l'.spec = l.spec)
      (settled : l.Started r.runId → ∃ previous, r.fingerprint = .ok previous ∧
        (previous.truthy = true → previous = .str f)) : Rebound l l' r r'

theorem Rebound.refl : Rebound l l' r r := .kept r rfl rfl (.inl rfl)

theorem bound_fingerprint (run : AdaptationRun) (handoff : Handoff) (status : Text) :
    AdaptationRun.fingerprint { run with
      environment := run.environment.set "environment_proof" handoff.record, status } =
        .ok (.str handoff.fingerprint) := by
  simp only [AdaptationRun.fingerprint, nestedGet, Dict.getD, Dict.get?_set_same]
  rfl

theorem Move.rebound (moved : Move host approves l a l') (here : l.run runId = some r) :
    ∃ r', l'.run runId = some r' ∧ Rebound l l' r r' := by
  cases moved with
  | openRun q fresh =>
    have other : runId ≠ q.runId := by
      rintro rfl
      rw [fresh] at here
      cases here
    exact ⟨r, (Function.update_of_ne other _ _).trans here, .refl⟩
  | furnish q root stored =>
    by_cases same : runId = q.runId
    · subst same
      obtain rfl := Option.some.inj (stored.symm.trans here)
      exact ⟨_, Function.update_self _ _ _, .kept _ (evidenceMode_set q root (by simp)) rfl (.inl rfl)⟩
    · exact ⟨r, (Function.update_of_ne same _ _).trans here, .refl⟩
  | bind q handoff stored named settled =>
    by_cases same : runId = q.runId
    · subst same
      obtain rfl := Option.some.inj (stored.symm.trans here)
      refine ⟨_, Function.update_self _ _ _, .bound _ handoff.fingerprint rfl
        ⟨bound_fingerprint _ _ _, named⟩ rfl ?_⟩
      rintro ⟨t, q', found, task⟩
      exact settled t q' found task
    · exact ⟨r, (Function.update_of_ne same _ _).trans here, .refl⟩
  | adjust q q' stored same mode proof status =>
    by_cases this : runId = q'.runId
    · subst this
      obtain rfl := Option.some.inj (stored.symm.trans (same ▸ here))
      exact ⟨_, Function.update_self _ _ _, .kept _ mode proof status⟩
    · exact ⟨r, (Function.update_of_ne this _ _).trans here, .refl⟩
  | _ => exact ⟨r, here, .refl⟩

/-- Work starts, and specifications arrive, by discovery only. -/
theorem Move.discovers (runId : Text) (moved : Move host approves l a l') :
    (l'.Started runId → l.Started runId ∨
      ∃ r spec, l.run runId = some r ∧ checkDiscovery r spec = .ok ()) ∧
    ∀ key spec, l'.spec runId key = some spec → l.spec runId key = some spec ∨
      ∃ r, l.run runId = some r ∧ checkDiscovery r spec = .ok () := by
  have same {t : Text} {q : TaskRow} (found : l.row t = some q) (run : q.runId = runId) :
      l.Started runId := ⟨t, q, found, run⟩
  refine ⟨fun ⟨t, q, found, run⟩ => ?_, fun key spec known => ?_⟩
  · cases moved with
    | wait | openRun | furnish | bind | adjust | consume => exact .inl (same found run)
    | discover r key spec input payload at' here valid =>
      rcases Ledger.row_put found with ⟨_, rfl⟩ | before
      · exact .inr ⟨r, spec, by rw [← run]; exact here, valid⟩
      · exact .inl (same before run)
    | claim row _ _ _ here | renew row _ _ here | succeed row _ _ _ _ _ here
    | failDiagnosis row _ _ _ here | create row _ _ _ _ here =>
      rcases Ledger.row_put found with ⟨_, rfl⟩ | before
      · exact .inl (same here run)
      · exact .inl (same before run)
    | release selected =>
      obtain ⟨q', before, rfl⟩ := Option.map_eq_some_iff.mp found
      refine .inl (same before ?_)
      split at run <;> exact run
    | failFirst row _ _ _ _ _ here =>
      rcases Ledger.row_put found with ⟨_, rfl⟩ | before
      · exact .inl (same here run)
      · rcases Ledger.row_put before with ⟨_, rfl⟩ | before
        · exact .inl (same here run)
        · exact .inl (same before run)
    | failAgain row diagnosis _ _ _ _ here _ _ _ _ known =>
      rcases Ledger.row_put found with ⟨_, rfl⟩ | before
      · exact .inl (same known run)
      · rcases Ledger.row_put before with ⟨_, rfl⟩ | before
        · exact .inl (same here run)
        · exact .inl (same before run)
    | retry diagnosis source _ concluded =>
      rcases Ledger.row_put found with ⟨_, rfl⟩ | before
      · exact .inl (same concluded.found run)
      · exact .inl (same before run)
  · cases moved with
    | discover r key' spec' input payload at' here valid =>
      by_cases this : runId = r.runId ∧ key = key'
      · obtain ⟨rfl, rfl⟩ := this
        have new := (if_pos ⟨rfl, rfl⟩).symm.trans known
        exact .inr ⟨r, here, Option.some.inj new ▸ valid⟩
      · exact .inl ((if_neg this).symm.trans known)
    | _ => exact .inl known

theorem gated_of_real (real : r.evidenceMode.eq (.str "real") = true) :
    environmentGated r = true := by
  have other : r.evidenceMode.eq (.str "simulation") = false := by
    rw [(Json.eq_str_right _ _).mp real, Bool.eq_false_iff]
    simp
  simp [environmentGated, other]

/-- What a discovery for a real run has checked. -/
theorem discovery_bound (proved : Proved runId l r) (valid : checkDiscovery r spec = .ok ()) :
    ∃ f, BoundTo r f ∧ spec.environment.get? "fingerprint" = some (.str f) := by
  simp only [checkDiscovery, gated_of_real proved.real, if_true, checkGated, bind_ok, refuse_ok] at valid
  obtain ⟨_, ready, fingerprint, bound, _, same, _⟩ := valid
  have status : r.status = "ENVIRONMENT_READY" := Decidable.not_not.mp (of_decide_eq_false ready)
  obtain ⟨f, proof, named⟩ := proved.ready (.inl status)
  obtain rfl := Except.ok.inj (bound.symm.trans proof)
  refine ⟨f, ⟨proof, named⟩, ?_⟩
  simp only [Bool.or_eq_false_iff, Bool.not_eq_false', Json.eq_str_right] at same
  have value := same.2
  cases found : spec.environment.get? "fingerprint" with
  | none => simp [Dict.getD, found] at value
  | some v => simpa [Dict.getD, found] using value

/-- Every move keeps what holds of a proved run, and its binding once it has work. -/
theorem Move.keeps_proved (moved : Move host approves l a l') (sound : Sound l)
    (here : l.run runId = some r) (proved : Proved runId l r) :
    ∃ r', l'.run runId = some r' ∧ Proved runId l' r' ∧
      (l.Started runId → r'.fingerprint = r.fingerprint) := by
  obtain ⟨r', here', rebound⟩ := moved.rebound here
  obtain ⟨starts, specs⟩ := moved.discovers runId
  have named := sound.runs runId r here
  have discovered {q spec} (found : l.run runId = some q) (valid : checkDiscovery q spec = .ok ()) :
      ∃ f, BoundTo r f ∧ spec.environment.get? "fingerprint" = some (.str f) := by
    obtain rfl := Option.some.inj (here.symm.trans found)
    exact discovery_bound proved valid
  have started (after : l'.Started runId) : ∃ f, BoundTo r f := by
    rcases starts after with before | ⟨q, spec, found, valid⟩
    · exact proved.ready (.inr before)
    · obtain ⟨f, bound, _⟩ := discovered found valid
      exact ⟨f, bound⟩
  cases rebound with
  | kept mode proof status =>
    refine ⟨r', here', ⟨mode ▸ proved.real, ?_, ?_⟩, fun _ => proof⟩
    · intro active
      have bound : ∃ f, BoundTo r f := by
        rcases active with ready | after
        · rcases status with same | failed
          · exact proved.ready (.inl (same.symm.trans ready))
          · simp [failed] at ready
        · exact started after
      obtain ⟨f, same, nonempty⟩ := bound
      exact ⟨f, proof.trans same, nonempty⟩
    · intro key spec known
      have carried : ∃ f, BoundTo r f ∧ spec.environment.get? "fingerprint" = some (.str f) := by
        rcases specs key spec known with before | ⟨q, found, valid⟩
        · exact proved.specs key spec before
        · exact discovered found valid
      obtain ⟨f, ⟨same, nonempty⟩, value⟩ := carried
      exact ⟨f, ⟨proof.trans same, nonempty⟩, value⟩
  | bound f mode proof same settled =>
    -- existing work already fixes the binding
    have agree (before : l.Started runId) : BoundTo r f := by
      obtain ⟨g, bound, nonempty⟩ := proved.ready (.inr before)
      obtain ⟨previous, read, only⟩ := settled (named ▸ before)
      obtain rfl := Except.ok.inj (read.symm.trans bound)
      obtain rfl := Json.str.inj (only (by simp [Json.truthy, nonempty]))
      exact ⟨bound, nonempty⟩
    refine ⟨r', here', ⟨mode ▸ proved.real, fun _ => ⟨f, proof⟩, fun key spec known => ?_⟩,
      fun before => proof.1.trans (agree before).1.symm⟩
    rw [same] at known
    obtain ⟨q, rooted, run⟩ := sound.rooted runId key spec known
    obtain ⟨g, ⟨bound, _⟩, value⟩ := proved.specs key spec known
    have alike := Except.ok.inj (bound.symm.trans (agree ⟨_, q, rooted, run⟩).1)
    exact ⟨f, proof, alike ▸ value⟩

theorem Move.keeps_started (moved : Move host approves l a l') (sound : Sound l)
    (before : l.Started runId) : l'.Started runId := by
  obtain ⟨notes, rows⟩ := moved.rows sound
  obtain ⟨t, present⟩ := before
  exact ⟨t, rows.kept present⟩

theorem Sound.unstarted (sound : Sound l) (fresh : l.run runId = none) : ¬ l.Started runId := by
  rintro ⟨t, q, here, rfl⟩
  have known := (sound.shaped t q here).run
  rw [fresh] at known
  cases known

end Moves

section Opening
variable {host : Host} {disk : Disk} {w : World}

theorem preparedRun_real {run r : AdaptationRun} (ok : preparedRun host disk run = .ok r)
    (real : run.evidenceMode.eq (.str "real") = true) :
    r.evidenceMode = run.evidenceMode ∧ r.status = "WAITING_FOR_ENVIRONMENT" := by
  simp only [preparedRun, real, if_true, bind_ok, pure_ok] at ok
  obtain ⟨root, _, rfl⟩ := ok
  have required := evidenceMode_set run (.bool true)
    (by simp : Text.ofString "environment_required" ≠ Text.ofString "evidence_mode")
  refine ⟨?_, rfl⟩
  unfold AdaptationRun.evidenceMode Dict.getD
  rw [Dict.get?_set_other _ _ (by simp)]
  exact required

/-- A real run waits for its proof, whatever environment it is opened with. -/
theorem createRun_proved {run : AdaptationRun} (sound : Sound w.ledger)
    (fresh : w.db.run? run.runId = none) (real : run.evidenceMode.eq (.str "real") = true) :
    Prog.wlp (createRun host disk run)
      (fun _ v => ∃ r, v.ledger.run run.runId = some r ∧ Proved run.runId v.ledger r) w := by
  have idle := sound.unstarted fresh
  rw [Prog.wlp, createRun, atomic, Prog.wp_transact]
  simp only [Prog.wp_bind]
  apply wlp_require
  intro _
  simp only [wp_query, fresh, Prog.wp_bind]
  apply wlp_lift
  intro prepared ok
  simp only [wp_execute, wp_emit, Prog.wp_pure]
  obtain ⟨mode, status⟩ := preparedRun_real ok real
  have named := (preparedRun_spec ok).1
  obtain ⟨rows, specs, _⟩ := Store.saveRun_rest w.db prepared
  have saved := Store.run?_saveRun (named ▸ fresh : w.db.run? prepared.runId = none)
  refine ⟨prepared, ?_, ⟨mode ▸ real, ?_, ?_⟩⟩
  · change (w.db.saveRun prepared).run? run.runId = some prepared
    rw [saved, named, Function.update_self]
  · rintro (ready | ⟨t, q, here, of⟩)
    · simp [status] at ready
    · change (w.db.saveRun prepared).row? t = some q at here
      rw [rows] at here
      exact absurd ⟨t, q, here, of⟩ idle
  · intro key spec known
    change (w.db.saveRun prepared).operator? run.runId key = some spec at known
    rw [specs] at known
    obtain ⟨q, here, of⟩ := sound.rooted _ key spec known
    exact absurd ⟨_, q, here, of⟩ idle

end Opening

section Claims
variable {host : Host} {disk : Disk} {approves : Task → AdaptationRun → Dict → Text → Prop}
  {l l' : Ledger} {w : World}

/-- What the gate of an operator task reads is as it was. -/
structure SameGate (before after : Ledger) : Prop where
  spec : after.spec = before.spec
  run : ∀ runId r', after.run runId = some r' → ∃ r, before.run runId = some r ∧
    environmentGated r' = environmentGated r ∧ r'.status = r.status ∧ r'.fingerprint = r.fingerprint

theorem SameGate.refl : SameGate l l := ⟨rfl, fun _ r here => ⟨r, here, rfl, rfl, rfl⟩⟩

theorem SameGate.trans {l₀ : Ledger} (first : SameGate l₀ l) (second : SameGate l l') :
    SameGate l₀ l' := by
  refine ⟨second.spec.trans first.spec, fun runId r'' here => ?_⟩
  obtain ⟨r', here', gated', status', proof'⟩ := second.run runId r'' here
  obtain ⟨r, here, gated, status, proof⟩ := first.run runId r' here'
  exact ⟨r, here, gated'.trans gated, status'.trans status, proof'.trans proof⟩

theorem environmentGated_set (r : AdaptationRun) (root : Json) :
    environmentGated { r with metadata := r.metadata.set "artifact_root" root } =
      environmentGated r := by
  have mode := evidenceMode_set r root
    (by simp : Text.ofString "artifact_root" ≠ Text.ofString "evidence_mode")
  have flag (key : Text) (other : key ≠ Text.ofString "artifact_root") :
      AdaptationRun.flag { r with metadata := r.metadata.set "artifact_root" root } key =
        r.flag key := by
    unfold AdaptationRun.flag Dict.getD
    rw [Dict.get?_set_other _ _ other]
  unfold environmentGated
  rw [flag _ (by simp), flag _ (by simp)]
  exact congrArg (fun m : Json => !m.eq _ || _ || _) mode

/-- The moves of `claim_ready` change nothing that the gate reads. -/
theorem Move.same_gate (moved : Move host approves l a l') (quiet : a.releases ∨ a.claims) :
    SameGate l l' := by
  cases moved with
  | wait | release | claim => exact ⟨rfl, fun _ r here => ⟨r, here, rfl, rfl, rfl⟩⟩
  | furnish r root stored =>
    refine ⟨rfl, fun runId r' here => ?_⟩
    simp only [Ledger.putRun, Function.update_apply] at here
    split at here
    · next same =>
      obtain rfl := Option.some.inj here
      exact ⟨r, same ▸ stored, environmentGated_set r root, rfl, rfl⟩
    · exact ⟨r', here, rfl, rfl, rfl⟩
  | _ => exact (quiet.elim id id).elim

theorem Ready.before {row : TaskRow} (same : SameGate l l') (ready : Ready l' row) : Ready l row := by
  obtain ⟨r', here', gate⟩ := ready
  obtain ⟨r, here, gated, status, proof⟩ := same.run _ r' here'
  refine ⟨r, here, fun required => ?_⟩
  obtain ⟨waiting, spec, fingerprint, known, bound, truthy, agree⟩ := gate (gated.trans required)
  exact ⟨status ▸ waiting, spec, fingerprint, same.spec ▸ known, proof ▸ bound, truthy, agree⟩

/-- What the moves of one `claim_ready` leave alone, for the row `r`. -/
structure Gated (start : Ledger) (r : TaskRow) (l : Ledger) : Prop where
  sound : Sound l
  gate : SameGate start l
  row : ∃ q, l.row r.taskId = some q ∧ SameKey r q

theorem Gated.step (gated : Gated start r l) (moved : Move host approves l a l')
    (quiet : a.releases ∨ a.claims) : Gated start r l' := by
  obtain ⟨notes, rows⟩ := moved.rows gated.sound
  obtain ⟨q, found, same⟩ := gated.row
  obtain ⟨q', found', change⟩ := rows.old _ q found
  have kept := change.sameKey
  exact ⟨moved.keeps gated.sound, gated.gate.trans (moved.same_gate quiet), q', found',
    kept.taskId.trans same.taskId, kept.runId.trans same.runId,
    kept.operatorKey.trans same.operatorKey, kept.stage.trans same.stage⟩

/-- An operator row is claimed in a state that is ready for it. -/
theorem Move.claims_ready (moved : Move host approves l a l') (sound : Sound l)
    (here : l.row t = some r) (after : l'.row t = some r') (claimed : r'.attempt ≠ r.attempt)
    (operator : r.stage ≠ .diagnosis) : Ready l r := by
  obtain ⟨notes, rows⟩ := moved.rows sound
  obtain ⟨q, found, change⟩ := rows.old t r here
  obtain rfl := Option.some.inj (found.symm.trans after)
  rcases change.attempt with kept | ⟨label, _⟩
  · exact absurd kept claimed
  · generalize named : Action.claim r.taskId = b at label
    subst label
    cases moved with
    | claim row _ _ _ stored _ ready =>
      rw [← Action.claim.inj named, sound.named here] at stored
      obtain rfl := Option.some.inj (stored.symm.trans here)
      exact ready operator
    | _ => cases named

/-- A call that claims an operator row found it ready. -/
theorem step_ready (sound : Sound w.ledger) (call : Disk × Call) (here : w.db.row? t = some r)
    (after : (step host w call).db.row? t = some r') (claimed : r'.attempt ≠ r.attempt)
    (operator : r.stage ≠ .diagnosis) : Ready w.ledger r := by
  have named := Store.row?_named here
  obtain ⟨disk, call⟩ := call
  have steps := step_steps host sound (disk, call)
  cases call with
  | claimReady worker stage seconds limit =>
    simp only [step, Call.body, discard_run] at after
    obtain ⟨mid, (released : Steps host disk _ _ _), claiming⟩ :=
      claimReady_phases worker stage seconds limit
    obtain ⟨q, found, same⟩ := released.attempt_kept sound (fun _ => id) here
    obtain ⟨_, path, labels⟩ := released
    have gated := path.preserve (I := fun _ => True) (P := Gated w.ledger r) Action.releases
      (fun _ _ _ _ _ => trivial) (fun _ _ _ moved quiet _ gated => gated.step moved (.inl quiet))
      labels trivial ⟨sound, .refl, r, named ▸ here, rfl, rfl, rfl, rfl⟩
    obtain ⟨_, path, labels⟩ := claiming
    obtain ⟨u, a, v, permitted, moved, gated, before, new⟩ := path.exists_step
      (I := Gated w.ledger r) (P := fun l => ∃ q, l.row t = some q ∧ q.attempt ≠ r.attempt)
      Action.claims (fun _ _ _ moved quiet gated => gated.step moved (.inr quiet)) labels gated
      (by
        rintro ⟨q', found', other⟩
        rw [Option.some.inj (found'.symm.trans found)] at other
        exact other same)
      ⟨r', after, claimed⟩
    obtain ⟨q, found, key⟩ := gated.row
    obtain ⟨q', found', other⟩ := new
    rw [named] at found
    have unclaimed : q.attempt = r.attempt := by
      by_contra different
      exact before ⟨q, found, different⟩
    have ready : Ready u q := moved.claims_ready gated.sound found found' (unclaimed ▸ other)
      (key.stage ▸ operator)
    have ready := ready.before gated.gate
    rwa [Ready, key.runId, key.operatorKey] at ready
  | _ =>
    obtain ⟨q, found, same⟩ := steps.attempt_kept sound (fun _ => id) here
    obtain rfl := Option.some.inj (found.symm.trans after)
    exact absurd same claimed

end Claims

theorem started_iff {w : World} : w.ledger.Started runId ↔ ∃ q ∈ w.db.tasks, q.runId = runId := by
  constructor
  · rintro ⟨t, q, here, run⟩
    exact ⟨q, Store.row?_mem here, run⟩
  · rintro ⟨q, member, run⟩
    exact ⟨q.taskId, q, Store.row?_of_mem member, run⟩

/-- A real run, from its creation on. -/
theorem proved_later (host : Host) {w : World} (sound : Sound w.ledger)
    (proved : ∃ r, w.ledger.run runId = some r ∧ Proved runId w.ledger r)
    (calls : List (Disk × Call)) : ∃ r, (calls.foldl (step host) w).ledger.run runId = some r ∧
      Proved runId (calls.foldl (step host) w).ledger r := by
  refine foldl_keeps host (P := fun l => ∃ r, l.run runId = some r ∧ Proved runId l r) ?_ sound
    proved calls
  rintro _ l a l' moved sound ⟨r, here, proved⟩
  obtain ⟨r', here', proved', _⟩ := moved.keeps_proved sound here proved
  exact ⟨r', here', proved'⟩

/-- With work in it, a run is bound for good. -/
theorem binding_stays (host : Host) {w : World} (sound : Sound w.ledger)
    (here : w.ledger.run runId = some r) (proved : Proved runId w.ledger r)
    (started : w.ledger.Started runId) (calls : List (Disk × Call)) :
    ∃ r', (calls.foldl (step host) w).ledger.run runId = some r' ∧
      r'.fingerprint = r.fingerprint := by
  obtain ⟨r', here', _, _, same⟩ := foldl_keeps host (P := fun l => ∃ r', l.run runId = some r' ∧
    Proved runId l r' ∧ l.Started runId ∧ r'.fingerprint = r.fingerprint) (by
      rintro _ l a l' moved sound ⟨q, found, proved, started, same⟩
      obtain ⟨q', found', proved', kept⟩ := moved.keeps_proved sound found proved
      exact ⟨q', found', proved', moved.keeps_started sound started, (kept started).trans same⟩)
    sound ⟨r, here, proved, started, rfl⟩ calls
  exact ⟨r', here', same⟩

/-- The environment gate. A run that was opened as real stays real; its specifications carry the
fingerprint it is bound to, which is fixed once the run has tasks; and no operator task is claimed,
in a real run or in a simulation that asks for an environment, unless the run is ready and the
specification agrees with the binding. -/
theorem environment_gating (host : Host) :
    (∀ past disk run calls, (history host past).db.run? run.runId = none →
      accepted host (history host past) (disk, .createRun run) = true →
      run.evidenceMode.eq (.str "real") = true →
      ∃ r, (history host (past ++ (disk, .createRun run) :: calls)).db.run? run.runId = some r ∧
        r.evidenceMode.eq (.str "real") = true ∧
        (∀ key spec,
          (history host (past ++ (disk, .createRun run) :: calls)).db.operator? run.runId key =
            some spec →
          ∃ f, BoundTo r f ∧ spec.environment.get? "fingerprint" = some (.str f)) ∧
        ((∃ q ∈ (history host (past ++ (disk, .createRun run) :: calls)).db.tasks,
            q.runId = run.runId) →
          (∃ f, BoundTo r f) ∧ ∀ more, ∃ r',
            (history host (past ++ (disk, .createRun run) :: calls ++ more)).db.run? run.runId =
              some r' ∧ r'.fingerprint = r.fingerprint)) ∧
    (∀ calls call run, run ∈ (history host calls).db.runs →
      (run.evidenceMode.eq (.str "real") = true ∨ run.flag "graph_environment_required" = true) →
      ∀ row ∈ (history host calls).db.tasks, row.runId = run.runId → row.stage ≠ .diagnosis →
      ∀ row' ∈ (step host (history host calls) call).db.tasks, row'.taskId = row.taskId →
        row'.attempt ≠ row.attempt →
        run.status = "ENVIRONMENT_READY" ∧ ∃ spec fingerprint,
          (history host calls).db.operator? row.runId row.operatorKey = some spec ∧
          run.fingerprint = .ok fingerprint ∧ fingerprint.truthy = true ∧
          (Dict.getD spec.environment "fingerprint" .null).eq fingerprint = true) := by
  constructor
  · intro past disk run calls fresh returned real
    have sound : Sound (history host past).ledger := history_sound past
    have opened : ∃ r, (step host (history host past) (disk, .createRun run)).ledger.run run.runId =
        some r ∧ Proved run.runId (step host (history host past) (disk, .createRun run)).ledger r := by
      cases outcome : (createRun host disk run (history host past)).1 with
      | error e => simp [accepted, Call.body, discard_raises outcome] at returned
      | ok r =>
        have proved := (createRun_proved sound fresh real).returned outcome
        simpa only [step, Call.body, discard_run] using proved
    have sound' : Sound (step host (history host past) (disk, .createRun run)).ledger :=
      step_sound sound _
    rw [history_append, List.foldl_cons]
    have later := foldl_sound host sound' calls
    obtain ⟨r, here, proved⟩ := proved_later host sound' opened calls
    refine ⟨r, here, proved.real, proved.specs, fun started => ?_⟩
    have started := started_iff.mpr started
    refine ⟨proved.ready (.inr started), fun more => ?_⟩
    rw [List.append_assoc, history_append, List.cons_append, List.foldl_cons, List.foldl_append]
    exact binding_stays host later here proved started more
  · intro calls call run member required row stored of operator row' stored' named claimed
    have sound : Sound (history host calls).ledger := history_sound calls
    have after := Store.row?_of_mem stored'
    rw [named] at after
    obtain ⟨r, here, gate⟩ := step_ready sound call (Store.row?_of_mem stored) after claimed operator
    rw [of] at here
    obtain rfl : run = r := Option.some.inj ((Store.run?_of_mem member).symm.trans here)
    have gated : environmentGated run = true := by
      rcases required with real | flag
      · exact gated_of_real real
      · simp [environmentGated, flag]
    exact gate gated

/-! A real run, its environment, and an operator that was measured there. -/

def realRun : AdaptationRun :=
  ⟨"run", "model", "1", "1", "xpu", "DISCOVERED", [], [("evidence_mode", .str "real")]⟩

def measuredSpec : OperatorSpec :=
  { OperatorSpec.sample with environment := [("fingerprint", .str ⟨List.replicate 64 48⟩)] }

def measuredCalls : List (Disk × Call) :=
  [(.proven, .bindEnvironment "run" (proofSample "alice" "pod") (.str "/evidence")),
    (.proven, .discoverOperator "run" measuredSpec)]

def measuredClaim : Disk × Call :=
  ({ Disk.proven with allocateAttempt := fun _ _ _ => .ok (.ofText "/state/runs/run/tasks/attempt") },
    .claimReady "torch-worker" none (.fin 300) 1)

/-- Once its operator is discovered, the run is bound, and what a claim takes was measured there. -/
theorem environment_gating_claimed :
    (∃ r fingerprint, (history .proven ([] ++ (.proven, .createRun realRun) :: measuredCalls)).db.run? "run" = some r ∧
      BoundTo r fingerprint) ∧
    ∃ run ∈ (history .proven ([] ++ (.proven, .createRun realRun) :: measuredCalls)).db.runs,
      ∃ row ∈ (history .proven ([] ++ (.proven, .createRun realRun) :: measuredCalls)).db.tasks,
        (∃ row' ∈ (step .proven (history .proven ([] ++ (.proven, .createRun realRun) :: measuredCalls))
            measuredClaim).db.tasks, row'.taskId = row.taskId ∧ row'.attempt ≠ row.attempt) ∧
        run.status = "ENVIRONMENT_READY" ∧ ∃ spec fingerprint,
          (history .proven ([] ++ (.proven, .createRun realRun) :: measuredCalls)).db.operator? row.runId
            row.operatorKey = some spec ∧ run.fingerprint = .ok fingerprint ∧ fingerprint.truthy = true ∧
          (Dict.getD spec.environment "fingerprint" .null).eq fingerprint = true := by
  have created : accepted .proven (history .proven []) (.proven, .createRun realRun) = true := by decide +kernel
  obtain ⟨r, here, _, _, started⟩ := (environment_gating .proven).1 [] .proven realRun measuredCalls rfl created rfl
  have gated := (environment_gating .proven).2 ([] ++ (.proven, .createRun realRun) :: measuredCalls) measuredClaim
  have claimed : ((history .proven ([] ++ (.proven, .createRun realRun) :: measuredCalls)).db.runs.any fun run =>
      run.evidenceMode.eq (.str "real") &&
      (history .proven ([] ++ (.proven, .createRun realRun) :: measuredCalls)).db.tasks.any fun row =>
        decide (row.runId = run.runId ∧ row.runId = realRun.runId ∧ row.stage ≠ .diagnosis) &&
        (step .proven (history .proven ([] ++ (.proven, .createRun realRun) :: measuredCalls))
          measuredClaim).db.tasks.any fun row' =>
            decide (row'.taskId = row.taskId ∧ row'.attempt ≠ row.attempt)) = true := by
    decide +kernel
  generalize step .proven (history .proven ([] ++ (.proven, .createRun realRun) :: measuredCalls))
    measuredClaim = after at *
  generalize history .proven ([] ++ (.proven, .createRun realRun) :: measuredCalls) = world at *
  obtain ⟨run, stored, found⟩ := List.any_eq_true.mp claimed
  obtain ⟨real, found⟩ := Bool.and_eq_true_iff.mp found
  obtain ⟨row, queued, found⟩ := List.any_eq_true.mp found
  obtain ⟨owned, found⟩ := Bool.and_eq_true_iff.mp found
  obtain ⟨owned, ours, operator⟩ := of_decide_eq_true owned
  obtain ⟨row', later, found⟩ := List.any_eq_true.mp found
  obtain ⟨same, moved⟩ := of_decide_eq_true found
  obtain ⟨⟨fingerprint, bound⟩, _⟩ := started ⟨row, queued, ours⟩
  exact ⟨⟨r, fingerprint, here, bound⟩, run, stored, row, queued, ⟨row', later, same, moved⟩,
    gated run stored (.inl real) row queued owned operator row' later same moved⟩

end InferForge

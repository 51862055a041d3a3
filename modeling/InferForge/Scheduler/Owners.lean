import InferForge.Scheduler.Gating

/-! The owner of a run's environment handoffs: named once, it is in every handoff that is
recorded afterwards. -/
namespace InferForge
open Py Effect Sched Transition

/-- The handoffs of a run. -/
def handoffKeys : List Text := ["environment_proof", "failed_environment_proof"]

/-- A handoff names this owner. -/
def Records (environment : Dict) (owner : Text) : Prop :=
  owner.isEmpty = false ∧ ∃ key ∈ handoffKeys, ∃ h, environment.get? key = some (.obj h) ∧
    Dict.get? h "user_id" = some (.str owner)

/-- Owners are written as `resolve_user_id` returns them. -/
def Canonical (environment : Dict) : Prop :=
  ∀ key ∈ handoffKeys, ∀ h, environment.get? key = some (.obj h) →
    (Dict.getD h "user_id" .null).truthy = true → ∀ u,
    resolveUserId (Dict.getD h "user_id" .null) = .ok u → Dict.getD h "user_id" .null = .str u

section Identity
variable {environment : Dict}

theorem handoffOwner_spec (ok : handoffOwner environment key = .ok (some u)) :
    ∃ h, environment.get? key = some (.obj h) ∧ (Dict.getD h "user_id" .null).truthy = true ∧
      resolveUserId (Dict.getD h "user_id" .null) = .ok u := by
  unfold handoffOwner at ok
  split at ok
  · next h found =>
    dsimp only at ok
    split at ok
    · next named =>
      cases resolved : resolveUserId (Dict.getD h "user_id" .null) with
      | error e => simp [resolved, Except.map] at ok
      | ok v =>
        simp only [resolved, Except.map, Except.ok.injEq, Option.some.injEq] at ok
        exact ⟨h, found, named, by rw [ok] at resolved; exact resolved⟩
    · cases ok
  · cases ok

theorem handoffOwner_nonempty (canonical : Canonical environment) (member : key ∈ handoffKeys)
    (ok : handoffOwner environment key = .ok (some u)) : u.isEmpty = false := by
  obtain ⟨h, found, named, resolved⟩ := handoffOwner_spec ok
  rw [canonical key member h found named u resolved] at named
  simpa [Json.truthy] using named

theorem handoffOwner_recorded (canonical : Canonical environment) (member : key ∈ handoffKeys)
    (found : environment.get? key = some (.obj h)) (owner : Dict.get? h "user_id" = some (.str u))
    (nonempty : u.isEmpty = false) (ok : handoffOwner environment key = .ok owner?) :
    owner? = some u := by
  have given : Dict.getD h "user_id" .null = .str u := by rw [Dict.getD, owner, Option.getD_some]
  have named : (Dict.getD h "user_id" .null).truthy = true := by simp [given, Json.truthy, nonempty]
  simp only [handoffOwner, found, named, if_true] at ok
  cases resolved : resolveUserId (Dict.getD h "user_id" .null) with
  | error e => simp [resolved, Except.map] at ok
  | ok v =>
    simp only [resolved, Except.map, Except.ok.injEq] at ok
    have same := canonical key member h found named v resolved
    rw [given] at same
    rw [← ok, Json.str.inj same]

/-- The two handoffs agree, and so does what is supplied. -/
structure Agreed (environment : Dict) (supplied : Json) (owner? : Option Text) : Prop where
  some : ∃ bound failed requested, handoffOwner environment "environment_proof" = .ok bound ∧
    handoffOwner environment "failed_environment_proof" = .ok failed ∧
    (bound.isSome = true → failed.isSome = true → bound = failed) ∧
    (if supplied.isNull then requested = none else ∃ u, resolveUserId supplied = .ok u ∧
      requested = some u) ∧
    ((bound <|> failed).any (fun o => !o.isEmpty) = true → requested.isSome = true →
      requested = (bound <|> failed)) ∧
    owner? = ((bound <|> failed) <|> requested)

theorem environmentUserId_spec (ok : environmentUserId environment supplied = .ok owner?) :
    Agreed environment supplied owner? := by
  simp only [environmentUserId, bind_ok] at ok
  obtain ⟨bound, first, failed, second, ok⟩ := ok
  by_cases clash : (bound.isSome && failed.isSome && bound != failed) = true
  · rw [if_pos clash] at ok
    cases ok
  · rw [if_neg clash] at ok
    have agree : bound.isSome = true → failed.isSome = true → bound = failed := by
      intro one two
      simpa [one, two] using clash
    by_cases null : supplied.isNull = true
    · rw [if_pos null] at ok
      obtain ⟨requested, third, ok⟩ := bind_ok.mp ok
      obtain rfl := pure_ok.mp third
      refine ⟨bound, failed, none, first, second, agree, ?_, by rintro _ ⟨⟩, ?_⟩
      · rw [if_pos null]
      · rw [if_neg (by simp)] at ok
        exact (pure_ok.mp ok).symm
    · rw [if_neg null] at ok
      obtain ⟨requested, third, ok⟩ := bind_ok.mp ok
      cases resolved : resolveUserId supplied with
      | error e => simp [resolved, Except.map] at third
      | ok u =>
        simp only [resolved, Except.map, Except.ok.injEq] at third
        subst third
        by_cases other : (((bound <|> failed).any fun o => !o.isEmpty) && (some u).isSome &&
            some u != (bound <|> failed)) = true
        · rw [if_pos other] at ok
          cases ok
        · rw [if_neg other] at ok
          refine ⟨bound, failed, some u, first, second, agree, ?_, ?_, (pure_ok.mp ok).symm⟩
          · rw [if_neg null]
            exact ⟨u, resolved, rfl⟩
          · intro owned _
            by_contra different
            apply other
            rw [owned]
            simpa using different

/-- Once an owner is recorded, it is the owner, and nobody else may be supplied. -/
theorem environmentUserId_recorded (canonical : Canonical environment)
    (records : Records environment u) (ok : environmentUserId environment supplied = .ok owner?) :
    owner? = some u ∧ (supplied.isNull = false → resolveUserId supplied = .ok u) := by
  obtain ⟨bound, failed, requested, first, second, agree, asked, settled, rfl⟩ :=
    (environmentUserId_spec ok).some
  obtain ⟨nonempty, key, member, h, found, owner⟩ := records
  have recorded : (bound <|> failed) = some u := by
    simp only [handoffKeys, List.mem_cons, List.not_mem_nil, or_false] at member
    rcases member with rfl | rfl
    · rw [handoffOwner_recorded canonical (by simp [handoffKeys]) found owner nonempty first]
      rfl
    · have same := handoffOwner_recorded canonical (by simp [handoffKeys]) found owner nonempty second
      cases bound with
      | none => exact same
      | some b => rw [agree rfl (by simp [same]), same]; rfl
  rw [recorded] at settled ⊢
  refine ⟨rfl, fun given => ?_⟩
  simp only [given, Bool.false_eq_true, if_false] at asked
  obtain ⟨v, resolved, rfl⟩ := asked
  rw [resolved, Option.some.inj (settled (by simp [nonempty]) rfl)]

/-- An owner is written as `resolve_user_id` returns it. -/
theorem environmentUserId_resolved (ok : environmentUserId environment supplied = .ok (some u)) :
    resolveUserId (.str u) = .ok u := by
  obtain ⟨bound, failed, requested, first, second, _, asked, _, same⟩ :=
    (environmentUserId_spec ok).some
  have handed {key : Text} (ok : handoffOwner environment key = .ok (some u)) :
      resolveUserId (.str u) = .ok u := by
    obtain ⟨_, _, _, resolved⟩ := handoffOwner_spec ok
    exact resolveUserId_idem resolved
  cases bound with
  | some b =>
    obtain rfl : u = b := Option.some.inj same
    exact handed first
  | none =>
    cases failed with
    | some f =>
      obtain rfl : u = f := Option.some.inj same
      exact handed second
    | none =>
      split at asked
      · rw [asked] at same
        cases same
      · obtain ⟨v, resolved, rfl⟩ := asked
        obtain rfl : u = v := Option.some.inj same
        exact resolveUserId_idem resolved

/-- A supplied owner that is not blank leaves a handoff with an owner. -/
theorem environmentUserId_supplied (canonical : Canonical environment) (visible : name.blank = false)
    (ok : environmentUserId environment (.str name) = .ok owner?) :
    ∃ u, owner? = some u ∧ u.isEmpty = false := by
  obtain ⟨bound, failed, requested, first, second, _, asked, _, rfl⟩ :=
    (environmentUserId_spec ok).some
  cases bound with
  | some b => exact ⟨b, rfl, handoffOwner_nonempty canonical (by simp [handoffKeys]) first⟩
  | none =>
    cases failed with
    | some f => exact ⟨f, rfl, handoffOwner_nonempty canonical (by simp [handoffKeys]) second⟩
    | none =>
      simp only [Json.isNull, Bool.false_eq_true, if_false] at asked
      obtain ⟨u, resolved, rfl⟩ := asked
      refine ⟨u, rfl, ?_⟩
      simp only [resolveUserId] at resolved
      split at resolved
      · rw [← Except.ok.inj resolved]
        exact visible
      · cases resolved

end Identity

/-- The handoff a call records: run, key and the proof it comes from. -/
def Call.handoff : Call → Option (Text × Text × Dict)
  | .bindEnvironment runId proof _ => some (runId, "environment_proof", proof)
  | .recordEnvironmentFailure runId proof _ => some (runId, "failed_environment_proof", proof)
  | _ => none

/-- What recording a handoff does to a run. -/
structure Handed (r r' : AdaptationRun) (key : Text) (proof : Dict) (h : Dict)
    (owner? : Option Text) : Prop where
  owner : environmentUserId r.environment (Dict.getD proof "user_id" .null) = .ok owner?
  environment : r'.environment = r.environment.set key (.obj h)
  named : h.get? "user_id" = some (Handoff.ownerJson owner?)
  pod : (Dict.getD h "pod" .null).truthy = true →
    owner?.any (fun o => !o.isEmpty) = true ∨
      ∃ name, Dict.getD proof "user_id" .null = .str name ∧ name.blank = false

section Calls
variable {host : Host} {disk : Disk} {w : World}

theorem checkProof_owner {run : AdaptationRun} {proof : Dict} {root : Json} {handoff : Handoff}
    (ok : checkProof host disk run proof root = .ok handoff) :
    ∃ name, Dict.getD proof "user_id" .null = .str name ∧ name.blank = false ∧
      environmentUserId run.environment (.str name) = .ok handoff.owner := by
  simp only [checkProof, bind_ok, pure_ok] at ok
  obtain ⟨_, -, ⟨checks, owner⟩, checked, _, -, ⟨path, hashes⟩, -, _, -, rfl⟩ := ok
  simp only [proofChecks, bind_ok, pure_ok, Prod.mk.injEq] at checked
  obtain ⟨_, -, _, -, owner', owned, _, -, _, -, _, -, _, -, rfl, rfl⟩ := checked
  unfold proofOwner at owned
  split at owned
  · next name given =>
    split at owned
    · cases owned
    · next visible => exact ⟨name, given, by simpa using visible, owned⟩
  · cases owned

theorem bindEnvironment_hands (runId : Text) (proof : Dict) (root : Json) :
    Prog.wlp (bindEnvironment host disk runId proof root) (fun _ v => ∃ r r' h owner?,
      w.db.run? runId = some r ∧ v.db.run? runId = some r' ∧
      Handed r r' "environment_proof" proof h owner?) w := by
  rw [Prog.wlp, bindEnvironment, atomic, Prog.wp_transact]
  simp only [Prog.wp_bind]
  refine wlp_requireRun fun run here => ?_
  refine wlp_lift fun handoff ok => ?_
  refine wlp_lift fun previous bound => ?_
  rw [wp_query]
  refine wlp_require fun _ => ?_
  simp only [wp_execute, wp_emit, Prog.wp_pure]
  obtain ⟨name, given, visible, owned⟩ := checkProof_owner ok
  have named := Store.run?_named here
  refine ⟨run, { run with
    environment := run.environment.set "environment_proof" handoff.record
    status := "ENVIRONMENT_READY" }, _, handoff.owner, here, ?_, ⟨given ▸ owned, rfl, by simp, fun _ => ?_⟩⟩
  · change (w.db.updateRun _).run? runId = _
    rw [Store.run?_updateRun (by exact named ▸ here : Store.run? _ _ = some run)]
    exact named ▸ Function.update_self _ _ _
  · exact .inr ⟨name, given, visible⟩

theorem failedHandoff_spec (ok : failedHandoff run proof error = .ok record) : ∃ owner? h,
    environmentUserId run.environment (Dict.getD proof "user_id" .null) = .ok owner? ∧
    record = .obj h ∧ Dict.get? h "user_id" = some (Handoff.ownerJson owner?) ∧
    ((Dict.getD h "pod" .null).truthy = true → owner?.any (fun o => !o.isEmpty) = true) := by
  simp only [failedHandoff, bind_ok] at ok
  obtain ⟨owner, owned, ok⟩ := ok
  split at ok
  all_goals
    obtain ⟨pod, _, ok⟩ := bind_ok.mp ok
    obtain ⟨held, rfl⟩ := guarded_ok.mp ok
    refine ⟨owner, _, owned, rfl, by simp, fun truthy => ?_⟩
    have same : pod.truthy = true := by simpa [Dict.getD] using truthy
    simpa [same] using held

theorem recordEnvironmentFailure_hands (runId : Text) (proof : Dict) (error : Text) :
    Prog.wlp (recordEnvironmentFailure host runId proof error) (fun _ v => ∃ r r' h owner?,
      w.db.run? runId = some r ∧ v.db.run? runId = some r' ∧
      Handed r r' "failed_environment_proof" proof h owner?) w := by
  rw [Prog.wlp, recordEnvironmentFailure, atomic, Prog.wp_transact]
  simp only [Prog.wp_bind]
  refine wlp_requireRun fun run here => ?_
  refine wlp_lift fun record ok => ?_
  simp only [wp_execute, wp_emit, Prog.wp_pure]
  obtain ⟨owner, h, owned, rfl, recorded, held⟩ := failedHandoff_spec ok
  have named := Store.run?_named here
  refine ⟨run, { run with
    environment := run.environment.set "failed_environment_proof" (.obj h)
    status := "ENVIRONMENT_FAILED" }, h, owner, here, ?_, ⟨owned, rfl, recorded, fun truthy => .inl (held truthy)⟩⟩
  change (w.db.updateRun _).run? runId = _
  rw [Store.run?_updateRun (by exact named ▸ here : Store.run? _ _ = some run)]
  exact named ▸ Function.update_self _ _ _

/-- What an accepted handoff call does to its run. -/
theorem accepted_hands {call : Disk × Call} (hands : call.2.handoff = some (runId, key, proof))
    (returned : accepted host w call = true) : ∃ r r' h owner?, w.db.run? runId = some r ∧
      (step host w call).db.run? runId = some r' ∧ Handed r r' key proof h owner? := by
  obtain ⟨disk, call⟩ := call
  have handed {x : Sched AdaptationRun} (body : call.body host disk = discard x)
      (spec : Prog.wlp x (fun _ v => ∃ r r' h owner?, w.db.run? runId = some r ∧
        v.db.run? runId = some r' ∧ Handed r r' key proof h owner?) w) :
      ∃ r r' h owner?, w.db.run? runId = some r ∧
        (step host w (disk, call)).db.run? runId = some r' ∧ Handed r r' key proof h owner? := by
    cases outcome : (x w).1 with
    | error e => simp [accepted, body, discard_raises outcome] at returned
    | ok a =>
      have done := spec.returned outcome
      simpa only [step, body, discard_run] using done
  cases call <;> simp only [Call.handoff, Option.some.injEq, Prod.mk.injEq, reduceCtorEq] at hands
  case bindEnvironment runId' proof' root =>
    obtain ⟨rfl, rfl, rfl⟩ := hands
    exact handed rfl (bindEnvironment_hands _ _ _)
  case recordEnvironmentFailure runId' proof' error =>
    obtain ⟨rfl, rfl, rfl⟩ := hands
    exact handed rfl (recordEnvironmentFailure_hands _ _ _)

end Calls

section Moves
variable {host : Host} {approves : Task → AdaptationRun → Dict → Text → Prop} {l l' : Ledger}

/-- Moves other than those of a handoff or a transition leave the environment alone. -/
theorem Move.keeps_environment (moved : Move host approves l a l') (bound : a ≠ .bind runId)
    (adjusted : a ≠ .adjust runId) (here : ∃ r, l.run runId = some r ∧ r.environment = e) :
    ∃ r, l'.run runId = some r ∧ r.environment = e := by
  obtain ⟨r, here, same⟩ := here
  have other {q q' : AdaptationRun} (different : runId ≠ q.runId) :
      ∃ r, Function.update l.run q.runId (some q') runId = some r ∧ r.environment = e :=
    ⟨r, (Function.update_of_ne different _ _).trans here, same⟩
  cases moved with
  | openRun q fresh =>
    apply other
    rintro rfl
    rw [fresh] at here
    cases here
  | furnish q root stored =>
    by_cases this : runId = q.runId
    · subst this
      obtain rfl := Option.some.inj (stored.symm.trans here)
      exact ⟨_, Function.update_self _ _ _, same⟩
    · exact other this
  | bind q =>
    apply other
    rintro rfl
    exact bound rfl
  | adjust q q' _ named =>
    have different : runId ≠ q'.runId := by
      rintro rfl
      exact adjusted (by rw [named])
    exact ⟨r, (Function.update_of_ne different _ _).trans here, same⟩
  | _ => exact ⟨r, here, same⟩

end Moves

section Histories
variable {host : Host} {w : World}

theorem recordGraphTransition_environment (runId key : Text) (payload : Dict) {id : Text}
    (here : w.db.run? id = some r) :
    Prog.wlp (recordGraphTransition host runId key payload)
      (fun _ v => ∃ r', v.db.run? id = some r' ∧ r'.environment = r.environment) w := by
  rw [Prog.wlp, recordGraphTransition, atomic, Prog.wp_transact]
  cases GraphKey.ofText? key with
  | none => trivial
  | some graphKey =>
    dsimp only
    rw [Prog.wp_bind]
    refine wlp_requireRun fun run found => ?_
    rw [Prog.wp_ite]
    refine ⟨fun _ => ⟨r, here, rfl⟩, fun _ => ?_⟩
    simp only [Prog.wp_bind, wp_execute, wp_emit, Prog.wp_pure]
    have named := Store.run?_named found
    change ∃ r', (w.db.updateRun _).run? id = some r' ∧ _
    rw [Store.run?_updateRun (by exact named ▸ found : Store.run? _ _ = some run)]
    by_cases this : id = run.runId
    · subst this
      rw [named, found] at here
      obtain rfl := Option.some.inj here
      exact ⟨_, Function.update_self _ _ _, rfl⟩
    · exact ⟨r, (Function.update_of_ne this _ _).trans here, rfl⟩

/-- A call that records no handoff of a run leaves its environment alone. -/
theorem step_environment (sound : Sound w.ledger) (call : Disk × Call)
    (other : ∀ key proof, call.2.handoff ≠ some (runId, key, proof))
    (here : w.db.run? runId = some r) :
    ∃ r', (step host w call).db.run? runId = some r' ∧ r'.environment = r.environment := by
  by_cases quiet : ¬ call.2.permits (.bind runId) ∧ ¬ call.2.permits (.adjust runId)
  · obtain ⟨_, path, labels⟩ := step_steps host sound call
    refine path.preserve (I := fun _ => True)
      (P := fun l => ∃ r', l.run runId = some r' ∧ r'.environment = r.environment) call.2.permits
      (fun _ _ _ _ _ => trivial) ?_ labels trivial ⟨r, here, rfl⟩
    intro _ a _ moved permitted _ kept
    apply moved.keeps_environment _ _ kept
    · rintro rfl
      exact quiet.1 permitted
    · rintro rfl
      exact quiet.2 permitted
  · obtain ⟨disk, call⟩ := call
    cases call with
    | recordGraphTransition runId' key payload =>
      cases outcome : (recordGraphTransition host runId' key payload w).1 with
      | error e =>
        have rejected : accepted host w (disk, .recordGraphTransition runId' key payload) = false := by
          simp [accepted, Call.body, discard_raises outcome]
        rw [rejected_unchanged _ rejected]
        exact ⟨r, here, rfl⟩
      | ok a =>
        have kept := (recordGraphTransition_environment runId' key payload here).returned outcome
        simpa only [step, Call.body, discard_run] using kept
    | bindEnvironment runId' proof root =>
      have different : runId' ≠ runId := by
        rintro rfl
        exact other _ _ rfl
      exact absurd ⟨fun same => different same.symm, id⟩ quiet
    | recordEnvironmentFailure runId' proof error =>
      have different : runId' ≠ runId := by
        rintro rfl
        exact other _ _ rfl
      exact absurd ⟨id, fun same => different same.symm⟩ quiet
    | _ => exact absurd ⟨id, id⟩ quiet

theorem Handed.canonical (handed : Handed r r' key proof h owner?) (canonical : Canonical r.environment) :
    Canonical r'.environment := by
  intro key' member h' found named u resolved
  rw [handed.environment, Dict.get?_set] at found
  split at found
  · obtain rfl := Json.obj.inj (Option.some.inj found)
    have given : Dict.getD h "user_id" .null = Handoff.ownerJson owner? := by
      rw [Dict.getD, handed.named, Option.getD_some]
    rw [given] at resolved ⊢
    cases owner? with
    | none => cases resolved
    | some owner =>
      have own : resolveUserId (.str owner) = .ok owner := environmentUserId_resolved handed.owner
      exact congrArg Json.str (Except.ok.inj (own.symm.trans resolved))
  · exact canonical key' member h' found named u resolved

/-- A recorded owner stays recorded, in the handoff that is written. -/
theorem Handed.records (handed : Handed r r' key proof h owner?) (canonical : Canonical r.environment)
    (records : Records r.environment u) : Dict.get? h "user_id" = some (.str u) := by
  obtain ⟨rfl, _⟩ := environmentUserId_recorded canonical records handed.owner
  exact handed.named

theorem handoff_key {call : Call} (hands : call.handoff = some (runId, key, proof)) :
    key ∈ handoffKeys := by
  cases call <;> simp only [Call.handoff, Option.some.injEq, Prod.mk.injEq, reduceCtorEq] at hands <;>
    simp [handoffKeys, ← hands.2.1]

/-- What every call keeps of a run's owners. -/
theorem step_owners (host : Host) (sound : Sound w.ledger) (call : Disk × Call) (here : w.db.run? runId = some r)
    (canonical : Canonical r.environment) : ∃ r', (step host w call).db.run? runId = some r' ∧
      Canonical r'.environment ∧
      ∀ owner, Records r.environment owner → Records r'.environment owner := by
  by_cases other : ∀ key proof, call.2.handoff ≠ some (runId, key, proof)
  · obtain ⟨r', here', same⟩ := step_environment sound call other here
    exact ⟨r', here', by rwa [same], fun owner records => by rwa [same]⟩
  · push Not at other
    obtain ⟨key, proof, hands⟩ := other
    cases returned : accepted host w call with
    | false =>
      rw [rejected_unchanged call returned]
      exact ⟨r, here, canonical, fun _ records => records⟩
    | true =>
      obtain ⟨q, r', h, owner?, found, here', handed⟩ := accepted_hands hands returned
      obtain rfl := Option.some.inj (found.symm.trans here)
      refine ⟨r', here', handed.canonical canonical, fun owner records => ?_⟩
      refine ⟨records.1, key, handoff_key hands, h, ?_, handed.records canonical records⟩
      rw [handed.environment, Dict.get?_set_same]

theorem owners_later (host : Host) {w : World} (sound : Sound w.ledger)
    (here : w.db.run? runId = some r) (canonical : Canonical r.environment)
    (calls : List (Disk × Call)) : ∃ r', (calls.foldl (step host) w).db.run? runId = some r' ∧
      Canonical r'.environment ∧
      ∀ owner, Records r.environment owner → Records r'.environment owner := by
  induction calls generalizing w r with
  | nil => exact ⟨r, here, canonical, fun _ records => records⟩
  | cons call rest ih =>
    obtain ⟨r', here', canonical', kept⟩ := step_owners host sound call here canonical
    obtain ⟨r'', here'', canonical'', kept'⟩ := ih (step_sound sound call) here' canonical'
    exact ⟨r'', here'', canonical'', fun owner records => kept' owner (kept owner records)⟩

end Histories

/-- A handoff that records a Pod and no owner. -/
def podWithoutOwner (environment : Dict) (key : Text) : Bool :=
  match environment.get? key with
  | some (.obj h) => (Dict.getD h "pod" .null).truthy && !(Dict.getD h "user_id" .null).truthy
  | _ => false

/-- The owner of a run, from any state in which its handoffs name their owners without
surrounding white space. A recorded owner stays recorded; every handoff that is accepted later
repeats it, and names an owner if it has a Pod; and a call that supplies another one raises
and changes no table. -/
theorem owner_immutable (host : Host) (calls : List (Disk × Call)) (runId : Text) (r : AdaptationRun)
    (here : (history host calls).db.run? runId = some r) (canonical : Canonical r.environment)
    (more : List (Disk × Call)) :
    ∃ r', (history host (calls ++ more)).db.run? runId = some r' ∧
      (∀ owner, Records r.environment owner → Records r'.environment owner) ∧
      ∀ call key proof, call.2.handoff = some (runId, key, proof) →
        (accepted host (history host (calls ++ more)) call = true → ∃ r'' h,
          (step host (history host (calls ++ more)) call).db.run? runId = some r'' ∧
          r''.environment.get? key = some (.obj h) ∧ podWithoutOwner r''.environment key = false ∧
          ∀ owner, Records r'.environment owner → Dict.get? h "user_id" = some (.str owner)) ∧
        (∀ owner, Records r'.environment owner →
          (Dict.getD proof "user_id" .null).isNull = false →
          resolveUserId (Dict.getD proof "user_id" .null) ≠ .ok owner →
          accepted host (history host (calls ++ more)) call = false ∧
            (step host (history host (calls ++ more)) call).db =
              (history host (calls ++ more)).db) := by
  have sound : Sound (history host calls).ledger := history_sound calls
  rw [history_append]
  obtain ⟨r', here', canonical', kept⟩ := owners_later host sound here canonical more
  generalize more.foldl (step host) (history host calls) = w at here'
  refine ⟨r', here', kept, fun call key proof hands => ⟨fun returned => ?_, fun owner records given other => ?_⟩⟩
  · obtain ⟨q, r'', h, owner?, found, here'', handed⟩ := accepted_hands hands returned
    obtain rfl := Option.some.inj (found.symm.trans here')
    have written : r''.environment.get? key = some (.obj h) := by
      rw [handed.environment, Dict.get?_set_same]
    refine ⟨r'', h, here'', written, ?_, fun owner records => handed.records canonical' records⟩
    have owned (pod : (Dict.getD h "pod" .null).truthy = true) :
        (Dict.getD h "user_id" .null).truthy = true := by
      have named : ∃ u, owner? = some u ∧ u.isEmpty = false := by
        rcases handed.pod pod with some | ⟨name, supplied, visible⟩
        · cases owner? with
          | none => cases some
          | some u => exact ⟨u, rfl, by simpa using some⟩
        · have owner := handed.owner
          rw [supplied] at owner
          exact environmentUserId_supplied canonical' visible owner
      obtain ⟨u, rfl, nonempty⟩ := named
      rw [Dict.getD, handed.named]
      simp [Handoff.ownerJson, Json.truthy, nonempty]
    simp only [podWithoutOwner, written]
    cases pod : (Dict.getD h "pod" .null).truthy with
    | false => rfl
    | true => rw [owned pod]; rfl
  · have rejected : accepted host w call = false := by
      by_contra returned
      obtain ⟨q, r'', h, owner?, found, here'', handed⟩ :=
        accepted_hands hands (by simpa using returned)
      obtain rfl := Option.some.inj (found.symm.trans here')
      exact other ((environmentUserId_recorded canonical' records handed.owner).2 given)
    exact ⟨rejected, rejected_unchanged call rejected⟩

/-- A run opened with one handoff that names `owner`. -/
def ownedRun (owner : Text) : AdaptationRun :=
  ⟨"run", "model", "1", "1", "xpu", "DISCOVERED",
    [("environment_proof", .obj [("user_id", .str owner)])], [("evidence_mode", .str "simulation")]⟩

theorem owner_immutable_sample : ∃ r',
    (history .proven ([(.proven, .createRun (ownedRun "alice"))] ++
      [(.proven, .bindEnvironment "run" (proofSample "alice" "pod") .null)])).db.run? "run" =
        some r' ∧ Records r'.environment "alice" := by
  have here : (history .proven [(.proven, .createRun (ownedRun "alice"))]).db.run? "run" =
      some (ownedRun "alice") := rfl
  have canonical : Canonical (ownedRun "alice").environment := by
    intro key member h found named u resolved
    simp only [handoffKeys, List.mem_cons, List.not_mem_nil, or_false] at member
    rcases member with rfl | rfl
    · obtain rfl : h = [(Text.ofString "user_id", Json.str "alice")] :=
        Json.obj.inj (Option.some.inj found).symm
      have own : resolveUserId (.str "alice") = .ok "alice" := by rfl
      exact congrArg Json.str (Except.ok.inj (own.symm.trans resolved))
    · cases found
  have records : Records (ownedRun "alice").environment "alice" :=
    ⟨rfl, _, List.mem_cons_self, _, rfl, rfl⟩
  obtain ⟨r', here', kept, _⟩ := owner_immutable .proven _ _ _ here canonical
    [(.proven, .bindEnvironment "run" (proofSample "alice" "pod") .null)]
  exact ⟨r', here', kept _ records⟩

/-- A handoff whose owner is blank: a later proof with a Pod is recorded without its owner. -/
theorem blank_owner_unowned :
    accepted .proven (history .proven [(.proven, .createRun (ownedRun " "))])
        (.proven, .bindEnvironment "run" (proofSample "alice" "pod") .null) = true ∧
      ((history .proven [(.proven, .createRun (ownedRun " ")),
        (.proven, .bindEnvironment "run" (proofSample "alice" "pod") .null)]).db.run? "run").any
          (fun r => podWithoutOwner r.environment "environment_proof") = true := by
  decide +kernel

end InferForge

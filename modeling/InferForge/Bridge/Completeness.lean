import InferForge.Bridge.Dispatch
import InferForge.Scheduler.Discovered

/-! No operator is lost in a dispatch that is not blocked: every gap is resolved by a stored
operator or excused, and every entry of the operator report became a torch task. -/
namespace InferForge
open Py Effect Sched ResultValidation

namespace Bridge

/-- The list of reported elements in a file. -/
def readEntries (host : Host) (disk : Disk) (path : Path) : Except Exn (List Json) := do
  reportEntries (← loadJson host disk path)

/-- The accepted environment evidence is there, unchanged and valid. -/
structure EnvironmentValid (host : Host) (disk : Disk) (bridge : Bridge) (run : AdaptationRun) :
    Prop where
  ready : run.status = "ENVIRONMENT_READY"
  accepted : (Dict.getD run.metadata "graph_environment" .null).truthy = true
  unchanged : checkAccepted host disk bridge run (Dict.getD run.metadata "graph_environment" .null) =
    .ok ()

/-- What an operator entry was measured to be. -/
def Measures (host : Host) (run : AdaptationRun) (fields : Dict) (measured : Measured) : Prop :=
  ∃ target, dispatchTarget run = .ok target ∧ Discovery.specsFromReport host target
    (.obj [("entries", .arr [.obj (normalized fields)])]) false = .ok [measured]

/-- An operator stored for the run under `key`, with its torch task among those listed. -/
structure Returned (bridge : Bridge) (db : Store) (taskIds : List Text) (key operatorId : Text) :
    Prop where
  enrolled : Enrolled db bridge.runId key operatorId
  listed : stageTaskId bridge.runId key .torch ∈ taskIds

theorem Returned.mono {bridge : Bridge} {db db' : Store}
    (returned : Returned bridge db taskIds key operatorId) (grows : Grows db db')
    (more : taskIds ⊆ taskIds') : Returned bridge db' taskIds' key operatorId :=
  ⟨returned.enrolled.grows grows, more returned.listed⟩

/-- A reported element that needs no operator, or became one with its task. -/
def Handled (host : Host) (bridge : Bridge) (run : AdaptationRun) (db : Store)
    (taskIds : List Text) (entry : Json) : Prop :=
  ∃ fields, entry = .obj fields ∧ (excused fields = true ∨
    ∃ measured key, Measures host run fields measured ∧
      measured.spec.operatorKey host = .ok key ∧
      Returned bridge db taskIds key measured.spec.operatorId)

theorem Handled.mono {host : Host} {bridge : Bridge} {run : AdaptationRun} {db db' : Store}
    (handled : Handled host bridge run db taskIds entry) (grows : Grows db db')
    (more : taskIds ⊆ taskIds') : Handled host bridge run db' taskIds' entry := by
  obtain ⟨fields, same, excused | ⟨measured, key, measures, keyed, returned⟩⟩ := handled
  · exact ⟨fields, same, .inl excused⟩
  · exact ⟨fields, same, .inr ⟨measured, key, measures, keyed, returned.mono grows more⟩⟩

/-- The task a measured entry became. -/
def Became (host : Host) (bridge : Bridge) (run : AdaptationRun) (db : Store) (entry : Json)
    (pair : Text × Task) : Prop :=
  ∃ fields measured key, entry = .obj fields ∧ Measures host run fields measured ∧
    measured.spec.operatorKey host = .ok key ∧ pair.1 = measured.spec.operatorId ∧
    pair.2.taskId = stageTaskId bridge.runId key .torch ∧ pair.2.operatorKey = .str key ∧
    Enrolled db bridge.runId key pair.1

/-- What holds after a dispatch that was not blocked, of the gaps and the entries it read. -/
structure Complete (host : Host) (disk : Disk) (bridge : Bridge) (run : AdaptationRun)
    (after : Store) (report : DispatchReport) (gaps entries : List Json) : Prop where
  environment : EnvironmentValid host disk bridge run
  resolved : ∀ gap ∈ gaps, ∃ fields, gap = .obj fields ∧ (excused fields = true ∨
    ∃ key id, identifier fields = .str id ∧ Returned bridge after report.taskIds key id)
  dispatched : ∀ entry ∈ entries, Handled host bridge run after report.taskIds entry
  distinct : ∀ fields ∈ entries, ∀ fields' ∈ entries, ∀ measured measured' key,
    (∃ d, fields = .obj d ∧ Measures host run d measured) →
    (∃ d, fields' = .obj d ∧ Measures host run d measured') →
    measured.spec.operatorKey host = .ok key → measured'.spec.operatorKey host = .ok key →
    measured.spec.operatorId = measured'.spec.operatorId
  skipped : report.state = "DISPATCH_SKIPPED" → report.taskIds = []

section Pure
variable {host : Host} {disk : Disk} {bridge : Bridge}

theorem step_clean {tally after : Tally} {result : Except Exn α}
    {next : α → Except Exn (Tally × Option β)} (ok : step host tally result next = .ok (after, out))
    (clean : after.errors = []) : ∃ a, result = .ok a ∧ next a = .ok (after, out) := by
  cases result with
  | ok a => exact ⟨a, rfl, ok⟩
  | error e =>
    simp only [step] at ok
    split at ok
    · cases ok
      simp [Tally.note] at clean
    · cases ok

/-- Reports that left nothing to complain about were read. -/
theorem gather_clean {tally after : Tally} {run : AdaptationRun}
    {found : Option (List Json × List Json)}
    (ok : gather host disk bridge run gapsPath operatorReport tally = .ok (after, found))
    (clean : after.errors = []) : tally.errors = [] ∧ after.dispatched = tally.dispatched ∧
      ∃ gaps entries, found = some (gaps, entries) ∧ readEntries host disk gapsPath = .ok gaps ∧
        readEntries host disk (operatorReport.getD gapsPath) = .ok entries := by
  unfold gather at ok
  obtain ⟨source, loaded, ok⟩ := step_clean ok clean
  obtain ⟨gaps, listed, ok⟩ := step_clean ok clean
  obtain ⟨gapsFile, _, ok⟩ := step_clean ok clean
  obtain ⟨report, loaded', ok⟩ := step_clean ok clean
  obtain ⟨reportFile, _, ok⟩ := step_clean ok clean
  obtain ⟨entries, listed', ok⟩ := step_clean ok clean
  obtain ⟨_, _, ok⟩ := step_clean ok clean
  obtain ⟨_, _, ok⟩ := step_clean ok clean
  have same := congrArg Prod.fst (Except.ok.inj ok)
  have shown := congrArg Prod.snd (Except.ok.inj ok)
  dsimp only at same shown
  subst same
  refine ⟨?_, ?_, gaps, entries, shown.symm, ?_, ?_⟩
  · cases reportFile <;> split at clean <;> simp_all [Tally.note, Tally.keep]
  · cases reportFile <;> split <;> rfl
  · simp [readEntries, loaded, listed]
  · simp [readEntries, loaded', listed']

theorem gapError_none {index : Nat} (ok : gapError host resolved index gap = .ok none) :
    ∃ fields, gap = .obj fields ∧
      (excused fields = true ∨ ∃ id ∈ resolved, identifier fields = .str id) := by
  unfold gapError at ok
  split at ok
  · next fields =>
    refine ⟨fields, rfl, ?_⟩
    dsimp only at ok
    by_cases done : excused fields = true
    · exact .inl done
    rw [if_neg done] at ok
    by_cases unnamed : (!(identifier fields).truthy) = true
    · rw [if_pos unnamed] at ok
      cases ok
    rw [if_neg unnamed] at ok
    by_cases wild : (!(identifier fields).hashable) = true
    · rw [if_pos wild] at ok
      cases ok
    rw [if_neg wild] at ok
    by_cases known : (resolved.any fun id => (identifier fields).eq (.str id)) = true
    · obtain ⟨id, member, same⟩ := List.any_eq_true.mp known
      exact .inr ⟨id, member, by simpa using same⟩
    · rw [if_neg known] at ok
      cases ok
  · cases ok

/-- Gaps that left nothing to complain about are excused or resolved. -/
theorem checkGaps_clean {tally after : Tally} {gaps : List (Json × Nat)}
    (ok : checkGaps host tally gaps = .ok after) (clean : after.errors = []) :
    after = tally ∧ ∀ gap ∈ gaps, ∃ fields, gap.1 = .obj fields ∧
      (excused fields = true ∨ ∃ id ∈ tally.resolved, identifier fields = .str id) := by
  induction gaps generalizing tally with
  | nil => exact ⟨(Except.ok.inj ok).symm, nofun⟩
  | cons first rest ih =>
    obtain ⟨gap, index⟩ := first
    rw [checkGaps] at ok
    cases found : gapError host tally.resolved index gap with
    | error e =>
      simp only [found] at ok
      split at ok
      · cases ok
        simp [Tally.note] at clean
      · cases ok
    | ok error =>
      cases error with
      | none =>
        simp only [found] at ok
        obtain ⟨same, settled⟩ := ih ok
        refine ⟨same, fun g member => ?_⟩
        rcases List.mem_cons.mp member with rfl | member
        · exact gapError_none found
        · exact settled g member
      | some error =>
        simp only [found] at ok
        obtain ⟨same, _⟩ := ih ok
        rw [same] at clean
        simp [Tally.note] at clean

/-- One entry gives one specification, unless it is waived. -/
theorem specsFromReport_single {target : Discovery.Target} {fields : Dict}
    (ok : Discovery.specsFromReport host target (.obj [("entries", .arr [.obj fields])]) false =
      .ok specs) :
    (waived fields = true ∧ specs = []) ∨ waived fields = false ∧ ∃ measured, specs = [measured] := by
  have entries : Discovery.entries (.obj [("entries", .arr [.obj fields])]) = .ok [fields] := rfl
  have mapped : Option.any (fun fields => (Dict.getD fields "unmapped_signals" .null).truthy)
      (Json.dict? (.obj [("entries", .arr [.obj fields])])) = false := rfl
  simp only [Discovery.specsFromReport, mapped, entries, Bool.false_eq_true, if_false, ok_bind,
    Discovery.specsFrom] at ok
  by_cases excused : waived fields = true
  · have skipped : (Json.eqOpt (fields.get? "status") (.str "WAIVED") && !false) = true := by
      simpa [waived] using excused
    rw [if_pos skipped] at ok
    exact .inl ⟨excused, (Except.ok.inj ok).symm⟩
  · have kept : Json.eqOpt (fields.get? "status") (.str "WAIVED") = false := by
      simpa [waived] using excused
    simp only [kept, Bool.false_and, Bool.false_eq_true, if_false] at ok
    obtain ⟨measured, _, ok⟩ := bind_ok.mp ok
    exact .inr ⟨by simpa using excused, measured, (pure_ok.mp ok).symm⟩

theorem waived_normalized (fields : Dict) : waived (normalized fields) = waived fields := by
  unfold normalized waived
  split
  · unfold Discovery.setDefault
    split
    · rfl
    · rw [Dict.get?, Dict.get?, List.lookup_append]
      cases List.lookup (Text.ofString "status") fields <;> rfl
  · rfl

theorem Measures.waived {fields : Dict} {measured : Measured} {run : AdaptationRun}
    (measures : Measures host run fields measured) : waived fields = false := by
  obtain ⟨target, _, specs⟩ := measures
  rcases specsFromReport_single specs with ⟨_, none⟩ | ⟨kept, _⟩
  · cases none
  · rwa [waived_normalized] at kept

theorem Measures.unique {fields : Dict} {a b : Measured} {run : AdaptationRun}
    (one : Measures host run fields a) (other : Measures host run fields b) : a = b := by
  obtain ⟨target, aimed, specs⟩ := one
  obtain ⟨target', aimed', specs'⟩ := other
  rw [aimed] at aimed'
  cases aimed'
  rw [specs] at specs'
  cases specs'
  rfl

end Pure

section Steps
variable {host : Host} {disk : Disk} {bridge : Bridge} {w : World}

def Tally.taskIds (tally : Tally) : List Text := tally.dispatched.map fun found => found.2.taskId

/-- The state a step leaves, whatever its outcome. -/
def Ahead (w u : World) : Prop := Sound u.ledger ∧ Grows w.db u.db

theorem Ahead.refl (sound : Sound w.ledger) : Ahead w w := ⟨sound, Grows.refl⟩

theorem Ahead.trans {u v : World} (first : Ahead w u) (second : Ahead u v) : Ahead w v :=
  ⟨second.1, first.2.trans second.2⟩

theorem bridge_run {Q : AdaptationRun → World → Prop} {E : Exn → World → Prop}
    {known : AdaptationRun} (here : w.db.run? bridge.runId = some known) (h : Q known w) :
    Prog.wp bridge.run Q E w := by
  simp only [Bridge.run, requireRun, Prog.wp_bind, wp_query, here]
  exact h

/-- A measured specification is stored under a key of its own, or refused. -/
theorem dispatchSpec_spec (sound : Sound w.ledger) (measured : Measured) :
    Prog.wp (dispatchSpec host disk bridge measured)
      (fun found u => Ahead w u ∧ ∃ key, measured.spec.operatorKey host = .ok key ∧
        found.1 = measured.spec.operatorId ∧ found.2.taskId = stageTaskId bridge.runId key .torch ∧
        found.2.operatorKey = .str key ∧ Enrolled u.db bridge.runId key measured.spec.operatorId)
      (fun _ u => Ahead w u) w := by
  unfold dispatchSpec
  rw [Prog.wp_bind, Prog.wp_lift]
  refine ⟨fun key keyed => ?_, fun _ _ => Ahead.refl sound⟩
  rw [Prog.wp_bind, wp_query, Prog.wp_bind, Prog.wp_require]
  refine ⟨fun alone => ?_, fun _ => Ahead.refl sound⟩
  rw [Prog.wp_bind]
  have discovered := discoverMeasured_spec host disk sound bridge.runId measured
  refine (discovered.also (P := fun u => Sound u.ledger)
    (discoverMeasured_sound host disk sound bridge.runId measured)).mono ?_ ?_
  · rintro task u _ ⟨⟨key', keyed', found⟩, sound'⟩
    rw [keyed] at keyed'
    cases keyed'
    refine ⟨⟨sound', found.grows⟩, key, keyed, rfl, found.named, found.keyed, ?_⟩
    have enrolled := found.enrolled
    cases known : w.db.operator? bridge.runId key with
    | none => simpa [known] using enrolled
    | some old =>
      have same : old.operatorId = measured.spec.operatorId := by simpa [known] using alone
      simpa [known, same] using enrolled
  · rintro e u _ ⟨same, sound'⟩
    exact ⟨sound', Grows.of_eq same⟩

/-- An entry of the operator report, dispatched on its own. -/
theorem dispatchEntry_spec (sound : Sound w.ledger) {run : AdaptationRun}
    (known : w.db.run? bridge.runId = some run) (entry : Json) :
    Prog.wp (dispatchEntry host disk bridge entry)
      (fun found u => Ahead w u ∧
        (∀ pair ∈ found, Became host bridge run u.db entry pair) ∧
        Handled host bridge run u.db (found.map fun p => p.2.taskId) entry)
      (fun _ u => Ahead w u) w := by
  unfold dispatchEntry
  split
  swap
  · exact Ahead.refl sound
  next fields =>
  rw [Prog.wp_bind, Prog.wp_require]
  refine ⟨fun reasoned => ?_, fun _ => Ahead.refl sound⟩
  rw [Prog.wp_bind]
  refine bridge_run known ?_
  rw [Prog.wp_bind, Prog.wp_lift]
  refine ⟨fun _ _ => ?_, fun _ _ => Ahead.refl sound⟩
  rw [Prog.wp_bind, Prog.wp_lift]
  refine ⟨fun target aimed => ?_, fun _ _ => Ahead.refl sound⟩
  rw [Prog.wp_bind, Prog.wp_lift]
  refine ⟨fun specs measures => ?_, fun _ _ => Ahead.refl sound⟩
  rcases specsFromReport_single measures with ⟨passed, rfl⟩ | ⟨_, measured, rfl⟩
  · have excused : excused fields = true := by
      rw [waived_normalized] at passed
      simpa [Bridge.excused, passed] using reasoned
    exact ⟨Ahead.refl sound, nofun, fields, rfl, .inl excused⟩
  · change Prog.wp (dispatchSpec host disk bridge measured >>= fun found => pure [found]) _ _ w
    rw [Prog.wp_bind]
    refine (dispatchSpec_spec sound measured).mono ?_ fun _ _ _ h => h
    rintro found u _ ⟨ahead, key, keyed, named, task, shown, enrolled⟩
    refine ⟨ahead, fun pair member => ?_, fields, rfl, .inr ⟨measured, key, ⟨target, aimed, measures⟩,
      keyed, enrolled, by simp [task]⟩⟩
    rw [List.mem_singleton.mp member]
    exact ⟨fields, measured, key, rfl, ⟨target, aimed, measures⟩, keyed, named, task, shown,
      named ▸ enrolled⟩

/-- Before the entries in `rest`: what was dispatched is stored, and without a complaint every
entry so far was handled. -/
structure Collected (host : Host) (bridge : Bridge) (run : AdaptationRun) (start : Tally) (w : World)
    (entries rest : List (Json × Nat)) (tally : Tally) (u : World) : Prop where
  ahead : Ahead w u
  stored : ∀ pair ∈ tally.dispatched, ∃ key, Returned bridge u.db tally.taskIds key pair.1
  handled : tally.errors = [] → start.errors = [] ∧
    ∀ entry ∈ entries, entry ∈ rest ∨ Handled host bridge run u.db tally.taskIds entry.1

theorem tryEntry_collected {run : AdaptationRun} {start tally : Tally} {u : World}
    {entry : Json × Nat} {entries rest : List (Json × Nat)}
    (known : w.db.run? bridge.runId = some run)
    (collected : Collected host bridge run start w entries (entry :: rest) tally u) :
    Prog.wlp (tryEntry host disk bridge tally entry)
      (Collected host bridge run start w entries rest) u := by
  have here : u.db.run? bridge.runId = some run := by rw [collected.ahead.2.run, known]
  unfold tryEntry
  rw [Prog.wlp, Prog.wp_handle, Prog.wp_bind]
  refine (dispatchEntry_spec collected.ahead.1 here entry.1).mono ?_ ?_
  · rintro found v _ ⟨ahead, stored, handled⟩
    rw [Prog.wp_pure]
    have ids : (tally.add found).taskIds = tally.taskIds ++ found.map fun p => p.2.taskId := by
      simp [Tally.add, Tally.taskIds]
    have old : tally.taskIds ⊆ (tally.add found).taskIds := by simp [ids]
    have new : (found.map fun p => p.2.taskId) ⊆ (tally.add found).taskIds := by simp [ids]
    refine ⟨collected.ahead.trans ahead, fun pair member => ?_, fun clean => ?_⟩
    · rcases List.mem_append.mp member with member | member
      · obtain ⟨key, returned⟩ := collected.stored pair member
        exact ⟨key, returned.mono ahead.2 old⟩
      · obtain ⟨_, _, key, _, _, _, _, task, _, enrolled⟩ := stored pair member
        exact ⟨key, enrolled, task ▸ new (List.mem_map_of_mem member)⟩
    · obtain ⟨start, before⟩ := collected.handled clean
      refine ⟨start, fun other member => ?_⟩
      rcases before other member with waiting | done
      · rcases List.mem_cons.mp waiting with rfl | waiting
        · exact .inr (handled.mono Grows.refl new)
        · exact .inl waiting
      · exact .inr (done.mono ahead.2 old)
  · intro e v _ ahead
    split
    · rw [Prog.wp_pure]
      refine ⟨collected.ahead.trans ahead, fun pair member => ?_, fun clean => ?_⟩
      · obtain ⟨key, returned⟩ := collected.stored pair member
        exact ⟨key, returned.mono ahead.2 (List.Subset.refl _)⟩
      · simp [Tally.note] at clean
    · trivial

/-- No errors mean valid evidence, and the other way round. -/
theorem environmentErrors_spec (sound : Sound w.ledger) :
    Prog.wlp (environmentErrors host disk bridge) (fun errors u => Sound u.ledger ∧
      (errors = [] → u = w ∧ ∃ run, w.db.run? bridge.runId = some run ∧
        EnvironmentValid host disk bridge run) ∧
      ∀ run, w.db.run? bridge.runId = some run → EnvironmentValid host disk bridge run →
        errors = []) w := by
  unfold environmentErrors
  rw [Prog.wlp, Prog.wp_bind]
  refine wlp_requireRun fun run here => ?_
  have only {other : AdaptationRun} (found : w.db.run? bridge.runId = some other) : other = run :=
    Option.some.inj (found.symm.trans here)
  rw [Prog.wp_ite]
  refine ⟨fun waiting => ⟨sound, by rintro ⟨⟩, fun other found valid => ?_⟩, fun ready => ?_⟩
  · exact absurd (only found ▸ valid.ready) waiting
  have ready : run.status = "ENVIRONMENT_READY" := Decidable.not_not.mp ready
  rw [Prog.wp_ite]
  refine ⟨fun unbound => ⟨sound, by rintro ⟨⟩, fun other found valid => ?_⟩, fun bound => ?_⟩
  · have accepted := only found ▸ valid.accepted
    simp [accepted] at unbound
  have bound : (Dict.getD run.metadata "graph_environment" .null).truthy = true := by simpa using bound
  split
  · next unchanged => exact ⟨sound, fun _ => ⟨rfl, run, here, ready, bound, unchanged⟩, fun _ _ _ => rfl⟩
  · next e changed =>
    have broken : ∀ other, w.db.run? bridge.runId = some other →
        EnvironmentValid host disk bridge other → ([e.text host] : List Text) = [] := by
      intro other found valid
      have unchanged := only found ▸ valid.unchanged
      rw [unchanged] at changed
      cases changed
    rw [Prog.wp_ite]
    refine ⟨fun _ => ?_, fun _ => trivial⟩
    have failed : Sound (recordEnvironmentFailure host bridge.runId [] (e.text host) w).2.1.ledger :=
      (recordEnvironmentFailure_steps host disk w bridge.runId [] (e.text host)).sound sound
    split
    · rw [Prog.wp_bind, Prog.wp_discard]
      exact Prog.wp_of_runs (fun _ u same => ⟨by rw [same] at failed; exact failed, by rintro ⟨⟩, broken⟩)
        fun _ _ _ => trivial
    · exact ⟨sound, by rintro ⟨⟩, broken⟩

theorem numbered {items : List α} (member : a ∈ items) : ∃ index, (a, index) ∈ items.zipIdx := by
  obtain ⟨index, found⟩ := List.mem_iff_getElem?.mp member
  exact ⟨index, List.mk_mem_zipIdx_iff_getElem?.mpr found⟩

/-- The entries are dispatched under a valid environment, and the gaps are resolved by them. -/
theorem dispatchEntries_clean (sound : Sound w.ledger) {run : AdaptationRun}
    (known : w.db.run? bridge.runId = some run) (valid : EnvironmentValid host disk bridge run)
    {tally : Tally} (fresh : tally.dispatched = []) (gaps entries : List Json) :
    Prog.wlp (dispatchEntries host disk bridge tally gaps entries) (fun after u => after.errors = [] →
      tally.errors = [] ∧ Ahead w u ∧
      (∀ gap ∈ gaps, ∃ fields, gap = .obj fields ∧ (excused fields = true ∨
        ∃ key id, identifier fields = .str id ∧ Returned bridge u.db after.taskIds key id)) ∧
      ∀ entry ∈ entries, Handled host bridge run u.db after.taskIds entry) w := by
  unfold dispatchEntries
  rw [Prog.wlp, Prog.wp_bind]
  refine Prog.wp.mono (Q := fun after u => after.errors = [] →
    Collected host bridge run tally w entries.zipIdx [] after u) ?_ ?_ fun _ _ _ h => h
  · rw [Prog.wp_handle, Prog.wp_bind]
    -- a complaint noted by the handler is a complaint
    have noted (e : Exn) (u : World) : if e.isRejection then
        Prog.wlp (pure (tally.note (e.text host)) : Sched Tally) (fun after u => after.errors = [] →
          Collected host bridge run tally w entries.zipIdx [] after u) u else True := by
      split
      · exact fun clean => absurd clean (by simp [Tally.note])
      · trivial
    refine (environmentErrors_spec sound).mono ?_ fun e u _ _ => noted e u
    rintro errors u _ ⟨_, unchanged, none⟩
    obtain rfl := none run known valid
    obtain ⟨rfl, _⟩ := unchanged rfl
    rw [List.isEmpty_nil, if_pos rfl]
    exact Prog.wp_foldlM (Collected host bridge run tally u entries.zipIdx)
      (fun entry rest before v collected =>
        (tryEntry_collected known collected).mono (fun _ _ _ h => h) fun e v _ _ => noted e v)
      ⟨Ahead.refl sound, by simp [fresh], fun clean => ⟨clean, fun _ member => .inl member⟩⟩
      fun _ _ collected _ => collected
  · intro after u _ collected
    refine wlp_lift fun final resolved clean => ?_
    obtain ⟨rfl, settled⟩ := checkGaps_clean resolved clean
    have collected := collected clean
    obtain ⟨before, handled⟩ := collected.handled clean
    refine ⟨before, collected.ahead, fun gap member => ?_, fun entry member => ?_⟩
    · obtain ⟨index, listed⟩ := numbered member
      obtain ⟨fields, same, excused | ⟨id, resolved, named⟩⟩ := settled _ listed
      · exact ⟨fields, same, .inl excused⟩
      · obtain ⟨pair, stored, rfl⟩ := List.mem_map.mp resolved
        obtain ⟨key, returned⟩ := collected.stored pair stored
        exact ⟨fields, same, .inr ⟨key, pair.1, named, returned⟩⟩
    · obtain ⟨index, listed⟩ := numbered member
      rcases handled _ listed with waiting | handled
      · cases waiting
      · exact handled

/-- Nothing takes a complaint back. -/
theorem dispatchEntries_noisy {tally : Tally} (complaint : tally.errors ≠ [])
    (gaps entries : List Json) :
    Prog.wlp (dispatchEntries host disk bridge tally gaps entries) (fun after _ => after.errors ≠ []) w := by
  have noted (e : Exn) (u : World) : if e.isRejection then
      Prog.wlp (pure (tally.note (e.text host)) : Sched Tally) (fun after _ => after.errors ≠ []) u
      else True := by
    split
    · change tally.errors ++ [e.text host] ≠ []
      simp
    · trivial
  unfold dispatchEntries
  rw [Prog.wlp, Prog.wp_bind]
  refine Prog.wp.mono (Q := fun after _ => after.errors ≠ []) ?_ ?_ fun _ _ _ h => h
  · rw [Prog.wp_handle, Prog.wp_bind]
    refine Prog.wp_of_runs (fun errors u _ => ?_) fun e u _ => noted e u
    split
    · refine Prog.wp_foldlM (fun _ after _ => after.errors ≠ []) (fun entry _ before v kept => ?_)
        complaint fun _ _ kept => kept
      unfold tryEntry
      rw [Prog.wp_handle, Prog.wp_bind]
      refine Prog.wp_of_runs (fun found v _ => kept) fun e v _ => ?_
      split
      · change before.errors ++ [_] ≠ []
        simp
      · exact noted e v
    · exact complaint
  · intro after u _ kept
    refine wlp_lift fun final resolved clean => ?_
    obtain ⟨rfl, _⟩ := checkGaps_clean resolved clean
    exact kept clean

/-- What the `try` block collected without a complaint. -/
theorem collect_clean (sound : Sound w.ledger) {u : World} {errors : List Text}
    (checked : errors = [] → u = w ∧ ∃ run, w.db.run? bridge.runId = some run ∧
      EnvironmentValid host disk bridge run) (gapsPath : Path) (operatorReport : Option Path) :
    Prog.wlp (collect host disk bridge gapsPath operatorReport errors) (fun after v => after.errors = [] →
      ∃ run gaps entries, w.db.run? bridge.runId = some run ∧ EnvironmentValid host disk bridge run ∧
      readEntries host disk gapsPath = .ok gaps ∧
      readEntries host disk (operatorReport.getD gapsPath) = .ok entries ∧
      (∀ gap ∈ gaps, ∃ fields, gap = .obj fields ∧ (excused fields = true ∨
        ∃ key id, identifier fields = .str id ∧ Returned bridge v.db after.taskIds key id)) ∧
      ∀ entry ∈ entries, Handled host bridge run v.db after.taskIds entry) u := by
  unfold collect
  rw [Prog.wlp, Prog.wp_bind]
  refine wlp_requireRun fun run here => ?_
  rw [Prog.wp_bind]
  refine wlp_lift ?_
  rintro ⟨tally, found⟩ gathered
  dsimp only
  by_cases clean : tally.errors = []
  · obtain ⟨none, fresh, gaps, entries, rfl, gapsRead, entriesRead⟩ := gather_clean gathered clean
    obtain ⟨rfl, run, known, valid⟩ := checked none
    refine (dispatchEntries_clean sound known valid fresh gaps entries).mono ?_ fun _ _ _ h => h
    intro after v _ complete clean
    obtain ⟨_, _, resolved, handled⟩ := complete clean
    exact ⟨run, gaps, entries, known, valid, gapsRead, entriesRead, resolved, handled⟩
  · cases found with
    | none => exact fun none => absurd none clean
    | some pair =>
      refine (dispatchEntries_noisy clean pair.1 pair.2).mono ?_ fun _ _ _ h => h
      exact fun after v _ complaint none => absurd none complaint

/-- A graph transition is recorded in the run. -/
theorem recordGraphTransition_rest (runId key : Text) (payload : Dict) :
    Prog.wlp (recordGraphTransition host runId key payload)
      (fun _ u => u.db.operator? = w.db.operator? ∧ u.db.row? = w.db.row?) w := by
  unfold recordGraphTransition
  rw [Prog.wlp, atomic, Prog.wp_transact]
  cases GraphKey.ofText? key with
  | none => trivial
  | some graphKey =>
    dsimp only
    rw [Prog.wp_bind]
    refine wlp_requireRun fun run _ => ?_
    rw [Prog.wp_ite]
    refine ⟨fun _ => ⟨rfl, rfl⟩, fun _ => ?_⟩
    simp only [Prog.wp_bind, wp_execute, wp_emit, Prog.wp_pure]
    exact ⟨rfl, rfl⟩

theorem dispatchPayload_spec {run : AdaptationRun} {tally : Tally} {report : DispatchReport}
    (ok : dispatchPayload host bridge run tally = .ok report) :
    (tally.errors ≠ [] → report.state = "DISPATCH_BLOCKED") ∧
      (report.state = "DISPATCH_SKIPPED" → tally.dispatched = []) ∧
      report.taskIds = sortedSet tally.taskIds := by
  obtain ⟨fingerprint, _, same⟩ := bind_ok.mp ok
  obtain rfl := pure_ok.mp same
  refine ⟨fun complaint => ?_, fun skipped => ?_, rfl⟩
  · simp [complaint]
  · by_contra found
    simp only [List.isEmpty_eq_false_iff.mpr found, Bool.not_false, if_true] at skipped
    split at skipped
    · exact absurd skipped (by decide)
    · exact absurd skipped (by decide)

/-- A report that was not blocked is the one that was validated. -/
theorem validated_open {payload report : DispatchReport} {db : Store}
    (ok : validated host disk db payload = .ok report) (open' : report.state ≠ "DISPATCH_BLOCKED") :
    report = payload := by
  obtain ⟨errors, _, ok⟩ := bind_ok.mp ok
  split at ok
  · exact (pure_ok.mp ok).symm
  · obtain rfl := pure_ok.mp ok
    exact absurd rfl open'

theorem conclude_spec (outDir : Path) (channel : Text) (tally : Tally) :
    Prog.wlp (conclude host disk written bridge outDir channel tally) (fun report u =>
      report.state ≠ "DISPATCH_BLOCKED" → tally.errors = [] ∧ report.taskIds = sortedSet tally.taskIds ∧
        (report.state = "DISPATCH_SKIPPED" → tally.dispatched = []) ∧
        u.db.operator? = w.db.operator? ∧ u.db.row? = w.db.row?) w := by
  unfold conclude
  simp only [Prog.wlp, Prog.wp_bind]
  refine wlp_requireRun fun run _ => wlp_lift fun payload paid => ?_
  rw [wp_query]
  refine wlp_lift fun report validated => wlp_lift fun store _ => wlp_lift fun _ _ =>
    wlp_lift fun _ _ => wlp_lift fun file _ => ?_
  rw [Prog.wp_discard]
  refine (recordGraphTransition_rest bridge.runId channel _).mono ?_ fun _ _ _ h => h
  intro _ u _ rest open'
  obtain rfl := validated_open validated open'
  obtain ⟨blocked, skipped, ids⟩ := dispatchPayload_spec paid
  refine ⟨?_, ids, skipped, rest⟩
  by_contra complaint
  exact open' (blocked complaint)

/-- Elements measured to different operators have keys of their own. -/
theorem Handled.distinct {run : AdaptationRun} {db : Store} {fields fields' : Dict} {a b : Measured}
    (one : Handled host bridge run db taskIds (.obj fields))
    (other : Handled host bridge run db taskIds (.obj fields')) (measures : Measures host run fields a)
    (measures' : Measures host run fields' b) (keyed : a.spec.operatorKey host = .ok key)
    (keyed' : b.spec.operatorKey host = .ok key) : a.spec.operatorId = b.spec.operatorId := by
  have enrolled {fields : Dict} {m : Measured} (handled : Handled host bridge run db taskIds (.obj fields))
      (measures : Measures host run fields m) (keyed : m.spec.operatorKey host = .ok key) :
      Enrolled db bridge.runId key m.spec.operatorId := by
    obtain ⟨_, same, excused | ⟨measured, key', found, keyed', returned⟩⟩ := handled
    · obtain rfl := Json.obj.inj same
      rw [Bridge.excused, measures.waived] at excused
      cases excused
    · obtain rfl := Json.obj.inj same
      obtain rfl := measures.unique found
      rw [keyed] at keyed'
      cases keyed'
      exact returned.enrolled
  exact (enrolled one measures keyed).unique (enrolled other measures' keyed')

/-- Whatever the two reports hold: what is not blocked is complete. -/
theorem dispatch_complete (host : Host) (disk written : Disk) (bridge : Bridge)
    (gapsPath outDir : Path) (operatorReport : Option Path) (channel : Text)
    (calls : List (Disk × Call)) (report : DispatchReport)
    (returned : (dispatch host disk written bridge gapsPath outDir operatorReport channel
      (history host calls)).1 = .ok report)
    (passed : report.state = "DISPATCHED" ∨ report.state = "DISPATCH_SKIPPED") :
    ∃ run gaps entries, (history host calls).db.run? bridge.runId = some run ∧
      readEntries host disk gapsPath = .ok gaps ∧
      readEntries host disk (operatorReport.getD gapsPath) = .ok entries ∧
      Complete host disk bridge run (dispatch host disk written bridge gapsPath outDir operatorReport
        channel (history host calls)).2.1.db report gaps entries := by
  have open' : report.state ≠ "DISPATCH_BLOCKED" := by
    rcases passed with same | same <;> rw [same] <;> decide
  have sound : Sound (history host calls).ledger := history_sound calls
  generalize history host calls = w at *
  have spec : Prog.wlp (dispatch host disk written bridge gapsPath outDir operatorReport channel)
      (fun report u => report.state ≠ "DISPATCH_BLOCKED" → ∃ run gaps entries,
        w.db.run? bridge.runId = some run ∧ readEntries host disk gapsPath = .ok gaps ∧
        readEntries host disk (operatorReport.getD gapsPath) = .ok entries ∧
        Complete host disk bridge run u.db report gaps entries) w := by
    unfold dispatch
    simp only [Prog.wlp, Prog.wp_bind]
    refine wlp_require fun _ => wlp_lift fun outDir _ => wlp_require fun _ => ?_
    refine (environmentErrors_spec sound).mono ?_ fun _ _ _ h => h
    rintro errors u _ ⟨_, checked, _⟩
    refine (collect_clean sound checked gapsPath operatorReport).mono ?_ fun _ _ _ h => h
    intro tally v _ collected
    refine (conclude_spec outDir channel tally).mono ?_ fun _ _ _ h => h
    intro report u _ concluded open'
    obtain ⟨clean, ids, skipped, specs, rows⟩ := concluded open'
    obtain ⟨run, gaps, entries, known, valid, gapsRead, entriesRead, resolved, handled⟩ :=
      collected clean
    have listed : tally.taskIds ⊆ report.taskIds := fun t member => ids ▸ mem_sortedSet.mpr member
    have moved {key id : Text} (returned : Returned bridge v.db tally.taskIds key id) :
        Returned bridge u.db report.taskIds key id :=
      ⟨⟨specs ▸ returned.enrolled.spec, rows ▸ returned.enrolled.task⟩, listed returned.listed⟩
    have handled : ∀ entry ∈ entries, Handled host bridge run u.db report.taskIds entry := by
      intro entry member
      obtain ⟨fields, same, excused | ⟨measured, key, measures, keyed, returned⟩⟩ := handled entry member
      · exact ⟨fields, same, .inl excused⟩
      · exact ⟨fields, same, .inr ⟨measured, key, measures, keyed, moved returned⟩⟩
    refine ⟨run, gaps, entries, known, gapsRead, entriesRead, valid, ?_, handled, ?_, ?_⟩
    · intro gap member
      obtain ⟨fields, same, excused | ⟨key, id, named, returned⟩⟩ := resolved gap member
      · exact ⟨fields, same, .inl excused⟩
      · exact ⟨fields, same, .inr ⟨key, id, named, moved returned⟩⟩
    · rintro _ member _ member' a b key ⟨d, rfl, measures⟩ ⟨d', rfl, measures'⟩ keyed keyed'
      exact (handled _ member).distinct (handled _ member') measures measures' keyed keyed'
    · intro none
      rw [ids, Tally.taskIds, skipped none]
      rfl
  exact spec.returned returned open'

end Steps

/-! A run whose accepted evidence is there, and a report of one gap. -/

def gapSample : Json :=
  .obj [("entries", .arr [.obj [("operator_id", .str "op"),
    ("inputs", .arr [IOSpec.sample.toDict]), ("outputs", .arr [IOSpec.sample.toDict]),
    ("semantics", .obj [("formula", .str "x")])]])]

def hostSample : Host :=
  .reading [(baseModelText, .obj baseModelSample), ([1], .obj (proofSample "alice" "pod")),
    ([2], gapSample)]

def diskSample : Disk :=
  { Disk.holding (evidenceSample "/evidence" [1] [3] ++
      ([("/runs/gaps.json", [2]), ("/runs/out/dispatch_status.json", [1])] : List (Text × Bytes))) with
    baseModel := .ok (.obj baseModelSample) }

def boundCalls : List (Disk × Call) :=
  [.createRun runSample, .bindEnvironment "run" (proofSample "alice" "pod") (.str "/evidence"),
    .recordGraphTransition "run" "graph_environment_required" [],
    .recordGraphTransition "run" "graph_environment" (EnvironmentRecord.toDict
      ⟨"/evidence/status.json", [⟨"/evidence/status.json", digestSample [1]⟩], .bool true⟩)].map
    (diskSample, ·)

theorem dispatch_complete_sample : ∃ report : DispatchReport, report.state = ("DISPATCHED" : Text) ∧
    ∃ run gaps entries, (history hostSample boundCalls).db.run? "run" = some run ∧
      readEntries hostSample diskSample (.ofText "/runs/gaps.json") = .ok gaps ∧
      readEntries hostSample diskSample (.ofText "/runs/gaps.json") = .ok entries ∧
      Complete hostSample diskSample sample run (dispatch hostSample diskSample diskSample sample
        (.ofText "/runs/gaps.json") (.ofText "/runs/out") none "graph_discovery"
        (history hostSample boundCalls)).2.1.db report gaps entries := by
  have returned : ((dispatch hostSample diskSample diskSample sample (.ofText "/runs/gaps.json")
      (.ofText "/runs/out") none "graph_discovery" (history hostSample boundCalls)).1.toOption.any
      fun report => decide (report.state = ("DISPATCHED" : Text))) = true := by decide +kernel
  cases outcome : (dispatch hostSample diskSample diskSample sample (.ofText "/runs/gaps.json")
      (.ofText "/runs/out") none "graph_discovery" (history hostSample boundCalls)).1 with
  | error e =>
    rw [outcome] at returned
    cases returned
  | ok report =>
    rw [outcome] at returned
    have dispatched : report.state = ("DISPATCHED" : Text) := of_decide_eq_true returned
    exact ⟨report, dispatched, dispatch_complete hostSample diskSample diskSample sample _ _ none _
      boundCalls report outcome (.inl dispatched)⟩

end Bridge
end InferForge

import InferForge.Bridge.Completeness

/-! One measured entry submitted again and again: through the `discover` command, which puts the
whole environment proof of the run in the specification, and through `dispatch`, which puts the
fingerprint there. The operator key covers what the entry and the context say. -/
namespace InferForge
open Py Effect Sched

/-- The options of the `discover` command. -/
structure DiscoverArgs where
  model : Option Text
  backend : Option Text
  modelRevision : Option Text
  pluginRevision : Option Text
  includeWaived : Bool

/-- `given or own`. -/
def orText (given : Option Text) (own : Text) : Text :=
  match given with
  | some t => if t.isEmpty then own else t
  | none => own

def discoverTarget (args : DiscoverArgs) (run : AdaptationRun) : Discovery.Target :=
  ⟨orText args.model run.modelId, orText args.backend run.backend,
    orText args.modelRevision run.modelRevision, orText args.pluginRevision run.pluginRevision,
    Dict.getD run.environment "environment_proof" (.obj [])⟩

/-- The `discover` command on a report. -/
def discover (host : Host) (disk : Disk) (runId : Text) (args : DiscoverArgs) (report : Json) :
    Sched (List Task) := do
  let run ← requireRun runId (.value ("unknown run: " ++ runId))
  Prog.require (!(run.flag "environment_required" && decide (run.status ≠ "ENVIRONMENT_READY")))
    (.value ("environment proof is required before discovery; run the environment command " ++
      "with the deployment task status first"))
  let specs ← Prog.lift
    (Discovery.specsFromReport host (discoverTarget args run) report args.includeWaived)
  specs.mapM (discoverMeasured host disk runId)

namespace Discovery

/-! ## What a specification takes from the entry, and what from the context -/

/-- The context's part of an operator key. -/
structure Context where
  modelId : Text
  modelRevision : Text
  pluginRevision : Text
  backend : Text
  environment : Dict

/-- The plugin revision a report is converted under. -/
def Target.revision (target : Target) : Text :=
  if target.pluginRevision.isEmpty then "unknown" else target.pluginRevision

def Target.context (host : Host) (target : Target) : Except Exn Context := do
  let environment ← (← Json.toMappingOr target.environment).dumped host
  return ⟨target.modelId.strip, target.modelRevision.strip, target.revision.strip,
    target.backend.strip, environment⟩

/-- Contexts no operator key tells apart: the order of keys in the environment does not count. -/
structure Context.Same (a b : Context) : Prop where
  modelId : a.modelId = b.modelId
  modelRevision : a.modelRevision = b.modelRevision
  pluginRevision : a.pluginRevision = b.pluginRevision
  backend : a.backend = b.backend
  environment : (Json.obj a.environment).sorted = (Json.obj b.environment).sorted

/-- The fields of an entry that its measurements are read from. -/
def measuredFields : List Text := ["inputs", "outputs", "semantics", "semantics_basis"]

/-- Entries with the same measurements. -/
def SameMeasurements (a b : Dict) : Prop :=
  ∀ key ∈ measuredFields, a.getD key .null = b.getD key .null

/-- A specification of the entry in a context. -/
def SpecOf (host : Host) (entry : Dict) (target : Target) (spec : OperatorSpec) : Prop :=
  ∃ fields report measured, SameMeasurements entry fields ∧
    specFromEntry host { target with pluginRevision := target.revision } fields report = .ok measured ∧
    measured.spec = spec

section Spec
variable {host : Host}

theorem text_str {t : Text} (ok : text (.str t) field shown = .ok u) : u = t.strip := by
  simp only [text] at ok
  split at ok
  · cases ok
  · exact (Except.ok.inj ok).symm

/-- The field and the context of a text only show in complaints. -/
theorem text_same {value : Json} (one : text value field shown = .ok t)
    (other : text value field' shown' = .ok u) : t = u := by
  cases value with
  | str v => rw [text_str one, text_str other]
  | _ => cases one

theorem mapM_same {α β : Type} {f g : α → Except Exn β} {xs ys : List β} (same : ∀ a x y, f a = .ok x → g a = .ok y → x = y)
    {items : List α} (one : items.mapM f = .ok xs) (other : items.mapM g = .ok ys) : xs = ys := by
  induction items generalizing xs ys with
  | nil =>
    rw [List.mapM_nil] at one other
    rw [← pure_ok.mp one, ← pure_ok.mp other]
  | cons item rest ih =>
    rw [List.mapM_cons] at one other
    obtain ⟨x, here, one⟩ := bind_ok.mp one
    obtain ⟨xs', there, one⟩ := bind_ok.mp one
    obtain ⟨y, here', other⟩ := bind_ok.mp other
    obtain ⟨ys', there', other⟩ := bind_ok.mp other
    rw [← pure_ok.mp one, ← pure_ok.mp other, same item x y here here', ih there there']

theorem ioSpec_value (ok : ioSpec shown item = .ok spec) : ∃ fields, item = .obj fields ∧
    spec.val = ⟨Dict.getD fields "name" .null, Dict.getD fields "dtype" .null,
      Dict.getD fields "shape" .null, Dict.getD fields "layout" .null⟩ := by
  unfold ioSpec at ok
  split at ok
  · next fields =>
    dsimp only at ok
    split at ok
    · cases ok
    · split at ok
      · cases ok
      · split at ok
        · exact ⟨fields, rfl, congrArg Subtype.val (Except.ok.inj ok).symm⟩
        · cases ok
  · cases ok

/-- The context of an entry only shows in complaints. -/
theorem ioSpecs_same {value : Json} (one : ioSpecs value field shown = .ok xs)
    (other : ioSpecs value field shown' = .ok ys) : xs = ys := by
  unfold ioSpecs at one other
  split at one
  · refine mapM_same (fun ⟨item, index⟩ x y here there => ?_) one other
    obtain ⟨fields, same, made⟩ := ioSpec_value here
    obtain ⟨fields', same', made'⟩ := ioSpec_value there
    rw [same] at same'
    obtain rfl := Json.obj.inj same'
    exact Subtype.ext (made.trans made'.symm)
  · cases one

/-- Semantics are read from the entry alone. -/
theorem semantics_same {a b : Dict} (same : SameMeasurements a b)
    (one : semantics a shown = .ok s) (other : semantics b shown' = .ok t) : s = t := by
  have given := same "semantics" (by decide)
  have basis := same "semantics_basis" (by decide)
  obtain ⟨own, read, one⟩ := bind_ok.mp one
  obtain ⟨own', read', other⟩ := bind_ok.mp other
  obtain ⟨full, based, one⟩ := bind_ok.mp one
  obtain ⟨full', based', other⟩ := bind_ok.mp other
  have owns : own = own' := by
    unfold givenSemantics at read read'
    rw [← given] at read'
    split at read
    · next null =>
      rw [null] at read'
      exact (Except.ok.inj read).symm.trans (Except.ok.inj read')
    · next fields object =>
      rw [object] at read'
      exact (Except.ok.inj read).symm.trans (Except.ok.inj read')
    · cases read
  subst owns
  have fulls : full = full' := by
    unfold withBasis at based based'
    rw [← basis] at based'
    dsimp only at based based'
    split at based
    · next none =>
      rw [if_pos none] at based'
      exact (Except.ok.inj based).symm.trans (Except.ok.inj based')
    · next some =>
      rw [if_neg some] at based'
      obtain ⟨t, named, based⟩ := bind_ok.mp based
      obtain ⟨t', named', based'⟩ := bind_ok.mp based'
      rw [← pure_ok.mp based, ← pure_ok.mp based', text_same named named']
  subst fulls
  split at one
  · next evident =>
    rw [if_pos evident] at other
    exact (pure_ok.mp one).symm.trans (pure_ok.mp other)
  · cases one

theorem construct_fields {spec : OperatorSpec}
    (ok : construct operatorId modelId modelRevision pluginRevision backend inputs outputs meaning
      environment = .ok spec) :
    spec.modelId = modelId ∧ spec.modelRevision = modelRevision ∧
      spec.pluginRevision = pluginRevision ∧ spec.backend = backend ∧
      spec.inputs = inputs.map Subtype.val ∧ spec.outputs = outputs.map Subtype.val ∧
      spec.semantics = meaning ∧ spec.environment = environment := by
  unfold construct at ok
  split at ok
  · split at ok
    · split at ok
      · obtain rfl := Except.ok.inj ok
        exact ⟨rfl, rfl, rfl, rfl, rfl, rfl, rfl, rfl⟩
      · cases ok
    · cases ok
  · cases ok

/-- A converted entry: what was read from it, and the context it was read in. -/
theorem specFromEntry_fields {target : Target} {fields : Dict}
    (ok : specFromEntry host target fields report = .ok measured) :
    ∃ shown inputs outputs meaning mapping,
      ioSpecs (fields.getD "inputs" .null) "inputs" shown = .ok inputs ∧
      ioSpecs (fields.getD "outputs" .null) "outputs" shown = .ok outputs ∧
      Discovery.semantics fields shown = .ok meaning ∧
      Json.toMappingOr target.environment = .ok mapping ∧
      mapping.dumped host = .ok measured.spec.environment ∧
      measured.spec.inputs = inputs.map Subtype.val ∧
      measured.spec.outputs = outputs.map Subtype.val ∧ measured.spec.semantics = meaning ∧
      measured.spec.modelId = target.modelId.strip ∧
      measured.spec.modelRevision = target.modelRevision.strip ∧
      measured.spec.pluginRevision = target.pluginRevision.strip ∧
      measured.spec.backend = target.backend.strip := by
  obtain ⟨_, _, ok⟩ := bind_ok.mp ok
  obtain ⟨_, model, ok⟩ := bind_ok.mp ok
  obtain ⟨_, backend, ok⟩ := bind_ok.mp ok
  obtain ⟨_, inputs, ok⟩ := bind_ok.mp ok
  obtain ⟨_, outputs, ok⟩ := bind_ok.mp ok
  obtain ⟨_, meaning, ok⟩ := bind_ok.mp ok
  obtain ⟨_, _, ok⟩ := bind_ok.mp ok
  obtain ⟨_, _, ok⟩ := bind_ok.mp ok
  obtain ⟨_, modelRevision, ok⟩ := bind_ok.mp ok
  obtain ⟨_, pluginRevision, ok⟩ := bind_ok.mp ok
  obtain ⟨mapping, mapped, ok⟩ := bind_ok.mp ok
  obtain ⟨environment, dumped, ok⟩ := bind_ok.mp ok
  obtain ⟨spec, made, ok⟩ := bind_ok.mp ok
  obtain rfl := pure_ok.mp ok
  obtain ⟨m, mr, pr, b, i, o, s, e⟩ := construct_fields made
  exact ⟨_, _, _, _, mapping, inputs, outputs, meaning, mapped, e ▸ dumped, i, o, s,
    m.trans (text_str model), mr.trans (text_str modelRevision), pr.trans (text_str pluginRevision),
    b.trans (text_str backend)⟩

/-- What a specification says of its context. -/
theorem SpecOf.context {entry : Dict} {target : Target} {spec : OperatorSpec}
    (made : SpecOf host entry target spec) : ∃ context, target.context host = .ok context ∧
      spec.modelId = context.modelId ∧ spec.modelRevision = context.modelRevision ∧
      spec.pluginRevision = context.pluginRevision ∧ spec.backend = context.backend ∧
      spec.environment = context.environment := by
  obtain ⟨fields, report, measured, _, made, rfl⟩ := made
  obtain ⟨_, _, _, _, mapping, _, _, _, mapped, dumped, _, _, _, modelId, modelRevision,
    pluginRevision, backend⟩ := specFromEntry_fields made
  refine ⟨⟨target.modelId.strip, target.modelRevision.strip, target.revision.strip,
    target.backend.strip, measured.spec.environment⟩, ?_, modelId, modelRevision, pluginRevision,
    backend, rfl⟩
  rw [Target.context, mapped, ok_bind, dumped, ok_bind]
  rfl

/-- What a specification says of its entry does not depend on the context. -/
theorem SpecOf.measured {entry : Dict} {target target' : Target} {a b : OperatorSpec}
    (one : SpecOf host entry target a) (other : SpecOf host entry target' b) :
    a.inputs = b.inputs ∧ a.outputs = b.outputs ∧ a.semantics = b.semantics := by
  obtain ⟨fields, report, measured, same, made, rfl⟩ := one
  obtain ⟨fields', report', measured', same', made', rfl⟩ := other
  have alike : SameMeasurements fields fields' := fun key member =>
    (same key member).symm.trans (same' key member)
  obtain ⟨_, _, _, _, _, inputs, outputs, meaning, _, _, i, o, s, _⟩ := specFromEntry_fields made
  obtain ⟨_, _, _, _, _, inputs', outputs', meaning', _, _, i', o', s', _⟩ :=
    specFromEntry_fields made'
  rw [← alike "inputs" (by decide)] at inputs'
  rw [← alike "outputs" (by decide)] at outputs'
  rw [i, i', o, o', s, s', ioSpecs_same inputs inputs', ioSpecs_same outputs outputs',
    semantics_same alike meaning meaning']
  exact ⟨rfl, rfl, rfl⟩

theorem identity_sorted (spec : OperatorSpec) : spec.identity.sorted = .obj [
    ("backend", .str spec.backend), ("environment", (Json.obj spec.environment).sorted),
    ("inputs", (Json.arr (spec.inputs.map IOSpec.toDict)).sorted), ("model_id", .str spec.modelId),
    ("model_revision", .str spec.modelRevision),
    ("outputs", (Json.arr (spec.outputs.map IOSpec.toDict)).sorted),
    ("plugin_revision", .str spec.pluginRevision),
    ("semantics", (Json.obj spec.semantics).sorted)] := rfl

/-- Two specifications of one entry are the same contract exactly in the same context. -/
theorem SpecOf.identity_iff {entry : Dict} {target target' : Target} {a b : OperatorSpec}
    (one : SpecOf host entry target a) (other : SpecOf host entry target' b)
    (context : target.context host = .ok c) (context' : target'.context host = .ok c') :
    a.identity.sorted = b.identity.sorted ↔ c.Same c' := by
  obtain ⟨inputs, outputs, semantics⟩ := one.measured other
  obtain ⟨d, found, modelId, modelRevision, pluginRevision, backend, environment⟩ := one.context
  obtain ⟨d', found', modelId', modelRevision', pluginRevision', backend', environment'⟩ :=
    other.context
  rw [context] at found
  rw [context'] at found'
  cases found
  cases found'
  rw [identity_sorted, identity_sorted, inputs, outputs, semantics, modelId, modelRevision,
    pluginRevision, backend, environment, modelId', modelRevision', pluginRevision', backend',
    environment']
  constructor
  · intro same
    simp only [Json.obj.injEq, List.cons.injEq, Prod.mk.injEq, Json.str.injEq, true_and,
      and_true] at same
    exact ⟨same.2.2.1, same.2.2.2.1, same.2.2.2.2, same.1, same.2.1⟩
  · intro same
    rw [same.modelId, same.modelRevision, same.pluginRevision, same.backend, same.environment]

end Spec
end Discovery

/-! ## Histories of submissions -/

/-- A way to submit the entry: in a report of the command line that may say more, or as an entry of
a dispatched report. -/
inductive Submission
  | cli (disk : Disk) (args : DiscoverArgs) (origin : Dict)
  | dispatch (disk : Disk) (bridge : Bridge)

namespace Submission

/-- The report of the command line with its one entry. -/
def report (entry : Dict) (origin : Dict) : Json :=
  .obj (("entries", .arr [.obj entry]) :: origin)

def submit (host : Host) (runId : Text) (entry : Dict) : Submission → Sched (List Task)
  | .cli disk args origin => discover host disk runId args (report entry origin)
  | .dispatch disk bridge =>
      List.map Prod.snd <$> Bridge.dispatchEntry host disk { bridge with runId } (.obj entry)

/-- The context the entry is measured in. -/
def target (run : AdaptationRun) : Submission → Except Exn Discovery.Target
  | .cli _ args _ => .ok (discoverTarget args run)
  | .dispatch _ _ => Bridge.dispatchTarget run

end Submission

/-- A submission that returned: the context it found, and its tasks. -/
structure Receipt where
  target : Except Exn Discovery.Target
  tasks : List Task

inductive Event
  | submit (submission : Submission)
  /-- Anything else that happens to the scheduler, re-proofs included. -/
  | call (call : Disk × Call)

structure Desk where
  world : World
  receipts : List Receipt

def Desk.event (host : Host) (runId : Text) (entry : Dict) (desk : Desk) : Event → Desk
  | .call call => { desk with world := step host desk.world call }
  | .submit submission =>
      match submission.submit host runId entry desk.world with
      | (.ok tasks, w) =>
          let found : Except Exn Discovery.Target :=
            match desk.world.db.run? runId with
            | some run => submission.target run
            | none => .error (.key runId)
          ⟨w, desk.receipts ++ [⟨found, tasks⟩]⟩
      | (.error _, w) => ⟨w, desk.receipts⟩

/-- Every submission that returned a task returned the same operator key, and one torch task of the
run has it. -/
structure Desk.Idempotent (desk : Desk) (runId : Text) : Prop where
  key : ∀ r ∈ desk.receipts, ∀ r' ∈ desk.receipts, ∀ task ∈ r.tasks, ∀ task' ∈ r'.tasks,
    task'.operatorKey = task.operatorKey
  torch : ∀ row ∈ desk.world.db.tasks, ∀ row' ∈ desk.world.db.tasks,
    (∃ r ∈ desk.receipts, ∃ task ∈ r.tasks, row.place = (runId, row.operatorKey, .torch) ∧
      task.operatorKey = .str row.operatorKey) →
    (∃ r ∈ desk.receipts, ∃ task ∈ r.tasks, row'.place = (runId, row'.operatorKey, .torch) ∧
      task.operatorKey = .str row'.operatorKey) → row.taskId = row'.taskId

/-- All submissions that returned a task found the same context. -/
def Desk.OneContext (host : Host) (desk : Desk) : Prop :=
  ∀ r ∈ desk.receipts, ∀ r' ∈ desk.receipts, r.tasks ≠ [] → r'.tasks ≠ [] →
    ∀ t t' c c', r.target = .ok t → r'.target = .ok t' → t.context host = .ok c →
      t'.context host = .ok c' → c.Same c'

/-- `sort_keys`: the text of a value does not depend on the order of its keys. -/
def Host.SortsKeys (host : Host) : Prop := ∀ a b : Json, a.sorted = b.sorted → host.dumps a = host.dumps b

/-- No two different contracts the entry was submitted as share a digest. -/
def Desk.Apart (host : Host) (entry : Dict) (desk : Desk) : Prop :=
  ∀ r ∈ desk.receipts, ∀ r' ∈ desk.receipts, ∀ t t' a b, r.target = .ok t → r'.target = .ok t' →
    Discovery.SpecOf host entry t a → Discovery.SpecOf host entry t' b →
    host.sha256 (host.dumps a.identity).utf8 = host.sha256 (host.dumps b.identity).utf8 →
    a.identity.sorted = b.identity.sorted

section Histories
variable {host : Host} {runId : Text} {entry : Dict}

/-- A returned task and the specification it came from. -/
structure Issued (host : Host) (entry : Dict) (target : Discovery.Target) (task : Task)
    (spec : OperatorSpec) : Prop where
  made : Discovery.SpecOf host entry target spec
  keyed : ∃ key, spec.operatorKey host = .ok key ∧ task.operatorKey = .str key

/-- What is known of a desk: its tables are sound, and every task was issued for the entry. -/
structure Desk.Kept (host : Host) (entry : Dict) (desk : Desk) : Prop where
  sound : Sound desk.world.ledger
  issued : ∀ receipt ∈ desk.receipts, ∀ task ∈ receipt.tasks, ∃ target spec,
    receipt.target = .ok target ∧ Issued host entry target task spec

/-- A report of one entry gives at most one specification, of that entry. -/
theorem specsFromReport_one {target : Discovery.Target} {origin : Dict}
    (ok : Discovery.specsFromReport host target (.obj (("entries", .arr [.obj entry]) :: origin))
      includeWaived = .ok specs) :
    specs = [] ∨ ∃ measured report, specs = [measured] ∧ Discovery.specFromEntry host
      { target with pluginRevision := target.revision } entry report = .ok measured := by
  have entries : Discovery.entries (.obj (("entries", .arr [.obj entry]) :: origin)) =
    .ok [entry] := rfl
  simp only [Discovery.specsFromReport, entries, ok_bind, Discovery.specsFrom] at ok
  split at ok
  · cases ok
  · split at ok
    · exact .inl (Except.ok.inj ok).symm
    · split at ok
      · cases ok
      · obtain ⟨measured, made, ok⟩ := bind_ok.mp ok
        exact .inr ⟨measured, _, (pure_ok.mp ok).symm, made⟩

/-- Naming the operator changes no measurement. -/
theorem normalized_same (entry : Dict) :
    Discovery.SameMeasurements entry (Bridge.normalized entry) := by
  intro key member
  have other : (key == "operator_id") = false := by
    simp only [Discovery.measuredFields, List.mem_cons, List.not_mem_nil, or_false] at member
    rcases member with rfl | rfl | rfl | rfl <;> decide
  unfold Bridge.normalized
  split
  · unfold Discovery.setDefault
    split
    · rfl
    · rw [Dict.getD, Dict.getD, Dict.get?, Dict.get?, List.lookup_append]
      cases List.lookup key entry with
      | some value => rfl
      | none => simp [List.lookup_cons, other]
  · rfl

theorem discover_spec {w : World} {disk : Disk} {origin : Dict} (sound : Sound w.ledger)
    (args : DiscoverArgs) :
    Prog.wp (discover host disk runId args (Submission.report entry origin))
      (fun tasks u => Sound u.ledger ∧ ∃ run, w.db.run? runId = some run ∧
        ∀ task ∈ tasks, ∃ spec, Issued host entry (discoverTarget args run) task spec)
      (fun _ u => Sound u.ledger) w := by
  unfold discover requireRun
  rw [Prog.wp_bind, Prog.wp_bind, wp_query]
  cases known : w.db.run? runId with
  | none => exact sound
  | some run =>
    dsimp only
    rw [Prog.wp_pure, Prog.wp_bind, Prog.wp_require]
    refine ⟨fun _ => ?_, fun _ => sound⟩
    rw [Prog.wp_bind, Prog.wp_lift]
    refine ⟨fun specs converted => ?_, fun _ _ => sound⟩
    rcases specsFromReport_one converted with rfl | ⟨measured, report, rfl, made⟩
    · exact ⟨sound, run, rfl, nofun⟩
    · change Prog.wp (discoverMeasured host disk runId measured >>= fun task => pure [task]) _ _ w
      rw [Prog.wp_bind]
      have discovered := (discoverMeasured_spec host disk sound runId measured).also
        (P := fun u => Sound u.ledger) (discoverMeasured_sound host disk sound runId measured)
      apply discovered.mono
      · rintro task u _ ⟨⟨key, keyed, found⟩, sound'⟩
        refine ⟨sound', run, rfl, fun task' member => ?_⟩
        obtain rfl := List.mem_singleton.mp member
        exact ⟨measured.spec, ⟨entry, report, measured, fun _ _ => rfl, made, rfl⟩, key, keyed,
          found.keyed⟩
      · exact fun _ _ _ raised => raised.2

variable (host runId entry) in
theorem submit_spec {w : World} (sound : Sound w.ledger) (submission : Submission) :
    Prog.wp (submission.submit host runId entry)
      (fun tasks u => Sound u.ledger ∧ ∃ run, w.db.run? runId = some run ∧
        ∀ task ∈ tasks, ∃ target spec, submission.target run = .ok target ∧
          Issued host entry target task spec)
      (fun _ u => Sound u.ledger) w := by
  cases submission with
  | cli disk args origin =>
    apply (discover_spec sound args).mono
    · rintro tasks u _ ⟨sound', run, known, issued⟩
      refine ⟨sound', run, known, fun task member => ?_⟩
      obtain ⟨spec, made⟩ := issued task member
      exact ⟨_, spec, rfl, made⟩
    · exact fun _ _ _ raised => raised
  | dispatch disk bridge =>
    change Prog.wp (List.map Prod.snd <$> Bridge.dispatchEntry host disk { bridge with runId }
      (.obj entry)) _ _ w
    rw [Prog.wp_map]
    cases known : w.db.run? runId with
    | none =>
      unfold Bridge.dispatchEntry
      dsimp only
      rw [Prog.wp_bind, Prog.wp_require]
      refine ⟨fun _ => ?_, fun _ => sound⟩
      simp only [Bridge.run, requireRun, Prog.wp_bind, wp_query, known]
      exact sound
    | some run =>
      have named : w.db.run? ({ bridge with runId } : Bridge).runId = some run := known
      apply (Bridge.dispatchEntry_spec sound named (.obj entry)).mono
      · rintro found u _ ⟨ahead, became, _⟩
        refine ⟨ahead.1, run, rfl, fun task member => ?_⟩
        obtain ⟨pair, listed, rfl⟩ := List.mem_map.mp member
        obtain ⟨fields, measured, key, same, ⟨target, aimed, converted⟩, keyed, _, _, shown, _⟩ :=
          became pair listed
        obtain rfl := Json.obj.inj same
        rcases specsFromReport_one converted with none | ⟨measured', report, one, made⟩
        · cases none
        · cases one
          exact ⟨target, measured.spec, aimed,
            ⟨_, report, measured, normalized_same entry, made, rfl⟩, key, keyed, shown⟩
      · exact fun _ _ _ raised => raised.1

theorem event_kept {desk : Desk} (kept : desk.Kept host entry) (event : Event) :
    (desk.event host runId entry event).Kept host entry := by
  cases event with
  | call call => exact ⟨step_sound kept.sound call, kept.issued⟩
  | submit submission =>
    have spec := submit_spec host runId entry kept.sound submission
    unfold Prog.wp at spec
    unfold Desk.event
    dsimp only
    rcases outcome : submission.submit host runId entry desk.world with ⟨_ | tasks, after⟩
    · rw [outcome] at spec
      exact ⟨spec, kept.issued⟩
    · rw [outcome] at spec
      obtain ⟨sound, run, known, issued⟩ := spec
      refine ⟨sound, fun receipt member task listed => ?_⟩
      rcases List.mem_append.mp member with member | member
      · exact kept.issued receipt member task listed
      · obtain rfl := List.mem_singleton.mp member
        obtain ⟨target, spec, aimed, made⟩ := issued task listed
        refine ⟨target, spec, ?_, made⟩
        simp only [known]
        exact aimed

theorem events_kept (events : List Event) {desk : Desk} (kept : desk.Kept host entry) :
    (events.foldl (Desk.event host runId entry) desk).Kept host entry := by
  induction events generalizing desk with
  | nil => exact kept
  | cons event rest ih => exact ih (event_kept kept event)

/-- One key for two issued tasks means one contract, as far as digests tell. -/
theorem Issued.contracts {target target' : Discovery.Target} {task task' : Task}
    {a b : OperatorSpec} (one : Issued host entry target task a)
    (other : Issued host entry target' task' b) (same : task'.operatorKey = task.operatorKey) :
    host.sha256 (host.dumps a.identity).utf8 = host.sha256 (host.dumps b.identity).utf8 := by
  obtain ⟨key, keyed, shown⟩ := one.keyed
  obtain ⟨key', keyed', shown'⟩ := other.keyed
  rw [shown, shown'] at same
  obtain rfl := Json.str.inj same
  unfold OperatorSpec.operatorKey at keyed keyed'
  split at keyed
  · split at keyed'
    · exact (Except.ok.inj keyed).trans (Except.ok.inj keyed').symm
    · cases keyed'
  · cases keyed

theorem Issued.same_key {target target' : Discovery.Target} {task task' : Task}
    {a b : OperatorSpec} (sorts : host.SortsKeys) (one : Issued host entry target task a)
    (other : Issued host entry target' task' b) (same : a.identity.sorted = b.identity.sorted) :
    task'.operatorKey = task.operatorKey := by
  obtain ⟨key, keyed, shown⟩ := one.keyed
  obtain ⟨key', keyed', shown'⟩ := other.keyed
  unfold OperatorSpec.operatorKey at keyed keyed'
  split at keyed
  · split at keyed'
    · rw [shown, shown', ← Except.ok.inj keyed, ← Except.ok.inj keyed', sorts _ _ same]
    · cases keyed'
  · cases keyed

/-- The tables hold one torch task for a place. -/
theorem Sound.one_torch {l : World} (sound : Sound l.ledger) {row row' : TaskRow}
    (stored : row ∈ l.db.tasks) (stored' : row' ∈ l.db.tasks)
    (place : row.place = (runId, row.operatorKey, .torch))
    (place' : row'.place = (runId, row'.operatorKey, .torch))
    (same : row'.operatorKey = row.operatorKey) : row.taskId = row'.taskId := by
  obtain ⟨owned, torch⟩ : row.runId = runId ∧ row.stage = .torch := by
    simpa [TaskRow.place] using place
  obtain ⟨owned', torch'⟩ : row'.runId = runId ∧ row'.stage = .torch := by
    simpa [TaskRow.place] using place'
  rw [(sound.torch_id stored torch).1, (sound.torch_id stored' torch').1, owned, owned', same]

/-- Submitting an entry again gives the same key and no second task exactly when it is measured in
one context throughout. -/
theorem discovery_idempotent (host : Host) (runId : Text) (entry : Dict)
    (calls : List (Disk × Call)) (events : List Event) (sorts : host.SortsKeys)
    (apart : (events.foldl (Desk.event host runId entry) ⟨history host calls, []⟩).Apart host entry) :
    (events.foldl (Desk.event host runId entry) ⟨history host calls, []⟩).Idempotent runId ↔
      (events.foldl (Desk.event host runId entry) ⟨history host calls, []⟩).OneContext host := by
  have kept : (events.foldl (Desk.event host runId entry) ⟨history host calls, []⟩).Kept host entry :=
    events_kept events ⟨history_sound calls, nofun⟩
  generalize events.foldl (Desk.event host runId entry) ⟨history host calls, []⟩ = desk at *
  constructor
  · intro idempotent r member r' member' some some' t t' c c' aimed aimed' context context'
    obtain ⟨task, listed⟩ := List.exists_mem_of_ne_nil _ some
    obtain ⟨task', listed'⟩ := List.exists_mem_of_ne_nil _ some'
    obtain ⟨target, a, found, issued⟩ := kept.issued r member task listed
    obtain ⟨target', b, found', issued'⟩ := kept.issued r' member' task' listed'
    rw [aimed] at found
    rw [aimed'] at found'
    cases found
    cases found'
    have digests := issued.contracts issued'
      (idempotent.key r member r' member' task listed task' listed')
    have contracts := apart r member r' member' t t' a b aimed aimed' issued.made issued'.made digests
    exact (issued.made.identity_iff issued'.made context context').mp contracts
  · intro one
    have key : ∀ r ∈ desk.receipts, ∀ r' ∈ desk.receipts, ∀ task ∈ r.tasks, ∀ task' ∈ r'.tasks,
        task'.operatorKey = task.operatorKey := by
      intro r member r' member' task listed task' listed'
      obtain ⟨t, a, aimed, issued⟩ := kept.issued r member task listed
      obtain ⟨t', b, aimed', issued'⟩ := kept.issued r' member' task' listed'
      obtain ⟨c, context, _⟩ := issued.made.context
      obtain ⟨c', context', _⟩ := issued'.made.context
      apply issued.same_key sorts issued'
      rw [issued.made.identity_iff issued'.made context context']
      exact one r member r' member' (List.ne_nil_of_mem listed) (List.ne_nil_of_mem listed') t t' c c'
        aimed aimed' context context'
    refine ⟨key, ?_⟩
    rintro row stored row' stored' ⟨r, member, task, listed, place, shown⟩
      ⟨r', member', task', listed', place', shown'⟩
    have same := key r member r' member' task listed task' listed'
    rw [shown, shown'] at same
    exact kept.sound.one_torch stored stored' place place' (Json.str.inj same)

variable (host entry) in
/-- The same context object at every submission is one context, whatever the digests. -/
theorem Desk.of_one_target {desk : Desk}
    (same : ∀ r ∈ desk.receipts, ∀ r' ∈ desk.receipts, r'.target = r.target) :
    desk.Apart host entry ∧ desk.OneContext host := by
  have one {t t' : Discovery.Target} {r r' : Receipt} (member : r ∈ desk.receipts)
      (member' : r' ∈ desk.receipts) (aimed : r.target = .ok t) (aimed' : r'.target = .ok t') :
      t' = t := by
    rw [same r member r' member', aimed] at aimed'
    exact (Except.ok.inj aimed').symm
  constructor
  · intro r member r' member' t t' a b aimed aimed' made made' _
    obtain rfl := one member member' aimed aimed'
    obtain ⟨c, context, _⟩ := made.context
    exact (made.identity_iff made' context context).mpr ⟨rfl, rfl, rfl, rfl, rfl⟩
  · intro r member r' member' _ _ t t' c c' aimed aimed' context context'
    obtain rfl := one member member' aimed aimed'
    rw [context] at context'
    cases context'
    exact ⟨rfl, rfl, rfl, rfl, rfl⟩

end Histories

/-! An entry submitted through the command line and then dispatched: one run, one proof, and two
operators. -/

/-- A digest that adds up the bytes. -/
def checksum (content : Bytes) : Text :=
  ⟨List.replicate 64 ⟨48 + (content.foldl (fun sum byte => sum + byte.toNat) 0) % 10, digitCode_lt _⟩⟩

/-- Two documents are told apart by their canonical text. -/
def Host.sorting : Host := { Bridge.hostSample with
  dumps := fun value => ⟨Py.dumps ⟨fun _ => [48], fun _ => none⟩ .canonical value.sorted⟩
  sha256 := checksum
  sha256_length := fun content => by simp [checksum]
  sha256_hex := fun content => by
    simp only [checksum, List.all_replicate, isHex_digitCode]
    decide }

theorem Host.sorting_sorts : Host.sorting.SortsKeys := fun a b same => by
  change (⟨_⟩ : Text) = ⟨_⟩
  rw [same]

def entrySample : Dict :=
  [("operator_id", .str "op"), ("inputs", .arr [IOSpec.sample.toDict]),
    ("outputs", .arr [IOSpec.sample.toDict]), ("semantics", .obj [("formula", .str "x")])]

/-- A run with a bound proof. -/
def provenCalls : List (Disk × Call) :=
  [.createRun Bridge.runSample,
    .bindEnvironment "run" (proofSample "alice" "pod") (.str "/evidence")].map
    (Bridge.diskSample, ·)

def deskSample (submissions : List Submission) : Desk :=
  (submissions.map Event.submit).foldl (Desk.event Host.sorting "run" entrySample)
    ⟨history Host.sorting provenCalls, []⟩

def Receipt.keys (receipt : Receipt) : List (Option Text) :=
  receipt.tasks.map fun task => match task.operatorKey with
    | .str key => some key
    | _ => none

theorem Desk.Idempotent.keys {desk : Desk} (idempotent : desk.Idempotent runId) :
    ∀ a ∈ desk.receipts.flatMap Receipt.keys, ∀ b ∈ desk.receipts.flatMap Receipt.keys, b = a := by
  intro a found b found'
  obtain ⟨r, member, found⟩ := List.mem_flatMap.mp found
  obtain ⟨r', member', found'⟩ := List.mem_flatMap.mp found'
  obtain ⟨task, listed, rfl⟩ := List.mem_map.mp found
  obtain ⟨task', listed', rfl⟩ := List.mem_map.mp found'
  rw [idempotent.key r member r' member' task listed task' listed']

theorem discover_then_dispatch :
    ¬ (deskSample [.cli Bridge.diskSample ⟨none, none, none, none, false⟩ [],
      .dispatch Bridge.diskSample Bridge.sample]).Idempotent "run" := by
  intro idempotent
  have keys : (deskSample [.cli Bridge.diskSample ⟨none, none, none, none, false⟩ [],
      .dispatch Bridge.diskSample Bridge.sample]).receipts.flatMap Receipt.keys =
      [some ⟨List.replicate 64 51⟩, some ⟨List.replicate 64 56⟩] := by decide +kernel
  have same := idempotent.keys
  rw [keys] at same
  have one := same _ List.mem_cons_self _ (List.mem_cons_of_mem _ List.mem_cons_self)
  exact absurd one (by decide)

/-- A dispatched context, in texts. -/
def Receipt.found (receipt : Receipt) : Option (List Text) :=
  match receipt.target with
  | .ok ⟨modelId, backend, modelRevision, pluginRevision, .obj [(key, .str value)]⟩ =>
      some [modelId, backend, modelRevision, pluginRevision, key, value]
  | _ => none

theorem Receipt.found_target {receipt : Receipt} (found : receipt.found = some texts) :
    ∃ a b c d e f, texts = [a, b, c, d, e, f] ∧
      receipt.target = .ok ⟨a, b, c, d, .obj [(e, .str f)]⟩ := by
  unfold Receipt.found at found
  split at found
  · next same => exact ⟨_, _, _, _, _, _, (Option.some.inj found).symm, same⟩
  · cases found

theorem Receipt.target_eq {r r' : Receipt} (found : r.found = some texts)
    (found' : r'.found = some texts) : r'.target = r.target := by
  obtain ⟨a, b, c, d, e, f, rfl, target⟩ := found_target found
  obtain ⟨_, _, _, _, _, _, same, target'⟩ := found_target found'
  cases same
  rw [target, target']

def foundSample : List Text :=
  ["model", "xpu", "1", "1", "fingerprint", ⟨List.replicate 64 51⟩]

theorem discovery_idempotent_sample : (deskSample [.dispatch Bridge.diskSample Bridge.sample,
    .dispatch Bridge.diskSample Bridge.sample]).Idempotent "run" := by
  have found : (deskSample [.dispatch Bridge.diskSample Bridge.sample,
      .dispatch Bridge.diskSample Bridge.sample]).receipts.map Receipt.found =
      List.replicate 2 (some foundSample) := by
    decide +kernel
  have each : ∀ r ∈ (deskSample [.dispatch Bridge.diskSample Bridge.sample,
      .dispatch Bridge.diskSample Bridge.sample]).receipts,
      r.found = some foundSample := by
    intro r member
    have listed := List.mem_map_of_mem (f := Receipt.found) member
    rw [found] at listed
    exact List.eq_of_mem_replicate listed
  have one := Desk.of_one_target Host.sorting entrySample fun r member r' member' =>
    Receipt.target_eq (each r member) (each r' member')
  exact (discovery_idempotent Host.sorting "run" entrySample provenCalls _ Host.sorting_sorts
    one.1).mpr one.2

end InferForge

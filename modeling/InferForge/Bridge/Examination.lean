import InferForge.Bridge.Finalize

/-! What the examination of a delivery establishes of the facts that it is given, and of the baseline that was
frozen before them. -/
namespace InferForge
open Py Effect Sched ResultValidation
namespace Bridge
variable {host : Host} {disk : Disk} {bridge : Bridge} {run : AdaptationRun}

theorem refuseAll_ok {errors : List Text} {u : Unit} : refuseAll errors = .ok u ↔ errors = [] := by
  rw [refuseAll, refuse_ok]
  simp

/-! ## Regressions -/

section Regressions
variable {gate : DeliveryStatus} {evidence : FileEvidence}

/-- An attempt of the run that was started when the scheduler showed this gate, open. -/
structure StartedFrom (host : Host) (disk : Disk) (bridge : Bridge) (root : Path) (gate : DeliveryStatus)
    (evidence : FileEvidence) : Prop where
  started : ∃ attempt snapshot, locateAttempt host disk root = .ok (some attempt) ∧ attempt.runId = bridge.runId ∧
    fileEvidence host disk ((attempt.root.child "input").child "scheduler_snapshot.json") = .ok evidence ∧
    loadObject host disk ((attempt.root.child "input").child "scheduler_snapshot.json") = .ok snapshot ∧
    Dict.get? snapshot "state" = some (.str "OPERATORS_READY") ∧
    Dict.get? snapshot "snapshot_token" = some (.str (gate.snapshotToken host)) ∧
    ∀ key ∈ snapshotKeys, ∃ found, Dict.get? snapshot key = some found ∧
      found.eq (Dict.getD (gate.toDict host) key .null) = true

/-- The accuracy run refers to the service proof that is there. -/
structure RefersTo (host : Host) (disk : Disk) (serviceRoot : Path) (evidence : FileEvidence) : Prop where
  proof : ∃ snapshot proof, loadObject host disk (.ofText evidence.path) = .ok snapshot ∧
    fileEvidence host disk (serviceRoot.child "status.json") = .ok proof ∧
    (Dict.getD snapshot "service_proof" .null).eq proof.json = true

theorem differs_false {document : Dict} {key : Text} {value : Json} : differs document key value = false ↔
    ∃ found, document.get? key = some found ∧ found.eq value = true := by
  unfold differs
  cases document.get? key <;> simp

theorem regressionSnapshot_started
    (ok : regressionSnapshot host disk bridge root gate kind = .ok (path, evidence)) :
    StartedFrom host disk bridge root gate evidence := by
  obtain ⟨located, found, ok⟩ := bind_ok.mp ok
  cases located with
  | none => cases ok
  | some attempt =>
    simp only [bind_ok, refuse_ok, pure_ok, Prod.mk.injEq, Bool.not_eq_false'] at ok
    obtain ⟨_, own, _, recorded, snapshot, loaded, _, open', _, shared, rfl, rfl⟩ := ok
    have keys : ∀ key ∈ snapshotKeys, ∃ found, Dict.get? snapshot key = some found ∧
        found.eq (Dict.getD (gate.toDict host) key .null) = true := by
      intro key member
      have passed : checkSnapshotKey (gate.toDict host) kind snapshot key = .ok () := forM_member shared member
      exact differs_false.mp (refuse_ok.mp passed)
    refine ⟨attempt, snapshot, found, by simpa using own, recorded, loaded, ?_, ?_, keys⟩
    · exact get?_of_getD ((Json.eq_str_right _ _).mp open') (by simp)
    · obtain ⟨token, held, same⟩ := keys "snapshot_token" (by decide)
      rw [held, (Json.eq_str_right _ _).mp same]

theorem serviceSnapshot_started (ok : serviceSnapshot host disk bridge root gate = .ok evidence) :
    StartedFrom host disk bridge root gate evidence := by
  obtain ⟨⟨path, found⟩, taken, same⟩ := bind_ok.mp ok
  obtain rfl := pure_ok.mp same
  exact regressionSnapshot_started taken

theorem accuracySnapshot_started (ok : accuracySnapshot host disk bridge root serviceRoot gate = .ok evidence) :
    StartedFrom host disk bridge root gate evidence ∧ RefersTo host disk serviceRoot evidence := by
  obtain ⟨⟨path, found⟩, taken, ok⟩ := bind_ok.mp ok
  simp only [bind_ok, refuse_ok, pure_ok, Bool.not_eq_false'] at ok
  obtain ⟨snapshot, loaded, proof, there, _, same, rfl⟩ := ok
  exact ⟨regressionSnapshot_started taken, snapshot, proof, loaded, there, same⟩

end Regressions

/-! ## Facts -/

section Facts
variable {facts : Facts} {walk : Path → Except Exn (List Path)}

/-- The validator on record did not reject its status. -/
def Accepted (status : Dict) : Prop :=
  ∃ validator, Dict.getD status "validator" (.obj []) = .obj validator ∧
    Dict.getD validator "passed" .null ≠ .bool false ∧ (Dict.getD validator "errors" .null).truthy = false

/-- A fact that was handed over: of this run, where the run says it is, and accepted by its validator. -/
structure Held (host : Host) (disk : Disk) (bridge : Bridge) (run : AdaptationRun) (facts : Facts)
    (entry : Text × Text) (fact : Fact) : Prop where
  named : fact.name = entry.1
  rooted : ∃ given, facts.root? entry.1 = some given ∧ ensureExternal disk given = .ok fact.root
  own : (fact.root.isRelativeTo bridge.artifactRoot = true ∧
      ∃ attempt, locateAttempt host disk fact.root = .ok (some attempt) ∧ attempt.runId = bridge.runId) ∨
    entry.1 = "EnvironmentProof" ∧ importedProof run entry.1 fact.root entry.2 = .ok true
  status : loadObject host disk (fact.root.child entry.2) = .ok fact.status
  identity : ∃ imported, importedProof run entry.1 fact.root entry.2 = .ok imported ∧
    bridge.checkIdentity run (.obj fact.status) (entry.1 = "EnvironmentProof") imported = .ok ()
  accepted : Accepted fact.status

/-- The proof that was handed over lies where the bound one does. -/
def BoundProof (disk : Disk) (run : AdaptationRun) (facts : Facts) : Prop :=
  ∃ given proof artifacts path place, facts.root? "EnvironmentProof" = some given ∧
    (Json.obj run.environment).item "environment_proof" = .ok proof ∧ proof.item "artifact_root" = .ok artifacts ∧
    pathOf artifacts = .ok path ∧ disk.resolve path = .ok place ∧ disk.resolve given = .ok place

/-- A dispatch that is the one the scheduler accepted. -/
def Dispatched (host : Host) (disk : Disk) (run : AdaptationRun) (status : Dict) : Prop :=
  ∃ accepted statusPath path recorded, (Json.obj run.metadata).item "graph_discovery" = .ok accepted ∧
    accepted.item "status_path" = .ok statusPath ∧ pathOf statusPath = .ok path ∧
    loadObject host disk path = .ok recorded ∧ (Json.obj status).eq (.obj recorded) = true

/-- An integration report that refers to the baseline that was handed over. -/
def OnBaseline (disk : Disk) (facts : Facts) (report : Dict) : Prop :=
  ∃ root given path place, facts.root? "ServingBaseline" = some root ∧
    (Json.obj report).item "baseline_path" = .ok given ∧ pathOf given = .ok path ∧
    disk.resolve path = .ok place ∧ disk.resolve (root.child "baseline_manifest.json") = .ok place

theorem factRoot_ok : factRoot facts name = .ok root ↔ facts.root? name = some root := by
  unfold factRoot
  cases facts.root? name <;> simp

theorem importedProof_named (imported : importedProof run name root stateFile = .ok true) : name = "EnvironmentProof" := by
  by_contra other
  rw [importedProof, if_neg other] at imported
  cases imported

theorem checkValidator_accepted (ok : checkValidator name status = .ok ()) : Accepted status := by
  unfold checkValidator at ok
  dsimp only at ok
  split at ok
  · next validator held =>
    simp only [refuse_ok, Bool.or_eq_false_iff] at ok
    exact ⟨validator, held, fun rejected => by simp [rejected, Json.isFalse] at ok, ok.2⟩
  · cases ok

theorem collectFact_held (ok : collectFact host disk walk bridge run facts entry = .ok fact) :
    Held host disk bridge run facts entry fact := by
  simp only [collectFact, bind_ok, refuse_ok, pure_ok] at ok
  obtain ⟨given, handed, root, external, imported, flagged, _, inside, attempt, located, _, owned, status, loaded,
    _, own, _, validated, files, -, rfl⟩ := ok
  refine ⟨rfl, ⟨given, factRoot_ok.mp handed, external⟩, ?_, loaded, ⟨imported, flagged, own⟩,
    checkValidator_accepted validated⟩
  cases imported with
  | false =>
    simp only [Bool.not_false, Bool.and_true, Bool.not_eq_false', Bool.true_and, Option.any_eq_true] at inside owned
    obtain ⟨attempt, rfl, mine⟩ := owned
    exact .inl ⟨inside, attempt, located, by simpa using mine⟩
  | true => exact .inr ⟨importedProof_named flagged, flagged⟩

theorem statusOf_ok {found : List Fact} (ok : statusOf found name = .ok status) :
    ∃ fact ∈ found, fact.name = name ∧ fact.status = status := by
  unfold statusOf at ok
  split at ok
  · next fact listed =>
    exact ⟨fact, List.mem_of_find?_eq_some listed, by simpa using List.find?_some listed, Except.ok.inj ok⟩
  · cases ok

theorem checkBoundProof_bound (ok : checkBoundProof disk run facts = .ok ()) : BoundProof disk run facts := by
  simp only [checkBoundProof, bind_ok, refuse_ok, decide_eq_false_iff_not, not_not] at ok
  obtain ⟨root, handed, given, there, proof, held, artifacts, listed, path, named, place, here, rfl⟩ := ok
  exact ⟨root, proof, artifacts, path, _, factRoot_ok.mp handed, held, listed, named, here, there⟩

theorem checkHandedDispatch_dispatched {found : List Fact} (ok : checkHandedDispatch host disk run found = .ok ()) :
    ∃ fact ∈ found, fact.name = "OperatorTaskDispatch" ∧ Dispatched host disk run fact.status := by
  simp only [checkHandedDispatch, bind_ok, refuse_ok, Bool.not_eq_false'] at ok
  obtain ⟨accepted, held, handed, stated, statusPath, listed, path, named, recorded, loaded, same⟩ := ok
  obtain ⟨fact, member, name, rfl⟩ := statusOf_ok stated
  exact ⟨fact, member, name, accepted, statusPath, path, recorded, held, listed, named, loaded, same⟩

theorem checkIntegration_integrated {stores : Stores} {found : List Fact}
    (ok : checkIntegration host disk facts stores found = .ok ()) :
    ∃ fact ∈ found, fact.name = "OperatorIntegration" ∧ validateIntegration host disk stores fact.status = .ok [] ∧
      OnBaseline disk facts fact.status := by
  simp only [checkIntegration, bind_ok, refuseAll_ok, refuse_ok, decide_eq_false_iff_not, not_not] at ok
  obtain ⟨report, stated, errors, validated, _, rfl, given, held, path, named, referred, here, root, handed, frozen, there,
    rfl⟩ := ok
  obtain ⟨fact, member, name, rfl⟩ := statusOf_ok stated
  exact ⟨fact, member, name, validated, root, given, path, _, factRoot_ok.mp handed, held, named, here, there⟩

end Facts

/-! ## The frozen baseline -/

section Baseline
variable {facts : Facts}

/-- A service report that passes its validator and names files that are there. -/
structure ServiceValid (host : Host) (disk : Disk) (path : Path) (report : Dict) : Prop where
  passing : deploymentErrors report = .ok []
  artifacts : ∃ names files, (Dict.getD report "artifacts" (.arr [])).elements = .ok names ∧
    artifactFiles host disk path.parent names = .ok files

/-- Evidence that a baseline refers to: of this run, passing, and the very file that was frozen. -/
structure Referenced (host : Host) (disk : Disk) (bridge : Bridge) (run : AdaptationRun) (baselinePath : Path)
    (reference : Json) (expected : Text) (path : Path) (report : Dict) : Prop where
  state : reference.field "state" = .ok (.str expected)
  artifact : ∃ artifact, reference.field "artifact" = .ok artifact ∧ artifact.truthy = true ∧
    referencePath baselinePath artifact = .ok path
  inside : ∃ place, disk.resolve path = .ok place ∧ place.isRelativeTo bridge.artifactRoot = true
  managed : ∃ attempt, locateAttempt host disk path = .ok (some attempt) ∧ attempt.runId = bridge.runId
  loaded : loadObject host disk path = .ok report
  own : bridge.checkIdentity run (.obj report) false false = .ok ()
  passing : Dict.getD report "state" (Dict.getD report "status" .null) = .str expected
  unchanged : ∃ file, fileEvidence host disk path = .ok file ∧ reference.field "sha256" = .ok (.str file.sha256)

/-- A frozen baseline of the run, with the two reports that it refers to. -/
structure Frozen (host : Host) (disk : Disk) (bridge : Bridge) (run : AdaptationRun) (baselinePath : Path)
    (baseline : Dict) : Prop where
  loaded : loadObject host disk baselinePath = .ok baseline
  own : bridge.checkIdentity run (.obj baseline) false false = .ok ()
  environment : bridge.checkIdentity run (Dict.getD baseline "environment" (.obj [])) false false = .ok ()
  status : Dict.getD baseline "status" .null = .str "FROZEN"
  named : (Dict.getD baseline "baseline_id" .null).truthy = true
  subject : Dict.getD baseline "subject" .null = .str bridge.subject
  service : ∃ path report, Referenced host disk bridge run baselinePath (Dict.getD baseline "service" (.obj []))
    "DEPLOYMENT_READY" path report ∧ ServiceValid host disk path report
  accuracy : ∃ path report, Referenced host disk bridge run baselinePath (Dict.getD baseline "accuracy" (.obj []))
    "ACCURACY_PASS" path report ∧ accuracyErrors host report = .ok [] ∧ revisionMatches run report = true

/-- What the inventory lists of the evidence of a baseline. -/
def IsSource (host : Host) (disk : Disk) (baseline : Dict) (field : Text) (source : Text × FileEvidence) : Prop :=
  source.1 = field ∧ ∃ reference artifact path, (Json.obj baseline).item field = .ok reference ∧
    reference.item "artifact" = .ok artifact ∧ pathOf artifact = .ok path ∧ fileEvidence host disk path = .ok source.2

theorem checkService_valid (ok : checkService host disk path report = .ok ()) : ServiceValid host disk path report := by
  simp only [checkService, bind_ok, refuseAll_ok] at ok
  obtain ⟨_, passing, _, rfl, names, listed, files, there, -⟩ := ok
  exact ⟨passing, names, files, listed, there⟩

/-- What one round of the baseline's check establishes, before the validator of its field. -/
theorem checkReference_referenced {baseline : Dict}
    (ok : checkReference host disk bridge run baselinePath baseline field expected = .ok ()) :
    ∃ path report, Referenced host disk bridge run baselinePath (Dict.getD baseline field (.obj [])) expected path report ∧
      (field = "accuracy" → revisionMatches run report = true) ∧
      (if field = "service" then checkService host disk path report
        else do refuseAll (← accuracyErrors host report)) = .ok () := by
  simp only [checkReference, bind_ok, refuse_ok, Bool.or_eq_false_iff, Bool.not_eq_false', Option.any_eq_true] at ok
  obtain ⟨state, stated, artifact, named, _, ⟨passed, some'⟩, path, located, place, resolved, _, inside, owner, managed,
    _, ⟨attempt, rfl, mine⟩, report, loaded, _, own, _, revised, _, passing, file, there, digest, listed, _, same,
    judged⟩ := ok
  obtain rfl := (Json.eq_str_right _ _).mp passed
  obtain rfl := (Json.eq_str_right _ _).mp same
  refine ⟨path, report, ⟨stated, ⟨artifact, named, some', located⟩, ⟨place, resolved, inside⟩,
    ⟨attempt, managed, by simpa using mine⟩, loaded, own, (Json.eq_str_right _ _).mp passing, file, there, listed⟩, ?_, judged⟩
  rintro rfl
  simpa using revised

theorem validateBaseline_frozen (ok : validateBaseline host disk bridge run baselinePath = .ok baseline) :
    Frozen host disk bridge run baselinePath baseline := by
  simp only [validateBaseline, bind_ok, refuse_ok, pure_ok, Bool.or_eq_false_iff, Bool.not_eq_false'] at ok
  obtain ⟨_, loaded, _, own, _, environment, _, ⟨status, named⟩, _, subject, _, service, _, accuracy, rfl⟩ := ok
  obtain ⟨path, report, referenced, -, valid⟩ := checkReference_referenced service
  obtain ⟨path', report', referenced', revised, judged⟩ := checkReference_referenced accuracy
  have other : ("accuracy" : Text) ≠ "service" := by decide
  rw [if_neg other] at judged
  simp only [bind_ok, refuseAll_ok] at judged
  obtain ⟨errors, validated, rfl⟩ := judged
  exact ⟨loaded, own, environment, (Json.eq_str_right _ _).mp status, named, (Json.eq_str_right _ _).mp subject,
    ⟨path, report, referenced, checkService_valid (by simpa using valid)⟩,
    ⟨path', report', referenced', validated, revised rfl⟩⟩

theorem accuracyErrors_earned {report : Dict} (none : accuracyErrors host report = .ok [])
    (passed : (Dict.getD report "status" .null).eq (.str "ACCURACY_PASS") = true) : Accuracy.Earned report := by
  unfold accuracyErrors at none
  split at none
  · next listed compared against =>
    split at none
    · exact Accuracy.validateAccuracyReport_earned (get?_of_getD listed (by simp)) (get?_of_getD compared (by simp))
        (get?_of_getD against (by simp)) passed rfl none
    · simp at none
  · simp at none

/-- A current report, and the evidence of the baseline that it renews. -/
theorem checkCurrent_renewed {baseline : Dict}
    (ok : checkCurrent host disk bridge run facts baseline field fact filename = .ok source) :
    ∃ root report, facts.root? fact = some root ∧ loadObject host disk (root.child filename) = .ok report ∧
      bridge.checkIdentity run (.obj report) false false = .ok () ∧
      checkRenewed host disk run field (root.child filename) report = .ok () ∧ IsSource host disk baseline field source := by
  simp only [checkCurrent, bind_ok, pure_ok] at ok
  obtain ⟨root, handed, report, loaded, _, own, _, renewed, reference, held, artifact, listed, path, named, file, there,
    rfl⟩ := ok
  exact ⟨root, report, factRoot_ok.mp handed, loaded, own, renewed, rfl, reference, artifact, path, held, listed, named,
    there⟩

theorem checkRenewed_service (ok : checkRenewed host disk run "service" path report = .ok ()) :
    ServiceValid host disk path report :=
  checkService_valid (by simpa [checkRenewed] using ok)

theorem checkRenewed_accuracy (ok : checkRenewed host disk run "accuracy" path report = .ok ()) :
    revisionMatches run report = true ∧ Accuracy.Earned report := by
  have other : ("accuracy" : Text) ≠ "service" := by decide
  simp only [checkRenewed, if_neg other, bind_ok, refuseAll_ok, refuse_ok, Bool.not_eq_false'] at ok
  obtain ⟨_, passed, _, revised, errors, judged, rfl⟩ := ok
  exact ⟨revised, accuracyErrors_earned judged passed⟩

end Baseline

/-! ## Shims -/

section Shims
variable {facts : Facts} {db : Store}

/-- What the shim registry of a delivered run says: a shim is waived or an operator of the run. -/
structure Integrated (host : Host) (disk : Disk) (bridge : Bridge) (facts : Facts) (db : Store) (keys : List Text) :
    Prop where
  registry : ∃ root shim entries, facts.root? "TorchShimRegistry" = some root ∧
    loadObject host disk (root.child "torch_shim_registry.json") = .ok shim ∧
    Dict.get? shim "entries" = some (.arr entries) ∧ validateShimHandoff host shim = .ok [] ∧
    ∀ entry ∈ entries, ∃ fields, entry = .obj fields ∧ (waived fields = true ∨
      ∃ key ∈ keys, ∃ spec, db.operator? bridge.runId key = some spec ∧ identifier fields = .str spec.operatorId)

theorem operatorNames_mem {keys names : List Text} (ok : operatorNames bridge db keys = .ok names) (member : name ∈ names) :
    ∃ key ∈ keys, ∃ spec, db.operator? bridge.runId key = some spec ∧ spec.operatorId = name := by
  obtain ⟨key, listed, found⟩ := forall₂_member (mapM_forall₂.mp ok).flip member
  split at found
  · next spec held => exact ⟨key, listed, spec, held, Except.ok.inj found⟩
  · cases found

theorem checkShim_ok {names : List Text} {entry : Json} (ok : checkShim names entry = .ok ()) :
    ∃ fields, entry = .obj fields ∧ (waived fields = true ∨ ∃ name ∈ names, identifier fields = .str name) := by
  cases entry with
  | obj fields =>
    refine ⟨fields, rfl, ?_⟩
    unfold checkShim at ok
    dsimp only at ok
    split at ok
    · next excused => exact .inl excused
    · simp only [bind_ok, refuse_ok, Bool.not_eq_false'] at ok
      obtain ⟨known, listed, rfl⟩ := ok
      exact .inr (Json.among_listed listed)
  | _ => cases ok

theorem checkShims_integrated {keys : List Text} (ok : checkShims host disk bridge facts db keys = .ok ()) :
    Integrated host disk bridge facts db keys := by
  simp only [checkShims, bind_ok, refuseAll_ok] at ok
  obtain ⟨root, given, shim, loaded, _, listed, errors, validated, _, rfl, names, named, entries, visited, checked⟩ := ok
  have shaped : checkRegistryField shim "entries" = .ok () := forM_member listed (by simp)
  unfold checkRegistryField at shaped
  split at shaped
  · next items held =>
    have found : Dict.get? shim "entries" = some (.arr items) := get?_of_getD held (by simp)
    rw [Dict.getD, found] at visited
    obtain rfl := Except.ok.inj visited
    refine ⟨root, shim, items, factRoot_ok.mp given, loaded, found, validated, fun entry member => ?_⟩
    obtain ⟨fields, rfl, settled⟩ := checkShim_ok (forM_member checked member)
    refine ⟨fields, rfl, settled.imp_right ?_⟩
    rintro ⟨name, among, same⟩
    obtain ⟨key, counted, spec, held, rfl⟩ := operatorNames_mem named among
    exact ⟨key, counted, spec, held, same⟩
  · cases shaped

end Shims

/-! ## The examination -/

section Examined
variable {gate : DeliveryStatus} {walk : Path → Except Exn (List Path)} {facts : Facts} {stores : Stores} {db : Store}

/-- What the examination establishes of the facts it was given. -/
structure Examined (host : Host) (disk : Disk) (bridge : Bridge) (run : AdaptationRun) (facts : Facts)
    (stores : Stores) (db : Store) (gate : DeliveryStatus) (inventory : Inventory) : Prop where
  held : List.Forall₂ (Held host disk bridge run facts) factStatus inventory.facts
  bound : BoundProof disk run facts
  required : ∀ entry ∈ requiredStates, ∃ fact ∈ inventory.facts, fact.name = entry.1 ∧
    Dict.getD fact.status "state" .null = .str entry.2
  dispatch : ∃ fact ∈ inventory.facts, fact.name = "OperatorTaskDispatch" ∧ Dispatched host disk run fact.status
  service : ∃ root report, facts.root? "DeploymentProof" = some root ∧
    StartedFrom host disk bridge root gate inventory.service ∧
    loadObject host disk (root.child "status.json") = .ok report ∧
    bridge.checkIdentity run (.obj report) false false = .ok () ∧
    ServiceValid host disk (root.child "status.json") report
  accuracy : ∃ root serviceRoot report, facts.root? "AccuracyDifferential" = some root ∧
    facts.root? "DeploymentProof" = some serviceRoot ∧
    StartedFrom host disk bridge root gate inventory.accuracy ∧ RefersTo host disk serviceRoot inventory.accuracy ∧
    loadObject host disk (root.child "accuracy_differential.json") = .ok report ∧
    bridge.checkIdentity run (.obj report) false false = .ok () ∧ revisionMatches run report = true ∧
    Accuracy.Earned report
  integration : ∃ fact ∈ inventory.facts, fact.name = "OperatorIntegration" ∧
    validateIntegration host disk stores fact.status = .ok [] ∧ OnBaseline disk facts fact.status
  baseline : ∃ root baseline, facts.root? "ServingBaseline" = some root ∧
    Frozen host disk bridge run (root.child "baseline_manifest.json") baseline ∧
    List.Forall₂ (IsSource host disk baseline) ["service", "accuracy"] inventory.sources
  shims : Integrated host disk bridge facts db gate.operatorKeys

theorem checkRequired_stated {found : List Fact} {entry : Text × Text} (ok : checkRequired found entry = .ok ()) :
    ∃ fact ∈ found, fact.name = entry.1 ∧ Dict.getD fact.status "state" .null = .str entry.2 := by
  simp only [checkRequired, bind_ok, refuse_ok, Bool.not_eq_false'] at ok
  obtain ⟨status, stated, same⟩ := ok
  obtain ⟨fact, listed, named, rfl⟩ := statusOf_ok stated
  exact ⟨fact, listed, named, (Json.eq_str_right _ _).mp same⟩

theorem examine_examined {inventory : Inventory}
    (ok : examine host disk walk bridge run facts stores db gate = .ok inventory) :
    Examined host disk bridge run facts stores db gate inventory := by
  simp only [examine, bind_ok, pure_ok] at ok
  obtain ⟨found, collected, _, bound, _, required, serviceRoot, service, accuracyRoot, accuracy, proof, served, compared,
    measured, _, dispatched, _, integrated, frozenRoot, frozen, baseline, valid, source, renewed, source', renewed', _,
    shimmed, rfl⟩ := ok
  have handed := factRoot_ok.mp service
  have measuredAt := factRoot_ok.mp accuracy
  obtain ⟨root, report, given, loaded, own, checked, listed⟩ := checkCurrent_renewed renewed
  obtain ⟨root', report', given', loaded', own', checked', listed'⟩ := checkCurrent_renewed renewed'
  obtain rfl := Option.some.inj (given.symm.trans handed)
  obtain rfl := Option.some.inj (given'.symm.trans measuredAt)
  obtain ⟨started, refers⟩ := accuracySnapshot_started measured
  obtain ⟨revised, earned⟩ := checkRenewed_accuracy checked'
  constructor
  case held => exact (mapM_forall₂.mp collected).imp fun _ _ => collectFact_held
  case bound => exact checkBoundProof_bound bound
  case required => exact fun entry member => checkRequired_stated (forM_member required member)
  case dispatch => exact checkHandedDispatch_dispatched dispatched
  case service => exact ⟨root, report, given, serviceSnapshot_started served, loaded, own, checkRenewed_service checked⟩
  case accuracy => exact ⟨root', root, report', given', given, started, refers, loaded', own', revised, earned⟩
  case integration => exact checkIntegration_integrated integrated
  case baseline =>
    exact ⟨frozenRoot, baseline, factRoot_ok.mp frozen, validateBaseline_frozen valid, .cons listed (.cons listed' .nil)⟩
  case shims => exact checkShims_integrated shimmed

/-- The comparison after the examination finds the same snapshots, of the gate as it is by then. -/
theorem checkAgain_ok {inventory : Inventory} (ok : checkAgain host disk bridge facts gate inventory = .ok ()) :
    gate.state = "OPERATORS_READY" ∧ ∃ root serviceRoot, facts.root? "AccuracyDifferential" = some root ∧
      facts.root? "DeploymentProof" = some serviceRoot ∧
      StartedFrom host disk bridge serviceRoot gate inventory.service ∧
      StartedFrom host disk bridge root gate inventory.accuracy ∧ RefersTo host disk serviceRoot inventory.accuracy := by
  simp only [checkAgain, bind_ok, refuse_ok, decide_eq_false_iff_not, not_not] at ok
  obtain ⟨_, ready, serviceRoot, service, root, accuracy, found, served, _, rfl, found', measured, rfl⟩ := ok
  obtain ⟨started, refers⟩ := accuracySnapshot_started measured
  exact ⟨ready, root, serviceRoot, factRoot_ok.mp accuracy, factRoot_ok.mp service, serviceSnapshot_started served,
    started, refers⟩

end Examined
end Bridge
end InferForge

import InferForge.Py.Equality
import InferForge.Scheduler.Tasks

/-! What an empty list from `validate_result` says: of the result, of its report, of the files
on disk, and of any other task, run or disk for which the same result would pass. -/
namespace InferForge
open Py Effect

namespace ResultValidation
variable {host : Host} {disk : Disk} {task : Task} {run : AdaptationRun} {worker : Json}

/-- A document repeats the identity of the claimed task and run. -/
structure Identifies (task : Task) (run : AdaptationRun) (fingerprint : Json) (document : Dict) :
    Prop where
  taskId : document.get? "task_id" = some (.str task.taskId)
  operatorKey : ∃ found, document.get? "operator_key" = some found ∧
    found.eq task.operatorKey = true
  stage : document.get? "stage" = some (.str task.stage.text)
  attempt : document.get? "attempt" = some (.int task.attempt)
  fingerprint : ∃ found, document.get? "environment_fingerprint" = some found ∧
    found.eq fingerprint = true
  mode : ∃ found, document.get? "evidence_mode" = some found ∧ found.eq run.evidenceMode = true

/-- An evidence entry is a path to a regular file with this content, which the submitted
digest is the digest of. -/
structure Filed (host : Host) (disk : Disk) (task : Task) (run : AdaptationRun)
    (digest : Option Json) (text : Text) (path : Path) (content : Bytes) : Prop where
  named : text.blank = false
  located : evidencePath run text = .ok (some path)
  inside : ∃ output, nestedGet task.input "workspace" "output" = .ok output ∧
    (output.truthy = true → ∃ base actual owned, pathOf output = .ok base ∧
      disk.resolve path = .ok actual ∧ disk.resolve base = .ok owned ∧
        actual.isRelativeTo owned = true)
  notLink : disk.isSymlink path = .ok false
  isFile : disk.isFile path = .ok true
  read : disk.read path = .ok content
  nonempty : content ≠ []
  digest : digest = some (.str (host.sha256 content))

/-- The report of an operator stage comes from somebody else, passed its checks and lists the
digests of all other evidence. -/
structure Independent (host : Host) (worker : Json) (evidence report : Dict)
    (content : Text → Bytes) : Prop where
  validator : ∃ name, report.get? "validator" = some (.str name) ∧ name.blank = false ∧
    worker ≠ .str name
  checks : ∃ checks, report.get? "checks" = some (.arr checks) ∧ checks ≠ [] ∧
    ∀ check ∈ checks, ∃ fields, check = .obj fields ∧
      (Dict.getD fields "name" .null).truthy = true ∧ Dict.get? fields "passed" = some (.bool true)
  binds : ∃ listed, report.get? "evidence_sha256" = some (.obj listed) ∧
    ∀ key, Dict.get? listed key = if key = "independent_validation" then none
      else (evidence.get? key).map fun _ => .str (host.sha256 (content key))

/-- What an accepted result establishes. -/
structure Established (host : Host) (disk : Disk) (task : Task) (run : AdaptationRun)
    (result : Dict) (worker fingerprint : Json) (evidence hashes report : Dict)
    (content : Text → Bytes) : Prop where
  bound : run.fingerprint = .ok fingerprint
  identified : Identifies task run fingerprint result
  submitted : result.get? "evidence" = some (.obj evidence)
  digests : result.get? "evidence_sha256" = some (.obj hashes)
  complete : ∀ key ∈ stageEvidence task.stage, evidence.has key = true
  files : ∀ key value, evidence.get? key = some value → ∃ text path, value = .str text ∧
    Filed host disk task run (hashes.get? key) text path (content key)
  parsed : host.loads (content (reportKey task.stage)) = some (.obj report)
  reported : Identifies task run fingerprint report
  independent : task.stage ≠ .diagnosis → Independent host worker evidence report content

theorem get?_of_getD {d : Dict} (found : Dict.getD d key .null = value) (real : value ≠ .null) :
    d.get? key = some value := by
  unfold Dict.getD at found
  cases here : d.get? key with
  | none => exact absurd (by rw [← found, here]; rfl) real
  | some other => rw [← found, here]; rfl

theorem differs_false {document : Dict} (same : differs document key value = false) :
    ∃ found, document.get? key = some found ∧ found.eq value = true := by
  unfold differs at same
  split at same
  · next found here => exact ⟨found, here, by simpa using same⟩
  · cases same

/-- The identity loop and the check of the attempt's type accept what identifies the task. -/
theorem identifies {document : Dict} {fingerprint : Json}
    (same : identityErrors document what (identity task run fingerprint) = [])
    (integer : (!(Dict.getD document "attempt" .null).isInt) = false) :
    Identifies task run fingerprint document := by
  have field {key : Text} {value : Json} (member : (key, value) ∈ identity task run fingerprint) :
      ∃ found, document.get? key = some found ∧ found.eq value = true :=
    differs_false (errorIf_nil (List.flatMap_eq_nil_iff.mp same (key, value) member))
  have text {key : Text} {t : Text} (member : (key, .str t) ∈ identity task run fingerprint) :
      document.get? key = some (.str t) := by
    obtain ⟨found, here, equal⟩ := field member
    rw [here, (Json.eq_str_right t found).mp equal]
  refine ⟨text ?_, field ?_, text ?_, ?_, field ?_, field ?_⟩ <;> try simp [identity]
  have numbered : (("attempt" : Text), Json.int task.attempt) ∈ identity task run fingerprint := by
    simp [identity]
  obtain ⟨found, here, equal⟩ := field numbered
  rw [Dict.getD, here, Option.getD_some, Bool.not_eq_false'] at integer
  cases found with
  | int n => rw [here, (Json.eq_int n task.attempt).mp equal]
  | null | bool | float | str | arr | obj => cases integer

theorem inside_of_outsideOutput (owned : outsideOutput disk task path = .ok false) :
    ∃ output, nestedGet task.input "workspace" "output" = .ok output ∧
      (output.truthy = true → ∃ base actual owned, pathOf output = .ok base ∧
        disk.resolve path = .ok actual ∧ disk.resolve base = .ok owned ∧
          actual.isRelativeTo owned = true) := by
  simp only [outsideOutput, bind_ok] at owned
  obtain ⟨output, given, owned⟩ := owned
  refine ⟨output, given, fun truthy => ?_⟩
  rw [if_pos truthy] at owned
  simp only [bind_ok, pure_ok] at owned
  obtain ⟨actual, here, base, named, root, there, relative⟩ := owned
  exact ⟨base, actual, root, named, here, there, by simpa using relative⟩

theorem regular_of_irregular (regular : irregular disk path = .ok false) :
    disk.isSymlink path = .ok false ∧ disk.isFile path = .ok true := by
  simp only [irregular, bind_ok] at regular
  obtain ⟨link, here, regular⟩ := regular
  split at regular
  · cases regular
  · next plain =>
    simp only [bind_ok, pure_ok] at regular
    obtain ⟨file, there, regular⟩ := regular
    rw [Bool.not_eq_true] at plain
    exact ⟨by rw [here, plain], by rw [there, ← Bool.not_not (b := file), regular]; rfl⟩

theorem readEvidence_ok (ok : readEvidence disk key path = .ok (.ok content)) :
    disk.read path = .ok content := by
  unfold readEvidence at ok
  split at ok
  · next found => rw [found, Except.ok.inj (Except.ok.inj ok)]
  · split at ok <;> cases ok

/-- A round of the evidence loop without an error has read a file that is as submitted. -/
theorem checkEvidence_filed {hashes : Dict}
    (ok : checkEvidence host disk task run hashes key value = .ok ([], content)) :
    ∃ text path bytes, value = .str text ∧ content = some bytes ∧
      Filed host disk task run (hashes.get? key) text path bytes := by
  unfold checkEvidence at ok
  split at ok
  case h_2 => cases ok
  case h_1 text =>
    split at ok
    · cases ok
    next named =>
    obtain ⟨found, located, ok⟩ := bind_ok.mp ok
    split at ok
    · cases ok
    next path =>
    obtain ⟨outside, owned, ok⟩ := bind_ok.mp ok
    split at ok
    · cases ok
    next inside =>
    obtain ⟨odd, regular, ok⟩ := bind_ok.mp ok
    split at ok
    · cases ok
    next plain =>
    obtain ⟨outcome, opened, ok⟩ := bind_ok.mp ok
    split at ok
    · cases ok
    next bytes =>
    rw [Bool.not_eq_true] at inside plain named
    subst inside plain
    obtain ⟨notLink, isFile⟩ := regular_of_irregular regular
    have pair := Prod.mk.inj (pure_ok.mp ok)
    obtain ⟨full, unchanged⟩ := List.append_eq_nil_iff.mp pair.1
    have unchanged := errorIf_nil unchanged
    rw [Bool.not_eq_false', Json.eq_str_right] at unchanged
    refine ⟨text, path, bytes, rfl, pair.2.symm, named, located, inside_of_outsideOutput owned,
      notLink, isFile, readEvidence_ok opened, ?_, get?_of_getD unchanged nofun⟩
    rintro rfl
    cases errorIf_nil full

/-- The loop keeps a content for every entry. -/
theorem checkAll_filed {evidence hashes : Dict}
    (ok : checkAll host disk task run hashes evidence = .ok ([], contents)) :
    List.Forall₂ (fun field entry => entry.1 = field.1 ∧ ∃ text path, field.2 = .str text ∧
      Filed host disk task run (hashes.get? field.1) text path entry.2) evidence contents := by
  induction evidence generalizing contents with
  | nil =>
    obtain rfl := (Prod.mk.inj (Except.ok.inj ok)).2
    exact .nil
  | cons field rest ih =>
    obtain ⟨key, value⟩ := field
    simp only [checkAll, bind_ok, pure_ok] at ok
    obtain ⟨⟨errors, content⟩, here, ⟨more, others⟩, there, pair⟩ := ok
    obtain ⟨clean, rfl⟩ := Prod.mk.inj pair
    obtain ⟨rfl, rfl⟩ := List.append_eq_nil_iff.mp clean
    obtain ⟨text, path, bytes, rfl, rfl, filed⟩ := checkEvidence_filed here
    exact .cons ⟨rfl, text, path, rfl, filed⟩ (ih there)

/-- The content the loop kept for a key. -/
def contentOf (contents : List (Text × Bytes)) (key : Text) : Bytes :=
  (contents.lookup key).getD []

theorem filed_lookup {R : Text → Json → Bytes → Prop} {evidence : Dict}
    {contents : List (Text × Bytes)}
    (each : List.Forall₂ (fun field entry => entry.1 = field.1 ∧ R field.1 field.2 entry.2)
      evidence contents) (found : evidence.get? key = some value) :
    R key value (contentOf contents key) := by
  unfold Dict.get? at found
  unfold contentOf
  induction each with
  | nil => cases found
  | @cons field entry _ _ here _ ih =>
    obtain ⟨k, v⟩ := field
    obtain ⟨k', bytes⟩ := entry
    obtain ⟨rfl, here⟩ := here
    rw [List.lookup_cons] at found ⊢
    cases same : key == k' with
    | true =>
      rw [same] at found
      obtain rfl := beq_iff_eq.mp same
      obtain rfl := Option.some.inj found
      exact here
    | false =>
      rw [same] at found
      exact ih found

theorem passedCheck_true (passed : passedCheck check = true) : ∃ fields, check = .obj fields ∧
    (Dict.getD fields "name" .null).truthy = true ∧ Dict.get? fields "passed" = some (.bool true) := by
  cases check with
  | obj fields =>
    rw [passedCheck, Bool.and_eq_true] at passed
    refine ⟨fields, rfl, passed.1, get?_of_getD ?_ nofun⟩
    cases given : Dict.getD fields "passed" .null with
    | bool value =>
      cases value with
      | true => rfl
      | false => simp [given, Json.isTrue] at passed
    | null | int | float | str | arr | obj => simp [given, Json.isTrue] at passed
  | null | bool | int | float | str | arr => cases passed

/-- The dict comprehension over the other evidence, as a map. -/
theorem expected_lookup (evidence : Dict) (except : Text) (f : Text → Json) (key : Text) :
    (((evidence.filter fun field => field.1 != except).map fun field =>
      (field.1, f field.1)).lookup key) =
      if key = except then none else (evidence.get? key).map fun _ => f key := by
  unfold Dict.get?
  induction evidence with
  | nil => simp
  | cons field rest ih =>
    obtain ⟨k, v⟩ := field
    by_cases left : k = except
    · subst left
      rw [List.filter_cons_of_neg (by simp), ih, List.lookup_cons]
      by_cases same : key = k
      · rw [if_pos same, if_pos same]
      · rw [beq_eq_false_iff_ne.mpr same]
    · rw [List.filter_cons_of_pos (by simpa using left), List.map_cons, List.lookup_cons,
        List.lookup_cons]
      by_cases same : key = k
      · subst same
        rw [beq_self_eq_true, if_neg left]
        rfl
      · rw [beq_eq_false_iff_ne.mpr same]
        exact ih

theorem independent {evidence hashes report : Dict} {content : Text → Bytes}
    (clean : independentErrors worker "independent_validation" evidence hashes report = [])
    (documents : (Json.obj report).distinct = true)
    (digests : ∀ key value, evidence.get? key = some value →
      hashes.get? key = some (.str (host.sha256 (content key)))) :
    Independent host worker evidence report content := by
  simp only [independentErrors, List.append_eq_nil_iff] at clean
  obtain ⟨⟨anonymous, unchecked⟩, unbound⟩ := clean
  have anonymous := errorIf_nil anonymous
  have unchecked := errorIf_nil unchecked
  have unbound := errorIf_nil unbound
  refine ⟨?_, ?_, ?_⟩
  · cases given : Dict.getD report "validator" .null with
    | str name =>
      simp only [given, Bool.or_eq_false_iff] at anonymous
      refine ⟨name, get?_of_getD given (by simp), anonymous.1, ?_⟩
      rintro rfl
      simp [Json.eq] at anonymous
    | null | bool | int | float | arr | obj => simp [given] at anonymous
  · cases given : Dict.getD report "checks" .null with
    | arr checks =>
      simp only [given, Bool.or_eq_false_iff, Bool.not_eq_false', List.all_eq_true] at unchecked
      refine ⟨checks, get?_of_getD given (by simp), ?_, fun check member =>
        passedCheck_true (unchecked.2 check member)⟩
      rintro rfl
      cases unchecked.1
    | null | bool | int | float | str | obj => simp [given] at unchecked
  · rw [Bool.not_eq_false'] at unbound
    cases given : Dict.getD report "evidence_sha256" .null with
    | obj listed =>
      have found := get?_of_getD given (by simp)
      refine ⟨listed, found, fun key => ?_⟩
      rw [given] at unbound
      have nodup : (listed.map Prod.fst).Nodup := by
        have inner := (Json.distinctFields_iff.mp documents).2 _
          (mem_of_lookup found)
        exact (Json.distinctFields_iff.mp inner).1
      have agree : Option.Rel (fun x y => x.eq y = true) (listed.lookup key)
          (if key = "independent_validation" then none
            else (evidence.get? key).map fun _ => Dict.getD hashes key .null) := by
        rw [← expected_lookup evidence _ fun key => Dict.getD hashes key .null]
        exact Json.eq_lookup nodup unbound key
      by_cases own : key = "independent_validation"
      · rw [if_pos own] at agree ⊢
        unfold Dict.get?
        generalize listed.lookup key = entry at agree ⊢
        cases agree
        rfl
      · rw [if_neg own] at agree ⊢
        unfold Dict.get? at agree ⊢
        generalize listed.lookup key = entry at agree ⊢
        cases here : List.lookup key evidence with
        | none =>
          rw [here] at agree
          cases agree
          rfl
        | some value =>
          rw [here, Option.map_some, Dict.getD, digests key value here, Option.getD_some] at agree
          cases agree with
          | some equal => rw [(Json.eq_str_right _ _).mp equal]; rfl
    | null | bool | int | float | str | arr => rw [given] at unbound; simp [Json.eq, Json.num?] at unbound

/-- An accepted result has passed every check. -/
theorem established {result : Dict}
    (documents : ∀ content value, host.loads content = some value → value.distinct = true)
    (ok : validateResult host disk task run result worker = .ok []) :
    ∃ fingerprint evidence hashes report content,
      Established host disk task run result worker fingerprint evidence hashes report content := by
  simp only [validateResult, bind_ok] at ok
  obtain ⟨fingerprint, bound, ok⟩ := ok
  split at ok
  case h_2 => simp at ok
  case h_1 evidence hashes given submitted =>
    simp only [bind_ok, pure_ok, List.append_eq_nil_iff] at ok
    obtain ⟨⟨errors, contents⟩, looped, report, checked, ⟨⟨head, complete⟩, rfl⟩, rfl⟩ := ok
    have given := get?_of_getD given (by simp)
    have each := checkAll_filed looped
    have files := fun key value (found : Dict.get? evidence key = some value) =>
      filed_lookup (R := fun key value bytes => ∃ text path, value = .str text ∧
        Filed host disk task run (Dict.get? hashes key) text path bytes) each found
    simp only [headErrors, List.append_eq_nil_iff] at head
    unfold reportFileErrors at checked
    split at checked
    · cases checked
    next bytes kept =>
    split at checked
    · split at checked <;> cases checked
    · next report parsed =>
      have content : contentOf contents (reportKey task.stage) = bytes := by
        rw [contentOf, kept]
        rfl
      simp only [reportErrors] at checked
      refine ⟨fingerprint, evidence, hashes, report, contentOf contents, bound,
        identifies head.1.2 (errorIf_nil head.2), given, get?_of_getD submitted (by simp), ?_, files,
        by rw [content, parsed], ?_, ?_⟩
      · intro key required
        simpa using errorIf_nil (List.flatMap_eq_nil_iff.mp complete key required)
      · split at checked
        · obtain ⟨rest, _, checked⟩ := bind_ok.mp checked
          simp only [pure_ok, List.append_eq_nil_iff] at checked
          exact identifies checked.1.1.1 (errorIf_nil checked.1.1.2)
        · simp only [pure_ok, List.append_eq_nil_iff] at checked
          exact identifies checked.1.1.1 (errorIf_nil checked.1.1.2)
      · intro operator
        rw [if_neg operator, pure_ok, List.append_eq_nil_iff, reportKey, if_neg operator] at checked
        apply independent checked.2 (documents _ _ parsed)
        intro key value found
        obtain ⟨_, _, _, filed⟩ := files key value found
        exact filed.digest
    · cases checked

/-- The result of one task and run stands for no other one. -/
structure SameSubject (task task' : Task) (run run' : AdaptationRun) : Prop where
  taskId : task.taskId = task'.taskId
  operatorKey : task.operatorKey.eq task'.operatorKey = true
  stage : task.stage = task'.stage
  attempt : task.attempt = task'.attempt
  fingerprint : ∃ bound bound', run.fingerprint = .ok bound ∧ run'.fingerprint = .ok bound' ∧
    bound.eq bound' = true
  mode : run.evidenceMode.eq run'.evidenceMode = true

theorem sameSubject {task' : Task} {run' : AdaptationRun} {result : Dict}
    (distinct : (Json.obj result).distinct = true) (bound : run.fingerprint = .ok fingerprint)
    (bound' : run'.fingerprint = .ok fingerprint') (here : Identifies task run fingerprint result)
    (there : Identifies task' run' fingerprint' result) : SameSubject task task' run run' := by
  have common {key : Text} {a b : Json}
      (left : ∃ found, Dict.get? result key = some found ∧ found.eq a = true)
      (right : ∃ found, Dict.get? result key = some found ∧ found.eq b = true) :
      a.eq b = true := by
    obtain ⟨found, known, left⟩ := left
    obtain ⟨found', known', right⟩ := right
    obtain rfl := Option.some.inj (known.symm.trans known')
    exact Json.eq_of_common ((Json.distinctFields_iff.mp distinct).2 _
      (mem_of_lookup known)) left right
  have taskId := here.taskId.symm.trans there.taskId
  have stage := here.stage.symm.trans there.stage
  have attempt := here.attempt.symm.trans there.attempt
  simp only [Option.some.injEq, Json.str.injEq, Json.int.injEq, Nat.cast_inj] at taskId stage attempt
  refine ⟨taskId, common here.operatorKey there.operatorKey, Stage.text_injective stage, attempt,
    ⟨_, _, bound, bound', common here.fingerprint there.fingerprint⟩, common here.mode there.mode⟩

end ResultValidation

open ResultValidation

/-- An accepted result is what it says it is, for this task and run alone, and its evidence
cannot be changed under it. -/
theorem accepted_sound (host : Host)
    (documents : ∀ content value, host.loads content = some value → value.distinct = true) :
    (∀ disk task run result worker, validateResult host disk task run result worker = .ok [] →
      ∃ fingerprint evidence hashes report content, Established host disk task run result worker
        fingerprint evidence hashes report content) ∧
    (∀ result disk task run worker disk' task' run' worker', (Json.obj result).distinct = true →
      validateResult host disk task run result worker = .ok [] →
      validateResult host disk' task' run' result worker' = .ok [] →
      SameSubject task task' run run') ∧
    ∀ disk task run result worker, validateResult host disk task run result worker = .ok [] →
      ∀ evidence key text path content, Dict.get? result "evidence" = some (.obj evidence) →
        Dict.get? evidence key = some (.str text) → evidencePath run text = .ok (some path) →
        disk.read path = .ok content →
      ∀ known, Set.InjOn host.sha256 known → content ∈ known →
      ∀ disk' task' run' worker' submitter attempt manifest,
        evidencePath run' text = .ok (some path) → disk'.read path ≠ .ok content →
        (∀ content', disk'.read path = .ok content' → content' ∈ known) →
        validateResult host disk' task' run'
          (withManifest (withSubmission result submitter attempt) manifest) worker' ≠ .ok [] := by
  refine ⟨fun disk task run result worker => established documents, ?_, ?_⟩
  · intro result disk task run worker disk' task' run' worker' distinct accepted accepted'
    obtain ⟨fingerprint, _, _, _, _, here⟩ := established documents accepted
    obtain ⟨fingerprint', _, _, _, _, there⟩ := established documents accepted'
    exact sameSubject distinct here.bound there.bound here.identified there.identified
  · intro disk task run result worker accepted evidence key text path content given entry located
      read known injective member disk' task' run' worker' submitter attempt manifest located'
      changed others again
    obtain ⟨_, _, _, _, _, here⟩ := established documents accepted
    obtain ⟨_, _, _, _, _, there⟩ := established documents again
    have kept {key : Text} (own : key ≠ "_submission") (plain : key ≠ "artifact_manifest") :=
      submitted_get? result submitter attempt manifest own plain
    have evidence₁ := here.submitted.symm.trans given
    have evidence₂ := there.submitted.symm.trans ((kept (by simp) (by simp)).trans given)
    have hashes := there.digests.symm.trans ((kept (by simp) (by simp)).trans here.digests)
    simp only [Option.some.injEq, Json.obj.injEq] at evidence₁ evidence₂ hashes
    subst evidence₁ evidence₂ hashes
    obtain ⟨t, p, same, filed⟩ := here.files key _ entry
    obtain ⟨t', p', same', filed'⟩ := there.files key _ entry
    obtain rfl := Json.str.inj same
    obtain rfl := Json.str.inj same'
    obtain rfl := Option.some.inj (Except.ok.inj (located.symm.trans filed.located))
    obtain rfl := Option.some.inj (Except.ok.inj (located'.symm.trans filed'.located))
    have digest := filed.digest.symm.trans filed'.digest
    rw [← Except.ok.inj (read.symm.trans filed.read), Option.some.injEq, Json.str.injEq] at digest
    have unchanged := injective member (others _ filed'.read) digest
    exact changed (unchanged ▸ filed'.read)

/-! A run without an environment, and a result of its Torch stage. -/

def simulatedRun : AdaptationRun where
  runId := "run"
  modelId := "model"
  modelRevision := "1"
  pluginRevision := "1"
  backend := "xpu"
  status := "CREATED"
  environment := []
  metadata := [("evidence_mode", .str "simulation")]

def torchTask : Task where
  taskId := "t"
  runId := "run"
  operatorKey := .str "aten::mm"
  sourceTaskId := .null
  stage := .torch
  status := .running
  attempt := 1
  input := [("workspace", .obj [("output", .str "/out")])]
  output := []
  lease := none

/-- The fields that a result and a report have in common. -/
def torchIdentity : Dict :=
  [("task_id", .str "t"), ("operator_key", .str "aten::mm"), ("stage", .str "torch"),
    ("attempt", .int 1), ("environment_fingerprint", .null), ("evidence_mode", .str "simulation"),
    ("verdict", .str "PASS")]

def torchReport : Dict :=
  torchIdentity.append [("validator", .str "second"),
    ("checks", .arr [.obj [("name", .str "numeric"), ("passed", .bool true)]]),
    ("evidence_sha256", .obj [("reference_artifact", .str (digestSample [1])),
      ("focused_tests", .str (digestSample [2]))])]

def torchResult : Dict :=
  torchIdentity.append [("schema_version", .int 1),
    ("evidence", .obj [("reference_artifact", .str "/out/reference"),
      ("focused_tests", .str "/out/tests"), ("independent_validation", .str "/out/report")]),
    ("evidence_sha256", .obj [("reference_artifact", .str (digestSample [1])),
      ("focused_tests", .str (digestSample [2])),
      ("independent_validation", .str (digestSample [3]))])]

/-- This result is accepted, for its own task and run. -/
theorem accepted_sound_torch : ∃ fingerprint evidence hashes report content,
    Established (.reading [([3], .obj torchReport)])
      (.holding [("/out/reference", [1]), ("/out/tests", [2]), ("/out/report", [3])])
      torchTask simulatedRun torchResult (.str "first") fingerprint evidence hashes report content := by
  have documents (content : Bytes) (value : Json)
      (found : (Host.reading [([3], .obj torchReport)]).loads content = some value) :
      value.distinct = true := by
    have member := mem_of_lookup (l := [([3], Json.obj torchReport)]) found
    obtain rfl := (Prod.mk.inj (List.mem_singleton.mp member)).2
    decide +kernel
  have accepted : validateResult (.reading [([3], .obj torchReport)])
      (.holding [("/out/reference", [1]), ("/out/tests", [2]), ("/out/report", [3])])
      torchTask simulatedRun torchResult (.str "first") = .ok [] := by decide +kernel
  exact (accepted_sound _ documents).1 _ _ _ _ _ accepted

end InferForge

import InferForge.Storage

/-! Evidence gates for worker results: `validate_result` and its parts. -/
namespace InferForge
open Py

def stageEvidence : Stage → List Text
  | .torch => ["reference_artifact", "focused_tests", "independent_validation"]
  | .xpu => ["build_record", "registration_record", "device_test", "dispatch_report",
      "independent_validation"]
  | .integration => ["integration_report", "service_regression", "accuracy_regression",
      "fallback_report", "independent_validation"]
  | .diagnosis => ["diagnosis_report"]

def nextActions : List Text :=
  ["REDISCOVER_OPERATOR", "DISPATCH_TORCH_FIX", "DISPATCH_XPU_FIX", "RETRY", "BLOCKED"]

def errorIf (condition : Bool) (message : Text) : List Text := if condition then [message] else []

theorem errorIf_nil {condition : Bool} {message : Text} (none : errorIf condition message = []) :
    condition = false := by
  cases condition with
  | false => rfl
  | true => simp [errorIf] at none

theorem errorIf_iff_nil {condition : Bool} {message : Text} :
    errorIf condition message = [] ↔ condition = false := by
  cases condition <;> simp [errorIf]

/-- `d.get(key, default)` on a field of any type, then `.get(field)` on the result. -/
def nestedGet (d : Dict) (key field : Text) : Except Exn Json := do
  let value ← (Dict.getD d key (.obj [])).get field
  return value.getD .null

/-- `run.environment.get("environment_proof", {}).get("fingerprint")`. -/
def AdaptationRun.fingerprint (run : AdaptationRun) : Except Exn Json :=
  nestedGet run.environment "environment_proof" "fingerprint"

/-- `run.metadata.get("evidence_mode", "real")`. -/
def AdaptationRun.evidenceMode (run : AdaptationRun) : Json :=
  Dict.getD run.metadata "evidence_mode" (.str "real")

/-- `run.metadata.get(key)`, as a condition. -/
def AdaptationRun.flag (run : AdaptationRun) (key : Text) : Bool :=
  (Dict.getD run.metadata key .null).truthy

namespace ResultValidation

/-- What a result and its report must repeat: `identity`, in insertion order. -/
def identity (task : Task) (run : AdaptationRun) (fingerprint : Json) : Dict :=
  [("task_id", .str task.taskId), ("operator_key", task.operatorKey),
    ("stage", .str task.stage.text), ("attempt", .int task.attempt),
    ("environment_fingerprint", fingerprint), ("evidence_mode", run.evidenceMode)]

/-- `key not in document or document[key] != value`. -/
def differs (document : Dict) (key : Text) (value : Json) : Bool :=
  match document.get? key with
  | some found => !found.eq value
  | none => true

def identityErrors (document : Dict) (what : Text) (expected : Dict) : List Text :=
  expected.flatMap fun field => errorIf (differs document field.1 field.2)
    (what ++ " " ++ field.1 ++ " does not match the claimed task/run")

def isPass (host : Host) (value : Json) : Bool := host.upper (host.str value) = "PASS"

def verdictErrors (host : Host) (result : Dict) : List Text :=
  let verdicts := [Text.ofString "status", "verdict"].filterMap fun key => result.get? key
  errorIf (verdicts.isEmpty || verdicts.any fun value => !isPass host value)
      "an explicit PASS status/verdict is required" ++
    errorIf ([Text.ofString "ok", "success", "passed"].any fun key =>
        (Dict.getD result key .null).isFalse)
      "result contains an explicit failed check"

def environmentRequired (run : AdaptationRun) : Bool :=
  run.evidenceMode.eq (.str "real") || run.flag "graph_environment_required"

def modeErrors (task : Task) (run : AdaptationRun) (fingerprint : Json) : List Text :=
  let simulation := run.evidenceMode.eq (.str "simulation")
  errorIf (!(run.evidenceMode.eq (.str "real") || simulation) ||
      (simulation && run.flag "environment_required"))
      "simulation evidence cannot satisfy an environment-backed run" ++
    errorIf (environmentRequired run && !fingerprint.truthy)
      "environment-backed results require a bound environment fingerprint" ++
    errorIf (environmentRequired run && task.stage != .diagnosis && run.status != "ENVIRONMENT_READY")
      "environment-backed results require a currently ready environment"

/-- The errors found before any evidence is opened. -/
def headErrors (host : Host) (task : Task) (run : AdaptationRun) (fingerprint : Json)
    (result : Dict) : List Text :=
  let version := Dict.getD result "schema_version" .null
  errorIf (!version.isInt || !version.eq (.int 1)) "schema_version must be 1" ++
    verdictErrors host result ++ modeErrors task run fingerprint ++
    identityErrors result "result" (identity task run fingerprint) ++
    errorIf (!(Dict.getD result "attempt" .null).isInt) "result attempt must be an integer"

/-- `Path(value)`, placed under the run's artifact root if it is relative. -/
def evidencePath (run : AdaptationRun) (value : Text) : Except Exn (Option Path) :=
  let path := Path.ofText value
  if path.isAbsolute then .ok (some path)
  else
    let root := Dict.getD run.metadata "artifact_root" .null
    if root.truthy then (pathOf root).map fun base => some (base.join path) else .ok none

/-- A claimed attempt only accepts evidence from its own output directory. -/
def outsideOutput (disk : Disk) (task : Task) (path : Path) : Except Exn Bool := do
  let output ← nestedGet task.input "workspace" "output"
  if output.truthy then
    let actual ← disk.resolve path
    let owned ← disk.resolve (← pathOf output)
    return !actual.isRelativeTo owned
  else return false

/-- `path.is_symlink() or not path.is_file()`. -/
def irregular (disk : Disk) (path : Path) : Except Exn Bool := do
  if ← disk.isSymlink path then return true else return !(← disk.isFile path)

/-- `path.read_bytes()`, with an `OSError` turned into a message. -/
def readEvidence (disk : Disk) (key : Text) (path : Path) : Except Exn (Except Text Bytes) :=
  match disk.read path with
  | .ok content => .ok (.ok content)
  | .error e =>
      if e.kind = .osError then .ok (.error ("cannot read evidence." ++ key ++ ": " ++ e.message))
      else .error e

/-- One round of the evidence loop: its errors, and the content if the file was read. -/
def checkEvidence (host : Host) (disk : Disk) (task : Task) (run : AdaptationRun) (hashes : Dict)
    (key : Text) (value : Json) : Except Exn (List Text × Option Bytes) :=
  match value with
  | .str text =>
      if text.blank then .ok ([Text.ofString "evidence." ++ key ++ " must be a file path"], none)
      else do
        match ← evidencePath run text with
        | none =>
            return ([Text.ofString "relative evidence." ++ key ++
              " requires run metadata.artifact_root"], none)
        | some path =>
            if ← outsideOutput disk task path then
              return ([Text.ofString "evidence." ++ key ++
                " must belong to the claimed attempt output"], none)
            else if ← irregular disk path then
              return ([Text.ofString "evidence." ++ key ++
                " must be a regular non-symlink file"], none)
            else match ← readEvidence disk key path with
              | .error message => return ([message], none)
              | .ok content =>
                  let empty := errorIf content.isEmpty ("evidence." ++ key ++ " is empty")
                  let changed := errorIf
                    (!(Dict.getD hashes key .null).eq (.str (host.sha256 content)))
                    ("evidence." ++ key ++ " hash mismatch")
                  return (empty ++ changed, some content)
  | _ => .ok ([Text.ofString "evidence." ++ key ++ " must be a file path"], none)

/-- The evidence loop: all errors, and the contents read, by evidence key. -/
def checkAll (host : Host) (disk : Disk) (task : Task) (run : AdaptationRun) (hashes : Dict) :
    Dict → Except Exn (List Text × List (Text × Bytes))
  | [] => .ok ([], [])
  | (key, value) :: rest => do
      let (errors, content) ← checkEvidence host disk task run hashes key value
      let (more, contents) ← checkAll host disk task run hashes rest
      return (errors ++ more, (content.map fun bytes => (key, bytes)).toList ++ contents)

/-- `math.isfinite(confidence)` fails on an integer no double can hold. -/
def confidenceError (confidence : Json) : Except Exn Bool :=
  match confidence with
  | .int n =>
      if Host.fitsFloat n then .ok (!(0 ≤ n && n ≤ 1))
      else .error (.overflow "int too large to convert to float")
  | .float (.fin q) => .ok (!(0 ≤ q && q ≤ 1))
  | _ => .ok true

def diagnosisErrors (result report : Dict) : Except Exn (List Text) := do
  let fields : List Text := ["diagnosis", "repair_conclusion", "next_action", "confidence"]
  let unmatched := fields.flatMap fun key => errorIf
    (!(Dict.getD result key .null).eq (Dict.getD report key .null) || !report.has key)
    ("diagnosis result must match report field " ++ key)
  let required := errorIf
    (!(Dict.getD report "diagnosis" .null).truthy ||
      !(Dict.getD report "repair_conclusion" .null).truthy)
    "diagnosis and repair_conclusion are required"
  let action := errorIf
    (match Dict.getD report "next_action" .null with
      | .str t => !nextActions.contains t
      | _ => true)
    "diagnosis next_action is invalid"
  let unbounded ← confidenceError (Dict.getD report "confidence" .null)
  return unmatched ++ required ++ action ++
    errorIf unbounded "diagnosis confidence must be a finite value between 0 and 1"

/-- A check is an object with a name whose `passed` is exactly `True`. -/
def passedCheck : Json → Bool
  | .obj check => (Dict.getD check "name" .null).truthy && (Dict.getD check "passed" .null).isTrue
  | _ => false

def independentErrors (worker : Json) (reportKey : Text) (evidence hashes report : Dict) :
    List Text :=
  let validator := Dict.getD report "validator" .null
  let anonymous :=
    match validator with
    | .str t => t.blank || validator.eq worker
    | _ => true
  let unchecked :=
    match Dict.getD report "checks" .null with
    | .arr checks => checks.isEmpty || !checks.all passedCheck
    | _ => true
  let expected : Dict := (evidence.filter fun field => field.1 != reportKey).map fun field =>
    (field.1, Dict.getD hashes field.1 .null)
  errorIf anonymous "validation requires a recorded validator distinct from the producer" ++
    errorIf unchecked "independent validation requires nonempty passing named checks" ++
    errorIf (!(Dict.getD report "evidence_sha256" .null).eq (.obj expected))
      "validation report does not bind the submitted evidence hashes"

def reportKey (stage : Stage) : Text :=
  if stage = .diagnosis then "diagnosis_report" else "independent_validation"

/-- The errors of the parsed report document. -/
def reportErrors (host : Host) (task : Task) (run : AdaptationRun) (fingerprint : Json)
    (result evidence hashes report : Dict) (worker : Json) : Except Exn (List Text) := do
  let key := reportKey task.stage
  let head := identityErrors report key (identity task run fingerprint) ++
    errorIf (!(Dict.getD report "attempt" .null).isInt) (key ++ " attempt must be an integer") ++
    errorIf (!isPass host (Dict.getD report "verdict" (.str ""))) (key ++ " verdict must be PASS")
  if task.stage = .diagnosis then
    return head ++ (← diagnosisErrors result report)
  else return head ++ independentErrors worker key evidence hashes report

/-- From the report file's bytes to its errors. -/
def reportFileErrors (host : Host) (task : Task) (run : AdaptationRun) (fingerprint : Json)
    (result evidence hashes : Dict) (worker : Json) (content : Option Bytes) :
    Except Exn (List Text) :=
  let key := reportKey task.stage
  match content with
  | none => .ok [Text.ofString "missing readable " ++ key]
  | some bytes =>
      match host.loads bytes with
      | none =>
          if host.tooDeep bytes then .error .recursion else .ok [key ++ " must contain JSON"]
      | some (.obj report) =>
          reportErrors host task run fingerprint result evidence hashes report worker
      | some _ => .ok [key ++ " must be an object"]

end ResultValidation

open ResultValidation in
/-- `validate_result`: the empty list accepts. -/
def validateResult (host : Host) (disk : Disk) (task : Task) (run : AdaptationRun)
    (result : Dict) (worker : Json) : Except Exn (List Text) := do
  let fingerprint ← run.fingerprint
  let head := headErrors host task run fingerprint result
  match Dict.getD result "evidence" .null, Dict.getD result "evidence_sha256" .null with
  | .obj evidence, .obj hashes => do
      let missing := (stageEvidence task.stage).flatMap fun key =>
        errorIf (!Dict.has evidence key) ("missing " ++ task.stage.text ++ " evidence: " ++ key)
      let (errors, contents) ← checkAll host disk task run hashes evidence
      let report ← reportFileErrors host task run fingerprint result evidence hashes worker
        (contents.lookup (reportKey task.stage))
      return head ++ missing ++ errors ++ report
  | _, _ => return head ++ [Text.ofString "evidence and evidence_sha256 must be objects"]

end InferForge

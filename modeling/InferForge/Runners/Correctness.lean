import InferForge.Validators.Correctness
import InferForge.Adapters.Cluster
import InferForge.Bridge.Evidence
import InferForge.Journal
import InferForge.Py.Loads
import InferForge.Py.Split
import InferForge.Py.Template

/-! The three correctness tasks: a probe or a served model is graded against an independent reference. -/
namespace InferForge.Correctness
open Py Effect

/-- Access to the pod and to the tools; files are named below the output directory. -/
structure CorrectnessOps where
  /-- A probe with the files it needs, run in the pod with its arguments. -/
  exec : Text → Text → List (Text × Text) → Text → Except Exn Completed
  /-- `cat` of a file in the pod. -/
  cat : Text → Text → Except Exn Completed
  runTool : List Text → Except Exn Completed
  exists' : Text → Except Exn Bool
  readText : Text → Except Exn Text

/-- A returned status, and the files written on the way, the last one last. -/
structure Out where
  status : Dict
  written : List (Text × Json)

section Executor
variable (host : Host) (ops : CorrectnessOps)

/-- `json.loads` of a text. -/
def parse (text : Text) : Except Exn Json :=
  match loads host.floats text.codes with
  | some value => .ok value
  | none => .error (.value "Expecting value")

def lastJson (text : Text) : Option Json :=
  text.strip.splitlines.reverse.findSome? fun line =>
    if line.strip.startsWith "\x7b" then loads host.floats line.strip.codes else none

/-- `text or default`. -/
def orElse (text default : Text) : Text := if text.isEmpty then default else text

def runProbe (pod probe : Text) (files : List (Text × Text)) (args : Text) : Except Exn Json := do
  let result ← ops.exec pod probe files args
  let text := result.stdout ++ result.stderr
  return (lastJson host text).getD (.obj [("state", .str "EVALUATION_ERROR"),
    ("error", .str (orElse (text.strip.lastOf 500) "probe produced no output"))])

/-- `_fetch_tensors`: the files, unless one of them is blank. -/
def fetchTensors (pod remote : Text) : List Text → Except Exn (Option (List (Text × Text)))
  | [] => .ok (some [])
  | name :: rest => do
      let content := (← ops.cat pod (remote ++ "/" ++ name)).stdout
      if content.blank then return none
      else return (← fetchTensors pod remote rest).map fun later => (name, content) :: later

/-- The command of the contract's grader. -/
def gradeCommand (out : Path) (maxRelativeL2 : Double) : List Text :=
  let tensors := out.child "tensors"
  ["python3", "cli/validation/tensor_diff.py", "--candidate", (tensors.child "candidate.json").toText,
    "--reference", (tensors.child "reference.json").toText, "--control", (tensors.child "control.json").toText,
    "--max-relative-l2", host.repr (.float maxRelativeL2), "--out", (out.child "grade_raw.json").toText]

/-- `_last_json(stdout) or json.loads(...)`. -/
def gradePayload (stdout : Text) : Except Exn Json :=
  let printed := (lastJson host stdout).getD .null
  if printed.truthy then .ok printed else ops.readText "grade_raw.json" >>= parse host

def gradeWithTensorDiff (out : Path) (maxRelativeL2 : Double) : Except Exn (Option Json) := do
  let result ← ops.runTool (gradeCommand host out maxRelativeL2)
  if result.returncode = 0 ∨ result.returncode = 6 then
    let payload ← gradePayload host ops result.stdout
    return if payload.isNull then none else some payload
  else return none

/-- The states of a task, for a pass, a failure and anything else. -/
structure Verdicts where
  pass : Text
  fail : Text
  ambiguous : Text

def Verdicts.of (verdicts : Verdicts) (state : Json) : Text :=
  if state.eq (.str "PASS") then verdicts.pass
  else if state.eq (.str "FAIL") then verdicts.fail
  else verdicts.ambiguous

/-- The report as the validator leaves it: its disagreement overrides a pass. -/
def corrected (report : Dict) (errors : List Text) : Dict :=
  if errors.isEmpty then report
  else
    let noted := Dict.set report "validation_errors" (.arr (errors.map Json.str))
    if (Dict.getD report "state" .null).eq (.str "PASS") then Dict.set noted "state" (.str "AMBIGUOUS") else noted

def finish (verdicts : Verdicts) (status report : Dict) (errors : List Text) (earlier : List (Text × Json)) : Out :=
  let report := corrected report errors
  let status := Dict.set (Dict.merge status report) "state" (.str (verdicts.of (Dict.getD report "state" .null)))
  ⟨status, earlier ++ [(Text.ofString "status.json", .obj status)]⟩

/-- What comes before a report: it ends early, or there are a probe, something read of its tensors, and a grade. -/
inductive Measured (α : Type) where
  | ended (report : Dict)
  | graded (probe : Dict) (found : α) (grade : Dict)

/-- The steps that the kernel and the long-context task share. -/
def measure (probed : Except Exn Json) (raised pod remote : Text) (names : List Text)
    (read : List (Text × Text) → Except Exn α) (out : Path) (maxRelativeL2 : Double) : Except Exn (Measured α) := do
  let probe ← probed >>= asMapping
  let state := Dict.getD probe "state" .null
  if state.eq (.str "EVALUATION_ERROR") then
    return .ended [("state", .str "FAIL"), ("reason", .str raised), ("probe", .obj probe)]
  else if !(state.eq (.str "EXERCISED_PASS") || state.eq (.str "EXERCISED_FAIL")) then
    return .ended [("state", .str "AMBIGUOUS"), ("probe", .obj probe), ("reason", Dict.getD probe "error" state)]
  else
    match ← fetchTensors ops pod remote names with
    | none => return .ended [("state", .str "AMBIGUOUS"), ("reason", .str "the probe did not leave gradeable tensors")]
    | some files =>
        let found ← read files
        match ← gradeWithTensorDiff host ops out maxRelativeL2 with
        | none => return .ended [("state", .str "AMBIGUOUS"),
            ("reason", .str "tensor_diff could not grade the captured tensors")]
        | some grade => return .graded probe found (← asMapping grade)

/-- A control that does not discriminate grades nothing. -/
def gradeState (grade : Dict) : Text :=
  if !(Dict.getD grade "control_discriminates" .null).truthy then "AMBIGUOUS"
  else if (Dict.getD grade "pass" .null).truthy then "PASS"
  else "FAIL"

def provenance : Json :=
  .obj [("implementation", .str "torch"), ("device", .str "cpu"), ("dtype", .str "float32"),
    ("independently_written", .bool true)]

def kernelVerdicts : Verdicts := ⟨"KERNEL_PASS", "KERNEL_FAIL", "KERNEL_AMBIGUOUS"⟩

def longContextVerdicts : Verdicts := ⟨"LONG_CONTEXT_PASS", "LONG_CONTEXT_FAIL", "LONG_CONTEXT_AMBIGUOUS"⟩

def tensorNames : List Text := ["candidate.json", "reference.json", "control.json"]

def kernelReport (maxRelativeL2 : Double) (probe grade : Dict) : Dict :=
  [("state", .str (gradeState grade)), ("relative_l2", Dict.getD grade "relative_l2" .null),
    ("max_abs_error", Dict.getD grade "max_abs_error" .null),
    ("shape_candidate", Dict.getD grade "shape_candidate" .null),
    ("shape_reference", Dict.getD grade "shape_reference" .null), ("max_relative_l2", .float maxRelativeL2),
    ("reference_provenance", provenance), ("control_discriminates", Dict.getD grade "control_discriminates" .null),
    ("control", Dict.getD grade "control" .null), ("geometry", Dict.getD probe "geometry" .null),
    ("operators", Dict.getD probe "operators" .null),
    ("artifacts", .arr (["grade_raw.json", "kernel_grade.json", "kernel_status.json", "tensors/candidate.json",
      "tensors/reference.json", "tensors/control.json"].map fun name : String => .str name))]

/-- The probe of `run_kernel_grade`. -/
def kernelProbe (pod : Text) : Except Exn Json :=
  runProbe host ops pod "tools/probe/sliding_window_decode_probe.py"
    [("paged_decode.py", "tools/torch/paged_decode.py")] "--fallback /tmp/paged_decode.py --dump /tmp/kdp-mat021"

/-- The measurement of `run_kernel_grade`. -/
def measureKernel (pod : Text) (out : Path) (maxRelativeL2 : Double) : Except Exn (Measured Unit) :=
  measure host ops (kernelProbe host ops pod)
    "the platform kernel raised instead of computing" pod "/tmp/kdp-mat021" tensorNames (fun _ => .ok ()) out maxRelativeL2

def runKernelGrade (pod : Text) (out : Path) (maxRelativeL2 : Double) : Except Exn Out := do
  let status : Dict := [("task_id", .str "mat-021-platform-kernel-correctness"), ("pod", .str pod)]
  match ← measureKernel host ops pod out maxRelativeL2 with
  | .ended report => return finish kernelVerdicts status report [] []
  | .graded probe _ grade =>
      let report := kernelReport maxRelativeL2 probe grade
      return finish kernelVerdicts status report (← validateKernelGrade report) [("kernel_grade.json", .obj report)]

/-- The arguments of `run_long_context`. -/
structure Geometry where
  contextLen : Int
  blockSize : Int
  topk : Int

def Geometry.boundary (geometry : Geometry) : Int := geometry.blockSize * geometry.topk

def longContextReport (geometry : Geometry) (maxRelativeL2 : Double) (probe : Dict) (selected : Json) (grade : Dict) :
    Dict :=
  [("state", .str (gradeState grade)),
    ("geometry", .obj [("context_len", .int geometry.contextLen), ("block_size", .int geometry.blockSize),
      ("topk", .int geometry.topk), ("boundary", .int geometry.boundary)]),
    ("selected_blocks", selected), ("path", .str "sparse"), ("relative_l2", Dict.getD grade "relative_l2" .null),
    ("max_relative_l2", .float maxRelativeL2), ("reference_provenance", provenance),
    ("control_discriminates", Dict.getD grade "control_discriminates" .null),
    ("operators", Dict.getD probe "operators" .null),
    ("artifacts", .arr (["grade_raw.json", "long_context_grade.json", "long_context_status.json",
      "tensors/candidate.json", "tensors/reference.json", "tensors/control.json",
      "tensors/selected_blocks.json"].map fun name : String => .str name))]

/-- The probe of `run_long_context`. -/
def longContextProbe (pod : Text) (geometry : Geometry) (maxRelativeL2 : Double) : Except Exn Json :=
  runProbe host ops pod "tools/probe/block_sparse_attention_probe.py" []
    ("--context-len " ++ Text.ofInt geometry.contextLen ++ " --block-size " ++ Text.ofInt geometry.blockSize ++
      " --topk " ++ Text.ofInt geometry.topk ++ " --max-relative-l2 " ++ host.repr (.float maxRelativeL2) ++
      " --dump /tmp/kdp-mat023")

/-- The measurement of `run_long_context`: the selected blocks are read before the grading. -/
def measureLongContext (pod : Text) (out : Path) (geometry : Geometry) (maxRelativeL2 : Double) :
    Except Exn (Measured Json) :=
  measure host ops (longContextProbe host ops pod geometry maxRelativeL2)
    "the sparse kernel raised instead of computing" pod "/tmp/kdp-mat023" (tensorNames ++ [Text.ofString "selected_blocks.json"])
    (fun files => parse host ((files.lookup (Text.ofString "selected_blocks.json")).getD "")) out maxRelativeL2

def runLongContext (pod : Text) (out : Path) (geometry : Geometry) (maxRelativeL2 : Double) : Except Exn Out := do
  let status : Dict := [("task_id", .str "mat-023-long-context-sparse-correctness"), ("pod", .str pod)]
  if geometry.contextLen ≤ geometry.boundary then
    let reason : Text := "context_len " ++ Text.ofInt geometry.contextLen ++ " does not cross block_size*topk = " ++
      Text.ofInt geometry.boundary ++ ", so the sparse path is not exercised"
    let status := status ++ ([("state", .str "CONTRACT_INVALID"), ("reason", .str reason)] : Dict)
    return ⟨status, [("status.json", .obj status)]⟩
  else
    match ← measureLongContext host ops pod out geometry maxRelativeL2 with
    | .ended report => return finish longContextVerdicts status report [] []
    | .graded probe selected grade =>
        let report := longContextReport geometry maxRelativeL2 probe selected grade
        return finish longContextVerdicts status report (← validateLongContext report host)
          [("long_context_grade.json", .obj report)]

/-- The arguments of `run_end_to_end`. -/
structure Serving where
  modelRequest : Option Path
  servedModelName : Text
  port : Int

def differentialCommand (pod : Text) (out : Path) (serving : Serving) (request : Path) : List Text :=
  ["python3", "cli/validation/accuracy_differential.py", "--pod", pod, "--model-request", request.toText,
    "--served-model-name", serving.servedModelName, "--port", Text.ofInt serving.port, "--out",
    (out.child "differential").toText]

/-- The report and the status of the child, as far as they can be read. -/
def childOutput : Except Exn (Json × Json) := do
  let report ← ops.readText "differential/accuracy_differential.json" >>= parse host
  let status ← ops.readText "differential/accuracy_status.json" >>= parse host
  return (report, status)

/-- The child's report, its status, its validator and its exit code do not disagree. -/
def childAgrees (report status : Dict) (returncode : Int) : Except Exn Bool := do
  let state := Dict.getD status "state" .null
  let expected : Int := if state.eq (.str "ACCURACY_PASS") then 0 else 6
  let known ← state.among ["ACCURACY_PASS", "ACCURACY_FAIL"]
  return known && (Dict.getD report "status" .null).eq state &&
    (match Dict.getD status "validator" .null with
      | .obj validator => (Dict.getD validator "passed" .null).isTrue && !(Dict.getD validator "errors" .null).truthy
      | _ => false) && returncode == expected

def endToEndReport (pod : Text) (serving : Serving) (report reference : Dict) (cases : List Json) : Dict :=
  [("state", Dict.getD report "status" .null), ("composition", .str "integrated_serving_path"),
    ("subject", Dict.getD report "subject" .null), ("revision", Dict.getD report "revision" .null),
    ("reference_provenance", .obj [
      ("implementation", Dict.getD reference "implementation" (.str "transformers on CPU")),
      ("device", Dict.getD reference "device" (.str "cpu")), ("dtype", Dict.getD reference "dtype" .null),
      ("transformers_version", Dict.getD reference "transformers_version" .null),
      ("must_not_see_accelerator", .bool true)]),
    ("candidate", .obj [("device", .str "kunlun-p800"), ("pod", .str pod),
      ("served_model_name", .str serving.servedModelName), ("port", .int serving.port)]),
    ("metric", Dict.getD report "metric" .null), ("top1_agreement", Dict.getD report "top1_agreement" .null),
    ("cases", .arr cases),
    ("artifacts", .arr (["end_to_end_accuracy.json", "accuracy_status.json",
      "differential/accuracy_differential.json", "differential/accuracy_status.json"].map fun name : String => .str name))]

/-- `{"prompt": case.get("prompt"), "evidence": case}`. -/
def caseEvidence (case : Json) : Except Exn Json := do
  return .obj [("prompt", ← case.field "prompt"), ("evidence", case)]

/-- A status that ends the task early. -/
def early (status : Dict) (state : Text) (reason : Text) (rest : Dict) : Out :=
  let status := status ++ ([("state", .str state), ("reason", .str reason)] : Dict) ++ rest
  ⟨status, [("accuracy_status.json", .obj status)]⟩

/-- The packaged report, the validator's answer to it, and the status that carries both. -/
def conclude (status packaged : Dict) (errors : List Text) : Out :=
  let noted := if errors.isEmpty then Dict.merge status packaged
    else Dict.set (Dict.set (Dict.merge status packaged) "state" (.str "CONTRACT_INVALID")) "validation_errors"
      (.arr (errors.map Json.str))
  let status := Dict.set noted "validator" (.obj [("passed", .bool errors.isEmpty),
    ("errors", .arr (errors.map Json.str))])
  ⟨status, [("end_to_end_accuracy.json", .obj packaged), ("accuracy_status.json", .obj status)]⟩

/-- What follows once the child's output is read. -/
def packageChild (pod : Text) (serving : Serving) (status report child : Dict) (returncode : Int) : Except Exn Out := do
  if ← childAgrees report child returncode then
    let reference ← asMapping ((Dict.getD report "reference" .null).or (.obj []))
    let cases ← (← ((Dict.getD report "cases" .null).or (.arr [])).elements).mapM caseEvidence
    let packaged := endToEndReport pod serving report reference cases
    return conclude status packaged (← validateEndToEnd packaged)
  else
    return early status "CONTRACT_INVALID" "accuracy differential report, validator, and exit status disagree"
      [("child_returncode", .int returncode), ("child_status", .obj child)]

def runEndToEnd (pod : Text) (out : Path) (serving : Serving) : Except Exn Out := do
  let status : Dict := [("task_id", .str "mat-022-end-to-end-accuracy"), ("pod", .str pod)]
  match serving.modelRequest with
  | none =>
      return early status "CONTRACT_INVALID" "end-to-end accuracy needs the ModelRequest (pass --model-request)" []
  | some request =>
      let result ← ops.runTool (differentialCommand pod out serving request)
      let reported ← ops.exists' "differential/accuracy_differential.json"
      if !(← Journal.andThen (.ok reported) ( ops.exists' "differential/accuracy_status.json")) then
        return early status "NEEDS_HUMAN" (orElse ((orElse result.stderr result.stdout).strip.lastOf 500)
          "accuracy_differential produced no report or status") []
      else
        match childOutput host ops with
        | .error e =>
            if e.kind = .osError ∨ e.isValueError then
              return early status "CONTRACT_INVALID" ("invalid accuracy child output: " ++ e.text host) []
            else throw e
        | .ok (.obj report, .obj child) => packageChild pod serving status report child result.returncode
        | .ok _ => return early status "CONTRACT_INVALID" "accuracy child report and status must be JSON objects" []

/-! ## The command line -/

inductive Mode where
  | kernel (maxRelativeL2 : Double)
  | endToEnd (serving : Serving)
  | longContext (geometry : Geometry) (maxRelativeL2 : Double)

/-- The node that runs the mode. -/
def Mode.node : Mode → Text
  | .kernel _ => "platform_kernel_correctness"
  | .endToEnd _ => "end_to_end_accuracy"
  | .longContext _ _ => "long_context_sparse_correctness"

/-- `run`, up to the printing of the status. -/
def run (pod : Text) (out : Path) : Mode → Except Exn Out
  | .kernel maxRelativeL2 => runKernelGrade host ops pod out maxRelativeL2
  | .endToEnd serving => runEndToEnd host ops pod out serving
  | .longContext geometry maxRelativeL2 => runLongContext host ops pod out geometry maxRelativeL2

def passing : List Text := ["KERNEL_PASS", "ACCURACY_PASS", "LONG_CONTEXT_PASS"]

def exitCode (status : Dict) : Int :=
  if passing.any fun state => (Dict.getD status "state" .null).eq (.str state) then 0 else 1

end Executor

end InferForge.Correctness

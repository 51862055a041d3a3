import InferForge.Storage

/-! The node table of the graph runner, and how it reads the status a node wrote. -/
namespace InferForge.Graph
open Py

/-- One argument of a command template: plain text, or `{key}`. -/
inductive Part where
  | text (t : Text)
  | hole (key : Text)
deriving DecidableEq, Repr

instance : Coe String Part := ⟨fun s => .text s⟩

/-- `flag: "fact:<kind>:<file>"`. -/
structure Need where
  flag : Text
  kind : Text
  file : Text
deriving DecidableEq, Repr

structure FanOut where
  var : Text
  list : List Part
  aggregate : List Part
deriving DecidableEq, Repr

structure NodeSpec where
  produces : Text
  needs : List Need := []
  optional : List Need := []
  fanOut : Option FanOut := none
  command : List Part
  stateFile : Text
deriving DecidableEq, Repr

def modelRequest : Need := ⟨"--model-request", "ModelRequest", "model_request.yaml"⟩
def environmentStatus : Need := ⟨"--env-status", "EnvironmentProof", "status.json"⟩
def classification (flag : Text) : Need := ⟨flag, "GapClassification", "gap_classification.json"⟩
def triageReport : Need := ⟨"--triage", "FailureTriage", "triage_report.json"⟩
def accuracyReport : Need := ⟨"--accuracy", "AccuracyDifferential", "accuracy_differential.json"⟩

def nodes : List (Text × NodeSpec) := [
  ("model_intake", {
    produces := "ModelRequest"
    needs := [environmentStatus]
    command := ["python3", "cli/intake/model_intake.py", "--model-id", .hole "subject",
      "--model-path", .hole "model_path", "--attempt-id", .hole "attempt",
      "--out", .hole "artifacts"]
    stateFile := "intake_status.json" }),
  ("environment_proof", {
    produces := "EnvironmentProof"
    command := ["python3", "cli/deployment/proof.py", "--execute", "--phase", "environment",
      "--artifact-dir", .hole "artifacts"]
    stateFile := "status.json" }),
  ("model_scan", {
    produces := "ModelSupportCard"
    needs := [modelRequest, environmentStatus]
    command := ["python3", "cli/discovery/scan_model_support.py", "--out", .hole "artifacts"]
    stateFile := "scan_status.json" }),
  ("runtime_drift_scan", {
    produces := "RuntimeDriftReport"
    needs := [environmentStatus]
    command := ["python3", "cli/discovery/scan_runtime_drift.py", "--out", .hole "artifacts"]
    stateFile := "drift_status.json" }),
  ("toy_bringup", {
    produces := "ToyBringupReport"
    needs := [modelRequest, environmentStatus]
    command := ["python3", "cli/deployment/toy_bringup.py", "--out", .hole "artifacts"]
    stateFile := "bringup_status.json" }),
  ("torch_shim_handoff", {
    produces := "TorchShimRegistry"
    needs := [environmentStatus]
    command := ["python3", "cli/discovery/scan_torch_shims.py", "--subject", .hole "subject",
      "--out", .hole "artifacts"]
    stateFile := "shim_status.json" }),
  ("capability_match", {
    produces := "CapabilityMatch"
    needs := [modelRequest, ⟨"--support-card", "ModelSupportCard", "model_support.json"⟩,
      environmentStatus]
    command := ["python3", "cli/discovery/match_capabilities.py", "--out", .hole "artifacts"]
    stateFile := "match_status.json" }),
  ("gap_classification", {
    produces := "GapClassification"
    needs := [⟨"--support-card", "ModelSupportCard", "model_support.json"⟩,
      ⟨"--capability-match", "CapabilityMatch", "capability_match.json"⟩]
    command := ["python3", "cli/discovery/classify_gaps.py", "--out", .hole "artifacts"]
    stateFile := "classification_status.json" }),
  ("operator_task_dispatch", {
    produces := "OperatorTaskDispatch"
    needs := [classification "--gaps"]
    command := ["python3", "cli/operators/operator_lifecycle.py", "dispatch",
      "--subject", .hole "subject", "--out", .hole "artifacts"]
    stateFile := "dispatch_status.json" }),
  ("deployment_plan", {
    produces := "DeploymentPlan"
    needs := [modelRequest, classification "--classification"]
    optional := [⟨"--placed-patch", "PlacedPatch", "placement_report.json"⟩]
    command := ["python3", "cli/deployment/plan_deployment.py", "--out", .hole "artifacts"]
    stateFile := "plan_status.json" }),
  ("service_proof", {
    produces := "DeploymentProof"
    command := ["python3", "cli/deployment/proof.py", .hole "contract_instance", "--execute",
      "--phase", "service", "--attach-pod", .hole "pod", "--artifact-dir", .hole "artifacts"]
    stateFile := "status.json" }),
  ("memory_budget", {
    produces := "MemoryBudget"
    command := ["python3", "cli/deployment/memory_budget.py", "--pod", .hole "pod",
      "--server-log", .hole "server_log", "--out", .hole "artifacts"]
    stateFile := "budget_status.json" }),
  ("accuracy_differential", {
    produces := "AccuracyDifferential"
    needs := [modelRequest]
    command := ["python3", "cli/validation/accuracy_differential.py", "--pod", .hole "pod",
      "--served-model-name", .hole "served_model_name", "--port", .hole "port",
      "--out", .hole "artifacts"]
    stateFile := "accuracy_status.json" }),
  ("baseline_freeze", {
    produces := "ServingBaseline"
    needs := [⟨"--service", "DeploymentProof", "status.json"⟩, accuracyReport]
    command := ["python3", "cli/operators/operator_lifecycle.py", "freeze-baseline",
      "--subject", .hole "subject", "--out", .hole "artifacts"]
    stateFile := "baseline_status.json" }),
  ("operator_candidate_integration", {
    produces := "OperatorIntegration"
    needs := [⟨"--baseline", "ServingBaseline", "baseline_manifest.json"⟩]
    command := ["python3", "cli/operators/operator_lifecycle.py", "integrate",
      "--subject", .hole "subject", "--out", .hole "artifacts"]
    stateFile := "integration_status.json" }),
  ("support_matrix", {
    produces := "SupportMatrixEntry"
    needs := [accuracyReport]
    optional := [⟨"--deployment-status", "DeploymentProof", "status.json"⟩,
      ⟨"--budget-status", "MemoryBudget", "budget_status.json"⟩,
      ⟨"--plan", "DeploymentPlan", "deployment_plan.json"⟩]
    command := ["python3", "cli/validation/update_support_matrix.py",
      "--subject", .hole "subject", "--out", .hole "artifacts"]
    stateFile := "matrix_status.json" }),
  ("vendor_handoff", {
    produces := "VendorHandoff"
    needs := [triageReport]
    command := ["python3", "cli/operators/vendor_handoff.py",
      "--environment", .hole "environment_text", "--out", .hole "artifacts"]
    stateFile := "handoff_status.json" }),
  ("failure_triage", {
    produces := "FailureTriage"
    needs := [environmentStatus]
    command := ["python3", "cli/operators/triage.py", "--pod", .hole "pod",
      "--contract-instance", .hole "contract_instance", "--out", .hole "artifacts"]
    stateFile := "status.json" }),
  ("patch_placement", {
    produces := "PlacedPatch"
    needs := [triageReport]
    command := ["python3", "cli/operators/place_patch.py", "--pod", .hole "pod",
      "--contract-instance", .hole "contract_instance", "--out", .hole "artifacts"]
    stateFile := "status.json" }),
  ("platform_kernel_correctness", {
    produces := "PlatformKernelCorrectness"
    command := ["python3", "cli/validation/correctness.py", "kernel", "--pod", .hole "pod",
      "--out", .hole "artifacts"]
    stateFile := "kernel_status.json" }),
  ("end_to_end_accuracy", {
    produces := "EndToEndAccuracy"
    needs := [modelRequest]
    command := ["python3", "cli/validation/correctness.py", "end-to-end", "--pod", .hole "pod",
      "--served-model-name", .hole "served_model_name", "--port", .hole "port",
      "--out", .hole "artifacts"]
    stateFile := "accuracy_status.json" }),
  ("long_context_sparse_correctness", {
    produces := "LongContextSparseCorrectness"
    command := ["python3", "cli/validation/correctness.py", "long-context",
      "--pod", .hole "pod", "--out", .hole "artifacts"]
    stateFile := "long_context_status.json" }),
  ("capability_evaluation", {
    produces := "CapabilityEvaluation"
    needs := [⟨"--capability-match", "CapabilityMatch", "capability_match.json"⟩]
    fanOut := some {
      var := "dimension"
      list := ["python3", "cli/discovery/evaluate_capability.py", "--list-dimensions"]
      aggregate := ["python3", "cli/discovery/evaluate_capability.py", "--aggregate",
        "--out", .hole "artifacts"] }
    command := ["python3", "cli/discovery/evaluate_capability.py",
      "--dimension", .hole "dimension", "--subject", .hole "subject", "--pod", .hole "pod",
      "--model-path", .hole "weights", "--out", .hole "artifacts"]
    stateFile := "evaluation_status.json" }),
  ("api_conformance", {
    produces := "ApiConformance"
    needs := [modelRequest]
    command := ["python3", "cli/validation/check_api_conformance.py",
      "--subject", .hole "subject", "--pod", .hole "pod", "--out", .hole "artifacts"]
    stateFile := "conformance_status.json" })]

def successStates : List Text :=
  ["INTAKE_READY", "ENVIRONMENT_READY", "SCAN_READY", "MATCH_READY", "CLASSIFICATION_READY",
    "EVALUATION_PASS", "PLAN_READY", "DEPLOYMENT_READY", "BUDGET_ACCEPTABLE", "CONFORMANT",
    "HANDOFF_READY", "TRIAGE_READY", "PATCH_PLACED", "KERNEL_PASS", "ACCURACY_PASS",
    "LONG_CONTEXT_PASS", "DISPATCHED", "DISPATCH_SKIPPED", "BASELINE_FROZEN",
    "WAITING_FOR_CANDIDATE", "READY_FOR_INTEGRATION", "DRIFT_CLEAR", "DRIFT_FOUND",
    "BRINGUP_PASS", "HANDOFF_CLEAR", "MATRIX_READY", "OPERATORS_READY"]

/-- `read_state`, from the payload that `read_status` gave. -/
def readState (payload : Dict) : Text :=
  match Dict.getD payload "state" .null with
  | .str state => state
  | _ => "UNKNOWN"

/-- The `validator` field of a status does not object. -/
def validatorPassed (payload : Dict) : Bool :=
  match Dict.getD payload "validator" .null with
  | .null => true
  | .obj validator =>
      (Dict.getD validator "passed" .null).isTrue && !(Dict.getD validator "errors" .null).truthy
  | _ => false

def nodePassed (payload : Dict) (returncode : Int) : Bool :=
  returncode == 0 && successStates.contains (readState payload) && validatorPassed payload

end InferForge.Graph

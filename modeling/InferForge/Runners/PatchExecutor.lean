import InferForge.Validators.Patch
import InferForge.Effect.Preserves
import InferForge.Py.Split

/-! `PatchExecutor`: a reversible fallback is placed in the plugin of a Pod, tried by a service proof
and a numerical comparison, and taken out again when one of them speaks against it. -/
namespace InferForge
open Py Effect ResultValidation

/-- What leaves a block of code other than by a return. -/
inductive Escape where
  /-- An `Exception`, with the name of its class. -/
  | raised (name message : Text)
  /-- `KeyboardInterrupt` or `SystemExit`. -/
  | stopped

def Escape.ofExn (e : Exn) : Escape := .raised e.kind.className e.message

/-! The plugin's files in the Pod, and the two scripts that change them. -/

structure Plugin where
  /-- `vllm_kunlun/__init__.py`. -/
  init : Text
  /-- `vllm_kunlun/__init__.py.kdp_backup`. -/
  backup : Option Text
deriving DecidableEq

def hook : Text := Text.join "\n" (List.map Text.ofString [
  "",
  "",
  "def _kdp_install_torch_decode():",
  "    \"\"\"Route regular decode to a torch implementation of paged attention.",
  "",
  "    Both vendor decode kernels return non-zero inside the server at Qwen3-8B's",
  "    decode geometry while accepting identical arguments in isolation. Set",
  "    KDP_DECODE_KERNEL=speculative to reproduce that failure.",
  "    \"\"\"",
  "    import os",
  "    if os.environ.get(\"KDP_DECODE_KERNEL\", \"torch\") != \"torch\":",
  "        return",
  "    import kunlun_ops",
  "    if getattr(kunlun_ops.speculative_attention, \"_kdp_wrapped\", False):",
  "        return",
  "    from kdp_torch_paged_decode import torch_paged_decode",
  "",
  "    _vendor = kunlun_ops.speculative_attention",
  "",
  "    def _dispatch(**kwargs):",
  "        # Only regular decode is rerouted, and the fallback refuses anything it",
  "        # would compute incorrectly (sliding window, attention sinks). Both cases",
  "        # fall back to the vendor kernel rather than to a wrong answer, which is",
  "        # what makes this safe for models other than the one it was written for.",
  "        if kwargs.get(\"qlen\") == 1:",
  "            try:",
  "                return torch_paged_decode(**kwargs)",
  "            except NotImplementedError:",
  "                pass",
  "        return _vendor(**kwargs)",
  "",
  "    _dispatch._kdp_wrapped = True",
  "    kunlun_ops.speculative_attention = _dispatch",
  "",
  "",
  "_kdp_install_torch_decode()",
  ""])

/-- `"_kdp_install_torch_decode" in source`. -/
def hooked (source : Text) : Bool := decide ((Text.ofString "_kdp_install_torch_decode").codes <:+: source.codes)

/-- The source that a script reads, with the hook at its end. -/
def withHook (source : Text) : Text := ⟨universal source.codes⟩ ++ hook

/-- `INSTALL`. A backup that is there already stays; `parses` is what `open` and `ast.parse` accept. -/
def Plugin.install (parses : Text → Bool) (plugin : Plugin) : Plugin where
  init := if !hooked plugin.init && parses (withHook plugin.init) then withHook plugin.init
    else plugin.init
  backup := some (plugin.backup.getD plugin.init)

def Plugin.remove (plugin : Plugin) : Plugin :=
  match plugin.backup with
  | none => plugin
  | some original => ⟨original, none⟩

/-- One call of the patch tool. It exits with zero when its script failed in the Pod. -/
structure ToolRun where
  /-- The script ran in the Pod. -/
  reached : Bool
  /-- What the call raised, before or after that. -/
  escaped : Option Escape

/-- What a run finds and is answered. -/
structure Placement where
  host : Host
  pod : Text
  sitePackages : Text
  contractGiven : Bool
  parses : Text → Bool
  mkdir : Except Escape Unit
  applying : ToolRun
  removing : ToolRun
  /-- `rerun_service`. -/
  rerun : Except Escape Dict
  /-- The triage report, if one was given. -/
  triage : Option (Except Escape Json)
  /-- `numerical_comparison` for a geometry. -/
  compare : Json → Except Escape Dict
  /-- Whether `_write` of a file succeeds. -/
  write : Text → Json → Except Escape Unit
  /-- The task contract, as `yaml.safe_load` reads it. -/
  contract : Except Escape Json

/-- The files of one Pod can always go back to what they were. -/
instance : Preorder Plugin where
  le _ _ := True
  le_refl _ := trivial
  le_trans _ _ _ _ _ := trivial

abbrev Placing := Prog Plugin Escape

/-- What the grading of the answers comes to. -/
inductive Grade where
  /-- The report of a rejection. -/
  | rejected (report : Dict)
  | passed (cases minimum : Json)

namespace Placement
variable (placement : Placement)

/-- A fallible computation of the language. -/
def exn (result : Except Exn α) : Except Escape α := result.mapError Escape.ofExn

/-- `raise RuntimeError(message)`. -/
def runtimeError (message : Text) : Except Escape α := .error (.raised "RuntimeError" message)

def geometryKeys : List Text :=
  ["head_num", "kv_head_num", "head_dim", "block_size", "batch_num", "max_context_len"]

def capturedGeometry : Except Escape Json :=
  match placement.triage with
  | none => runtimeError "patch placement needs the triage report: the original failure's captured geometry is what the reproduction probe replays"
  | some report => do
      let captured := (← exn ((← report).field "captured_arguments")).or (.obj [])
      let fields ← geometryKeys.mapM fun key => return (key, ← exn (captured.field key))
      let lens := (← exn (captured.field "context_lens_cpu")).or (.obj [])
      let length := (← exn (lens.get "max")).getD (.int 128)
      if (fields.take 5).all fun field => field.2.num?.isSome then
        return .obj (Dict.set fields "context_len" length)
      else
        let keys := ((captured.dict?.getD []).map Prod.fst).mergeSort fun a b => Json.codesLe a.codes b.codes
        runtimeError ("the triage report's captured arguments are incomplete: " ++
          placement.host.repr (.arr (keys.map Json.str)))

/-- The body of the `try`: the server and the comparison answer. -/
def tried : Except Escape (Dict × Dict) := do
  if !placement.contractGiven then
    runtimeError "patch placement reruns the service proof for validation: pass --contract-instance"
  else
    let server ← placement.rerun
    let validation ← placement.compare (← placement.capturedGeometry)
    placement.write "numerical_comparison.txt" (.obj validation)
    return (server, validation)

/-- `min(..., default=None)` of the cosines, from the least so far. -/
def minCosine (least : Option Json) : List Json → Except Exn (Option Json)
  | [] => .ok least
  | case :: rest => do
      let cosine ← case.item "cosine"
      match least with
      | none => minCosine (some cosine) rest
      | some best => minCosine (some (if ← best.gt cosine then cosine else best)) rest

/-- The grading of the answers. -/
def grade (server validation : Dict) : Except Exn Grade := do
  let reproduction := (Dict.getD validation "reproduction" .null).or (.obj [])
  let cases := (Dict.getD validation "results" .null).or (.arr [])
  let usable ← (← cases.elements).filterM fun case => mentions placement.host case "cosine"
  let minimum ← minCosine none usable
  if !(Dict.getD server "state" .null).eq (.str "DEPLOYMENT_READY") then
    return .rejected [("state", .str "PATCH_REJECTED"),
      ("reason", .str "service proof failed with the patch in place"),
      ("server_validation", .obj server), ("numerical", .obj validation)]
  else if !(← reproduction.field "reproduced").isTrue then
    return .rejected [("state", .str "PATCH_REJECTED"),
      ("reason", .str "the original failure no longer reproduces with the patch disabled; the evidence for needing this patch is gone"),
      ("reproduction", reproduction), ("numerical", .obj validation)]
  else
    let refusal := Grade.rejected [("state", .str "PATCH_REJECTED"),
      ("reason", .str "numerical evidence missing or below threshold"), ("numerical", .obj validation)]
    match minimum with
    | none | some .null => return refusal
    | some least => if ← agreement.gt least then return refusal else return .passed cases least

/-- The report of a placement that passed the grading. -/
def report (server : Dict) (cases minimum : Json) : Dict :=
  [("state", .str "PATCH_PLACED"), ("mechanism", .str "post_import_patch"),
    ("numerical", .obj [("reference", .str "kunlun_ops.speculative_attention"), ("cases", cases),
      ("min_cosine_similarity", minimum)]),
    ("server_validation", .obj server),
    ("reversibility", .obj [
      ("backup_path", .str (placement.sitePackages ++ "/vllm_kunlun/__init__.py.kdp_backup")),
      ("runtime_switch", .str "KDP_DECODE_KERNEL"), ("backup_required", .bool true),
      ("reproduces_original_failure", .bool true)]),
    ("scope", .obj [("routes_only", .str "qlen == 1")]),
    ("limitations", .arr [.str "shape-dynamic span requires --enforce-eager until the span is static"]),
    ("artifacts", .arr [.str "numerical_comparison.txt", .str "placement_report.json",
      .str "status.json"])]

/-- `ops.apply` and `ops.remove`. -/
def tool (call : ToolRun) (script : Plugin → Plugin) : Placing Unit := do
  if call.reached then Prog.write script fun _ => trivial
  match call.escaped with
  | none => return ()
  | some e => Prog.raise e

def apply : Placing Unit := tool placement.applying (Plugin.install placement.parses)

def remove : Placing Unit := tool placement.removing Plugin.remove

/-- The contract has the last word on a report that passed the grading. -/
def conclude (report : Dict) : Placing Dict := do
  let contract ← Prog.lift placement.contract
  let errors ← Prog.lift (exn (validatePatchPlacement placement.host report contract))
  let report ←
    if errors.isEmpty then pure report
    else do
      placement.remove
      pure (Dict.set (Dict.set report "state" (.str "PATCH_REJECTED")) "validation_errors"
        (.arr (errors.map Json.str)))
  Prog.lift (placement.write "placement_report.json" (.obj report))
  return report

def place : Placing Dict := do
  Prog.lift placement.mkdir
  placement.apply
  match placement.tried with
  | .error (.raised name message) =>
      placement.remove
      Prog.raise (.raised name message)
  | .error .stopped => Prog.raise .stopped
  | .ok (server, validation) =>
      match ← Prog.lift (exn (placement.grade server validation)) with
      | .rejected report =>
          placement.remove
          return report
      | .passed cases minimum => placement.conclude (placement.report server cases minimum)

/-- The status before anything is known. -/
def status : Dict :=
  [("task_id", .str "mat-007-patch-placement"), ("pod", .str placement.pod),
    ("state", .str "PATCH_REJECTED")]

/-- `_write(self.out / "status.json", status)`, and the status is returned. -/
def published (status : Dict) : Placing Dict := do
  Prog.lift (placement.write "status.json" (.obj status))
  return status

def run : Placing Dict := do
  match ← Prog.attempt placement.place with
  | .error (.raised name message) =>
      placement.published (Dict.set placement.status "reason" (.str (name ++ ": " ++ message)))
  | .error .stopped => Prog.raise .stopped
  | .ok report =>
      placement.published (Dict.set (Dict.merge placement.status report) "state"
        (Dict.getD report "state" (.str "PATCH_REJECTED")))

end Placement
end InferForge

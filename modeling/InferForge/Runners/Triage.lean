import InferForge.Validators.Triage
import InferForge.Py.Replacement
import InferForge.Py.Split

/-! Failure triage: an instrumented rerun of a failing service, the arguments it records, and their
replay in isolation. The steps meet in files of a long-lived pod. -/
namespace InferForge.Triage
open Py ResultValidation Effect

/-! ## The pod -/

structure Pod where
  /-- The instrumented file of the plugin. Bytes that do not decode stand in it as lone surrogates. -/
  target : Text
  /-- Its `.kdp_backup`. -/
  backup : Option Text
  /-- The lines of the trace file. -/
  trace : List Text

def importLine : Text := "import kunlun_ops\n"

def wrapper : Text := Text.join "\n" ["", "",
  "def _kdp_traced_kernel(_kdp_fn, **kwargs):",
  "    \"\"\"Record the real arguments when a vendor kernel returns non-zero.\"\"\"",
  "    import json, os",
  "    import torch as _torch",
  "    try:",
  "        return _kdp_fn(**kwargs)",
  "    except Exception as error:",
  "        def describe(value):",
  "            if isinstance(value, _torch.Tensor):",
  "                info = \x7b\"shape\": list(value.shape), \"dtype\": str(value.dtype),",
  "                        \"device\": str(value.device), \"contiguous\": value.is_contiguous(),",
  "                        \"storage_offset\": value.storage_offset()\x7d",
  "                if value.numel() and value.dtype in (_torch.int32, _torch.int64):",
  "                    info[\"min\"] = int(value.min().item())",
  "                    info[\"max\"] = int(value.max().item())",
  "                return info",
  "            return value",
  "        payload = \x7bkey: describe(value) for key, value in kwargs.items()\x7d",
  "        payload[\"kernel\"] = getattr(_kdp_fn, \"__name__\", str(_kdp_fn))",
  "        payload[\"error\"] = \"\x7b\x7d: \x7b\x7d\".format(type(error).__name__, error)",
  "        path = os.environ.get(\"KDP_TRACE_PATH\", \"/tmp/kdp_kernel_failure.jsonl\")",
  "        with open(path, \"a\") as handle:",
  "            handle.write(json.dumps(payload, default=str) + \"\\n\")",
  "        raise",
  ""]

/-- The first argument line of the default call site. -/
def anchor : Text := "                    out=output[:num_decode_tokens],"

section Patch
variable (parses : Text → Bool) (call : Text)

def needle : Text := "kunlun_ops." ++ call ++ "(\n" ++ anchor

def tracedCall : Text := "_kdp_traced_kernel(kunlun_ops." ++ call ++ ", \n" ++ anchor

def withWrapper (source : Text) : Text :=
  if source.holds "_kdp_traced_kernel" then source
  else source.replaceOnce importLine (importLine ++ wrapper)

/-- The source with the traced call, unless the anchor is not found or the result does not parse. -/
def tracedSource (source : Text) : Option Text :=
  let source := withWrapper source
  if source.holds (needle call) then
    let traced := source.replaceOnce (needle call) (tracedCall call)
    if parses traced then some traced else none
  else none

/-- `open(target).read()`, with the newlines translated. -/
def readSource (content : Text) : Option Text :=
  if content.encodable then some ⟨universal content.codes⟩ else none

/-- What the script writes over a file of this content. -/
def instrumented (content : Text) : Option Text := (readSource content).bind (tracedSource parses call)

/-- The source in a file makes the traced call. -/
def Traced (content : Text) : Prop := Text.holds ⟨universal content.codes⟩ (tracedCall call) = true

theorem needle_nonempty : (needle call).codes ≠ [] := by
  intro empty
  have short := congrArg List.length empty
  simp only [needle, Text.codes_append, List.length_append, List.length_nil] at short
  have some' : (Text.ofString "(\n").codes.length = 2 := by decide
  omega

theorem withWrapper_length (source : Text) : source.codes.length ≤ (withWrapper source).codes.length := by
  unfold withWrapper
  split
  · exact le_rfl
  · by_cases found : source.holds importLine
    · have some' : importLine.codes ≠ [] := by decide
      have grown := length_replaceOnce (importLine ++ wrapper) some' found
      rw [Text.codes_append, List.length_append] at grown
      omega
    · rw [Text.replaceOnce, replaceOnceFrom_absent (fun inside => found (holds_iff.mpr inside))]

theorem tracedCall_length : (needle call).codes.length < (tracedCall call).codes.length := by
  have before : (Text.ofString "kunlun_ops.").codes.length = 11 := by decide
  have after : (Text.ofString "_kdp_traced_kernel(kunlun_ops.").codes.length = 30 := by decide
  have opened : (Text.ofString "(\n").codes.length = 2 := by decide
  have passed : (Text.ofString ", \n").codes.length = 3 := by decide
  simp only [needle, tracedCall, Text.codes_append, List.length_append]
  omega

theorem tracedSource_eq (done : tracedSource parses call source = some traced) :
    (withWrapper source).holds (needle call) = true ∧
      traced = (withWrapper source).replaceOnce (needle call) (tracedCall call) := by
  simp only [tracedSource] at done
  split at done
  case isFalse => contradiction
  case isTrue found =>
    split at done
    case isFalse => contradiction
    case isTrue => exact ⟨found, (Option.some.inj done).symm⟩

theorem tracedSource_longer (done : tracedSource parses call source = some traced) :
    source.codes.length < traced.codes.length := by
  obtain ⟨found, rfl⟩ := tracedSource_eq parses call done
  have grown := length_replaceOnce (tracedCall call) (needle_nonempty call) found
  have wrapped := withWrapper_length source
  have longer := tracedCall_length call
  omega

theorem withWrapper_plain (plain : 13 ∉ source.codes) : 13 ∉ (withWrapper source).codes := by
  unfold withWrapper
  split
  · exact plain
  · intro member
    have some' : importLine.codes ≠ [] := by decide
    obtain old | new := mem_replaceOnce some' member
    · exact plain old
    · have wrapped : 13 ∉ (importLine ++ wrapper).codes := by decide +kernel
      exact wrapped new

/-- The call stands in a translated source, so its trace has no carriage return either. -/
theorem tracedSource_plain (plain : 13 ∉ source.codes) (done : tracedSource parses call source = some traced) :
    13 ∉ traced.codes := by
  obtain ⟨found, rfl⟩ := tracedSource_eq parses call done
  have wrapped := withWrapper_plain plain
  have called : 13 ∉ (needle call).codes := fun member => wrapped ((holds_iff.mp found).subset member)
  have named : 13 ∉ call.codes := by
    simp only [needle, Text.codes_append, List.mem_append] at called
    tauto
  intro member
  obtain old | new := mem_replaceOnce (needle_nonempty call) member
  · exact wrapped old
  · simp only [tracedCall, Text.codes_append, List.mem_append] at new
    obtain ((front | inside) | comma) | line := new
    · exact absurd front (by decide)
    · exact named inside
    · exact absurd comma (by decide)
    · exact absurd line (by decide)

theorem instrumented_eq {content : Text} : instrumented parses call content = some traced ↔
    content.encodable = true ∧ tracedSource parses call ⟨universal content.codes⟩ = some traced := by
  unfold instrumented readSource
  split <;> simp_all

/-- An instrumented file makes the traced call. -/
theorem instrumented_traced {content : Text} (done : instrumented parses call content = some traced) : Traced call traced := by
  obtain ⟨-, done⟩ := (instrumented_eq parses call).mp done
  have plain := tracedSource_plain parses call (universal_plain content.codes) done
  obtain ⟨found, rfl⟩ := tracedSource_eq parses call done
  rw [Traced, universal_of_plain plain]
  exact replaceOnce_present (needle_nonempty call) found

/-- It is not the file that it was: that one had a carriage return, or is shorter. -/
theorem instrumented_differs {content : Text} (done : instrumented parses call content = some traced) : traced ≠ content := by
  obtain ⟨-, done⟩ := (instrumented_eq parses call).mp done
  have plain := tracedSource_plain parses call (universal_plain content.codes) done
  rintro rfl
  have longer := tracedSource_longer parses call done
  rw [universal_of_plain plain] at longer
  exact absurd longer (lt_irrefl _)

/-- The call is found in a file with Windows newlines. -/
example : (instrumented (fun _ => true) "scatter" ("kunlun_ops.scatter(\r\n" ++ anchor)).isSome = true := by decide +kernel

/-- `PATCH_SCRIPT`: the file is read, and the backup is written unless there is one, before it is changed. -/
def Pod.patch (pod : Pod) : Pod :=
  match readSource pod.target with
  | none => pod
  | some source => { pod with
      backup := some (pod.backup.getD pod.target)
      target := (tracedSource parses call source).getD pod.target }

end Patch

/-- `RESTORE_SCRIPT`. -/
def Pod.restore (pod : Pod) : Pod :=
  match pod.backup with
  | none => pod
  | some original => { pod with target := original, backup := none }

/-! ## The executor -/

/-- A subprocess that edits the pod: not started, refused before it reaches the pod, or run. -/
inductive Step where
  | raised (e : Exn)
  | unreached
  | ran

/-- A rerun that reports back: whether it exits with an error, and its status. -/
structure Rerun where
  failed : Bool
  status : Dict

/-- What its report quotes where the trace does not say. -/
def Rerun.reason (rerun : Rerun) : Json :=
  (Dict.getD rerun.status "reason" .null).or (.str "service proof failed under instrumentation")

structure Outcomes where
  instrument : Step
  contractInstance : Bool
  rerun : Except Exn Rerun
  /-- The lines that reach the trace file during the rerun. -/
  appended : List Text
  fetch : Except Exn Unit
  replay : Except Exn Dict
  restore : Step
  /-- The output directory, and each file the executor writes there. -/
  write : Text → Except Exn Unit

def acceptance : Json :=
  .obj [("require_captured_arguments", .bool true), ("require_owner", .bool true),
    ("evidence_required", .bool true)]

/-- The flags of the task contract. -/
def contract : Json := .obj [("acceptance", acceptance)]

def isRecord (line : Text) : Bool := line.strip.startsWith "\x7b"

/-- What the executor knows once the instrumentation is restored. -/
structure Capture where
  errorText : Json
  last : Json
  server : Dict
  replay : Dict

section Executor
variable (host : Host) (describe : Exn → Text) (parses : Text → Bool) (call : Text) (o : Outcomes)

def loadRecord (line : Text) : Except Exn Json :=
  match host.loads line.utf8 with
  | some record => .ok record
  | none => .error (host.loadsError line.utf8)

def failedStatus (e : Exn) : Dict :=
  [("state", .str "TRIAGE_FAILED"), ("reason", .str (describe e))]

def notReached : Dict :=
  [("state", .str "TRIAGE_FAILED"), ("reason", .str "no captured arguments: the failing call was not reached")]

/-- The steps under instrumentation: an early report, or what they captured. -/
def capture (trace : List Text) : Except Exn (Dict ⊕ Capture) := do
  -- A RuntimeError; `run` catches every exception alike.
  refuse (!o.contractInstance)
    (.value "triage reruns the service proof to reproduce the failure: pass --contract-instance")
  let rerun ← o.rerun
  o.fetch
  o.write "kernel_failure_arguments.jsonl"
  let entries ← (trace.filter isRecord).mapM (loadRecord host)
  match entries.getLast? with
  | none => return .inl notReached
  | some last =>
      let replay ← o.replay
      o.write "kernel_unit_test_matrix.txt"
      return .inr ⟨rerun.reason, last, rerun.status, replay⟩

/-- `next((case for case in cases if case.get("case") == "captured_case"), None)`. -/
def capturedCase : List Json → Except Exn (Option Json)
  | [] => .ok none
  | case :: rest => do
      if (← case.field "case").eq (.str "captured_case") then return some case else capturedCase rest

def report (errorText last : Json) (server : Dict) (cases : List Json) (reproduced : Bool) : Dict :=
  [("state", .str "TRIAGE_READY"), ("failing_symbol", .str call), ("error_text", errorText),
    ("layer", .str (if reproduced then "kunlun_ops_vendor" else "vllm_kunlun_plugin")),
    ("verdict", .str (if reproduced then "VENDOR_KERNEL_GAP" else "RUNTIME_STATE_DEPENDENT")),
    ("owner", .str (if reproduced then "vendor_with_local_workaround" else "us")),
    ("isolated_reproduction", .obj [("attempted", .bool true), ("reproduced", .bool reproduced),
      ("cases", .arr cases)]),
    ("captured_arguments", last), ("server_rerun", .obj server),
    ("artifacts", .arr [.str "kernel_failure_arguments.jsonl", .str "kernel_unit_test_matrix.txt",
      .str "triage_report.json", .str "status.json"])]

def notSwept (errorText : Json) : Dict :=
  [("state", .str "TRIAGE_FAILED"), ("reason", .str "the isolation sweep never ran the captured case"),
    ("error_text", errorText), ("failing_symbol", .str call)]

/-- The verdict, and the gate. -/
def conclude (captured : Capture) : Except Exn Dict := do
  let replayed := (Dict.getD captured.replay "results" .null).or (Dict.getD captured.replay "cases" .null)
  let cases ← (replayed.or (.arr [])).elements
  match ← capturedCase cases with
  | none => return notSwept call captured.errorText
  | some case =>
      let reproduced := (← case.field "ok").isFalse
      let errorText := (← captured.last.get "error").getD captured.errorText
      let report := report call errorText captured.last captured.server cases reproduced
      let errors ← validate host report contract
      let final :=
        if errors.isEmpty then report
        else Dict.set (Dict.set report "state" (.str "TRIAGE_FAILED")) "validation_errors"
          (.arr (errors.map .str))
      o.write "triage_report.json"
      return final

/-- `_triage` up to the restore, in its pod. -/
def Pod.rerun (pod : Pod) : Pod :=
  let pod := match o.instrument with
    | .ran => pod.patch parses call
    | _ => pod
  if o.contractInstance then { pod with trace := pod.trace ++ o.appended } else pod

def finish : Dict ⊕ Capture → Except Exn Dict
  | .inl early => .ok early
  | .inr captured => conclude host call o captured

/-- `_triage`, and the pod it leaves. Only an instrumentation that was started is restored. -/
def triage (pod : Pod) : Except Exn Dict × Pod :=
  match o.write "output", o.instrument with
  | .error e, _ => (.error e, pod)
  | .ok _, .raised e => (.error e, pod)
  | .ok _, _ =>
      let under := pod.rerun parses call o
      let captured := capture host o under.trace
      match o.restore with
      | .raised e => (.error e, under)
      | restore =>
          let left := match restore with
            | .ran => under.restore
            | _ => under
          (captured >>= finish host call o, left)

/-- `TriageExecutor.run`: the report that is written as its status, and the pod it leaves. -/
def run (pod : Pod) : Except Exn Dict × Pod :=
  let ended := triage host parses call o pod
  let status := match ended.1 with
    | .ok report => report
    | .error e => failedStatus describe e
  (do o.write "status.json"; return status, ended.2)

end Executor

/-! ## The gate on a report -/

section Gate
variable (host : Host) (call : Text) (errorText last : Json) (server : Dict) (cases : List Json)
  (reproduced : Bool)

theorem report_isolation (verdict : Json)
    (same : verdict = .str (if reproduced then "VENDOR_KERNEL_GAP" else "RUNTIME_STATE_DEPENDENT")) :
    isolationErrors (report call errorText last server cases reproduced) verdict = .ok
      (errorIf (!(Json.arr cases).truthy) "isolated_reproduction.cases must record what was actually run") := by
  have isolated : Dict.getD (report call errorText last server cases reproduced) "isolated_reproduction" .null =
      .obj [("attempted", .bool true), ("reproduced", .bool reproduced), ("cases", .arr cases)] := rfl
  have attempted : Dict.getD [("attempted", .bool true), ("reproduced", .bool reproduced), ("cases", .arr cases)]
      "attempted" .null = .bool true := rfl
  have recorded : Dict.getD [("attempted", .bool true), ("reproduced", .bool reproduced), ("cases", .arr cases)]
      "reproduced" .null = .bool reproduced := rfl
  have swept : Dict.getD [("attempted", .bool true), ("reproduced", .bool reproduced), ("cases", .arr cases)]
      "cases" .null = .arr cases := rfl
  simp only [isolationErrors, isolated, attempted, recorded, swept, same]
  cases reproduced <;> simp [errorIf, Json.isTrue, Json.isFalse, Json.eq, Json.num?, Double.eq]

theorem report_owner : ownerErrors host (report call errorText last server cases reproduced)
    (.str (if reproduced then "kunlun_ops_vendor" else "vllm_kunlun_plugin")) = .ok [] := by
  cases reproduced <;> rfl

theorem validate_report :
    validate host (report call errorText last server cases reproduced) contract = .ok (
      errorIf (!(Json.str call).truthy) "failing_symbol must name the call that failed" ++
      errorIf (!errorText.truthy) "error_text must quote what the runtime actually said" ++
      errorIf (!(Json.arr cases).truthy) "isolated_reproduction.cases must record what was actually run" ++
      errorIf (!last.truthy)
        "the failing call's real arguments must be captured; a symptom without arguments cannot be reproduced by anyone else") := by
  have state : Dict.getD (report call errorText last server cases reproduced) "state" .null =
      .str "TRIAGE_READY" := rfl
  have symbol : Dict.getD (report call errorText last server cases reproduced) "failing_symbol" .null =
      .str call := rfl
  have text : Dict.getD (report call errorText last server cases reproduced) "error_text" .null = errorText := rfl
  have layer : Dict.getD (report call errorText last server cases reproduced) "layer" .null =
      .str (if reproduced then "kunlun_ops_vendor" else "vllm_kunlun_plugin") := rfl
  have verdict : Dict.getD (report call errorText last server cases reproduced) "verdict" .null =
      .str (if reproduced then "VENDOR_KERNEL_GAP" else "RUNTIME_STATE_DEPENDENT") := rfl
  have captured : Dict.getD (report call errorText last server cases reproduced) "captured_arguments" .null =
      last := rfl
  have layered : (Json.str (if reproduced then "kunlun_ops_vendor" else "vllm_kunlun_plugin")).among layers =
      .ok true := by cases reproduced <;> rfl
  have judged : (Json.str (if reproduced then "VENDOR_KERNEL_GAP" else "RUNTIME_STATE_DEPENDENT")).among verdicts =
      .ok true := by cases reproduced <;> rfl
  have placed : workaroundErrors (report call errorText last server cases reproduced) = .ok [] := rfl
  have accepts : contract.field "acceptance" = .ok acceptance := rfl
  have required : acceptance.or (.obj []) = acceptance := rfl
  have capturedFlag : acceptance.field "require_captured_arguments" = .ok (.bool true) := rfl
  have ownerFlag : acceptance.field "require_owner" = .ok (.bool true) := rfl
  have isolated := report_isolation call errorText last server cases reproduced _ rfl
  have owned := report_owner host call errorText last server cases reproduced
  simp only [validate, accepts, ok_bind, required, state, layer, verdict, layered, judged, isolated,
    capturedFlag, ownerFlag, owned, symbol, text, captured, placed, Json.truthy, if_true]
  simp [errorIf]

end Gate

/-- A report that passes the gate names the call, quotes an error, and holds cases and arguments. -/
structure Complete (call : Text) (errorText last : Json) (cases : List Json) : Prop where
  named : call.isEmpty = false
  quoted : errorText.truthy
  swept : cases ≠ []
  captured : last.truthy

theorem validate_report_nil {errors : List Text}
    (judged : validate host (report call errorText last server cases reproduced) contract = .ok errors) :
    errors.isEmpty = true ↔ Complete call errorText last cases := by
  rw [validate_report] at judged
  obtain rfl := Except.ok.inj judged
  constructor
  · intro passed
    simp only [List.isEmpty_iff, List.append_eq_nil_iff] at passed
    obtain ⟨⟨⟨named, quoted⟩, swept⟩, captured⟩ := passed
    have named' := errorIf_nil named
    have swept' := errorIf_nil swept
    simp only [Json.truthy, Bool.not_not] at named' swept'
    exact ⟨named', by simpa using errorIf_nil quoted, by simpa using swept', by simpa using errorIf_nil captured⟩
  · intro complete
    have named' : (Json.str call).truthy = true := by simp [Json.truthy, complete.named]
    have swept' : (Json.arr cases).truthy = true := by simp [Json.truthy, complete.swept]
    simp [errorIf, named', swept', complete.quoted, complete.captured]

/-! ## Runs that attribute -/

/-- The last record line of a trace. -/
def lastRecord (trace : List Text) : Option Text := (trace.filter isRecord).getLast?

/-- The steps under instrumentation all return, and every record line of the trace is read. -/
structure Recorded (host : Host) (o : Outcomes) (trace : List Text) (rerun : Rerun) (replay : Dict) (last : Json) : Prop where
  given : o.contractInstance = true
  rerun : o.rerun = .ok rerun
  fetched : o.fetch = .ok ()
  arguments : o.write "kernel_failure_arguments.jsonl" = .ok ()
  readable : ∀ line ∈ trace, isRecord line = true → ∃ record, loadRecord host line = .ok record
  last : ∃ line, lastRecord trace = some line ∧ loadRecord host line = .ok last
  replayed : o.replay = .ok replay
  matrix : o.write "kernel_unit_test_matrix.txt" = .ok ()

/-- The sweep holds the captured case, with this answer to `ok`. -/
structure Swept (replay : Dict) (cases : List Json) (case ok : Json) : Prop where
  listed : (((Dict.getD replay "results" .null).or (Dict.getD replay "cases" .null)).or (.arr [])).elements = .ok cases
  found : capturedCase cases = .ok (some case)
  answered : case.field "ok" = .ok ok

/-- The error of the last record, or the reason of the rerun. -/
def quoted (reason : Json) (fields : Dict) : Json := Dict.getD fields "error" reason

/-- The inputs lead to `TRIAGE_READY`: no step stops the run, and what they answer passes the gate. -/
structure Leads (host : Host) (call : Text) (o : Outcomes) (pod : Pod) (rerun : Rerun) (replay : Dict)
    (cases : List Json) (case ok : Json) (fields : Dict) : Prop where
  output : o.write "output" = .ok ()
  started : ∀ e, o.instrument ≠ .raised e
  recorded : Recorded host o (pod.trace ++ o.appended) rerun replay (.obj fields)
  restored : ∀ e, o.restore ≠ .raised e
  swept : Swept replay cases case ok
  complete : Complete call (quoted rerun.reason fields) (.obj fields) cases
  reported : o.write "triage_report.json" = .ok ()
  published : o.write "status.json" = .ok ()

section Runs
variable {host : Host} {describe : Exn → Text} {parses : Text → Bool} {call : Text} {o : Outcomes}

theorem conclude_ready : (conclude host call o captured = .ok final ∧
    Dict.getD final "state" .null = .str "TRIAGE_READY") ↔
      ∃ cases case ok fields, Swept captured.replay cases case ok ∧ captured.last = .obj fields ∧
        Complete call (quoted captured.errorText fields) captured.last cases ∧ o.write "triage_report.json" = .ok () ∧
        final = report call (quoted captured.errorText fields) captured.last captured.server cases ok.isFalse := by
  have apart : (Json.str "TRIAGE_FAILED") ≠ .str "TRIAGE_READY" := by
    simp
  constructor
  · rintro ⟨concluded, ready⟩
    simp only [conclude, bind_ok] at concluded
    obtain ⟨cases, listed, found, searched, concluded⟩ := concluded
    cases found with
    | none =>
      obtain rfl := pure_ok.mp concluded
      exact absurd ready apart
    | some case =>
      simp only [bind_ok, pure_ok] at concluded
      obtain ⟨ok, answered, text, error, errors, judged, u, written, rfl⟩ := concluded
      cases record : captured.last with
      | obj fields =>
        rw [record, Json.get] at error
        obtain rfl := Except.ok.inj error
        by_cases passed : errors.isEmpty = true
        · rw [if_pos passed]
          rw [record] at judged
          exact ⟨cases, case, ok, fields, ⟨listed, searched, answered⟩, rfl,
            (validate_report_nil judged).mp passed, written, rfl⟩
        · rw [if_neg passed] at ready
          have other : ("state" : Text) ≠ "validation_errors" := by decide
          rw [Dict.getD, Dict.get?_set_other _ _ other, Dict.get?_set_same] at ready
          exact absurd ready apart
      | _ => simp [record, Json.get] at error
  · rintro ⟨cases, case, ok, fields, swept, record, complete, written, rfl⟩
    refine ⟨?_, rfl⟩
    have judged := validate_report host call (quoted captured.errorText fields) captured.last captured.server cases ok.isFalse
    have passed := (validate_report_nil judged).mpr complete
    simp only [conclude, swept.listed, ok_bind, swept.found, swept.answered]
    simp only [record, Json.get, ok_bind] at judged passed ⊢
    have text : (Dict.get? fields "error").getD captured.errorText = quoted captured.errorText fields := rfl
    rw [text, judged, ok_bind, written, ok_bind, if_pos passed]
    rfl

theorem records_loaded {lines : List Text} (readable : ∀ line ∈ lines, isRecord line = true → ∃ record, loadRecord host line = .ok record) :
    ∃ entries, (lines.filter isRecord).mapM (loadRecord host) = .ok entries := by
  have : Nonempty Json := ⟨.null⟩
  choose! record loaded using readable
  refine ⟨_, mapM_ok (g := record) fun line member => ?_⟩
  obtain ⟨inside, isLine⟩ := List.mem_filter.mp member
  exact loaded line inside isLine

/-- The steps under instrumentation hand on exactly what they recorded. -/
theorem capture_iff {trace : List Text} {captured : Capture} : capture host o trace = .ok (.inr captured) ↔
    ∃ rerun replay last, Recorded host o trace rerun replay last ∧ captured = ⟨rerun.reason, last, rerun.status, replay⟩ := by
  constructor
  · intro recorded
    simp only [capture, bind_ok] at recorded
    obtain ⟨_, given, rerun, ran, _, fetched, _, arguments, entries, loaded, rest⟩ := recorded
    have read := mapM_forall₂.mp loaded
    split at rest
    case h_1 => cases pure_ok.mp rest
    case h_2 last found =>
      simp only [bind_ok] at rest
      obtain ⟨replay, replayed, _, matrix, same⟩ := rest
      obtain rfl := Sum.inr.inj (pure_ok.mp same)
      refine ⟨rerun, replay, last, ⟨by simpa using refuse_ok.mp given, ran, fetched, arguments, ?_,
        mapM_getLast? loaded found, replayed, matrix⟩, rfl⟩
      intro line member isLine
      obtain ⟨record, -, here⟩ := forall₂_member read (List.mem_filter.mpr ⟨member, isLine⟩)
      exact ⟨record, here⟩
  · rintro ⟨rerun, replay, last, recorded, rfl⟩
    obtain ⟨entries, loaded⟩ := records_loaded recorded.readable
    obtain ⟨line, final, here⟩ := recorded.last
    have found : entries.getLast? = some last := by
      cases entries' : entries.getLast? with
      | none =>
        have length := (mapM_forall₂.mp loaded).length_eq
        rw [List.getLast?_eq_none_iff.mp entries', List.length_nil, List.length_eq_zero_iff] at length
        simp [lastRecord, length] at final
      | some other =>
        obtain ⟨line', final', here'⟩ := mapM_getLast? loaded entries'
        obtain rfl := Option.some.inj (final.symm.trans final')
        exact congrArg some (Except.ok.inj (here'.symm.trans here))
    have given : refuse (!o.contractInstance)
        (.value "triage reruns the service proof to reproduce the failure: pass --contract-instance") = .ok () :=
      refuse_ok.mpr (by simp [recorded.given])
    simp only [capture, given, ok_bind, recorded.rerun, recorded.fetched, recorded.arguments, loaded, found,
      recorded.replayed, recorded.matrix]
    rfl

/-- The pod that a started run leaves. -/
def Pod.left (parses : Text → Bool) (call : Text) (o : Outcomes) (pod : Pod) : Pod :=
  match o.restore with
  | .ran => (pod.rerun parses call o).restore
  | _ => pod.rerun parses call o

theorem patch_trace (pod : Pod) : (pod.patch parses call).trace = pod.trace := by
  unfold Pod.patch
  split <;> rfl

theorem rerun_trace (given : o.contractInstance = true) (pod : Pod) :
    (pod.rerun parses call o).trace = pod.trace ++ o.appended := by
  rw [Pod.rerun, if_pos given]
  cases o.instrument <;> simp only [patch_trace]

theorem capture_rerun (parses : Text → Bool) (call : Text) (pod : Pod) :
    capture host o (pod.rerun parses call o).trace = capture host o (pod.trace ++ o.appended) := by
  cases given : o.contractInstance with
  | false => simp [capture, given, refuse, bind, Except.bind]
  | true => rw [rerun_trace given]

theorem triage_started (output : o.write "output" = .ok ()) (started : ∀ e, o.instrument ≠ .raised e)
    (restored : ∀ e, o.restore ≠ .raised e) (pod : Pod) :
    triage host parses call o pod =
      (capture host o (pod.trace ++ o.appended) >>= finish host call o, pod.left parses call o) := by
  rw [← capture_rerun parses call pod]
  cases instrument : o.instrument with
  | raised e => exact absurd instrument (started e)
  | _ =>
    cases restore : o.restore with
    | raised e => exact absurd restore (restored e)
    | _ => simp only [triage, output, instrument, restore, Pod.left]

theorem capture_early (recorded : capture host o trace = .ok (.inl early)) : early = notReached := by
  simp only [capture, bind_ok] at recorded
  obtain ⟨_, -, _, -, _, -, _, -, entries, -, rest⟩ := recorded
  split at rest
  · exact (Sum.inl.inj (pure_ok.mp rest)).symm
  · simp only [bind_ok] at rest
    obtain ⟨_, -, _, -, last⟩ := rest
    cases pure_ok.mp last

theorem finish_ready : (capture host o trace >>= finish host call o = .ok status ∧
    Dict.getD status "state" .null = .str "TRIAGE_READY") ↔
      ∃ captured, capture host o trace = .ok (.inr captured) ∧ conclude host call o captured = .ok status ∧
        Dict.getD status "state" .null = .str "TRIAGE_READY" := by
  have apart : (Json.str "TRIAGE_FAILED") ≠ .str "TRIAGE_READY" := by simp
  constructor
  · rintro ⟨ran, ready⟩
    obtain ⟨found, captured, finished⟩ := bind_ok.mp ran
    cases found with
    | inl early =>
      obtain rfl := capture_early captured
      obtain rfl := Except.ok.inj finished
      exact absurd ready apart
    | inr found => exact ⟨found, captured, finished, ready⟩
  · rintro ⟨captured, recorded, concluded, ready⟩
    exact ⟨bind_ok.mpr ⟨_, recorded, concluded⟩, ready⟩

theorem triage_ready (pod : Pod) : ((triage host parses call o pod).1 = .ok status ∧
    Dict.getD status "state" .null = .str "TRIAGE_READY") ↔
      o.write "output" = .ok () ∧ (∀ e, o.instrument ≠ .raised e) ∧ (∀ e, o.restore ≠ .raised e) ∧
        ∃ captured, capture host o (pod.trace ++ o.appended) = .ok (.inr captured) ∧
          conclude host call o captured = .ok status ∧ Dict.getD status "state" .null = .str "TRIAGE_READY" := by
  constructor
  · rintro ⟨returned, ready⟩
    have output : o.write "output" = .ok () := by
      cases output : o.write "output" with
      | error e => simp [triage, output] at returned
      | ok => rfl
    have started : ∀ e, o.instrument ≠ .raised e := by
      intro e raised
      simp [triage, output, raised] at returned
    have restored : ∀ e, o.restore ≠ .raised e := by
      intro e raised
      cases instrument : o.instrument with
      | raised e' => exact started e' instrument
      | _ => simp [triage, output, instrument, raised] at returned
    rw [triage_started output started restored] at returned
    exact ⟨output, started, restored, finish_ready.mp ⟨returned, ready⟩⟩
  · rintro ⟨output, started, restored, ready⟩
    rw [triage_started output started restored]
    exact finish_ready.mpr ready

/-- Exactly the inputs that lead there give a ready status, with this report. -/
theorem run_ready_iff (pod : Pod) : ((run host describe parses call o pod).1 = .ok status ∧
    Dict.getD status "state" .null = .str "TRIAGE_READY") ↔
      ∃ rerun replay cases case ok fields, Leads host call o pod rerun replay cases case ok fields ∧
        status = report call (quoted rerun.reason fields) (.obj fields) rerun.status cases ok.isFalse := by
  have apart : (Json.str "TRIAGE_FAILED") ≠ .str "TRIAGE_READY" := by simp
  constructor
  · rintro ⟨returned, ready⟩
    simp only [run, bind_ok, pure_ok] at returned
    obtain ⟨_, published, same⟩ := returned
    cases ended : (triage host parses call o pod).1 with
    | error e =>
      rw [ended] at same
      subst same
      exact absurd ready apart
    | ok final =>
      rw [ended] at same
      subst same
      obtain ⟨output, started, restored, captured, recorded, concluded⟩ := (triage_ready pod).mp ⟨ended, ready⟩
      obtain ⟨cases, case, ok, fields, swept, record, complete, reported, rfl⟩ := conclude_ready.mp concluded
      obtain ⟨rerun, replay, last, steps, rfl⟩ := capture_iff.mp recorded
      obtain rfl : last = .obj fields := record
      exact ⟨rerun, replay, cases, case, ok, fields,
        ⟨output, started, steps, restored, swept, complete, reported, published⟩, rfl⟩
  · rintro ⟨rerun, replay, cases, case, ok, fields, leads, rfl⟩
    let captured : Capture := ⟨rerun.reason, .obj fields, rerun.status, replay⟩
    have recorded : capture host o (pod.trace ++ o.appended) = .ok (.inr captured) :=
      capture_iff.mpr ⟨rerun, replay, _, leads.recorded, rfl⟩
    have concluded : conclude host call o captured = .ok _ ∧ _ := conclude_ready.mpr ⟨cases, case, ok, fields, leads.swept,
      rfl, leads.complete, leads.reported, rfl⟩
    obtain ⟨ended, ready⟩ : (triage host parses call o pod).1 = .ok _ ∧ _ := (triage_ready pod).mpr
      ⟨leads.output, leads.started, leads.restored, captured, recorded, concluded⟩
    refine ⟨?_, ready⟩
    simp only [run, ended, leads.published, ok_bind]
    rfl

/-! ## Attributions -/

/-- The line that the replay takes its geometry from. -/
def geometryLine (trace : List Text) : Option Text := (trace.filter (·.startsWith "\x7b")).getLast?

/-- The kernel itself was called on the captured geometry, and raised. -/
structure KernelRaised (host : Host) (o : Outcomes) (pod : Pod) (status : Dict) : Prop where
  kernel : ∃ replay cases case, o.replay = .ok replay ∧
    (((Dict.getD replay "results" .null).or (Dict.getD replay "cases" .null)).or (.arr [])).elements = .ok cases ∧
    capturedCase cases = .ok (some case) ∧ case.field "ok" = .ok (.bool false) ∧
    case.field "stage" = .ok (.str "kernel")
  geometry : ∃ line, geometryLine (pod.trace ++ o.appended) = some line ∧
    loadRecord host line = .ok (Dict.getD status "captured_arguments" .null)

/-- The status of a run is about the failure of its rerun. -/
structure Attributed (host : Host) (parses : Text → Bool) (call : Text) (o : Outcomes) (pod : Pod)
    (status : Dict) : Prop where
  instrumented : Traced call (pod.rerun parses call o).target
  failed : ∃ rerun, o.rerun = .ok rerun ∧ rerun.failed = true
  recorded : ∃ line ∈ o.appended, isRecord line = true ∧ ∃ fields, loadRecord host line = .ok (.obj fields) ∧
    Dict.getD status "captured_arguments" .null = .obj fields ∧
    Dict.get? fields "kernel" = some (.str call) ∧
    Dict.get? fields "error" = some (Dict.getD status "error_text" .null)
  verdict : Dict.getD status "verdict" .null = .str "VENDOR_KERNEL_GAP" → KernelRaised host o pod status

/-- A ready status is about this failure, and the instrumented file is as it was. -/
structure Honest (host : Host) (describe : Exn → Text) (parses : Text → Bool) (call : Text) (o : Outcomes)
    (pod : Pod) : Prop where
  attributed : ∀ status, (run host describe parses call o pod).1 = .ok status →
    Dict.getD status "state" .null = .str "TRIAGE_READY" → Attributed host parses call o pod status
  unchanged : (run host describe parses call o pod).2.target = pod.target

/-- The instrumented file is not touched, or restored to what it was. -/
def Untouched (parses : Text → Bool) (call : Text) (o : Outcomes) (pod : Pod) : Prop :=
  (∃ e, o.write "output" = .error e) ∨ (∃ e, o.instrument = .raised e) ∨
    (o.restore = .ran ∧ (pod.backup = none ∨ pod.backup = some pod.target)) ∨
    (o.restore ≠ .ran ∧ (o.instrument = .ran → instrumented parses call pod.target = none))

/-- The inputs of a run are about one failure of the call: its file is instrumented, the rerun fails and leaves
a record, the record that ends the trace is of this call, and the replay is of that record and raised in the kernel. -/
structure Genuine (host : Host) (parses : Text → Bool) (call : Text) (o : Outcomes) (pod : Pod)
    (rerun : Rerun) (case ok : Json) (fields : Dict) : Prop where
  traced : (o.instrument = .ran ∧ (instrumented parses call pod.target).isSome) ∨ Traced call pod.target
  failed : rerun.failed = true
  appended : ∃ line ∈ o.appended, isRecord line = true
  kernel : Dict.get? fields "kernel" = some (.str call)
  error : (Dict.get? fields "error").isSome
  stage : ok.isFalse = true → case.field "stage" = .ok (.str "kernel")
  geometry : ok.isFalse = true → ∃ line, geometryLine (pod.trace ++ o.appended) = some line ∧
    loadRecord host line = .ok (.obj fields)

theorem patch_target (pod : Pod) :
    (pod.patch parses call).target = (instrumented parses call pod.target).getD pod.target := by
  unfold Pod.patch instrumented
  cases readSource pod.target <;> rfl

theorem rerun_target (pod : Pod) : (pod.rerun parses call o).target =
    match o.instrument with
    | .ran => (instrumented parses call pod.target).getD pod.target
    | _ => pod.target := by
  unfold Pod.rerun
  cases o.instrument <;> cases o.contractInstance <;> simp [patch_target]

theorem restore_target (pod : Pod) : pod.restore.target = pod.backup.getD pod.target := by
  unfold Pod.restore
  cases pod.backup <;> rfl

/-- A restored file is the backup that was there before, or the file as it was. -/
theorem patch_restore (pod : Pod) : (pod.patch parses call).restore.target = pod.backup.getD pod.target := by
  rw [restore_target, Pod.patch]
  cases readSource pod.target <;> rfl

theorem rerun_restore (pod : Pod) : (pod.rerun parses call o).restore.target = pod.backup.getD pod.target := by
  rw [restore_target, Pod.rerun]
  cases o.instrument with
  | ran =>
    have patched : (pod.patch parses call).restore.target = pod.backup.getD pod.target := patch_restore pod
    rw [restore_target] at patched
    cases o.contractInstance <;> exact patched
  | _ => cases o.contractInstance <;> rfl

theorem rerun_traced (pod : Pod) : Traced call (pod.rerun parses call o).target ↔
    (o.instrument = .ran ∧ (instrumented parses call pod.target).isSome) ∨ Traced call pod.target := by
  rw [rerun_target]
  cases o.instrument with
  | ran =>
    cases done : instrumented parses call pod.target with
    | none => simp
    | some traced => simp [instrumented_traced parses call done]
  | _ => simp

theorem backup_getD_eq (backup : Option Text) (target : Text) :
    backup.getD target = target ↔ backup = none ∨ backup = some target := by
  cases backup <;> simp

theorem instrumented_getD_eq (content : Text) :
    (instrumented parses call content).getD content = content ↔ instrumented parses call content = none := by
  cases done : instrumented parses call content with
  | none => simp
  | some traced => simp [instrumented_differs parses call done]

theorem left_target_iff (started : ∀ e, o.instrument ≠ .raised e) (pod : Pod) :
    (pod.left parses call o).target = pod.target ↔
      (o.restore = .ran ∧ (pod.backup = none ∨ pod.backup = some pod.target)) ∨
        (o.restore ≠ .ran ∧ (o.instrument = .ran → instrumented parses call pod.target = none)) := by
  cases restore : o.restore with
  | ran => simp [Pod.left, restore, rerun_restore, backup_getD_eq]
  | _ =>
    simp only [Pod.left, restore, rerun_target]
    cases instrument : o.instrument with
    | raised e => exact absurd instrument (started e)
    | unreached => simp
    | ran => simp [instrumented_getD_eq]

theorem run_untouched_iff (pod : Pod) :
    (run host describe parses call o pod).2.target = pod.target ↔ Untouched parses call o pod := by
  have left : (run host describe parses call o pod).2 = (triage host parses call o pod).2 := rfl
  rw [left]
  cases output : o.write "output" with
  | error e => simp [triage, output, Untouched]
  | ok u =>
    cases instrument : o.instrument with
    | raised e => simp [triage, output, instrument, Untouched]
    | _ =>
      have started : ∀ e, o.instrument ≠ .raised e := by simp [instrument]
      have same : (triage host parses call o pod).2 = pod.left parses call o := by
        cases restore : o.restore <;> simp only [triage, output, instrument, restore, Pod.left]
      rw [same, left_target_iff started, Untouched]
      simp [output, instrument]

/-- A record that the rerun appends comes after every older one. -/
theorem lastRecord_appended {trace appended : List Text} {line : Text} (last : lastRecord (trace ++ appended) = some line)
    (member : record ∈ appended) (isLine : isRecord record = true) : line ∈ appended ∧ isRecord line = true := by
  have some' : appended.filter isRecord ≠ [] := List.ne_nil_of_mem (List.mem_filter.mpr ⟨member, isLine⟩)
  rw [lastRecord, List.filter_append, List.getLast?_append_of_ne_nil _ some'] at last
  exact List.mem_filter.mp (List.mem_of_getLast? last)

theorem recorded_iff (call : Text) {trace : List Text} {rerun : Rerun} {replay fields : Dict}
    (recorded : Recorded host o (trace ++ o.appended) rerun replay (.obj fields)) :
    (∃ line ∈ o.appended, isRecord line = true ∧ ∃ record, loadRecord host line = .ok (.obj record) ∧
      Json.obj fields = .obj record ∧ Dict.get? record "kernel" = some (.str call) ∧
      Dict.get? record "error" = some (quoted rerun.reason fields)) ↔
    (∃ line ∈ o.appended, isRecord line = true) ∧ Dict.get? fields "kernel" = some (.str call) ∧
      (Dict.get? fields "error").isSome := by
  constructor
  · rintro ⟨line, member, isLine, record, -, same, kernel, error⟩
    obtain rfl := Json.obj.inj same
    exact ⟨⟨line, member, isLine⟩, kernel, by simp [error]⟩
  · rintro ⟨⟨line, member, isLine⟩, kernel, error⟩
    obtain ⟨final, found, loaded⟩ := recorded.last
    obtain ⟨inside, isFinal⟩ := lastRecord_appended found member isLine
    refine ⟨final, inside, isFinal, fields, loaded, rfl, kernel, ?_⟩
    obtain ⟨text, named⟩ := Option.isSome_iff_exists.mp error
    simp [quoted, Dict.getD, named]

theorem attributed_iff {rerun : Rerun} {replay : Dict}
    (leads : Leads host call o pod rerun replay cases case ok fields) :
    Attributed host parses call o pod
      (report call (quoted rerun.reason fields) (.obj fields) rerun.status cases ok.isFalse) ↔
    Genuine host parses call o pod rerun case ok fields := by
  have arguments : Dict.getD (report call (quoted rerun.reason fields) (.obj fields) rerun.status cases ok.isFalse)
      "captured_arguments" .null = .obj fields := rfl
  have text : Dict.getD (report call (quoted rerun.reason fields) (.obj fields) rerun.status cases ok.isFalse)
      "error_text" .null = quoted rerun.reason fields := rfl
  have verdict : Dict.getD (report call (quoted rerun.reason fields) (.obj fields) rerun.status cases ok.isFalse)
      "verdict" .null = .str (if ok.isFalse then "VENDOR_KERNEL_GAP" else "RUNTIME_STATE_DEPENDENT") := rfl
  have records := recorded_iff call leads.recorded
  constructor
  · intro attributed
    have recorded := attributed.recorded
    simp only [arguments, text] at recorded
    obtain ⟨appended, kernel, error⟩ := records.mp recorded
    have raised (isFalse : ok.isFalse = true) := attributed.verdict (by rw [verdict, if_pos isFalse])
    refine ⟨(rerun_traced pod).mp attributed.instrumented, ?_, appended, kernel, error, ?_, ?_⟩
    · obtain ⟨other, same, failed⟩ := attributed.failed
      obtain rfl := Except.ok.inj (leads.recorded.rerun.symm.trans same)
      exact failed
    · intro isFalse
      obtain ⟨other, items, found, same, listed, searched, -, stage⟩ := (raised isFalse).kernel
      obtain rfl := Except.ok.inj (leads.recorded.replayed.symm.trans same)
      obtain rfl := Except.ok.inj (leads.swept.listed.symm.trans listed)
      obtain rfl := Option.some.inj (Except.ok.inj (leads.swept.found.symm.trans searched))
      exact stage
    · exact fun isFalse => (raised isFalse).geometry
  · intro genuine
    refine ⟨(rerun_traced pod).mpr genuine.traced, ⟨rerun, leads.recorded.rerun, genuine.failed⟩, ?_, ?_⟩
    · simp only [arguments, text]
      exact records.mpr ⟨genuine.appended, genuine.kernel, genuine.error⟩
    · intro gap
      have isFalse : ok.isFalse = true := by
        by_contra other
        rw [verdict, if_neg other] at gap
        have apart : ("RUNTIME_STATE_DEPENDENT" : Text) ≠ "VENDOR_KERNEL_GAP" := by decide
        exact apart (Json.str.inj gap)
      have answer : ok = .bool false := by
        cases ok with
        | bool value => cases value <;> simp_all [Json.isFalse]
        | _ => simp [Json.isFalse] at isFalse
      refine ⟨⟨replay, cases, case, leads.recorded.replayed, leads.swept.listed, leads.swept.found, ?_,
        genuine.stage isFalse⟩, genuine.geometry isFalse⟩
      rw [leads.swept.answered, answer]

/-- A triage is honest exactly if the file is left alone or restored from a backup of this run, and inputs that
lead it to `TRIAGE_READY` are about one failure of the call. -/
theorem run_honest_iff (host : Host) (describe : Exn → Text) (parses : Text → Bool) (call : Text)
    (o : Outcomes) (pod : Pod) :
    Honest host describe parses call o pod ↔
      Untouched parses call o pod ∧ ∀ rerun replay cases case ok fields,
        Leads host call o pod rerun replay cases case ok fields →
          Genuine host parses call o pod rerun case ok fields := by
  constructor
  · intro honest
    refine ⟨(run_untouched_iff pod).mp honest.unchanged, ?_⟩
    intro rerun replay cases case ok fields leads
    obtain ⟨returned, ready⟩ : (run host describe parses call o pod).1 = .ok _ ∧ _ :=
      (run_ready_iff pod).mpr ⟨rerun, replay, cases, case, ok, fields, leads, rfl⟩
    exact (attributed_iff leads).mp (honest.attributed _ returned ready)
  · rintro ⟨untouched, genuine⟩
    refine ⟨?_, (run_untouched_iff pod).mpr untouched⟩
    intro status returned ready
    obtain ⟨rerun, replay, cases, case, ok, fields, leads, rfl⟩ := (run_ready_iff pod).mp ⟨returned, ready⟩
    exact (attributed_iff leads).mpr (genuine rerun replay cases case ok fields leads)

end Runs

/-- The record of an earlier triage. -/
def staleLine : Text := "\x7b\x22kernel\x22: \x22speculative_attention\x22\x7d"

def staleRecord : Json := .obj [("kernel", .str "speculative_attention"), ("error", .str "Check 0 == ret failed")]

/-- The anchor is not found, the service starts, and no call fails. -/
def uneventful : Outcomes where
  instrument := .ran
  contractInstance := true
  rerun := .ok ⟨false, []⟩
  appended := []
  fetch := .ok ()
  replay := .ok [("results", .arr [.obj [("case", .str "captured_case"), ("ok", .bool true)]])]
  restore := .ran
  write _ := .ok ()

/-- A trace of an earlier triage is attributed to a rerun in which nothing failed. -/
theorem stale_attributed : ¬ ∀ (host : Host) (describe : Exn → Text) (parses : Text → Bool) (call : Text)
    (o : Outcomes) (pod : Pod), Honest host describe parses call o pod := by
  intro honest
  have attributed := (honest (Host.reading [(staleLine.utf8, staleRecord)]) Exn.message (fun _ => true)
    "speculative_attention" uneventful ⟨"", none, [staleLine]⟩).attributed _ (by rfl) (by rfl)
  obtain ⟨line, member, -⟩ := attributed.recorded
  exact absurd member List.not_mem_nil

end InferForge.Triage

import InferForge.Runners.DeploymentContract
import InferForge.Validators.Bringup
import InferForge.Validators.Deployment

/-! `DeploymentProofRunner`: the actions of a deployment proof, and the order in which a phase takes
them. -/
namespace InferForge
open Py Effect

inductive Phase where
  | all | environment | service
deriving DecidableEq

def Phase.name : Phase → Text
  | .all => "all"
  | .environment => "environment"
  | .service => "service"

/-- What is fixed for one proof. -/
structure Runner where
  site : Site
  contract : Contract
  phase : Phase
  artifactRoot : Text
  manifestPath : Text

namespace Runner
open Proof
variable (runner : Runner)

/-- `f"{prefix}name" if prefix else "name"`. -/
def prefixed (pre name : Text) : Text := if pre.isEmpty then name else pre ++ name

def serverLogPath : Text :=
  (given runner.contract.serverLog).getD (runner.site.workdir ++ "/server.log")

/-- Names in the artifact directory. -/
def listing (s : Session) : List Text := runner.site.earlier ++ s.files.map Prod.fst

/-- The name that `write_unique` gives: with the first number that is free. -/
def uniqueName (s : Session) (name : Text) : Text :=
  let names := runner.listing s
  let candidates := (List.range (names.length + 1)).map fun suffix =>
    if suffix = 0 then name else name ++ "." ++ .ofNat suffix
  (candidates.find? fun candidate => !names.contains candidate).getD name

def writeUnique (name : Text) (content : Written) : Proof Text := do
  let s ← Prog.read
  let name := runner.uniqueName s name
  save name content
  return name

/-! Watching the server. -/

/-- The size on the first line, `-1` when there is none. -/
def logSize (lines : List Text) : Except Exn Int :=
  match lines with
  | first :: _ =>
      if runner.site.isDigits first then
        match runner.site.host.intOfText first with
        | some size => .ok size
        | none => .error (.value ("invalid literal for int() with base 10: " ++ first))
      else .ok (-1)
  | [] => .ok (-1)

/-- The second line, shortened. -/
def lastLine (lines : List Text) : Text :=
  match lines[1]? with
  | some line => (line.upTo 200).strip
  | none => ⟨[]⟩

/-- A log of the same size as at the last poll has stalled once more. -/
def countStall (size : Int) : Proof Nat := do
  let s ← Prog.read
  let stalls := if size = s.watchLastBytes then s.watchStallPolls + 1 else 0
  setWatch size stalls
  return stalls

def reportStall (size : Int) (stalls : Nat) : Proof Unit := do
  let s ← Prog.read
  if (Dict.getD s.checks "startup_log_stall" .null).truthy then return ()
  else
    check "startup_log_stall" (.bool true)
    record "watch_server_log" false ("server log frozen at " ++ .ofInt size ++ " bytes for " ++
      .ofNat stalls ++ " polls — the load is not progressing")

def watchProgress (pollIndex : Nat) (code : Int) (probe : Completed) : Proof Unit := do
  let lines := probe.stdout.strip.splitlines
  let size ← run (runner.logSize lines)
  let stalls ← countStall size
  let entry : Dict := [("poll", .int pollIndex), ("health", .int code), ("log_bytes", .int size),
    ("last_line", .str (lastLine lines))]
  if runner.contract.watchStallPolls ≤ stalls then
    reportStall size stalls
    save "startup_watch.jsonl"
      (.line (.obj ((Dict.set entry "stall" (.bool true)).set "stall_polls" (.int stalls))))
  else save "startup_watch.jsonl" (.line (.obj entry))

/-- `_watch_server_log`: an exec that fails is not reported. -/
def watchServerLog (pollIndex : Nat) (code : Int) : Proof Unit := do
  let pod ← currentPod
  match ← Prog.attempt (runner.site.exec pod (.logProgress runner.serverLogPath)) with
  | .error _ => return ()
  | .ok probe => runner.watchProgress pollIndex code probe

def archiveServerCrash (tag : Text) : Proof Text := do
  let pod ← currentPod
  let archived ← Prog.attempt do
    let _ ← runner.site.exec pod (.archiveCrash runner.serverLogPath)
    runner.site.exec pod (.readFile runner.serverLogPath)
  match archived with
  | .error _ =>
      record "archive_server_crash" false (tag ++ ": log unreachable")
      return ⟨[]⟩
  | .ok result =>
      if result.stdout.isEmpty then
        record "archive_server_crash" false (tag ++ ": server log was empty")
        return result.stdout
      else
        let name ← runner.writeUnique ("server_crash_log_" ++ tag ++ ".txt") (.text result.stdout)
        record "archive_server_crash" true (tag ++ ": " ++ name)
        return result.stdout

/-! Preparing the environment. -/

def preflight : Proof Unit := do
  if ← runner.site.canCreatePods then
    record "preflight" true "kubectl create-pods permission confirmed"
  else actionFailed "NEEDS_HUMAN" "no permission to create pods in the namespace"

/-- The manifest of the contract, filled in. -/
def rendered : Proof Text := do
  let path ← run (required "manifest" runner.contract.manifest)
  let values ← run (manifestValues runner.contract runner.site.attemptId runner.site.workdir
    runner.site.image)
  let template ← run (runner.site.template path)
  Prog.lift (renderManifest runner.site.host template values)

def waitForPod : Proof Text := do
  let deadline ← runner.site.deadlineAfter runner.contract.startupTimeoutSeconds
  runner.site.whileBefore deadline
    (fun _ => do
      let listed ← runner.site.send
        (.query (.pods ("infer.kunlun/attempt-id=" ++ runner.site.attemptId)))
      match listed.stdout.words.map fun word => word.lastPart 47 with
      | [] => return .inl ()
      | name :: _ =>
          if ← runner.site.podReady name then
            record "pod_ready" true name
            check "pod_ready" (.bool true)
            let spec ← runner.site.send (.query (.podSpec name))
            save "pod_spec.yaml" (.text spec.stdout)
            return .inr name
          else return .inl ())
    (fun _ => do
      check "pod_ready" (.bool false)
      actionFailed "READINESS_TIMEOUT" "no ready pod for this attempt before the timeout")
    ()

def runtimeAlreadyInstalled : Proof Bool := do
  let probe ← runner.site.exec (← currentPod) (.importCheck runner.site.workdir)
  return probe.returncode == 0

def installCommand (pod command : Text) : Proof Unit := do
  let result ← runner.site.exec pod (.install command)
  save "install_log.txt" (.text (result.stdout ++ result.stderr))
  if result.returncode ≠ 0 then
    record "install" false (result.stderr.lastOf 2000)
    actionFailed "INSTALL_FAILED" (command ++ " exited " ++ .ofInt result.returncode)
  else record "install" true command

/-- The installation once the installer is in the Pod. -/
def installCopied (pod : Text) (copied : Completed) : Proof Unit := do
  if copied.returncode ≠ 0 then
    actionFailed "INSTALL_FAILED" ("cannot copy installer: " ++ copied.stderr.strip)
  else
    runner.contract.install.forM (runner.installCommand pod)
    let versions ← runner.site.exec pod (.versions runner.site.workdir)
    save "environment_versions.txt" (.text (versions.stdout ++ versions.stderr))
    record "environment_versions" (versions.returncode == 0) ⟨[]⟩

def installRuntime : Proof Unit := do
  let pod ← currentPod
  let copied ← runner.site.copyInto pod (runner.site.workdir ++ "/install_vllm_kunlun.sh")
  runner.installCopied pod copied

def prepareEnvironment : Proof Unit := do
  let manifest ← runner.rendered
  save "deployment_manifest.yaml" (.text manifest)
  let applied ← runner.site.apply manifest
  if applied.returncode ≠ 0 then
    actionFailed "SERVER_START_FAILED" ("apply failed: " ++ applied.stderr.strip)
  else
    record "apply_manifest" true applied.stdout.strip
    setPod (← runner.waitForPod)
    runner.installRuntime

/-- `resource.get("spec", {}).get("selector", {}).get("matchLabels", {})`. -/
def matchLabels (resource : Json) : Except Exn Json := do
  let spec := (← resource.get "spec").getD (.obj [])
  let selector := (← spec.get "selector").getD (.obj [])
  return (← selector.get "matchLabels").getD (.obj [])

/-- `",".join(f"{key}={value}" for key, value in sorted(labels.items()))`. -/
def selectorOf (labels : Json) : Except Exn Text :=
  match labels with
  | .obj fields => .ok (Text.join "," ((fields.insertionSort (Json.keyLe · ·)).map fun field =>
      field.1 ++ "=" ++ runner.site.host.str field.2))
  | _ => .error (.attr "object has no attribute 'items'")

/-- An argument of a command. -/
def argument : Json → Except Exn Text
  | .str t => .ok t
  | _ => .error (.type "expected str, bytes or os.PathLike object")

/-- The only Pod of an existing deployment. -/
def deploymentPod (resource : Json) : Proof Text := do
  save "deployment_manifest.yaml" (.json resource)
  let labels ← run (matchLabels resource)
  if !labels.truthy then
    actionFailed "NEEDS_HUMAN" "existing deployment has no usable Pod selector; retain it"
  else
    let selector ← run (runner.selectorOf labels)
    let listed ← runner.site.send (.query (.pods selector))
    match listed.returncode == 0, listed.stdout.words.map fun word => word.lastPart 47 with
    | true, [name] =>
        runner.site.assertOwned name
        return name
    | _, _ =>
        actionFailed "NEEDS_HUMAN"
          "existing deployment must have exactly one Pod; retain it and diagnose"

def existingEnvironmentPod : Proof (Option Text) := do
  let manifest ← run (runner.site.safeLoad (← runner.rendered))
  let metadata ← run (manifest.item "metadata")
  let name ← runner.site.assertOwnedValue (← run (metadata.item "name"))
  let kind ← run (do argument (← manifest.item "kind"))
  let result ← runner.site.send (.query (.resource kind name))
  if result.returncode ≠ 0 then
    actionFailed "NEEDS_HUMAN" ("cannot inspect existing deployment: " ++ result.stderr)
  else if result.stdout.blank then return none
  else
    match runner.site.loads result.stdout with
    | none => run (.error (.value "Expecting value"))
    | some resource => some <$> runner.deploymentPod resource

/-! The base model and the service. -/

def discoverBaseModel : Proof Unit := do
  match given runner.contract.modelPath with
  | none => actionFailed "CONTRACT_INVALID" "base model path is missing"
  | some path =>
      let result ← runner.site.exec (← currentPod) (.weightFiles path)
      let files := result.stdout.splitlines
      save "base_model_identity.json" (.json (.obj [("name", .str runner.contract.modelName),
        ("path", .str path), ("served_model_name", .str runner.contract.servedModelName),
        ("files", .arr (files.map Json.str))]))
      let loaded := result.returncode == 0 && !files.isEmpty
      check "base_model_loaded" (.bool loaded)
      if loaded then
        record "discover_base_model" true (path ++ ": " ++ .ofNat files.length ++ " weight files")
      else actionFailed "MODEL_NOT_FOUND" ("base model is not readable: " ++ path)

/-- What the last of at most `rounds` looks still finds. -/
def survivors (pod : Text) : Nat → Text → Proof Text
  | 0, last => return last
  | rounds + 1, _ => do
      let probe ← runner.site.exec pod .survivors
      let survivor := probe.stdout.strip
      if survivor.isEmpty then return survivor
      else survivors pod rounds survivor

def clearService : Proof Unit := do
  let pod ← currentPod
  let _ ← runner.site.exec pod (.clearService runner.contract.port)
  let survivor ← runner.survivors pod 10 ⟨[]⟩
  if survivor.isEmpty then
    record "cleanup_service_processes" true
      ("service process tree and port " ++ .ofInt runner.contract.port ++ " cleared")
  else
    actionFailed "NEEDS_HUMAN"
      ("service processes survived cleanup and still hold HBM:\n" ++ survivor)

/-- An attached Pod that already serves a healthy model. -/
def alreadyHealthy : Proof Bool := do
  let s ← Prog.read
  match given s.attachPod with
  | none => return false
  | some pod => do
      let probed ← runner.site.httpProbe pod
        (.probe runner.contract.health.path runner.contract.port)
      if probed.1 = runner.contract.health.expectedStatus then
        record "cleanup_service_processes" true
          ("skipped: " ++ pod ++ " is already serving a healthy base model")
        return true
      else return false

/-- `cleanup_service_processes(skip_if_healthy=True)`. -/
def cleanupUnlessHealthy : Proof Unit := do
  if ← runner.alreadyHealthy then return () else runner.clearService

/-- Whether one of the models has the name; the search ends there. -/
def anyServed (served : Text) : List Json → Except Exn Bool
  | [] => .ok false
  | model :: rest => do
      if ((← model.get "id").getD .null).eq (.str served) then return true
      else anyServed served rest

def servesTargetModel (body : Text) : Except Exn Bool :=
  match runner.site.loads body with
  | none => .ok false
  | some answer => do
      let models := ((← answer.get "data").getD .null).or (.arr [])
      anyServed runner.contract.servedModelName (← models.elements)

/-- A service of another model makes room. -/
def replaceServer : Proof Unit := do
  if runner.phase = .environment then runner.clearService
  record "start_server" true
    "imported context serves a different model; replacing service in the same Pod"

/-- Whether the server that answered is the one of the contract. -/
def reuseServer (probed : Int × Text) : Proof Bool := do
  if probed.1 ≠ 200 then return false
  else if ← run (runner.servesTargetModel probed.2) then
    record "start_server" true "imported context: already serving, not relaunched"
    return true
  else
    runner.replaceServer
    return false

/-- Of an attached Pod: whether it serves the model already. -/
def alreadyServing : Proof Bool := do
  let s ← Prog.read
  match given s.attachPod with
  | none => return false
  | some _ =>
      let pod ← currentPod
      runner.reuseServer (← runner.site.httpProbe pod (.models runner.contract.port))

def launchServer : Proof Unit := do
  let serve := Text.join " " runner.contract.serve
  if serve.isEmpty then actionFailed "CONTRACT_INVALID" "execution.commands.serve is empty"
  else
    let setup := Text.join " && " runner.contract.setup
    let result ← runner.site.exec (← currentPod)
      (.launch runner.serverLogPath runner.site.workdir setup serve)
    if result.returncode ≠ 0 then actionFailed "SERVER_START_FAILED" result.stderr.strip
    else record "start_server" true result.stdout.strip

/-! The toy bring-up. -/

/-- The report of the last line that begins a JSON object. -/
def probeReport (result : Completed) : Except Fault Dict :=
  match result.stdout.strip.splitlines.reverse.find? fun line => line.startsWith "\x7b" with
  | none => .error (.actionFailed "NEEDS_HUMAN"
      ("probe produced no JSON, which usually means the process died rather than raised: " ++
        (result.stdout ++ result.stderr).lastOf 800))
  | some line =>
      match runner.site.loads line with
      | none => .error (.actionFailed "NEEDS_HUMAN"
          ("probe returned invalid JSON: " ++ line.lastOf 800))
      | some (.obj report) =>
          if result.returncode = 0 then .ok report
          else .error (.actionFailed "NEEDS_HUMAN" ("probe exited " ++ .ofInt result.returncode ++
            ": " ++ result.stderr.lastOf 800))
      | some _ => .error (.actionFailed "NEEDS_HUMAN" ("probe exited " ++
          .ofInt result.returncode ++ ": " ++ result.stderr.lastOf 800))

/-- The config of the target model. -/
def targetConfig (result : Completed) : Except Fault Dict :=
  if result.returncode ≠ 0 then
    .error (.actionFailed "NEEDS_HUMAN" ("cannot read target config: " ++ result.stderr))
  else match runner.site.loads result.stdout with
    | none => .error (.raised (.value "Expecting value"))
    | some (.obj (field :: rest)) => .ok (field :: rest)
    | some _ => .error (.actionFailed "CONTRACT_INVALID" "target config must be a non-empty object")

/-- The left operand of `path + "/config.json"`. -/
def pathText : Option Text → Except Exn Text
  | some path => .ok path
  | none => .error (.type "unsupported operand type(s) for +: 'NoneType' and 'str'")

/-- Both commands of a bring-up: the real config and the report of the probe. -/
def probeBringup : Proof (Dict × Dict) := do
  let pod ← currentPod
  let modelPath ← run (pathText runner.contract.modelPath)
  let config ← Prog.lift (runner.targetConfig
    (← runner.site.exec pod (.readFile (modelPath ++ "/config.json"))))
  let report ← Prog.lift (runner.probeReport
    (← runner.site.exec pod (.bringup modelPath 2 8 runner.contract.tensorParallelSize 512
      runner.contract.setup)))
  return (config, report)

/-- What the handlers of a bring-up make of a fault, as state and reason. -/
def bringupFailure : Fault → Option (Text × Text)
  | .actionFailed state message => some (state, message)
  | .timeoutExpired cmd seconds => some ("NEEDS_HUMAN",
      "TimeoutExpired: Command '" ++ cmd ++ "' timed out after " ++ seconds ++ " seconds")
  | .raised e =>
      if e.kind = .osError ∨ e.isValueError ∨ e.kind = .typeError then
        some ("NEEDS_HUMAN", e.kind.className ++ ": " ++ e.message)
      else none
  | .safetyViolation _ | .runtimeError _ => none

/-- The verdict on a probed report: whether it passed, or why not. -/
def judgeBringup (config report : Dict) : Except Exn (Option (Text × Text)) := do
  let errors ← validateBringupReport runner.site.host report config
  if (Dict.getD report "complete" .null).isTrue && errors.isEmpty then return none
  else
    let reasons := Text.join "; " errors
    return some ("BRINGUP_BLOCKED", if reasons.isEmpty then
      runner.site.host.str (Dict.getD report "error" .null) else reasons)

/-- The report with what failed. -/
def failedReport (report : Dict) (failure : Text × Text) : Dict :=
  let report := (Dict.set report "complete" (.bool false)).set "gate_failure"
    (.obj [("state", .str failure.1), ("reason", .str failure.2)])
  if (Dict.getD report "error" .null).truthy then report
  else report.set "error" (.obj [("type", .str failure.1), ("message", .str failure.2)])

/-- `self.pod`. -/
def podValue (s : Session) : Json :=
  match s.pod with
  | some pod => .str pod
  | none => .null

/-- The end of a bring-up: its report is written in any case. -/
def concludeBringup (report : Dict) (failure : Option (Text × Text)) : Proof Unit := do
  let report := match failure with
    | some failure => failedReport report failure
    | none => report
  let s ← Prog.read
  save "toy_bringup.json" (.json (.obj
    ((Dict.set report "brought_up_in" (podValue s)).set "model" (.obj runner.contract.model))))
  record "toy_bringup" failure.isNone (runner.site.host.dumps (Dict.getD report "error" .null))
  match failure with
  | some failure => actionFailed failure.1 failure.2
  | none => return ()

def emptyReport : Dict :=
  [("stage", .str "NOTHING_RAN"), ("stages_passed", .arr []), ("complete", .bool false)]

/-- A fault that the bring-up has a handler for is its failure. -/
def bringupRaised (report : Dict) (fault : Fault) : Proof Unit :=
  match bringupFailure fault with
  | some failure => runner.concludeBringup report (some failure)
  | none => Prog.raise fault

def bringupProbed (config report : Dict) : Proof Unit := do
  let report := Dict.set report "source_config" (.obj config)
  match runner.judgeBringup config report with
  | .error e => runner.bringupRaised report (.raised e)
  | .ok failure =>
      check "toy_bringup" (.bool failure.isNone)
      runner.concludeBringup report failure

def toyBringupBeforeLoad : Proof Unit := do
  check "toy_bringup" (.bool false)
  match ← Prog.attempt runner.probeBringup with
  | .error fault => runner.bringupRaised emptyReport fault
  | .ok (config, report) => runner.bringupProbed config report

def startServer : Proof Unit := do
  if ← runner.alreadyServing then return ()
  else
    if runner.phase ≠ .environment then
      runner.clearService
      runner.toyBringupBeforeLoad
    runner.launchServer

/-! The checks of a running server. -/

/-- The streak of expected answers and the last answer, between two polls. -/
structure Polling where
  streak : Nat
  last : Text
  pollIndex : Nat

def healthAccepted (pre : Text) (last : Text) : Proof Unit := do
  save (prefixed pre "health_result.txt") (.text last)
  check (prefixed pre "health_check") (.int runner.contract.health.expectedStatus)
  record "poll_health" true
    (.ofInt runner.contract.healthSuccessesRequired ++ " consecutive successes")

/-- The log of a server that died, or its tail when it could not be archived. -/
def deathLog : Proof Text := do
  let archived ← runner.archiveServerCrash "startup_death"
  if archived.isEmpty then
    let tail ← runner.site.exec (← currentPod) (.tailFile runner.serverLogPath)
    return tail.stdout
  else return archived

/-- The server died before it was healthy: its log goes first. -/
def serverDied (pre : Text) (last : Text) : Proof α := do
  let log ← runner.deathLog
  save (prefixed pre "health_result.txt") (.text last)
  record "poll_health" false "server process died during startup"
  actionFailed "SERVER_START_FAILED"
    ("the server process died during startup; log tail:\n" ++ log.lastOf 1500)

def pollOnce (pre : Text) (polling : Polling) : Proof (Polling ⊕ Unit) := do
  let pod ← currentPod
  let (code, body) ← runner.site.httpProbe pod
    (.probe runner.contract.health.path runner.contract.port)
  let last := "status=" ++ Text.ofInt code ++ " body=" ++ body.upTo 200
  runner.watchServerLog polling.pollIndex code
  let streak := if code = runner.contract.health.expectedStatus then polling.streak + 1 else 0
  if runner.contract.healthSuccessesRequired ≤ streak then
    runner.healthAccepted pre last
    return .inr ()
  else
    let alive ← runner.site.exec pod .serverAlive
    if alive.stdout.strip = Text.ofString "dead" ∧ streak = 0 then runner.serverDied pre last
    else return .inl ⟨streak, last, polling.pollIndex + 1⟩

def healthExpired (pre : Text) (polling : Polling) : Proof Unit := do
  save (prefixed pre "health_result.txt") (.text polling.last)
  record "poll_health" false polling.last
  let s ← Prog.read
  let stall : Text := if (Dict.getD s.checks "startup_log_stall" .null).truthy then
      "; the server log has been frozen at " ++ Text.ofInt s.watchLastBytes ++ " bytes for " ++
        Text.ofNat s.watchStallPolls ++ " polls (startup_watch.jsonl) — the load is not progressing"
    else ⟨[]⟩
  actionFailed "READINESS_TIMEOUT" ("health never stabilised: " ++ polling.last ++ stall)

def pollHealth (pre : Text) : Proof Unit := do
  let deadline ← runner.site.deadlineAfter runner.contract.startupTimeoutSeconds
  runner.site.whileBefore deadline (runner.pollOnce pre) (healthExpired pre) ⟨0, ⟨[]⟩, 0⟩

/-- `choices[0]` of a chat answer with choices. -/
def firstChoice (answer : Json) : Except Exn (Option Json) := do
  let choices := (← answer.get "choices").getD (.arr [])
  if !choices.truthy then return none
  else match choices with
    | .arr (first :: _) => return some first
    | .str ⟨c :: _⟩ => return some (.str ⟨[c]⟩)
    | .obj _ => throw (.key "0")
    | _ => throw (.type "object is not subscriptable")

/-- The text of a message: reasoning counts as text. -/
def messageText (message : Dict) : Json :=
  let text := ((Dict.getD message "content" .null).or (Dict.getD message "reasoning" .null)).or (.str ⟨[]⟩)
  (text.or (Dict.getD message "reasoning_content" .null)).or (.str ⟨[]⟩)

/-- The generated text and the reason it finished, of a choice. -/
def choiceText (choice : Json) : Json × Json :=
  match choice with
  | .obj fields =>
      let finish := Dict.getD fields "finish_reason" (.str ⟨[]⟩)
      match (Dict.getD fields "message" (.obj [])).or (.obj []) with
      | .obj message => (messageText message, finish)
      | _ => (.str ⟨[]⟩, finish)
  | _ => (.str ⟨[]⟩, .str ⟨[]⟩)

/-- The text and the finish reason of a chat answer; no answer has no text, as far as the handler
reaches. -/
def chatText (body : Text) : Except Exn (Json × Json) :=
  match runner.site.loads body with
  | none => .ok (.str ⟨[]⟩, .str ⟨[]⟩)
  | some answer =>
      match firstChoice answer with
      | .ok (some choice) => .ok (choiceText choice)
      | .ok none => .ok (.str ⟨[]⟩, .str ⟨[]⟩)
      | .error e =>
          if e.kind = .attributeError ∨ e.kind = .indexError then .ok (.str ⟨[]⟩, .str ⟨[]⟩)
          else .error e

/-- `text.strip()`. -/
def stripped : Json → Except Exn Text
  | .str text => .ok text.strip
  | _ => .error (.attr "object has no attribute 'strip'")

/-- `text[:160]`. -/
def preview : Json → Except Exn Json
  | .str text => .ok (.str (text.upTo 160))
  | .arr items => .ok (.arr (items.take 160))
  | _ => .error (.type "object is not subscriptable")

def chatFailed (pre body : Text) : Proof Unit := do
  check (prefixed pre "chat_completion") (.str "empty")
  record "run_chat_smoke" false (body.upTo 1000)
  let log ← runner.archiveServerCrash "chat_failure"
  actionFailed "API_SMOKE_FAILED" ("chat completion returned no text; response: " ++
    body.upTo 500 ++ "; server log tail:\n" ++ log.lastOf 1500)

/-- Service reachability is apart from correctness: these only prove that tokens were generated. -/
def checkDecoding (pre : Text) (text : Json) : Proof Unit := do
  check (pre ++ "prefill") (.bool true)
  let decoded ← run (stripped text)
  check (pre ++ "decode") (.bool (!decoded.isEmpty))

def checkPrefixed (pre : Text) (text : Json) : Proof Unit :=
  if pre.isEmpty then return () else checkDecoding pre text

def noteTruncation (finish : Json) : Proof Unit :=
  if finish.eq (.str "length") then
    record "run_chat_smoke" true "truncated by max_tokens; raise it for a full answer"
  else return ()

def chatPassed (pre : Text) (text finish : Json) : Proof Unit := do
  noteTruncation finish
  check (prefixed pre "chat_completion") (.str "non_empty")
  checkPrefixed pre text
  let shown ← run (preview text)
  record "run_chat_smoke" true ("finish_reason=" ++ runner.site.host.str finish ++ " text=" ++
    runner.site.host.repr shown)

/-- `not text.strip()`, where the contract asks for a text. -/
def lacksText (text : Json) : Except Exn Bool :=
  if runner.contract.chat.expectedNonEmptyText then (stripped text).map Text.isEmpty else .ok false

def runChatSmoke (pre : Text) : Proof Unit := do
  let pod ← currentPod
  let chat := runner.contract.chat
  let _ ← runner.site.exec pod (.chatPayload chat.payload)
  let result ← runner.site.exec pod (.chatRequest chat.method chat.path runner.contract.port)
  save (prefixed pre "chat_result.json") (.text (result.stdout ++ result.stderr))
  let (text, finish) ← run (runner.chatText result.stdout)
  if ← run (runner.lacksText text) then runner.chatFailed pre result.stdout
  else runner.chatPassed pre text finish

/-- The backend the log has to name. -/
def expectedBackend : Text :=
  ((given runner.contract.backend.expected).or (given runner.contract.runtimeBackend)).getD "kunlun"

def verifyBackend (pre : Text) : Proof Unit := do
  let result ← runner.site.exec (← currentPod) (.readFile runner.serverLogPath)
  save (prefixed pre "server_log.txt") (.text result.stdout)
  let lowered := runner.site.lower result.stdout
  let expected := runner.expectedBackend
  let named := lowered.holds expected
  check "expected_backend" (.str (if named then expected else "unknown"))
  let fallbacks := runner.site.fallbackMarkers.filter lowered.holds
  let shown := runner.site.host.repr (.arr (fallbacks.map Json.str))
  check "unexpected_fallback" (.bool (!fallbacks.isEmpty))
  if runner.contract.backend.rejectUnexpectedFallback && !fallbacks.isEmpty then
    record "verify_backend" false ("fallback markers: " ++ shown)
    actionFailed "UNEXPECTED_FALLBACK" ("server log shows " ++ shown)
  else if (if named then expected else "unknown") ≠ expected then
    let missing := runner.site.host.repr (.str expected)
    record "verify_backend" false (missing ++ " not found in server log")
    actionFailed "UNEXPECTED_FALLBACK" (missing ++ " backend not confirmed in log")
  else record "verify_backend" true expected

/-! The environment phase. -/

def collectEnvironmentFingerprint : Proof Unit := do
  let result ← runner.site.exec (← currentPod) (.fingerprint runner.site.workdir)
  save "environment_fingerprint.txt" (.text (result.stdout ++ result.stderr))
  record "environment_fingerprint" (result.returncode == 0) ⟨[]⟩

/-- The cards of the Pod, or why they could not be read. -/
def readCards (pod : Text) : Proof (Except Text (List Site.Card)) := do
  match ← Prog.attempt (runner.site.xpuSmi pod) with
  | .ok cards => return .ok cards
  | .error (.runtimeError message) | .error (.safetyViolation message) => return .error message
  | .error (.actionFailed state message) => return .error (state ++ ": " ++ message)
  | .error (.raised e) => if e.isValueError then return .error e.message else Prog.raise (.raised e)
  | .error (.timeoutExpired cmd seconds) => Prog.raise (.timeoutExpired cmd seconds)

def verifyDeviceReady : Proof Unit := do
  let cards ← runner.readCards (← currentPod)
  let ready : Bool := match cards with
    | .ok cards => decide (runner.contract.deviceCount ≤ cards.length)
    | .error _ => false
  save "device_readiness.json" (.json (.obj (match cards with
    | .ok cards => [("cards", .arr (cards.map Site.Card.json)),
        ("expected_count", .int runner.contract.deviceCount), ("count", .int cards.length)]
    | .error message => [("cards", .arr []), ("error", .str message)])))
  check "device_ready" (.bool ready)
  if ready then return ()
  else actionFailed "DEVICE_NOT_READY" "the prepared pod has no expected XPU devices"

/-- `verify_code_and_device_ready`. -/
def verifyCodeReady : Proof Unit := do
  let worktree := runner.site.workdir ++ "/vLLM-Kunlun"
  let result ← runner.site.exec (← currentPod) (.codeRevision worktree)
  let head := (result.stdout.strip.splitlines.getLast?).filter fun _ => !result.stdout.blank
  save "code_readiness.json" (.json (.obj [("worktree", .str worktree),
    ("git_head", match head with | some head => .str head | none => .null),
    ("setup_env", .bool (result.returncode == 0))]))
  let ready := result.returncode == 0 && (given head).isSome
  check "code_ready" (.bool ready)
  if ready then runner.verifyDeviceReady
  else actionFailed "CODE_NOT_READY" "vLLM-Kunlun worktree or setup_env.sh is unavailable"

def verifyRuntimeImportable : Proof Unit := do
  let result ← runner.site.exec (← currentPod) .importVersions
  save "runtime_import.txt" (.text (result.stdout ++ result.stderr))
  if result.returncode ≠ 0 then
    check "runtime_importable" (.bool false)
    actionFailed "INSTALL_FAILED" ("import failed: " ++ result.stderr.strip.lastOf 1500)
  else
    check "runtime_importable" (.bool true)
    record "verify_runtime_importable" true (result.stdout.strip.lastOf 300)
    runner.verifyCodeReady
    runner.collectEnvironmentFingerprint

/-! The order of the actions. -/

/-- The import of an owned Pod: an installed runtime is not installed again. -/
def importContext (pod : Text) : Proof Unit := do
  if ← runner.site.podReady pod then
    check "pod_ready" (.bool true)
    let spec ← runner.site.send (.query (.podSpec pod))
    save "pod_spec.yaml" (.text spec.stdout)
    record "attach_pod" true ("imported context: " ++ pod)
    if runner.phase ≠ .service then
      if ← runner.runtimeAlreadyInstalled then
        record "install" true
          "skipped: attached pod already has an importable runtime and pinned worktree"
      else runner.installRuntime
  else actionFailed "NEEDS_HUMAN" (pod ++ " is not ready")

def attach (pod : Text) : Proof Unit := do
  runner.site.assertOwned pod
  setPod pod
  runner.importContext pod

/-- The Pod to attach: the given one, or that of an existing deployment. -/
def findPod : Proof (Option Text) := do
  let s ← Prog.read
  match given s.attachPod with
  | some pod => return some pod
  | none =>
      if runner.phase = .service then
        actionFailed "CONTRACT_INVALID" ("the service phase needs a prepared pod: pass " ++
          "--attach-pod with the pod recorded by the environment phase" : String)
      else
        let found ← runner.existingEnvironmentPod
        setAttachPod found
        return given found

def obtainPod : Proof Unit := do
  match ← runner.findPod with
  | some pod => runner.attach pod
  | none =>
      runner.preflight
      runner.prepareEnvironment

def proveEnvironment : Proof Unit := do
  runner.verifyRuntimeImportable
  runner.discoverBaseModel
  runner.cleanupUnlessHealthy
  runner.startServer
  runner.pollHealth "base_"
  runner.runChatSmoke "base_"
  runner.verifyBackend "base_"
  runner.clearService

def proveService : Proof Unit := do
  runner.startServer
  runner.pollHealth ⟨[]⟩
  runner.runChatSmoke ⟨[]⟩
  runner.verifyBackend ⟨[]⟩

/-- Everything that `run` does in its `try`; the state that the proof ends with. -/
def actions : Proof Text := do
  runner.obtainPod
  if runner.phase = .environment then
    runner.proveEnvironment
    return "ENVIRONMENT_READY"
  else
    runner.proveService
    return "DEPLOYMENT_READY"

/-- `sorted({*names, "status.json"})`. -/
def artifacts (s : Session) : List Text :=
  (Text.ofString "status.json" :: runner.listing s).dedup.mergeSort fun a b => Json.codesLe a.codes b.codes

/-- The status before it is registered. -/
def status (s : Session) (state reason : Text) : Dict :=
  let given : Dict := [("task_id", .str runner.contract.name), ("state", .str state),
    ("pod", podValue s), ("phase", .str runner.phase.name),
    ("artifact_root", .str runner.artifactRoot), ("server_log", .str runner.serverLogPath),
    ("checks", .obj s.checks), ("manifest_path", .str runner.manifestPath),
    ("artifacts", .arr ((runner.artifacts s).map Json.str))]
  if reason.isEmpty then given else given.set "reason" (.str reason)

/-- The registration of the artifacts; a status that could not be registered is blocked. -/
def registerStatus (status : Dict) : Proof Dict := do
  let s ← Prog.read
  match runner.site.register (runner.listing s) with
  | .ok () => return status
  | .error e =>
      if e.isValueError ∨ e.kind = .osError then
        save "status.json" (.json (.obj (((status.set "state" (.str "BLOCKED")).set "reason"
          (.str e.message)).set "manifest_path" .null)))
      run (.error e)

/-- The records, the status and the manifest. -/
def publish (state reason : Text) : Proof Dict := do
  let s ← Prog.read
  save "execution_records.json" (.json (.arr (s.records.map Record.json)))
  let s ← Prog.read
  let status := runner.status s state reason
  save "status.json" (.json (.obj status))
  runner.registerStatus status

def collectArtifacts (state reason : Text) : Proof Dict := do
  save "task_contract.yaml" .replay
  save "reproduce_command.txt" .replay
  if !reason.isEmpty then
    save "diagnosis.json" (.json (.obj [("state", .str state), ("error", .str reason),
      ("next_action", .str "DIAGNOSE_RUNTIME")]))
  runner.publish state reason

/-- What `run` makes of the outcome of its actions. -/
def conclude : Except Fault Text → Proof Dict
  | .ok state => runner.collectArtifacts state ⟨[]⟩
  | .error (.safetyViolation message) => do
      record "outcome" false ("safety violation: " ++ message)
      runner.collectArtifacts "CONTRACT_INVALID" message
  | .error (.actionFailed state message) => do
      record "outcome" false (state ++ "; retain_on_failure=" ++
        (if runner.contract.retainOnFailure then "True" else "False" : String))
      runner.collectArtifacts state message
  | .error (.timeoutExpired cmd seconds) => do
      record "outcome" false ("command timed out: " ++ cmd)
      runner.collectArtifacts "NEEDS_HUMAN" ("command timed out after " ++ seconds ++ "s")
  | .error other => Prog.raise other

/-- `run`. -/
def proof : Proof Dict := do
  let outcome ← Prog.attempt runner.actions
  runner.conclude outcome

end Runner

/-- A service proof in the Pod of this site. -/
def Runner.sample (models : Text) : Runner where
  site := .sample models
  contract := renderInstance ⟨"models", "base", "/base", "base", 8, "pvc", 8, "queue", "pool", "image",
    "base.yaml", []⟩ "alice" "model" "model" "serve" (some "/model") none 0 8
  phase := .service
  artifactRoot := "/run/output"
  manifestPath := "/run/manifest.json"

end InferForge

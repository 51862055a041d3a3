import InferForge.Bridge.Environment
import InferForge.Py.Ordered

/-! Dispatch of gap reports: every actionable entry becomes a torch task of the run, every
recorded gap must be resolved by one, and the outcome is validated against the database. -/
namespace InferForge
open Py Effect Sched ResultValidation

namespace Bridge

/-- What `dispatch` has collected so far. -/
structure Tally where
  errors : List Text
  reports : List FileEvidence
  /-- The specifications that became tasks, by operator id. -/
  dispatched : List (Text × Task)

namespace Tally

def start (errors : List Text) : Tally := ⟨errors, [], []⟩

def note (tally : Tally) (error : Text) : Tally := { tally with errors := tally.errors ++ [error] }

def keep (tally : Tally) (file : FileEvidence) : Tally :=
  { tally with reports := tally.reports ++ [file] }

def add (tally : Tally) (found : List (Text × Task)) : Tally :=
  { tally with dispatched := tally.dispatched ++ found }

def resolved (tally : Tally) : List Text := tally.dispatched.map Prod.fst

end Tally

section Reading
variable (host : Host) (disk : Disk)

/-- A step of the `try` block: a caught exception ends the block with its text noted, `none`. -/
def step (tally : Tally) (result : Except Exn α) (next : α → Except Exn (Tally × Option β)) :
    Except Exn (Tally × Option β) :=
  match result with
  | .ok a => next a
  | .error e => if e.isRejection then .ok (tally.note (e.text host), none) else .error e

/-- The identity of a report that is an object. -/
def checkReport (bridge : Bridge) (run : AdaptationRun) (report : Json) : Except Exn Unit :=
  if report.isDict then bridge.checkIdentity run report false false else .ok ()

/-- The two reports as `dispatch` reads them: the gaps, and the operator entries. -/
def gather (bridge : Bridge) (run : AdaptationRun) (gapsPath : Path) (operatorReport : Option Path)
    (tally : Tally) : Except Exn (Tally × Option (List Json × List Json)) :=
  step host tally (loadJson host disk gapsPath) fun source =>
  step host tally (reportEntries source) fun gaps =>
  step host tally (fileEvidence host disk gapsPath) fun gapsFile =>
  let tally := tally.keep gapsFile
  step host tally (loadJson host disk (operatorReport.getD gapsPath)) fun report =>
  step host tally
    (match operatorReport with
      | some path => (fileEvidence host disk path).map some
      | none => .ok none) fun reportFile =>
  let tally := match reportFile with
    | some file => tally.keep file
    | none => tally
  step host tally (reportEntries report) fun entries =>
  step host tally (checkReport bridge run report) fun () =>
  let unmapped := report.dict?.any fun fields => (Dict.getD fields "unmapped_signals" .null).truthy
  let tally := if unmapped then tally.note "operator report contains unmapped signals" else tally
  step host tally (checkReport bridge run source) fun () =>
  .ok (tally, some (gaps, entries))

/-- `entry.get("status") == "WAIVED"`. -/
def waived (entry : Dict) : Bool := Json.eqOpt (entry.get? "status") (.str "WAIVED")

/-- Waived with a reason. -/
def excused (entry : Dict) : Bool := waived entry && (Dict.getD entry "reason" .null).truthy

/-- What a gap leaves to complain about, if anything. -/
def gapError (resolved : List Text) (index : Nat) (gap : Json) : Except Exn (Option Text) :=
  match gap with
  | .obj fields =>
      let named := identifier fields
      if excused fields then .ok none
      else if !named.truthy then .ok (some ("unresolved actionable gap: " ++ Text.ofNat index))
      else if !named.hashable then .error (.type "unhashable type")
      else if resolved.any fun id => named.eq (.str id) then .ok none
      else .ok (some ("unresolved actionable gap: " ++ host.str named))
  | _ => .ok (some ("gaps[" ++ Text.ofNat index ++ "] must be an object"))

/-- The loop over the gaps; an exception ends it. -/
def checkGaps (tally : Tally) : List (Json × Nat) → Except Exn Tally
  | [] => .ok tally
  | (gap, index) :: rest =>
      match gapError host tally.resolved index gap with
      | .ok none => checkGaps tally rest
      | .ok (some error) => checkGaps (tally.note error) rest
      | .error e => if e.isRejection then .ok (tally.note (e.text host)) else .error e

end Reading

section Entries
variable (host : Host) (disk : Disk)

/-- `except (ValueError, TypeError, KeyError)`. -/
def isEntryRejection (e : Exn) : Bool :=
  e.isValueError || e.kind == .typeError || e.kind == .keyError

/-- One specification: an alias of another operator is refused, anything else is discovered. -/
def dispatchSpec (bridge : Bridge) (measured : Measured) : Sched (Text × Task) := do
  let key ← Prog.lift (measured.spec.operatorKey host)
  let existing ← query fun db => db.operator? bridge.runId key
  Prog.require (!existing.any fun other => other.operatorId != measured.spec.operatorId)
    (.value ("operator contract aliases another operator; measured semantics must distinguish " ++
      "its dispatch target"))
  let task ← discoverMeasured host disk bridge.runId measured
  return (measured.spec.operatorId, task)

/-- `normalized`: the identifier the bridge knows an entry by becomes its operator id. -/
def normalized (entry : Dict) : Dict :=
  if (identifier entry).truthy then Discovery.setDefault entry "operator_id" (identifier entry)
  else entry

/-- The context of the specifications dispatched for a run. -/
def dispatchTarget (run : AdaptationRun) : Except Exn Discovery.Target := do
  let proof ← (Json.obj run.environment).item "environment_proof"
  let fingerprint ← proof.item "fingerprint"
  return ⟨run.modelId, run.backend, run.modelRevision, run.pluginRevision,
    .obj [("fingerprint", fingerprint)]⟩

/-- The body of the loop over the operator entries. An entry gives at most one specification. -/
def dispatchEntry (bridge : Bridge) (entry : Json) : Sched (List (Text × Task)) := do
  match entry with
  | .obj fields =>
      Prog.require (!(waived fields && !(Dict.getD fields "reason" .null).truthy))
        (.value "waived operator evidence requires a reason")
      let run ← bridge.run
      Prog.lift (bridge.checkIdentity run entry false false)
      let target ← Prog.lift (dispatchTarget run)
      let specs ← Prog.lift (Discovery.specsFromReport host target
        (.obj [("entries", .arr [.obj (normalized fields)])]) false)
      specs.mapM (dispatchSpec host disk bridge)
  | _ => Prog.raise (.value "operator entry must be an object")

/-- An entry's tasks, or the complaint about it. -/
def tryEntry (bridge : Bridge) (tally : Tally) (entry : Json × Nat) : Sched Tally :=
  Prog.handle
    (do
      let found ← dispatchEntry host disk bridge entry.1
      return tally.add found)
    isEntryRejection
    fun e => return tally.note ("entries[" ++ Text.ofNat entry.2 ++ "]: " ++ e.text host)

/-- The part of the `try` block after the reports are read. The operators are only dispatched
under an environment that is still valid. -/
def dispatchEntries (bridge : Bridge) (tally : Tally) (gaps entries : List Json) : Sched Tally := do
  let tally ← Prog.handle
    (do
      let errors ← environmentErrors host disk bridge
      if errors.isEmpty then entries.zipIdx.foldlM (tryEntry host disk bridge) tally else return tally)
    Exn.isRejection fun e => return tally.note (e.text host)
  Prog.lift (checkGaps host tally gaps.zipIdx)

end Entries

/-! ## The outcome -/

structure DispatchReport where
  state : Text
  runId : Text
  subject : Text
  schedulerState : Path
  artifactRoot : Path
  evidenceMode : Json
  fingerprint : Json
  taskIds : List Text
  operatorKeys : List Text
  reports : List FileEvidence
  errors : List Text
  /-- The errors of `validate_dispatch`. -/
  validation : List Text

def textsJson (texts : List Text) : Json := .arr (texts.map .str)

def DispatchReport.toDict (report : DispatchReport) : Dict :=
  [("state", .str report.state), ("run_id", .str report.runId), ("subject", .str report.subject),
    ("scheduler_state", .str report.schedulerState.toText),
    ("artifact_root", .str report.artifactRoot.toText), ("evidence_mode", report.evidenceMode),
    ("environment_fingerprint", report.fingerprint), ("task_ids", textsJson report.taskIds),
    ("operator_keys", textsJson report.operatorKeys), ("requests", textsJson report.taskIds),
    ("request_count", .int report.taskIds.length),
    ("reports", .arr (report.reports.map FileEvidence.json)), ("errors", textsJson report.errors),
    ("validator", .obj [("passed", .bool report.validation.isEmpty),
      ("errors", textsJson report.validation)])]

section Outcome
variable (host : Host) (disk : Disk)

/-- The key a task shows, which is text for every operator stage. -/
def shownKey (task : Task) : Text :=
  match task.operatorKey with
  | .str key => key
  | other => host.repr other

/-- The comparison of one source report with its file. -/
def sourceError (source : FileEvidence) : Except Exn (List Text) := do
  let path := Path.ofText source.path
  let link ← disk.isSymlink path
  let changed ←
    if link then pure true
    else if !(← disk.isFile path) then pure true
    else pure (host.sha256 (← disk.read path) != source.sha256)
  return errorIf changed "dispatch source report evidence is missing or changed"

/-- `_scheduled_dispatch` of a report the bridge wrote, whose lists are lists of texts. -/
def scheduledDispatch (db : Store) (report : DispatchReport) : Except Exn (List Text) :=
  match db.run? report.runId with
  | none => .ok ["dispatch references an unknown adaptation run"]
  | some run => do
      let fingerprint ← run.fingerprint
      let differs := fun (key : Text) (found expected : Json) =>
        errorIf (!found.eq expected) ("dispatch " ++ key ++ " does not match the persisted run")
      let blocked := report.state = "DISPATCH_BLOCKED"
      let tasks := (db.tasksOf disk.ties run.runId).filter fun row => row.taskId ∈ report.taskIds
      let views := tasks.map TaskRow.view
      let sources ← report.reports.mapM (sourceError host disk)
      return differs "subject" (.str report.subject) (.str run.modelId) ++
        differs "evidence_mode" report.evidenceMode run.evidenceMode ++
        differs "environment_fingerprint" report.fingerprint fingerprint ++
        differs "artifact_root" (.str report.artifactRoot.toText)
          (Dict.getD run.metadata "artifact_root" .null) ++
        errorIf (!run.flag "graph_environment_required")
          "dispatch requires an activated graph scheduler binding" ++
        errorIf (!blocked && run.status ≠ "ENVIRONMENT_READY")
          "dispatch requires a currently ready environment" ++
        errorIf (sortedSet (tasks.map TaskRow.taskId) ≠ sortedSet report.taskIds)
          "dispatch task ids do not identify tasks owned by this run" ++
        errorIf (sortedSet (views.map (shownKey host)) ≠ sortedSet report.operatorKeys)
          "dispatch operator keys do not match persisted tasks" ++
        errorIf (tasks.any fun row => row.stage ≠ .torch)
          "dispatch must identify the operator's initial torch task" ++
        errorIf (report.state = "DISPATCH_SKIPPED" && !report.taskIds.isEmpty)
          "DISPATCH_SKIPPED cannot contain dispatched tasks" ++
        (if report.reports.isEmpty && !blocked then
          (["dispatch requires hashed source report references"] : List Text)
        else sources.flatten)

/-- `validate_dispatch` of a scheduled report. -/
def validateDispatch (db : Store) (report : DispatchReport) : Except Exn (List Text) := do
  let scheduled ← match scheduledDispatch host disk db report with
    | .ok errors => pure errors
    | .error e =>
        if e.isRejection || e.kind == .databaseError then
          pure [Text.ofString "cannot validate scheduled dispatch: " ++ e.text host]
        else throw e
  let blocked := report.state = "DISPATCH_BLOCKED"
  return errorIf (report.state = "DISPATCHED" && report.taskIds.isEmpty)
      "DISPATCHED requires request ids" ++ scheduled ++
    errorIf (blocked && report.errors.isEmpty)
      "DISPATCH_BLOCKED must explain unresolved evidence" ++
    errorIf (!blocked && !report.errors.isEmpty)
      "successful dispatch cannot contain unresolved errors"

/-- The payload of `dispatch` before it is validated. -/
def dispatchPayload (bridge : Bridge) (run : AdaptationRun) (tally : Tally) :
    Except Exn DispatchReport := do
  let fingerprint ← run.fingerprint
  return {
    state := if !tally.errors.isEmpty then "DISPATCH_BLOCKED"
      else if !tally.dispatched.isEmpty then "DISPATCHED" else "DISPATCH_SKIPPED"
    runId := bridge.runId, subject := bridge.subject, schedulerState := bridge.state
    artifactRoot := bridge.artifactRoot, evidenceMode := run.evidenceMode, fingerprint
    taskIds := sortedSet (tally.dispatched.map fun found => found.2.taskId)
    operatorKeys := sortedSet (tally.dispatched.map fun found => shownKey host found.2)
    reports := tally.reports, errors := tally.errors, validation := [] }

/-- A payload that fails its own validation is blocked. -/
def validated (db : Store) (payload : DispatchReport) : Except Exn DispatchReport := do
  let errors ← validateDispatch host disk db payload
  if errors.isEmpty then return payload
  else return { payload with
    state := "DISPATCH_BLOCKED", errors := payload.errors ++ errors, validation := errors }

end Outcome

section Handoff
variable (host : Host) (disk written : Disk) (bridge : Bridge)

/-- The whole `try` block. -/
def collect (gapsPath : Path) (operatorReport : Option Path) (errors : List Text) : Sched Tally := do
  let run ← bridge.run
  let (tally, found) ← Prog.lift (gather host disk bridge run gapsPath operatorReport (.start errors))
  match found with
  | some (gaps, entries) => dispatchEntries host disk bridge tally gaps entries
  | none => return tally

/-- The report on what was collected, validated and published. `written` is the file system once
the status file is there. -/
def conclude (outDir : Path) (channel : Text) (tally : Tally) : Sched DispatchReport := do
  let run ← bridge.run
  let payload ← Prog.lift (dispatchPayload host bridge run tally)
  let report ← Prog.lift (validated host disk (← query id) payload)
  let store ← Prog.lift (ArtifactStore disk outDir)
  let status := outDir.child "dispatch_status.json"
  let _ ← Prog.lift (ArtifactStore.writeJson disk store (.ofText "dispatch_status.json")
    (.ok (.obj report.toDict)) true)
  let resolved ← Prog.lift (written.resolve status)
  let file ← Prog.lift (fileEvidence host written status)
  discard (recordGraphTransition host bridge.runId channel
    (report.toDict ++ ([("status_path", .str resolved.toText),
      ("status_sha256", .str file.sha256)] : Dict)))
  return report

/-- `dispatch` on one channel. -/
def dispatch (gapsPath outDir : Path) (operatorReport : Option Path) (channel : Text) :
    Sched DispatchReport := do
  Prog.require bridge.execute (.value "graph bridge is read-only in plan mode")
  let outDir ← Prog.lift (ensureExternal disk outDir)
  Prog.require (outDir.isRelativeTo bridge.artifactRoot)
    (.value "dispatch output must belong to the run artifact root")
  let errors ← environmentErrors host disk bridge
  let tally ← collect host disk bridge gapsPath operatorReport errors
  conclude host disk written bridge outDir channel tally

end Handoff
end Bridge
end InferForge

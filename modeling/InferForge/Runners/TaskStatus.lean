import InferForge.Artifacts.Register
import InferForge.Bridge.Evidence
import InferForge.Effect.Preserves
import InferForge.Py.Ordered
import InferForge.Py.Split
import Mathlib.Data.List.ReduceOption

/-! The status that a task publishes: whichever file operations fail, what is printed, the status
file, the manifest and the exit code do not disagree. The printing itself may fail, and what it raises
leaves `finish`. -/
namespace InferForge.TaskRunner
open Py Effect

/-- `status.json` and `manifest.json` of an attempt, what was printed, and how many operations there were. -/
structure Site where
  status : Option Dict
  manifest : Option Json
  printed : List Dict
  operations : Nat

instance : Preorder Site := Preorder.lift Site.operations

/-- A fixed attempt, and what its operations answer, by the number of those before them. -/
structure Attempt where
  host : Host
  taskId : Text
  /-- `contract["execution"]["user_id"]` and `contract["metadata"]["evidence_mode"]`. -/
  owner : Json
  mode : Json
  updatedAt : Text
  artifactRoot : Text
  manifestPath : Text
  identity : Dict
  /-- The status file, by its path below the attempt, and its content for a status. -/
  statusPath : Path
  content : Dict → Bytes
  /-- `store.path(name)` relative to the attempt; `none` is a directory. -/
  path : Nat → Text → Except Exn (Option Text)
  /-- `store.write_json("status.json", status, overwrite=True)`: it replaces the file, or leaves it. -/
  write : Nat → Dict → Except Exn Unit
  /-- The files that an inventory finds before the status and after it. -/
  walk : Nat → Except Exn (List Artifacts.Artifact × List Artifacts.Artifact)
  publish : Nat → Json → Except Exn Unit
  /-- `unlink(missing_ok=True)` of the manifest. -/
  unlink : Nat → Except Exn Unit
  /-- `print(json.dumps(status, indent=2, ensure_ascii=False))`: a stream that encodes strictly refuses
  a lone surrogate, a closed one everything. -/
  print : Nat → Dict → Except Exn Unit

abbrev Run := Prog Site Exn

/-- `except (ValueError, OSError)`. -/
def caught (e : Exn) : Bool := e.isValueError || e.kind == .osError

section Finish
variable (attempt : Attempt)

/-- A file operation, with its effect where it succeeds. -/
def operation (answer : Site → Except Exn α) (effect : Site → Site) (kept : ∀ s, s.operations ≤ (effect s).operations) :
    Run α := do
  let site ← Prog.read
  Prog.write (fun s => { s with operations := s.operations + 1 }) fun s => Nat.le_succ s.operations
  let value ← Prog.lift (answer site)
  Prog.write effect kept
  return value

def writeStatus (status : Dict) : Run Unit :=
  operation (fun s => attempt.write s.operations status) (fun s => { s with status := some status }) fun _ => le_rfl

def unlinkManifest : Run Unit :=
  operation (fun s => attempt.unlink s.operations) (fun s => { s with manifest := none }) fun _ => le_rfl

def printStatus (status : Dict) : Run Unit :=
  operation (fun s => attempt.print s.operations status) (fun s => { s with printed := s.printed ++ [status] }) fun _ => le_rfl

def requiredPath (operations : Nat) : Json → Except Exn (Option Text)
  | .str name => attempt.path operations name
  | _ => .error (.type "expected str, bytes or os.PathLike object")

/-- `store.path(name)` for each name, without the directories. -/
def requiredPaths (names : List Json) : Run (List Text) := do
  let site ← Prog.read
  let paths ← Prog.lift (names.mapM (requiredPath attempt site.operations))
  return paths.reduceOption

/-- The entry of the status file. -/
def statusArtifact (status : Dict) : Artifacts.Artifact :=
  { Artifacts.artifactOf attempt.host attempt.statusPath.parts (attempt.content status) with path := attempt.statusPath }

def document (outcome : Json) (artifacts : List Artifacts.Artifact) : Json :=
  .obj [("schema_version", .int 1), ("identity", .obj attempt.identity), ("outcome", outcome),
    ("artifacts", .arr (artifacts.map Artifacts.Artifact.toJson))]

/-- The files of the inventory, in the order of the walk. -/
def inventoried (status : Option Dict) (others : List Artifacts.Artifact × List Artifacts.Artifact) :
    List Artifacts.Artifact :=
  others.1 ++ (status.map (statusArtifact attempt)).toList ++ others.2

def register (outcome : Json) (required : List Text) : Run Unit := do
  let site ← Prog.read
  let others ← Prog.lift (attempt.walk site.operations)
  let artifacts := inventoried attempt site.status others
  let available := artifacts.map fun artifact => artifact.path.toText
  let missing := sortedSet (required.filter fun text => !available.contains text)
  Prog.require missing.isEmpty (.policy ("missing required artifacts: " ++ Text.join ", " missing))
  operation (fun s => attempt.publish s.operations (document attempt outcome artifacts))
    (fun s => { s with manifest := some (document attempt outcome artifacts) }) fun _ => le_rfl

/-- `status.setdefault(key, value)`. -/
def setDefault (status : Dict) (key : Text) (value : Json) : Dict :=
  if Dict.has status key then status else Dict.set status key value

/-- `_status_envelope`, and what `finish` adds to it. -/
def stamped (status : Dict) : Dict :=
  let status := setDefault status "task_id" (.str attempt.taskId)
  let status := setDefault status "state" (Dict.getD status "status" (.str "BLOCKED"))
  let status := setDefault status "updated_at" (.str attempt.updatedAt)
  let status := if attempt.owner.isStr && attempt.owner.truthy then Dict.set status "user_id" attempt.owner else status
  let real := attempt.mode.eq (.str "real") || attempt.mode.eq (.str "simulation")
  let status := Dict.set status "evidence_mode" (if real then attempt.mode else .str "real")
  let status := Dict.set status "artifact_root" (.str attempt.artifactRoot)
  let status := Dict.set status "manifest_path" (.str attempt.manifestPath)
  Dict.set status "workspace_identity" (.obj attempt.identity)

/-- The outcome of the manifest. -/
def outcomeOf (status : Dict) : Except Exn Json := do
  let passed ← (Dict.getD status "validator" (.obj [])).get "passed"
  return if (passed.getD .null).isFalse then .str "REWORK"
    else Dict.getD status "state" (Dict.getD status "status" (.str "BLOCKED"))

/-- The first `try` block. -/
def publishResult (status : Dict) (artifacts : List Json) : Run Unit := do
  let required ← requiredPaths attempt (.str "status.json" :: artifacts)
  writeStatus attempt status
  let outcome ← Prog.lift (outcomeOf status)
  register attempt outcome required

/-- The status of a result that could not be published. -/
def blocked (status : Dict) (error : Text) : Dict :=
  let message := Dict.getD status "message" .null
  let reason := Dict.getD status "reason" .null
  let status := if message.truthy || reason.truthy then Dict.set status "execution_error" (message.or reason) else status
  let status := Dict.set (Dict.set (Dict.set status "state" (.str "BLOCKED")) "status" (.str "BLOCKED"))
    "message" (.str error)
  Dict.set status "validator" (.obj [("passed", .bool false), ("errors", .arr [.str error])])

/-- The second `try` block. -/
def publishBlocked (status : Dict) : Run Unit := do
  unlinkManifest attempt
  writeStatus attempt status
  let _ ← requiredPaths attempt [.str "status.json"]
  register attempt (.str "BLOCKED") [attempt.statusPath.toText]

/-- A status without a manifest. -/
def unlisted (status : Dict) (error : Text) : Dict :=
  Dict.set (Dict.set status "manifest_error" (.str error)) "manifest_path" .null

/-- `finish`, up to the printing: the status that is printed, and the exit code. -/
def settle (status : Dict) (code : Int) : Run (Dict × Int) := do
  let status := stamped attempt status
  let artifacts ← Prog.lift (Dict.getD status "artifacts" (.arr [])).elements
  let published : Run (Dict × Int) := do
    publishResult attempt status artifacts
    return (status, code)
  Prog.handle published caught fun e => do
    let status := blocked status (e.text attempt.host)
    let published : Run (Dict × Int) := do
      publishBlocked attempt status
      return (status, 2)
    Prog.handle published caught fun e => do
      let status := unlisted status (e.text attempt.host)
      let written : Run (Dict × Int) := do
        writeStatus attempt status
        return (status, 2)
      Prog.handle written caught fun e =>
        return (Dict.set status "status_error" (.str (e.text attempt.host)), 2)

def finish (status : Dict) (code : Int) : Run Int := do
  let (status, code) ← settle attempt status code
  printStatus attempt status
  return code

/-- What a consumer compares the printed status with. -/
def comparePersisted (read : Json → Except Exn Json) (payload : Dict) (returncode : Int) : Except Exn Unit :=
  let root := Dict.getD payload "artifact_root" .null
  if root.truthy then do
    let persisted ← read root
    refuse (!persisted.eq (.obj payload)) (.value "task runner status differs from persisted evidence")
  else refuse (returncode == 0) (.value "successful task runner result has no artifact_root")

/-- `task_status` of what a runner printed; `read` is the status file of an artifact root. -/
def taskStatus (read : Json → Except Exn Json) (payload : Dict) (returncode : Int) (stderr : Text) : Except Exn Dict := do
  comparePersisted read payload returncode
  if returncode = 0 then return payload
  else
    let said := ((Dict.getD payload "reason" .null).or (Dict.getD payload "message" .null)).or (.str (stderr.strip.lastOf 500))
    let reason := said.or (.str ("task runner exited " ++ Text.ofInt returncode))
    return Dict.set (Dict.set payload "state" (.str "BLOCKED")) "reason" reason

end Finish

/-! ## What the file operations do -/

section Operations
variable {attempt : Attempt} {s : Site} {status : Dict} {α : Type}

theorem wp_operation {answer : Site → Except Exn α} {effect : Site → Site}
    {kept : ∀ s, s.operations ≤ (effect s).operations} {Q : α → Site → Prop} {E : Exn → Site → Prop} :
    Prog.wp (operation answer effect kept) Q E s ↔
      (∀ value, answer s = .ok value → Q value (effect { s with operations := s.operations + 1 })) ∧
        ∀ e, answer s = .error e → E e { s with operations := s.operations + 1 } := by
  simp only [operation, Prog.wp_bind, Prog.wp_lift]
  rfl

/-- A status is written, or the file is left as it was. -/
theorem writeStatus_spec : Prog.wp (writeStatus attempt status)
    (fun _ t => t.status = some status ∧ t.manifest = s.manifest)
    (fun e t => t.status = s.status ∧ t.manifest = s.manifest ∧ ∃ n, attempt.write n status = .error e) s := by
  rw [writeStatus, wp_operation]
  exact ⟨fun _ _ => ⟨rfl, rfl⟩, fun e refused => ⟨rfl, rfl, _, refused⟩⟩

/-- A status is printed, or nothing is. -/
theorem printStatus_spec : Prog.wp (printStatus attempt status)
    (fun _ t => t.status = s.status ∧ t.manifest = s.manifest ∧ t.printed = s.printed ++ [status])
    (fun e t => t.status = s.status ∧ t.manifest = s.manifest ∧ t.printed = s.printed ∧
      ∃ n, attempt.print n status = .error e) s := by
  rw [printStatus, wp_operation]
  exact ⟨fun _ _ => ⟨rfl, rfl, rfl⟩, fun e refused => ⟨rfl, rfl, rfl, _, refused⟩⟩

/-- Every file that is declared is required, under its path below the attempt. -/
def Requires (attempt : Attempt) (names : List Json) (required : List Text) : Prop :=
  ∃ n, ∀ name ∈ names, ∃ found, requiredPath attempt n name = .ok found ∧ ∀ path, found = some path → path ∈ required

theorem requiredPaths_spec {names : List Json} : Prog.wp (requiredPaths attempt names)
    (fun required t => t = s ∧ Requires attempt names required) (fun _ t => t = s) s := by
  simp only [requiredPaths, Prog.wp_bind, Prog.wp_read, Prog.wp_lift, Prog.wp_pure]
  refine ⟨fun paths found => ⟨trivial, s.operations, fun name member => ?_⟩, fun _ _ => trivial⟩
  obtain ⟨path, listed, here⟩ := forall₂_member (mapM_forall₂.mp found) member
  refine ⟨path, here, ?_⟩
  rintro path rfl
  exact List.reduceOption_mem_iff.mpr listed

/-- The manifest lists the status with its digest, and everything that is required. -/
def Lists (attempt : Attempt) (status : Dict) (outcome : Json) (required : List Text) (manifest : Option Json) : Prop :=
  ∃ others, manifest = some (document attempt outcome (inventoried attempt (some status) others)) ∧
    ∀ name ∈ required, ∃ artifact ∈ inventoried attempt (some status) others, artifact.path.toText = name

/-- A manifest of what is there is published, or the old one stays. -/
theorem register_spec {outcome : Json} {required : List Text} (held : s.status = some status) :
    Prog.wp (register attempt outcome required)
      (fun _ t => t.status = some status ∧ Lists attempt status outcome required t.manifest)
      (fun _ t => t.status = some status ∧ t.manifest = s.manifest) s := by
  simp only [register, Prog.wp_bind, Prog.wp_read, Prog.wp_lift, Prog.wp_require]
  refine ⟨fun others _ => ⟨fun complete => ?_, fun _ => ⟨held, trivial⟩⟩, fun _ _ => ⟨held, trivial⟩⟩
  rw [wp_operation, held]
  refine ⟨fun _ _ => ⟨rfl, others, rfl, fun name member => ?_⟩, fun _ _ => ⟨rfl, rfl⟩⟩
  by_contra absent
  have missing : name ∈ sortedSet (required.filter fun text =>
      !((inventoried attempt s.status others).map fun artifact => artifact.path.toText).contains text) := by
    rw [mem_sortedSet, held]
    exact List.mem_filter.mpr ⟨member, by simpa using absent⟩
  rw [List.isEmpty_iff.mp complete] at missing
  cases missing

theorem unlinkManifest_spec : Prog.wp (unlinkManifest attempt) (fun _ t => t.status = s.status ∧ t.manifest = none)
    (fun e t => t.status = s.status ∧ t.manifest = s.manifest ∧ ∃ n, attempt.unlink n = .error e) s := by
  rw [unlinkManifest, wp_operation]
  exact ⟨fun _ _ => ⟨rfl, rfl⟩, fun e refused => ⟨rfl, rfl, _, refused⟩⟩

end Operations

/-! ## What is published -/

section Published
variable {attempt : Attempt} {s : Site} {status : Dict} {artifacts : List Json}

/-- A result with its status and its manifest. -/
structure IsPublished (attempt : Attempt) (status : Dict) (site : Site) : Prop where
  persisted : site.status = some status
  manifest : ∃ outcome artifacts required, outcomeOf status = .ok outcome ∧
    (Dict.getD status "artifacts" (.arr [])).elements = .ok artifacts ∧
    Requires attempt (.str "status.json" :: artifacts) required ∧
    Lists attempt status outcome required site.manifest

theorem publishResult_spec (listed : (Dict.getD status "artifacts" (.arr [])).elements = .ok artifacts) :
    Prog.wp (publishResult attempt status artifacts) (fun _ t => IsPublished attempt status t)
      (fun _ t => t.manifest = s.manifest) s := by
  rw [publishResult, Prog.wp_bind]
  refine requiredPaths_spec.mono (fun required t _ found => ?_) fun _ _ _ same => same ▸ rfl
  obtain ⟨rfl, requires⟩ := found
  rw [Prog.wp_bind]
  refine writeStatus_spec.mono (fun _ u _ written => ?_) fun _ _ _ failed => failed.2.1
  rw [Prog.wp_bind, Prog.wp_lift]
  refine ⟨fun outcome judged => ?_, fun _ _ => written.2⟩
  refine (register_spec written.1).mono (fun _ v _ registered => ?_) fun _ _ _ failed => failed.2.trans written.2
  exact ⟨registered.1, outcome, artifacts, required, judged, listed, requires, registered.2⟩

/-- The manifest of a refused result: none, or one that says so, or the old one that could not be removed. -/
def Withheld (attempt : Attempt) (start site : Site) : Prop :=
  site.manifest = none ∨
    (∃ status, Lists attempt status (.str "BLOCKED") [attempt.statusPath.toText] site.manifest) ∨
    (site.manifest = start.manifest ∧ ∃ n e, attempt.unlink n = .error e)

theorem publishBlocked_spec : Prog.wp (publishBlocked attempt status)
    (fun _ t => t.status = some status ∧ Withheld attempt s t) (fun _ t => Withheld attempt s t) s := by
  rw [publishBlocked, Prog.wp_bind]
  refine unlinkManifest_spec.mono (fun _ t _ removed => ?_) fun e _ _ failed => .inr (.inr ⟨failed.2.1, failed.2.2.imp fun _ h => ⟨e, h⟩⟩)
  rw [Prog.wp_bind]
  refine writeStatus_spec.mono (fun _ u _ written => ?_) fun _ _ _ failed => .inl (failed.2.1.trans removed.2)
  rw [Prog.wp_bind]
  refine requiredPaths_spec.mono (fun _ v _ found => ?_) fun _ _ _ same => .inl (same ▸ written.2.trans removed.2)
  obtain ⟨rfl, -⟩ := found
  refine (register_spec written.1).mono (fun _ w _ registered => ?_) fun _ _ _ failed =>
    .inl (failed.2.trans (written.2.trans removed.2))
  exact ⟨registered.1, .inr (.inl ⟨status, registered.2⟩)⟩

/-- A printed status of a result that was not published: it says so, it is the status file unless that could
not be written, and no manifest promotes it. -/
structure Refused (attempt : Attempt) (start site : Site) (printed : Dict) : Prop where
  state : Dict.get? printed "state" = some (.str "BLOCKED")
  rejected : ∃ error, Dict.get? printed "validator" = some (.obj [("passed", .bool false), ("errors", .arr [.str error])])
  persisted : site.status = some printed ∨ ∃ unwritten n e, attempt.write n unwritten = .error e ∧
    printed = Dict.set unwritten "status_error" (.str (e.text attempt.host))
  withheld : Withheld attempt start site

/-- The keys of a refusal. -/
structure SaysBlocked (status : Dict) : Prop where
  state : Dict.get? status "state" = some (.str "BLOCKED")
  rejected : ∃ error, Dict.get? status "validator" = some (.obj [("passed", .bool false), ("errors", .arr [.str error])])

theorem SaysBlocked.set (refused : SaysBlocked status) {key : Text} (value : Json) (state : (Text.ofString "state") ≠ key)
    (validator : (Text.ofString "validator") ≠ key) : SaysBlocked (Dict.set status key value) := by
  obtain ⟨error, rejected⟩ := refused.rejected
  exact ⟨(Dict.get?_set_other _ _ state).trans refused.state, error, (Dict.get?_set_other _ _ validator).trans rejected⟩

theorem blocked_says (status : Dict) (error : Text) : SaysBlocked (blocked status error) := by
  have first : (Text.ofString "state") ≠ "validator" := by decide
  have second : (Text.ofString "state") ≠ "message" := by decide
  have third : (Text.ofString "state") ≠ "status" := by decide
  refine ⟨?_, error, Dict.get?_set_same ..⟩
  rw [blocked, Dict.get?_set_other _ _ first, Dict.get?_set_other _ _ second, Dict.get?_set_other _ _ third,
    Dict.get?_set_same]

theorem unlisted_says (refused : SaysBlocked status) (error : Text) : SaysBlocked (unlisted status error) :=
  (refused.set _ (by decide) (by decide)).set _ (by decide) (by decide)

theorem Withheld.since {before middle site : Site} (withheld : Withheld attempt middle site)
    (kept : middle.manifest = before.manifest) : Withheld attempt before site :=
  withheld.imp id (Or.imp id (And.imp (·.trans kept) id))

theorem Withheld.of_manifest {before site site' : Site} (withheld : Withheld attempt before site)
    (same : site'.manifest = site.manifest) : Withheld attempt before site' := by
  rw [Withheld, same]
  exact withheld

theorem elements_uncaught {value : Json} (raised : value.elements = .error e) : caught e = false := by
  cases value <;> cases raised <;> rfl

/-- What a status comes to: it is published under the given code, or refused under 2. -/
def Settled (attempt : Attempt) (status : Dict) (code : Int) (start : Site) (result : Dict × Int) (site : Site) : Prop :=
  (result = (stamped attempt status, code) ∧ IsPublished attempt (stamped attempt status) site) ∨
    (result.2 = 2 ∧ Refused attempt start site result.1)

theorem Settled.of_files {code : Int} {start site site' : Site} {result : Dict × Int}
    (settled : Settled attempt status code start result site) (persisted : site'.status = site.status)
    (listed : site'.manifest = site.manifest) : Settled attempt status code start result site' := by
  obtain ⟨same, published⟩ | ⟨code, refused⟩ := settled
  · exact .inl ⟨same, persisted.trans published.persisted, listed ▸ published.manifest⟩
  · exact .inr ⟨code, refused.state, refused.rejected, persisted ▸ refused.persisted, refused.withheld.of_manifest listed⟩

/-- Whichever file operations fail, a task publishes its result, or refuses it in every place that was reached. -/
theorem settle_spec (attempt : Attempt) (status : Dict) (code : Int) (start : Site) :
    Prog.wp (settle attempt status code) (Settled attempt status code start) (fun e _ => caught e = false) start := by
  rw [settle, Prog.wp_bind, Prog.wp_lift]
  refine ⟨fun artifacts listed => ?_, fun e raised => elements_uncaught raised⟩
  rw [Prog.wp_handle, Prog.wp_bind]
  refine (publishResult_spec listed).mono (fun _ t _ published => .inl ⟨rfl, published⟩) fun e t _ kept => ?_
  split
  · -- the manifest is withdrawn before the refusal is written
    have refused := blocked_says (stamped attempt status) (e.text attempt.host)
    rw [Prog.wp_handle, Prog.wp_bind]
    refine publishBlocked_spec.mono (fun _ u _ written => ?_) fun e' u _ withheld => ?_
    · exact .inr ⟨rfl, refused.state, refused.rejected, .inl written.1, written.2.since kept⟩
    · split
      · have unlisted := unlisted_says refused (e'.text attempt.host)
        rw [Prog.wp_handle, Prog.wp_bind]
        refine writeStatus_spec.mono (fun _ v _ written => ?_) fun e'' v _ failed => ?_
        · exact .inr ⟨rfl, unlisted.state, unlisted.rejected, .inl written.1, (withheld.since kept).of_manifest written.2⟩
        · obtain ⟨-, same, n, refuses⟩ := failed
          split
          · have apart : (Text.ofString "state") ≠ "status_error" := by decide
            have last := unlisted.set (.str (e''.text attempt.host)) apart (by decide)
            exact .inr ⟨rfl, last.state, last.rejected, .inr ⟨_, n, e'', refuses, rfl⟩,
              (withheld.since kept).of_manifest same⟩
          · next uncaught => simpa using uncaught
      · next uncaught => simpa using uncaught
  · next uncaught => simpa using uncaught

theorem taskStatus_blocked {read : Json → Except Exn Json} {printed payload : Dict} {stderr : Text} {code : Int}
    (failed : code ≠ 0) (accepted : taskStatus read printed code stderr = .ok payload) :
    Dict.get? payload "state" = some (.str "BLOCKED") := by
  simp only [taskStatus, bind_ok, if_neg failed, pure_ok] at accepted
  obtain ⟨-, -, rfl⟩ := accepted
  have apart : (Text.ofString "state") ≠ "reason" := by decide
  rw [Dict.get?_set_other _ _ apart, Dict.get?_set_same]

theorem taskStatus_returned {read : Json → Except Exn Json} {printed payload : Dict} {stderr : Text}
    (accepted : taskStatus read printed 0 stderr = .ok payload) : payload = printed := by
  simp only [taskStatus, bind_ok, if_true, pure_ok] at accepted
  obtain ⟨-, -, rfl⟩ := accepted
  rfl

/-- The file operations print nothing. -/
abbrev Silent (start : Site) {α : Type} (x : Run α) : Prop :=
  Prog.Preserves (fun site => site.printed = start.printed) (fun _ site => site.printed = start.printed) x

theorem operation_silent {α : Type} {answer : Site → Except Exn α} {effect : Site → Site}
    {kept : ∀ s, s.operations ≤ (effect s).operations} (start : Site) (quiet : ∀ s, (effect s).printed = s.printed) :
    Silent start (operation answer effect kept) := by
  intro s printed
  rw [wp_operation]
  exact ⟨fun _ _ => (quiet _).trans printed, fun _ _ => printed⟩

theorem writeStatus_silent (start : Site) (status : Dict) : Silent start (writeStatus attempt status) :=
  operation_silent start fun _ => rfl

theorem unlinkManifest_silent (start : Site) : Silent start (unlinkManifest attempt) :=
  operation_silent start fun _ => rfl

theorem lift_silent {α : Type} {answer : Except Exn α} (start : Site) : Silent start (Prog.lift answer) :=
  .lift fun _ _ _ printed => printed

theorem handle_silent {α : Type} {x : Run α} {handler : Exn → Run α} {start : Site} (body : Silent start x)
    (rest : ∀ e, Silent start (handler e)) : Silent start (Prog.handle x caught handler) :=
  Prog.Preserves.handle body (fun _ _ printed _ => printed) (fun _ _ printed _ => printed) rest

theorem requiredPaths_silent (start : Site) (names : List Json) : Silent start (requiredPaths attempt names) := by
  apply Prog.Preserves.read
  intro site printed
  exact Prog.Preserves.bind (lift_silent start) (fun _ => .pure _) site printed

theorem register_silent (start : Site) (outcome : Json) (required : List Text) :
    Silent start (register attempt outcome required) := by
  intro site printed
  simp only [register, Prog.wp_bind, Prog.wp_read, Prog.wp_lift, Prog.wp_require]
  refine ⟨fun others _ => ⟨fun _ => ?_, fun _ => printed⟩, fun _ _ => printed⟩
  rw [wp_operation]
  exact ⟨fun _ _ => printed, fun _ _ => printed⟩

theorem publishResult_silent (start : Site) (status : Dict) (artifacts : List Json) :
    Silent start (publishResult attempt status artifacts) := by
  refine (requiredPaths_silent start _).bind fun required => ?_
  refine (writeStatus_silent start status).bind fun _ => ?_
  exact (lift_silent start).bind fun outcome => register_silent start outcome required

theorem publishBlocked_silent (start : Site) (status : Dict) : Silent start (publishBlocked attempt status) := by
  refine (unlinkManifest_silent start).bind fun _ => ?_
  refine (writeStatus_silent start status).bind fun _ => ?_
  exact (requiredPaths_silent start _).bind fun _ => register_silent start _ _

theorem settle_silent (attempt : Attempt) (status : Dict) (code : Int) (start : Site) :
    Silent start (settle attempt status code) := by
  refine (lift_silent start).bind fun artifacts => ?_
  refine handle_silent ((publishResult_silent start _ _).bind fun _ => .pure _) fun _ => ?_
  refine handle_silent ((publishBlocked_silent start _).bind fun _ => .pure _) fun _ => ?_
  exact handle_silent ((writeStatus_silent start _).bind fun _ => .pure _) fun _ => .pure _

/-- A consumer that accepts a printed status, and does not find it blocked, holds a published result. -/
theorem Settled.consumed {code : Int} {start site : Site} {result : Dict × Int} {read : Json → Except Exn Json}
    {stderr : Text} {payload : Dict} (settled : Settled attempt status code start result site)
    (accepted : taskStatus read result.1 result.2 stderr = .ok payload)
    (working : Dict.get? payload "state" ≠ some (.str "BLOCKED")) :
    code = 0 ∧ payload = stamped attempt status ∧ IsPublished attempt payload site := by
  obtain ⟨rfl, published⟩ | ⟨refused, -⟩ := settled
  · by_cases succeeded : code = 0
    · subst succeeded
      obtain rfl := taskStatus_returned accepted
      exact ⟨rfl, rfl, published⟩
    · exact absurd (taskStatus_blocked succeeded accepted) working
  · have failed : result.2 ≠ 0 := by omega
    exact absurd (taskStatus_blocked failed accepted) working

/-- A task that returns has printed one status, of a result that is published or refused, and a consumer that
accepts it without finding it blocked holds a published result. What escapes is no failing file operation but
the printing of such a status. -/
theorem finish_consumed (attempt : Attempt) (status : Dict) (code : Int) (start : Site) :
    Prog.wp (finish attempt status code)
      (fun returned site => ∃ printed, site.printed = start.printed ++ [printed] ∧
        Settled attempt status code start (printed, returned) site ∧
        ∀ read stderr payload, taskStatus read printed returned stderr = .ok payload →
          Dict.get? payload "state" ≠ some (.str "BLOCKED") →
          code = 0 ∧ payload = stamped attempt status ∧ IsPublished attempt payload site)
      (fun e site => site.printed = start.printed ∧
        (caught e = false ∨ ∃ result n, attempt.print n result.1 = .error e ∧
          Settled attempt status code start result site)) start := by
  rw [finish, Prog.wp_bind]
  have silent := settle_silent attempt status code start start rfl
  refine ((settle_spec attempt status code start).and silent).mono (fun result t _ settled => ?_) fun e t _ raised => ?_
  · obtain ⟨settled, quiet⟩ := settled
    rw [Prog.wp_bind]
    refine printStatus_spec.mono (fun _ u _ written => ?_) fun e u _ failed => ?_
    · obtain ⟨persisted, listed, printed⟩ := written
      have settled := settled.of_files persisted listed
      exact ⟨result.1, by rw [printed, quiet], settled, fun read stderr payload => settled.consumed⟩
    · obtain ⟨persisted, listed, printed, n, refuses⟩ := failed
      exact ⟨printed.trans quiet, .inr ⟨result, n, refuses, settled.of_files persisted listed⟩⟩
  · exact ⟨raised.2, .inl raised.1⟩

end Published
end InferForge.TaskRunner

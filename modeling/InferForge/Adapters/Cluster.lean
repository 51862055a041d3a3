import InferForge.Adapters.Ownership
import InferForge.Effect.Preserves
import InferForge.Py.Split
import Mathlib.Algebra.Order.Archimedean.Basic
import Mathlib.Data.Nat.Find
import Mathlib.Data.List.Infix

/-! The adapter of a proof: every command it sends to the cluster, and the state that a proof
keeps between two commands. The cluster may answer anything. -/
namespace InferForge
open Py Effect

/-- A finished `subprocess.run`. -/
structure Completed where
  returncode : Int
  stdout : Text
  stderr : Text
deriving DecidableEq

inductive Reply where
  | completed (result : Completed)
  /-- `subprocess.TimeoutExpired`. -/
  | timedOut (cmd seconds : Text)
  /-- `SafetyViolation`, from the adapter itself. -/
  | refused

/-- Read operations. -/
inductive Query where
  /-- `auth can-i create pods`. -/
  | canCreatePods
  /-- `get KIND NAME --ignore-not-found -o json`. -/
  | resource (kind name : Text)
  /-- `get pods -l SELECTOR -o name`. -/
  | pods (selector : Text)
  | podReady (pod : Text)
  /-- `get pod POD -o yaml`. -/
  | podSpec (pod : Text)

/-- The scripts that a proof runs in a Pod. -/
inductive Script where
  /-- `curl` of the health endpoint, the status first. -/
  | probe (path : Text) (port : Int)
  /-- `curl` of `/v1/models`. -/
  | models (port : Int)
  | xpuSmi
  /-- Size and last line of the server log. -/
  | logProgress (log : Text)
  | archiveCrash (log : Text)
  | readFile (path : Text)
  | tailFile (path : Text)
  | weightFiles (path : Text)
  | clearService (port : Int)
  | survivors
  | importCheck (workdir : Text)
  | install (command : Text)
  | versions (workdir : Text)
  | launch (log workdir setup serve : Text)
  | bringup (modelPath : Text) (layers experts tensorParallel maxLength : Int) (setup : List Text)
  | serverAlive
  | chatPayload (payload : Json)
  | chatRequest (method path : Text) (port : Int)
  | importVersions
  | codeRevision (worktree : Text)
  | fingerprint (workdir : Text)

inductive Command where
  | query (query : Query)
  /-- `apply -f` of a file with this content. -/
  | apply (content : Text)
  | copyInto (pod remote : Text)
  | exec (pod : Text) (script : Script)

inductive Occurrence where
  /-- `assert_owned` let the name pass. -/
  | owned (name : Text)
  | ran (command : Command) (reply : Reply)

/-- Content of a file of the proof. -/
inductive Written where
  | text (content : Text)
  | json (content : Json)
  /-- A line added to a journal. -/
  | line (content : Json)
  /-- A copy of the contract, or a command to run it again. -/
  | replay

structure Record where
  action : Text
  ok : Bool
  detail : Text

def Record.json (entry : Record) : Json :=
  .obj [("action", .str entry.action), ("ok", .bool entry.ok), ("detail", .str entry.detail)]

/-- What `DeploymentProofRunner` holds, and what it did so far. -/
structure Session where
  trace : List Occurrence
  /-- Every write, oldest first. -/
  files : List (Text × Written)
  attachPod : Option Text
  pod : Option Text
  records : List Record
  checks : Dict
  /-- Size of the server log at the last poll, and how many polls it is that. -/
  watchLastBytes : Int
  watchStallPolls : Nat
  /-- Readings of the clock so far. -/
  readings : Nat

namespace Session

def start (attachPod : Option Text) : Session where
  trace := []
  files := []
  attachPod := attachPod
  pod := none
  records := []
  checks := []
  watchLastBytes := -2
  watchStallPolls := 0
  readings := 0

def noting (s : Session) (event : Occurrence) : Session := { s with trace := s.trace ++ [event] }

/-- Commands and writes are never taken back, and a check may only get another value. -/
instance : Preorder Session where
  le s t := s.trace <+: t.trace ∧ s.files <+: t.files ∧
    ∀ key, Dict.has s.checks key = true → Dict.has t.checks key = true
  le_refl _ := ⟨List.prefix_rfl, List.prefix_rfl, fun _ found => found⟩
  le_trans _ _ _ first second := ⟨first.1.trans second.1, first.2.1.trans second.2.1,
    fun key found => second.2.2 key (first.2.2 key found)⟩

theorem le_of_same {s t : Session} (trace : t.trace = s.trace) (files : t.files = s.files)
    (checks : t.checks = s.checks) : s ≤ t :=
  ⟨trace ▸ List.prefix_rfl, files ▸ List.prefix_rfl, fun _ found => checks ▸ found⟩

/-- `self.checks[key] = value`. -/
def checking (s : Session) (key : Text) (value : Json) : Session :=
  { s with checks := Dict.set s.checks key value }

theorem le_checking (s : Session) (key : Text) (value : Json) : s ≤ s.checking key value := by
  refine ⟨List.prefix_rfl, List.prefix_rfl, ?_⟩
  intro other found
  rw [Dict.has, checking, Dict.get?_set]
  split
  · rfl
  · exact found

end Session

/-- Where a proof runs. -/
structure Site where
  host : Host
  config : ClusterConfig
  /-- What the cluster answers, after all that happened before. -/
  cluster : List Occurrence → Command → Reply
  /-- The clock passes every deadline. -/
  passes : ∀ deadline : Time, ∃ n, deadline ≤ host.clock n
  /-- `json.loads` of a string; `none` is a `JSONDecodeError`. -/
  loads : Text → Option Json
  lower : Text → Text
  /-- `text.isdigit()`. -/
  isDigits : Text → Bool
  /-- Text of a manifest template of the repository. -/
  template : Text → Except Exn Text
  /-- `yaml.safe_load` and `yaml.safe_load_all`. -/
  safeLoad : Text → Except Exn Json
  safeLoadAll : Text → Except Exn (List Json)
  attemptId : Text
  workdir : Text
  image : Text
  fallbackMarkers : List Text
  /-- Names in the artifact directory before the proof. -/
  earlier : List Text
  /-- `ArtifactStore.register` of the files with these names. -/
  register : List Text → Except Exn Unit

abbrev Proof := Prog Session Fault

namespace Proof

/-- A fallible computation of the language. -/
def run (result : Except Exn α) : Proof α := Prog.lift (result.mapError Fault.raised)

def actionFailed (state message : Text) : Proof α := Prog.raise (.actionFailed state message)

def note (event : Occurrence) : Proof Unit :=
  Prog.write (fun s => s.noting event) fun _ =>
    ⟨List.prefix_append _ _, List.prefix_rfl, fun _ found => found⟩

/-- `self.write` and `self.append`. -/
def save (name : Text) (content : Written) : Proof Unit :=
  Prog.write (fun s => { s with files := s.files ++ [(name, content)] })
    fun _ => ⟨List.prefix_rfl, List.prefix_append _ _, fun _ found => found⟩

def record (action : Text) (ok : Bool) (detail : Text) : Proof Unit :=
  Prog.write (fun s => { s with records := s.records ++ [⟨action, ok, detail.lastOf 4000⟩] })
    fun _ => Session.le_of_same rfl rfl rfl

/-- `self.checks[key] = value`. -/
def check (key : Text) (value : Json) : Proof Unit :=
  Prog.write (fun s => s.checking key value) fun s => s.le_checking key value

def setPod (pod : Text) : Proof Unit :=
  Prog.write (fun s => { s with pod := some pod }) fun _ => Session.le_of_same rfl rfl rfl

def setAttachPod (pod : Option Text) : Proof Unit :=
  Prog.write (fun s => { s with attachPod := pod }) fun _ => Session.le_of_same rfl rfl rfl

def setWatch (lastBytes : Int) (stallPolls : Nat) : Proof Unit :=
  Prog.write (fun s => { s with watchLastBytes := lastBytes, watchStallPolls := stallPolls })
    fun _ => Session.le_of_same rfl rfl rfl

/-- `time.time()`. -/
def tick : Proof Unit :=
  Prog.write (fun s => { s with readings := s.readings + 1 }) fun _ => Session.le_of_same rfl rfl rfl

/-- `self.pod or ""`. -/
def currentPod : Proof Text := do
  let s ← Prog.read
  return s.pod.getD ⟨[]⟩

end Proof

namespace Site
open Proof
variable (site : Site)

/-- `adapter.run`, for reads and writes alike. -/
def send (command : Command) : Proof Completed := do
  let s ← Prog.read
  let reply := site.cluster s.trace command
  note (.ran command reply)
  match reply with
  | .completed result => return result
  | .timedOut cmd seconds => Prog.raise (.timeoutExpired cmd seconds)
  | .refused => Prog.raise (.safetyViolation "refused by the adapter")

def assertOwned (name : Text) : Proof Unit := do
  Prog.lift (site.config.assertOwned name)
  note (.owned name)

/-- `assert_owned` of a value read from a manifest. -/
def assertOwnedValue (name : Json) : Proof Text := do
  match name with
  | .str name =>
      assertOwned site name
      return name
  | other =>
      if other.truthy then run (.error (.attr "object has no attribute 'startswith'"))
      else Prog.raise (.safetyViolation "refusing to write to a resource without a name")

def assertManifestOwned (manifest : Json) : Proof Unit := do
  let metadata ← run (manifest.get "metadata")
  let name ← run ((metadata.getD (.obj [])).get "name")
  let _ ← assertOwnedValue site (name.getD (.str ⟨[]⟩))

def assertManifestsOwned : List Json → Proof Unit
  | [] => return ()
  | manifest :: rest => do
      assertManifestOwned site manifest
      assertManifestsOwned rest

/-- `apply` of a manifest file with this content. -/
def apply (content : Text) : Proof Completed := do
  let documents ← run (site.safeLoadAll content)
  assertManifestsOwned site (documents.filter Json.truthy)
  send site (.apply content)

def exec (pod : Text) (script : Script) : Proof Completed := send site (.exec pod script)

def copyInto (pod remote : Text) : Proof Completed := do
  assertOwned site pod
  send site (.copyInto pod remote)

def canCreatePods : Proof Bool := do
  let result ← send site (.query .canCreatePods)
  return result.returncode == 0 && site.lower result.stdout.strip == Text.ofString "yes"

def podReady (pod : Text) : Proof Bool := do
  let result ← send site (.query (.podReady pod))
  return result.returncode == 0 && result.stdout.strip == Text.ofString "True"

structure Card where
  index : Int
  used : Int
  total : Int

def Card.json (card : Card) : Json :=
  .obj [("index", .int card.index), ("used_mib", .int card.used), ("total_mib", .int card.total),
    ("free_mib", .int (card.total - card.used))]

/-- A line of `xpu_smi -m`: only three columns can be addressed by position. -/
def parseCard (line : Text) : Option Card := do
  let fields := line.words
  let index ← site.host.intOfText (← fields[2]?)
  let used ← site.host.intOfText (← fields[17]?)
  let total ← site.host.intOfText (← fields[18]?)
  return ⟨index, used, total⟩

def parseXpuSmi (text : Text) : List Card :=
  (text.splitlines.filterMap (parseCard site)).mergeSort fun a b => decide (a.index ≤ b.index)

def xpuSmi (pod : Text) : Proof (List Card) := do
  let result ← exec site pod .xpuSmi
  if result.returncode ≠ 0 then
    Prog.raise (.runtimeError ("xpu_smi failed on " ++ pod ++ ": " ++ result.stderr.strip))
  else
    let cards := parseXpuSmi site result.stdout
    if cards.isEmpty then
      Prog.raise (.runtimeError ("xpu_smi returned no parsable card on " ++ pod))
    else return cards

/-- The status and the body that `curl` printed. -/
def statusAndBody (result : Completed) : Int × Text :=
  let parts := result.stdout.partition 10
  match site.host.intOfText (parts.1.strip.upTo 3) with
  | some code => (code, parts.2)
  | none => (0, result.stdout ++ result.stderr)

def httpProbe (pod : Text) (script : Script) : Proof (Int × Text) := do
  let result ← exec site pod script
  return statusAndBody site result

/-! `while time.time() < deadline`. -/

/-- Some reading from the `i`th on reaches the deadline. -/
theorem expires (deadline : Time) (i : Nat) : ∃ k, deadline ≤ site.host.clock (i + k) := by
  obtain ⟨n, late⟩ := site.passes deadline
  refine ⟨n, le_trans late (site.host.clock_mono ?_)⟩
  exact Nat.le_add_left n i

/-- How many readings from the `i`th on stay before the deadline. -/
def rounds (deadline : Time) (i : Nat) : Nat := Nat.find (expires site deadline i)

/-- `rounds` of the loop, and the test that ends it; the body continues with `inl` and returns
with `inr`. -/
def repeatRounds (body : β → Proof (β ⊕ α)) (expired : β → Proof α) : Nat → β → Proof α
  | 0, state => do
      tick
      expired state
  | rounds + 1, state => do
      tick
      match ← body state with
      | .inl state => repeatRounds body expired rounds state
      | .inr result => return result

def whileBefore (deadline : Time) (body : β → Proof (β ⊕ α)) (expired : β → Proof α) (state : β) :
    Proof α := do
  let s ← Prog.read
  repeatRounds body expired (rounds site deadline s.readings) state

/-- `time.time() + seconds`. -/
def deadlineAfter (seconds : Int) : Proof Time := do
  let s ← Prog.read
  tick
  return site.host.addSeconds (site.host.clock s.readings) seconds

/-- The number of rounds is the one that the tests give. -/
theorem rounds_zero (deadline : Time) (i : Nat) :
    site.rounds deadline i = 0 ↔ ¬ site.host.clock i < deadline := by
  rw [rounds, Nat.find_eq_zero, not_lt]
  rfl

theorem rounds_succ (before : site.host.clock i < deadline) :
    site.rounds deadline i = site.rounds deadline (i + 1) + 1 := by
  have later : ∃ k, deadline ≤ site.host.clock (i + (k + 1)) := by
    obtain ⟨k, late⟩ := expires site deadline (i + 1)
    exact ⟨k, by rwa [← Nat.add_assoc, Nat.add_right_comm]⟩
  have first : ¬ deadline ≤ site.host.clock (i + 0) := not_le.mpr before
  rw [rounds, Nat.find_comp_succ (expires site deadline i) later first, rounds]
  congr 1
  apply Nat.find_congr'
  intro k
  rw [show i + (k + 1) = i + 1 + k by omega]

end Site

/-! A site to evaluate the definitions on: every Pod is ready, and a server answers the requests for
its models with this output. -/

def ClusterConfig.sample : ClusterConfig where
  kubeconfig := "/config"
  namespaceName := .str "models"
  container := .str "main"
  resourcePrefix := "alice"
  deploymentKind := .str "deployment"
  context := none

def Site.sample (models : Text) : Site where
  host := { Host.sample with intOfText := fun text => if text = "200" then some 200 else none }
  config := .sample
  cluster := fun _ command => .completed (match command with
    | .query (.podReady _) => ⟨0, "True", ""⟩
    | .exec _ (.models _) => ⟨0, models, ""⟩
    | _ => ⟨1, "", ""⟩)
  passes deadline := exists_nat_ge deadline
  loads := fun text => if text = "[]" then some (.arr []) else none
  lower text := text
  isDigits _ := false
  template _ := .error (.os "No such file or directory")
  safeLoad _ := .error (.value "no document")
  safeLoadAll _ := .ok []
  attemptId := "20260101T000000Z"
  workdir := "/workspace"
  image := ""
  fallbackMarkers := ["fallback"]
  earlier := []
  register _ := .ok ()

end InferForge

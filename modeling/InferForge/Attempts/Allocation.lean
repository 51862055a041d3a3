import InferForge.Storage
import InferForge.Py.RoundTrip

/-! Any number of calls that initialise one run root and allocate attempts in it, interleaved one
file system operation at a time. A call that is never moved again has crashed. -/
namespace InferForge
open Py Effect

/-- `f"{number:06d}"`. -/
def attemptName (number : Nat) : Text :=
  ⟨List.replicate (6 - (Dumps.nat number).length) 48 ++ Dumps.nat number⟩

/-- What a worker finds under `run_id`, `task_id` and `attempt_id`. -/
def attemptPayload (runId taskId attemptId : Text) : Json :=
  .obj [("schema_version", .int 1), ("run_id", .str runId), ("task_id", .str taskId),
    ("attempt_id", .str attemptId)]

namespace Allocation

inductive Node where
  | directory
  | symlink
  /-- A file, with its document once it holds one. -/
  | file (content : Option Json)

/-- A name relative to the run root. -/
abbrev Name := List Text

abbrev Files := Name → Option Node

/-- `uuid4().hex`, which never repeats. -/
structure Uuids where
  hex : Nat → Text
  distinct : Function.Injective hex
  nonblank : ∀ n, (hex n).blank = false

inductive Stage where
  | construct
  /-- `initialize`: creating the root, looking for the marker, and reading or publishing it. -/
  | begin
  | look
  | probe
  | read
  | create
  | write (runId : Text) (uuid : Nat)
  | link (runId : Text) (uuid : Nat)
  /-- The pending file of a published identity goes away. -/
  | clear (runId : Text) (uuid : Nat)
  /-- `initialize` calls itself again, before its own pending file goes away. -/
  | retry (uuid : Nat)
  | identified (runId : Text)
  /-- `allocate_attempt`: the task directories, down to `depth`. -/
  | prepare (runId taskId component : Text) (depth : Nat)
  | number (runId taskId component : Text) (n : Nat)
  | fill (runId taskId component : Text) (n : Nat) (todo : List Text)
  | note (runId taskId component : Text) (n uuid : Nat)
  | replace (runId taskId component : Text) (n uuid : Nat)
  | done (runId : Text) (attempt : Option (Text × Nat))
  | raised (e : Exn)

structure Call where
  explicit : Option Text
  /-- `None` only initialises the run. -/
  task : Option Text
  stage : Stage
  /-- The pending files that go away once the inner `initialize` is over, innermost first. -/
  retried : List Nat

/-- A call at its next stage. -/
def Call.advance (call : Call) (stage : Stage) : Call where
  explicit := call.explicit
  task := call.task
  stage := stage
  retried := match call.stage with
    | .retry uuid => uuid :: call.retried
    | .identified _ | .raised _ => call.retried.tail
    | _ => call.retried

@[simp] theorem Call.advance_stage (call : Call) (stage : Stage) : (call.advance stage).stage = stage := rfl

structure System where
  files : Files
  /-- How many uuids were drawn. -/
  count : Nat
  calls : Nat → Option Call

def markerName : Name := ["run.json"]

def pendingName (uuids : Uuids) (uuid : Nat) : Name := [".run." ++ uuids.hex uuid ++ ".pending"]

def taskName (component : Text) (depth : Nat) : Name :=
  ([("tasks" : Text), component, ("attempts" : Text)] : Name).take depth

def attemptDirectory (component : Text) (n : Nat) : Name :=
  [("tasks" : Text), component, ("attempts" : Text), attemptName n]

def attemptMarker (component : Text) (n : Nat) : Name :=
  attemptDirectory component n ++ ([".attempt.json"] : Name)

def attemptPending (uuids : Uuids) (component : Text) (n uuid : Nat) : Name :=
  attemptDirectory component n ++ ([(Text.ofString "..attempt.json.") ++ uuids.hex uuid ++ ".pending"] : Name)

def identityPayload (runId : Text) : Json := .obj [("schema_version", .int 1), ("run_id", .str runId)]

/-- The run an identity document names, if it is a supported one. -/
def identityOf (identity : Json) : Option Text :=
  match identity with
  | .obj fields =>
      if Json.eqOpt (Dict.get? fields "schema_version") (.int 1) then
        match Dict.get? fields "run_id" with
        | some (.str runId) => if runId.blank then none else some runId
        | _ => none
      else none
  | _ => none

/-- The identity in the marker, which has to be the one asked for. -/
def readIdentity (explicit : Option Text) (node : Option Node) : Except Exn Text :=
  match node with
  | some (.file (some identity)) =>
      match identityOf identity with
      | some existing =>
          if explicit.any fun e => e != existing then
            .error (.policy "run identity conflicts with run.json")
          else .ok existing
      | none => .error (.policy "unsupported run identity: run.json")
  | _ => .error (.policy "cannot read run identity: run.json")

/-- What one operation does: the names it sets or removes, the uuids it draws, and the next stage. -/
structure Effect where
  changes : List (Name × Option Node)
  drawn : Nat
  stage : Stage

def Effect.pure (stage : Stage) : Effect := ⟨[], 0, stage⟩

/-- `mkdir` of one directory, with `exist_ok`. -/
def ensureDirectory (files : Files) (name : Name) (next : Stage) : Effect :=
  match files name with
  | none => ⟨[(name, some .directory)], 0, next⟩
  | some .directory => .pure next
  | some _ => .pure (.raised (.os "File exists"))

def subdirectories : List Text := ["input", "scratch", "output", "logs"]

def isSymlink : Option Node → Bool
  | some .symlink => true
  | _ => false

section Operations
variable (host : Host) (uuids : Uuids) (external : Name → Except Exn Unit)

/-- The checks of a task directory before it is created. -/
def enter (files : Files) (runId taskId : Text) : Except Exn Stage := do
  let component ← safeComponent host taskId
  external (taskName component 3)
  refuse ([1, 2, 3].any fun depth => isSymlink (files (taskName component depth)))
    (.policy "task directories cannot be symlinks")
  return .prepare runId taskId component 1

/-- The next operation of a call. -/
def operation (files : Files) (count : Nat) (call : Call) : Effect :=
  match call.stage with
  | .construct =>
      match call.explicit.map (safeComponent host) with
      | some (.error e) => .pure (.raised e)
      | _ => .pure .begin
  | .begin =>
      match external [] with
      | .error e => .pure (.raised e)
      | .ok _ => ensureDirectory files [] .look
  | .look =>
      if isSymlink (files markerName) then .pure (.raised (.policy "run identity cannot be a symlink"))
      else .pure .probe
  | .probe => .pure (if (files markerName).isSome then .read else .create)
  | .read =>
      match readIdentity call.explicit (files markerName) with
      | .ok runId => .pure (.identified runId)
      | .error e => .pure (.raised e)
  | .create =>
      let pending := pendingName uuids count
      let runId := call.explicit.getD (uuids.hex (count + 1))
      match files pending with
      | some _ => ⟨[], 2, .retry count⟩
      | none => ⟨[(pending, some (.file none))], 2, .write runId count⟩
  | .write runId uuid =>
      ⟨[(pendingName uuids uuid, some (.file (some (identityPayload runId))))], 0, .link runId uuid⟩
  | .link runId uuid =>
      match files (pendingName uuids uuid), files markerName with
      | none, _ => .pure (.raised (.os "No such file or directory"))
      | some node, none => ⟨[(markerName, some node)], 0, .clear runId uuid⟩
      | some _, some _ => .pure (.retry uuid)
  | .clear runId uuid => ⟨[(pendingName uuids uuid, none)], 0, .identified runId⟩
  | .retry _ => .pure .begin
  | .identified runId =>
      match call.retried, call.task with
      | uuid :: _, _ => ⟨[(pendingName uuids uuid, none)], 0, .identified runId⟩
      | [], none => .pure (.done runId none)
      | [], some taskId =>
          match enter host external files runId taskId with
          | .ok next => .pure next
          | .error e => .pure (.raised e)
  | .prepare runId taskId component depth =>
      ensureDirectory files (taskName component depth)
        (if depth < 3 then .prepare runId taskId component (depth + 1)
        else .number runId taskId component 1)
  | .number runId taskId component n =>
      match files (attemptDirectory component n) with
      | some _ => .pure (.number runId taskId component (n + 1))
      | none => ⟨[(attemptDirectory component n, some .directory)], 0,
          .fill runId taskId component n subdirectories⟩
  | .fill runId taskId component n (name :: todo) =>
      match files (attemptDirectory component n ++ [name]) with
      | some _ => .pure (.raised (.os "File exists"))
      | none => ⟨[(attemptDirectory component n ++ [name], some .directory)], 0,
          .fill runId taskId component n todo⟩
  | .fill runId taskId component n [] =>
      let pending := attemptPending uuids component n count
      match files pending with
      | some _ => ⟨[(pending, none)], 1, .raised (.os "File exists")⟩
      | none => ⟨[(pending, some (.file none))], 1, .note runId taskId component n count⟩
  | .note runId taskId component n uuid =>
      ⟨[(attemptPending uuids component n uuid,
          some (.file (some (attemptPayload runId taskId (attemptName n)))))], 0,
        .replace runId taskId component n uuid⟩
  | .replace runId _ component n uuid =>
      ⟨[(attemptMarker component n, files (attemptPending uuids component n uuid)),
        (attemptPending uuids component n uuid, none)], 0, .done runId (some (component, n))⟩
  | .done runId attempt => .pure (.done runId attempt)
  | .raised e =>
      match call.retried with
      | uuid :: _ => ⟨[(pendingName uuids uuid, none)], 0, .raised e⟩
      | [] => .pure (.raised e)

def apply (files : Files) (changes : List (Name × Option Node)) : Files :=
  changes.foldl (fun files change => Function.update files change.1 change.2) files

inductive Action where
  /-- `RunPaths(root, run_id)` and the start of one call of it. -/
  | start (id : Nat) (explicit task : Option Text)
  | move (id : Nat)

def System.step (system : System) : Action → System
  | .start id explicit task =>
      match system.calls id with
      | some _ => system
      | none => { system with
          calls := Function.update system.calls id (some ⟨explicit, task, .construct, []⟩) }
  | .move id =>
      match system.calls id with
      | none => system
      | some call =>
          let effect := operation host uuids external system.files system.count call
          { files := apply system.files effect.changes
            count := system.count + effect.drawn
            calls := Function.update system.calls id (some (call.advance effect.stage)) }

def System.run (system : System) (actions : List Action) : System :=
  actions.foldl (System.step host uuids external) system

end Operations

end Allocation
end InferForge

import InferForge.Host

/-! The task loop memory across restarts: what graph walks and the delivery step record of
their loop blocks, with the process stopping between any two saves. -/
namespace InferForge.TaskMemory
open Py

/-! ## The memory -/

structure Block where
  blockId : Text
  subTarget : Text
  exitCondition : Json
  routing : Dict
  startedAt : Time

/-- The same block: only its routing is amended after its start. -/
structure Block.Same (a b : Block) : Prop where
  blockId : a.blockId = b.blockId
  subTarget : a.subTarget = b.subTarget
  exitCondition : a.exitCondition = b.exitCondition
  startedAt : a.startedAt = b.startedAt

theorem Block.Same.refl (block : Block) : block.Same block := ⟨rfl, rfl, rfl, rfl⟩

/-- An entry of `completed_loop_blocks`. -/
structure Finished where
  block : Block
  state : Text
  artifacts : List Text
  finishedAt : Time

/-- An entry of `execution_records`. -/
structure Execution where
  blockId : Text
  state : Text
  artifacts : List Text

def Finished.execution (record : Finished) : Execution :=
  ⟨record.block.blockId, record.state, record.artifacts⟩

structure Memory where
  taskId : Text
  subject : Text
  status : Text
  currentLoopBlock : Option Block
  completedLoopBlocks : List Finished
  nextLoopBlock : Option Json
  executionRecords : List Execution
  claims : List Json
  environment : Dict

def emptyMemory (taskId subject : Text) : Memory :=
  ⟨taskId, subject, "IN_PROGRESS", none, [], none, [], [], []⟩

/-- `load`: what is on disk is what `save` wrote. -/
def load (disk : Option Memory) (taskId subject : Text) : Except Exn Memory :=
  match disk with
  | none => .ok (emptyMemory taskId subject)
  | some memory =>
      if memory.taskId = taskId ∧ memory.subject = subject then .ok memory
      else .error (.value "task memory belongs to another task")

def startBlock (memory : Memory) (block : Block) : Memory :=
  { memory with currentLoopBlock := some block, nextLoopBlock := none }

def deliveredStates : List Text := ["DELIVERED", "TASK_COMPLETE"]

def finishBlock (memory : Memory) (state : Text) (artifacts : List Text) (next : Option Json)
    (now : Time) : Except Exn Memory :=
  match memory.currentLoopBlock with
  | none => .error (.value "cannot finish a Task Loop without a current block")
  | some current =>
      let record : Finished := ⟨current, state, artifacts, now⟩
      .ok { memory with
        completedLoopBlocks := memory.completedLoopBlocks ++ [record]
        executionRecords := memory.executionRecords ++ [record.execution]
        currentLoopBlock := none
        nextLoopBlock := next
        status := if next.isNone && deliveredStates.contains state then "COMPLETED" else memory.status }

/-- `memory["current_loop_block"]["routing"]["child_skills"] = children`. -/
def bindChildSkills (memory : Memory) (children : Json) : Except Exn Memory :=
  match memory.currentLoopBlock with
  | none => .error (.type "'NoneType' object is not subscriptable")
  | some current => .ok { memory with
      currentLoopBlock := some { current with routing := Dict.set current.routing "child_skills" children } }

/-- `record_claim` and `record_observed_issue`. -/
def recordClaim (memory : Memory) (entry : Json) (environment : Dict) : Memory :=
  { memory with claims := memory.claims ++ [entry], environment := environment }

/-! ## Processes -/

/-- A change of the memory that a process holds. -/
inductive Edit where
  | start (block : Block)
  | bindChildSkills (children : Json)
  | finish (state : Text) (artifacts : List Text) (next : Option Json) (now : Time)
  | recordClaim (entry : Json) (environment : Dict)

def Edit.apply (memory : Memory) : Edit → Except Exn Memory
  | .start block => .ok (startBlock memory block)
  | .bindChildSkills children => TaskMemory.bindChildSkills memory children
  | .finish state artifacts next now => finishBlock memory state artifacts next now
  | .recordClaim entry environment => .ok (TaskMemory.recordClaim memory entry environment)

inductive Action where
  | load (taskId subject : Text)
  | edit (edit : Edit)
  /-- The memory replaces the file at once, or not at all. -/
  | save (stored : Except Exn Unit)
  /-- The process stops. -/
  | stop

/-- The file, the memory of the process, and every block that was current when it was saved. -/
structure World where
  disk : Option Memory
  held : Option Memory
  saved : List Block

def World.initial : World := ⟨none, none, []⟩

/-- An exception ends the process. -/
def World.hold (world : World) (memory : Except Exn Memory) : World :=
  { world with held := memory.toOption }

def step (world : World) : Action → World
  | .load taskId subject => world.hold (load world.disk taskId subject)
  | .edit edit =>
      match world.held with
      | none => world
      | some memory => world.hold (edit.apply memory)
  | .save stored =>
      match world.held, stored with
      | some memory, .ok _ =>
          { world with disk := some memory, saved := world.saved ++ memory.currentLoopBlock.toList }
      | _, _ => { world with held := none }
  | .stop => { world with held := none }

def run (world : World) (actions : List Action) : World := actions.foldl step world

/-! ## The invariant -/

structure Truthful (saved : List Block) (memory : Memory) : Prop where
  delivered : memory.status = "COMPLETED" → memory.currentLoopBlock = none ∧ memory.nextLoopBlock = none ∧
    ∃ last, memory.completedLoopBlocks.getLast? = some last ∧ last.state ∈ deliveredStates
  accounted : ∀ block ∈ saved, (∃ current, memory.currentLoopBlock = some current ∧ current.Same block) ∨
    ∃ record ∈ memory.completedLoopBlocks, record.block.Same block
  recorded : memory.executionRecords = memory.completedLoopBlocks.map Finished.execution

/-- The memory on disk, and the one a process holds. -/
structure World.Truthful (world : World) : Prop where
  disk : ∀ memory, world.disk = some memory → TaskMemory.Truthful world.saved memory
  held : ∀ memory, world.held = some memory → TaskMemory.Truthful world.saved memory

/-- A start neither reopens a delivered task nor replaces a block that was saved as current. -/
def Clean (world : World) : Action → Prop
  | .edit (.start _) => ∀ memory, world.held = some memory → memory.status ≠ "COMPLETED" ∧
      ∀ current, memory.currentLoopBlock = some current → ∀ block ∈ world.saved, ¬ current.Same block
  | _ => True

def CleanRun (world : World) : List Action → Prop
  | [] => True
  | action :: rest => Clean world action ∧ CleanRun (step world action) rest

theorem emptyMemory_truthful (taskId subject : Text) : Truthful [] (emptyMemory taskId subject) where
  delivered status := by
    have open' : ("IN_PROGRESS" : Text) ≠ "COMPLETED" := by decide
    exact absurd status open'
  accounted := by simp
  recorded := rfl

theorem Truthful.start (truthful : Truthful saved memory) (open' : memory.status ≠ "COMPLETED")
    (unsaved : ∀ current, memory.currentLoopBlock = some current → ∀ block ∈ saved, ¬ current.Same block) :
    Truthful saved (startBlock memory block) where
  delivered status := absurd status open'
  accounted := by
    intro earlier member
    rcases truthful.accounted earlier member with ⟨current, isCurrent, same⟩ | finished
    · exact absurd same (unsaved current isCurrent earlier member)
    · exact .inr finished
  recorded := truthful.recorded

theorem Truthful.bindChildSkills (truthful : Truthful saved memory)
    (bound : bindChildSkills memory children = .ok after) : Truthful saved after := by
  cases current : memory.currentLoopBlock with
  | none => simp [TaskMemory.bindChildSkills, current] at bound
  | some block =>
    simp only [TaskMemory.bindChildSkills, current, Except.ok.injEq] at bound
    subst bound
    refine ⟨fun status => ?_, fun earlier member => ?_, truthful.recorded⟩
    · have idle := (truthful.delivered status).1
      rw [current] at idle
      contradiction
    · rcases truthful.accounted earlier member with ⟨found, isCurrent, same⟩ | finished
      · obtain rfl : block = found := Option.some.inj (current.symm.trans isCurrent)
        exact .inl ⟨_, rfl, same.blockId, same.subTarget, same.exitCondition, same.startedAt⟩
      · exact .inr finished

theorem Truthful.finish (truthful : Truthful saved memory)
    (finished : finishBlock memory state artifacts next now = .ok after) : Truthful saved after := by
  cases isCurrent : memory.currentLoopBlock with
  | none => simp [finishBlock, isCurrent] at finished
  | some current =>
    simp only [finishBlock, isCurrent, Except.ok.injEq] at finished
    subst finished
    constructor
    · intro status
      by_cases delivered : (next.isNone && deliveredStates.contains state) = true
      · simp only [Bool.and_eq_true, Option.isNone_iff_eq_none, List.contains_iff_mem] at delivered
        exact ⟨rfl, delivered.1, _, List.getLast?_concat, delivered.2⟩
      · have before : memory.status = "COMPLETED" := (if_neg delivered).symm.trans status
        have idle := (truthful.delivered before).1
        rw [isCurrent] at idle
        contradiction
    · intro earlier member
      right
      rcases truthful.accounted earlier member with ⟨found, found', same⟩ | ⟨record, here, same⟩
      · obtain rfl : current = found := Option.some.inj (isCurrent.symm.trans found')
        exact ⟨_, List.mem_append_right _ (List.mem_singleton.mpr rfl), same⟩
      · exact ⟨record, List.mem_append_left _ here, same⟩
    · simp [truthful.recorded]

theorem Truthful.edit {edit : Edit} (truthful : Truthful saved memory) (held : world.held = some memory)
    (same : world.saved = saved) (clean : Clean world (.edit edit)) (edited : edit.apply memory = .ok after) :
    Truthful saved after := by
  cases edit with
  | start block =>
    obtain ⟨open', unsaved⟩ := clean memory held
    rw [same] at unsaved
    obtain rfl := Except.ok.inj edited
    exact truthful.start open' unsaved
  | bindChildSkills children => exact truthful.bindChildSkills edited
  | finish state artifacts next now => exact truthful.finish edited
  | recordClaim entry environment =>
    obtain rfl := Except.ok.inj edited
    exact ⟨truthful.delivered, truthful.accounted, truthful.recorded⟩

theorem Truthful.save (truthful : Truthful saved memory) :
    Truthful (saved ++ memory.currentLoopBlock.toList) memory := by
  refine ⟨truthful.delivered, fun block member => ?_, truthful.recorded⟩
  rcases List.mem_append.mp member with earlier | current
  · exact truthful.accounted block earlier
  · exact .inl ⟨block, Option.mem_toList.mp current, .refl block⟩

/-- Before the first save, no block has been current on disk. -/
structure Consistent (world : World) : Prop where
  truthful : world.Truthful
  fresh : world.disk = none → world.saved = []

theorem initial_consistent : Consistent .initial where
  truthful := ⟨by simp [World.initial], by simp [World.initial]⟩
  fresh _ := rfl

theorem Consistent.loaded (consistent : Consistent world)
    (loaded : load world.disk taskId subject = .ok memory) : Truthful world.saved memory := by
  cases disk : world.disk with
  | none =>
    rw [disk] at loaded
    obtain rfl := Except.ok.inj loaded
    rw [consistent.fresh disk]
    exact emptyMemory_truthful taskId subject
  | some found =>
    simp only [disk, load] at loaded
    split at loaded
    · obtain rfl := Except.ok.inj loaded
      exact consistent.truthful.disk _ disk
    · contradiction

theorem Consistent.hold {memory : Except Exn Memory} (consistent : Consistent world)
    (held : ∀ after, memory = .ok after → Truthful world.saved after) : Consistent (world.hold memory) where
  truthful.disk := consistent.truthful.disk
  truthful.held := by
    intro after found
    cases memory with
    | error e => simp [World.hold, Except.toOption] at found
    | ok kept => exact held after (congrArg Except.ok (Option.some.inj found))
  fresh := consistent.fresh

theorem Consistent.dropped (consistent : Consistent world) : Consistent { world with held := none } where
  truthful := ⟨consistent.truthful.disk, by simp⟩
  fresh := consistent.fresh

theorem step_consistent (consistent : Consistent world) (clean : Clean world action) :
    Consistent (step world action) := by
  cases action with
  | load taskId subject => exact consistent.hold fun _ loaded => consistent.loaded loaded
  | edit edit =>
    cases held : world.held with
    | none => simpa only [step, held] using consistent
    | some memory =>
      simp only [step, held]
      exact consistent.hold fun _ edited => (consistent.truthful.held _ held).edit held rfl clean edited
  | save stored =>
    cases held : world.held with
    | none => simpa only [step, held] using consistent.dropped
    | some memory =>
      cases stored with
      | error e => simpa only [step, held] using consistent.dropped
      | ok _ =>
        simp only [step, held]
        have truthful := (consistent.truthful.held _ held).save
        refine ⟨⟨?_, ?_⟩, by simp⟩
        · rintro _ ⟨⟩
          exact truthful
        · rintro after found
          obtain rfl : memory = after := Option.some.inj found
          exact truthful
  | stop => exact consistent.dropped

theorem run_consistent (consistent : Consistent world) (clean : CleanRun world actions) :
    Consistent (run world actions) := by
  induction actions generalizing world with
  | nil => exact consistent
  | cons action rest ih => exact ih (step_consistent consistent clean.1) clean.2

theorem CleanRun.take (clean : CleanRun world (before ++ after)) : CleanRun world before := by
  induction before generalizing world with
  | nil => trivial
  | cons action rest ih => exact ⟨clean.1, ih clean.2⟩

/-- Every state of a run whose starts are clean tells the truth, wherever processes stop. -/
theorem memory_truthful (actions : List Action) (clean : CleanRun .initial actions) :
    ∀ reached, reached <+: actions → (run .initial reached).Truthful := by
  rintro reached ⟨rest, rfl⟩
  exact (run_consistent initial_consistent clean.take).truthful

/-- A delivery, and the next walk of the delivered task. -/
def rewalk : List Action :=
  let delivery : Block := ⟨"delivery:1", "model-adaptation-delivery", .obj [], [], 0⟩
  let scan : Block := ⟨"model_scan:2", "model_scan", .obj [], [], 2⟩
  [.load "graph" "Qwen3-8B", .edit (.start delivery), .edit (.finish "DELIVERED" [] none 1), .save (.ok ()),
    .stop, .load "graph" "Qwen3-8B", .edit (.start scan), .save (.ok ())]

/-- A delivered task that is walked again is completed and has a current block. -/
theorem rewalk_untruthful : ¬ ∀ actions reached : List Action, reached <+: actions →
    (run .initial reached).Truthful := by
  intro truthful
  have idle := ((truthful rewalk rewalk List.prefix_rfl).disk _ rfl).delivered rfl
  exact absurd idle.1 (Option.some_ne_none _)

def scanBlock : Block := ⟨"model_scan:1", "model_scan", .obj [], [], 0⟩

/-- A block that is started, saved and finished across a restart. -/
theorem memory_truthful_restarted : (run .initial [.load "graph" "Qwen3-8B",
    .edit (.start scanBlock), .save (.ok ()), .stop, .load "graph" "Qwen3-8B",
    .edit (.finish "SCAN_READY" [] none 1), .save (.ok ())]).Truthful := by
  refine memory_truthful _ ?_ _ List.prefix_rfl
  refine ⟨trivial, ?_, trivial, trivial, trivial, trivial, trivial, trivial⟩
  rintro memory ⟨⟩
  have open' : ("IN_PROGRESS" : Text) ≠ "COMPLETED" := by decide
  exact ⟨open', by simp [emptyMemory]⟩

/-! ## Graph walks -/

/-- `start_block`, `finish_block` and `save` in one go. -/
structure Recording where
  block : Block
  state : Text
  artifacts : List Text
  target : Json
  finishedAt : Time

def Recording.finish (r : Recording) : Action :=
  .edit (.finish r.state r.artifacts (some (.obj [("sub_target", r.target)])) r.finishedAt)

def Recording.actions (r : Recording) : List Action := [.edit (.start r.block), r.finish, .save (.ok ())]

/-- What one visit of a node does to the memory. -/
inductive Round where
  | reused (fact : Recording)
  /-- A node runs; a dispatch of shims, a recovery and an observed issue may follow. -/
  | executed (node : Recording) (children : Option Json) (followUps : List Recording)
      (issue : Option (Json × Dict))

def Round.actions : Round → List Action
  | .reused fact => fact.actions
  | .executed node children followUps issue =>
      [.edit (.start node.block), .save (.ok ())] ++
        (children.toList.map fun children => .edit (.bindChildSkills children)) ++
        [node.finish, .save (.ok ())] ++ followUps.flatMap Recording.actions ++
        issue.toList.flatMap fun issue => [.edit (.recordClaim issue.1 issue.2), .save (.ok ())]

/-- The rounds of a walk, and its delivery step. -/
structure Walk where
  taskId : Text
  subject : Text
  rounds : List Round
  delivery : Option (Block × List Text × Time)

def Walk.actions (walk : Walk) : List Action :=
  [.load walk.taskId walk.subject] ++ walk.rounds.flatMap Round.actions ++
    walk.delivery.toList.flatMap fun (block, artifacts, now) =>
      [.load walk.taskId walk.subject, .edit (.start block), .edit (.finish "DELIVERED" artifacts none now),
        .save (.ok ())]

/-- Neither delivered nor stopped inside a block. -/
def Memory.Calm (memory : Memory) : Prop := memory.status ≠ "COMPLETED" ∧ memory.currentLoopBlock = none

/-- A world between two rounds. -/
structure Settled (world : World) : Prop where
  disk : ∀ memory, world.disk = some memory → memory.Calm
  held : ∀ memory, world.held = some memory → memory.Calm

theorem run_append : run world (before ++ after) = run (run world before) after := List.foldl_append

theorem cleanRun_append :
    CleanRun world (before ++ after) ↔ CleanRun world before ∧ CleanRun (run world before) after := by
  induction before generalizing world with
  | nil => simp [CleanRun, run]
  | cons action rest ih => simp only [List.cons_append, CleanRun, ih, and_assoc]; rfl

/-- The steps keep a settled world settled, and start only calm memories. -/
def Settles (actions : List Action) : Prop :=
  ∀ world, Settled world → CleanRun world actions ∧ Settled (run world actions)

theorem Settles.append (first : Settles before) (second : Settles after) : Settles (before ++ after) := by
  intro world settled
  obtain ⟨clean, middle⟩ := first world settled
  obtain ⟨clean', final⟩ := second _ middle
  rw [cleanRun_append, run_append]
  exact ⟨⟨clean, clean'⟩, final⟩

theorem Settles.flatMap {actions : α → List Action} (each : ∀ item, Settles (actions item)) (items : List α) :
    Settles (items.flatMap actions) := by
  induction items with
  | nil => exact fun world settled => ⟨trivial, settled⟩
  | cons item rest ih => exact (each item).append ih

theorem Memory.Calm.clean (calm : Memory.Calm memory) (held : world.held = some memory) (block : Block) :
    Clean world (.edit (.start block)) := by
  intro found isHeld
  obtain rfl := Option.some.inj (held.symm.trans isHeld)
  exact ⟨calm.1, by simp [calm.2]⟩

theorem Recording.settles (r : Recording) : Settles r.actions := by
  rintro ⟨disk, held, saved⟩ settled
  cases held with
  | none => exact ⟨⟨nofun, trivial, trivial, trivial⟩, settled.disk, nofun⟩
  | some memory =>
    have calm := settled.held memory rfl
    refine ⟨⟨calm.clean rfl _, trivial, trivial, trivial⟩, ?_, ?_⟩
    all_goals
      rintro _ ⟨⟩
      exact ⟨calm.1, rfl⟩

theorem issue_settles (entry : Json) (environment : Dict) :
    Settles [.edit (.recordClaim entry environment), .save (.ok ())] := by
  rintro ⟨disk, held, saved⟩ settled
  cases held with
  | none => exact ⟨⟨trivial, trivial, trivial⟩, settled.disk, nofun⟩
  | some memory =>
    have calm := settled.held memory rfl
    refine ⟨⟨trivial, trivial, trivial⟩, ?_, ?_⟩
    all_goals
      rintro _ ⟨⟩
      exact calm

theorem execution_settles (r : Recording) (children : Option Json) :
    Settles ([.edit (.start r.block), .save (.ok ())] ++
      (children.toList.map fun children => .edit (.bindChildSkills children)) ++ [r.finish, .save (.ok ())]) := by
  rintro ⟨disk, held, saved⟩ settled
  cases held with
  | none =>
    cases children with
    | none => exact ⟨⟨nofun, trivial, trivial, trivial, trivial⟩, settled.disk, nofun⟩
    | some children => exact ⟨⟨nofun, trivial, trivial, trivial, trivial, trivial⟩, settled.disk, nofun⟩
  | some memory =>
    have calm := settled.held memory rfl
    cases children with
    | none =>
      refine ⟨⟨calm.clean rfl _, trivial, trivial, trivial, trivial⟩, ?_, ?_⟩
      all_goals
        rintro _ ⟨⟩
        exact ⟨calm.1, rfl⟩
    | some children =>
      refine ⟨⟨calm.clean rfl _, trivial, trivial, trivial, trivial, trivial⟩, ?_, ?_⟩
      all_goals
        rintro _ ⟨⟩
        exact ⟨calm.1, rfl⟩

theorem Round.settles (round : Round) : Settles round.actions := by
  cases round with
  | reused fact => exact fact.settles
  | executed node children followUps issue =>
    apply Settles.append
    · exact (execution_settles node children).append (.flatMap Recording.settles followUps)
    · exact .flatMap (fun issue => issue_settles issue.1 issue.2) issue.toList

theorem load_settles (taskId subject : Text) : Settles [.load taskId subject] := by
  intro world settled
  refine ⟨⟨trivial, trivial⟩, settled.disk, ?_⟩
  intro memory held
  cases loaded : load world.disk taskId subject with
  | error e => simp [run, step, World.hold, loaded, Except.toOption] at held
  | ok found =>
    obtain rfl : found = memory := by simpa [run, step, World.hold, loaded, Except.toOption] using held
    cases disk : world.disk with
    | none =>
      rw [disk] at loaded
      obtain rfl := Except.ok.inj loaded
      have open' : ("IN_PROGRESS" : Text) ≠ "COMPLETED" := by decide
      exact ⟨open', rfl⟩
    | some kept =>
      simp only [disk, load] at loaded
      split at loaded
      · exact Except.ok.inj loaded ▸ settled.disk kept disk
      · contradiction

/-- A walk starts no block wrongly if it begins on a calm memory, wherever it stops. -/
theorem Walk.clean (walk : Walk) (settled : Settled world) {steps : List Action}
    (reached : steps <+: walk.actions) : CleanRun world steps := by
  obtain ⟨rest, whole⟩ := reached
  have rounds : Settles ([.load walk.taskId walk.subject] ++ walk.rounds.flatMap Round.actions) :=
    (load_settles walk.taskId walk.subject).append (.flatMap Round.settles walk.rounds)
  obtain ⟨first, middle⟩ := rounds world settled
  have all : CleanRun world walk.actions := by
    rw [Walk.actions, cleanRun_append]
    refine ⟨first, ?_⟩
    cases walk.delivery with
    | none => trivial
    | some last =>
      obtain ⟨block, artifacts, now⟩ := last
      obtain ⟨-, loaded⟩ := load_settles walk.taskId walk.subject _ middle
      refine ⟨trivial, ?_, trivial, trivial, trivial⟩
      intro memory held
      exact (loaded.held memory held).clean held block memory held
  rw [← whole] at all
  exact all.take

end InferForge.TaskMemory

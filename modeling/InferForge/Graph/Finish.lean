import InferForge.Effect.Preserves
import InferForge.Bridge.Receipt
import InferForge.Graph.Reuse
import InferForge.Graph.TaskMemory

/-! The end of a scheduled walk: the facts it hands over to the delivery are those that are
current, with everything they were produced from, and a placed patch keeps the plan from being one. -/
namespace InferForge.Graph
open Py Effect Journal Sched

section Loop
variable (host : Host) (disk : Disk) (registry : Registry) (subject : Text) (environment : Environment)
  (context : Dict) (facts : List Journal.Fact)

/-- The directory of a node's fact, if it is handed over. -/
def currentFact (spec : NodeSpec) : Except Exn (Option Path) := do
  match ← inputFact host disk registry subject environment context facts spec.produces true with
  | none => return none
  | some fact =>
      if ← reusableInputsCurrent host disk registry subject environment context facts false spec fact then
        return some fact.artifacts
      else return none

/-- The loop of `finish_scheduled_graph`. -/
def currentFacts : List (Text × NodeSpec) → Except Exn Bridge.Facts
  | [] => .ok []
  | node :: rest => do
      let found ← currentFact host disk registry subject environment context facts node.2
      let later ← currentFacts rest
      return (found.map fun root => (node.2.produces, root)).toList ++ later

/-- How a scheduled walk ends: with exit code 2, or with a delivery in the task memory. -/
inductive Closing where
  | blocked (message : Text)
  | recorded (publication : Bridge.Publication) (memory : TaskMemory.Memory)

/-- The task memory on disk, the readings of the clock, and what writing the memory answers. -/
structure LoopState where
  stored : Option TaskMemory.Memory
  taskId : Text
  started : Time
  finished : Time
  save : TaskMemory.Memory → Except Exn Unit

/-- `start_block`, `finish_block` and `save` of a delivery. -/
def LoopState.deliver (loop : LoopState) (subject : Text) (mode : Json) (publication : Bridge.Publication) :
    Except Exn TaskMemory.Memory := do
  let memory ← TaskMemory.load loop.stored loop.taskId subject
  let started := TaskMemory.startBlock memory {
    blockId := "delivery:" ++ Text.ofNat (memory.completedLoopBlocks.length + 1)
    subTarget := "model-adaptation-delivery"
    exitCondition := .obj [("delivery_state", .str publication.receipt.verdict)]
    routing := [("mode", .str "scheduler_delivery"), ("evidence_mode", mode)]
    startedAt := loop.started }
  let memory ← TaskMemory.finishBlock started "DELIVERED"
    [publication.receiptPath.toText, publication.manifestPath.toText] none loop.finished
  loop.save memory
  return memory

def finishScheduledGraph (course : Bridge.Course) (walk : Path → Except Exn (List Path)) (stores : Bridge.Stores)
    (bridge : Bridge) (loop : LoopState) : Sched Closing := do
  let given ← Prog.lift (currentFacts host disk registry subject environment context facts nodes)
  let finalized : Sched (Except Text Bridge.Publication) := do
    return .ok (← Bridge.finalize host course walk stores bridge given)
  match ← Prog.handle finalized (fun e => e.isValueError || e.kind == .osError) (fun e => return .error (e.text host)) with
  | .error message => return .blocked message
  | .ok publication =>
      let run ← bridge.run
      let memory ← Prog.lift (loop.deliver subject run.evidenceMode publication)
      return .recorded publication memory

end Loop

/-! ## The facts handed over -/

section Handed
variable {host : Host} {disk : Disk} {registry : Registry} {subject : Text} {environment : Environment}
  {context : Dict} {facts : List Journal.Fact} {given : Bridge.Facts}

/-- Each node is the only one to produce its kind. -/
theorem nodes_produces : (nodes.map fun node => node.2.produces).Nodup := by
  decide +kernel

theorem producer?_mem : producer? kind = some (name, spec) ↔ (name, spec) ∈ nodes ∧ spec.produces = kind := by
  constructor
  · intro found
    exact ⟨List.mem_of_find?_eq_some found, producer?_produces found⟩
  · rintro ⟨member, rfl⟩
    cases found : producer? spec.produces with
    | none => exact absurd member fun member => by simpa using List.find?_eq_none.mp found _ member
    | some other =>
      obtain ⟨first, other⟩ := other
      have same := producer?_produces found
      rw [List.inj_on_of_nodup_map nodes_produces (List.mem_of_find?_eq_some found) member same]

theorem mem_currentFacts {rest : List (Text × NodeSpec)}
    (ok : currentFacts host disk registry subject environment context facts rest = .ok given) :
    (kind, root) ∈ given ↔ ∃ name spec, (name, spec) ∈ rest ∧ spec.produces = kind ∧
      currentFact host disk registry subject environment context facts spec = .ok (some root) := by
  induction rest generalizing given with
  | nil =>
    cases ok
    simp
  | cons node rest ih =>
    simp only [currentFacts, bind_ok, pure_ok] at ok
    obtain ⟨found, here, later, ok, rfl⟩ := ok
    rw [List.mem_append, ih ok]
    constructor
    · rintro (own | ⟨name, spec, member, rest⟩)
      · obtain ⟨root, rfl, same⟩ : ∃ root', found = some root' ∧ (node.2.produces, root') = (kind, root) := by
          simpa using own
        obtain ⟨rfl, rfl⟩ := Prod.mk.inj same
        exact ⟨node.1, node.2, List.mem_cons_self, rfl, here⟩
      · exact ⟨name, spec, List.mem_cons_of_mem _ member, rest⟩
    · rintro ⟨name, spec, member, rfl, answer⟩
      obtain rfl | member := List.mem_cons.mp member
      · obtain rfl := Except.ok.inj (here.symm.trans answer)
        exact .inl (by simp)
      · exact .inr ⟨name, spec, member, rfl, answer⟩

theorem currentFacts_kinds {rest : List (Text × NodeSpec)}
    (ok : currentFacts host disk registry subject environment context facts rest = .ok given) :
    (given.map Prod.fst).Sublist (rest.map fun node => node.2.produces) := by
  induction rest generalizing given with
  | nil =>
    cases ok
    exact .slnil
  | cons node rest ih =>
    simp only [currentFacts, bind_ok, pure_ok] at ok
    obtain ⟨found, -, later, ok, rfl⟩ := ok
    cases found with
    | none => exact (ih ok).cons _
    | some root => exact (ih ok).cons_cons _

theorem currentFact_some : currentFact host disk registry subject environment context facts spec = .ok (some root) ↔
    ∃ fact, inputFact host disk registry subject environment context facts spec.produces true = .ok (some fact) ∧
      reusableInputsCurrent host disk registry subject environment context facts false spec fact = .ok true ∧
      fact.artifacts = root := by
  simp only [currentFact, bind_ok]
  constructor
  · rintro ⟨found, verified, answer⟩
    cases found with
    | none => cases pure_ok.mp answer
    | some fact =>
      obtain ⟨current, checked, answer⟩ := bind_ok.mp answer
      cases current with
      | false => cases pure_ok.mp answer
      | true => exact ⟨fact, verified, checked, Option.some.inj (pure_ok.mp answer)⟩
  · rintro ⟨fact, verified, checked, rfl⟩
    exact ⟨some fact, verified, bind_ok.mpr ⟨true, checked, rfl⟩⟩

/-- A kind is handed over with the directory of its verified fact, exactly where that is current. -/
theorem root?_currentFacts
    (ok : currentFacts host disk registry subject environment context facts nodes = .ok given) :
    given.root? kind = some root ↔ ∃ name spec fact, producer? kind = some (name, spec) ∧
      inputFact host disk registry subject environment context facts kind true = .ok (some fact) ∧
      Current host disk registry subject environment context facts false spec fact ∧ fact.artifacts = root := by
  rw [Bridge.Facts.root?, lookup_mem ((currentFacts_kinds ok).nodup nodes_produces), mem_currentFacts ok]
  constructor
  · rintro ⟨name, spec, member, rfl, answer⟩
    obtain ⟨fact, verified, checked, rfl⟩ := currentFact_some.mp answer
    exact ⟨name, spec, fact, producer?_mem.mpr ⟨member, rfl⟩, verified, current_of_inputsCurrent checked, rfl⟩
  · rintro ⟨name, spec, fact, produced, verified, current, rfl⟩
    obtain ⟨member, rfl⟩ := producer?_mem.mp produced
    have checked := (reusableInputsCurrent_true produced (inputFact_latest verified)).mpr current
    exact ⟨name, spec, member, rfl, currentFact_some.mpr ⟨fact, verified, checked, rfl⟩⟩

variable (host disk registry subject environment context facts given) in
/-- Of a kind handed over: its directory is that of its verified fact, and every kind that fact was made from
is handed over with the directory that was verified, or is optional and absent. -/
def HandedOver (kind : Text) : Prop :=
  ∃ name spec fact, producer? kind = some (name, spec) ∧
    inputFact host disk registry subject environment context facts kind true = .ok (some fact) ∧
    given.root? kind = some fact.artifacts ∧
    ∀ input ∈ inputKinds spec,
      (∃ source, inputFact host disk registry subject environment context facts input true = .ok (some source) ∧
        given.root? input = some source.artifacts) ∨
      (input ∉ requiredKinds spec ∧
        inputFact host disk registry subject environment context facts input false = .ok none)

theorem handedOver (ok : currentFacts host disk registry subject environment context facts nodes = .ok given)
    (handed : (given.root? kind).isSome) :
    HandedOver host disk registry subject environment context facts given kind := by
  obtain ⟨root, handed⟩ := Option.isSome_iff_exists.mp handed
  obtain ⟨name, spec, fact, produced, verified, current, rfl⟩ := (root?_currentFacts ok).mp handed
  refine ⟨name, spec, fact, produced, verified, handed, fun input member => ?_⟩
  cases current with
  | intro indexed asked absent older sources =>
    obtain ⟨found, verified⟩ := asked input member true
    cases found with
    | none => exact .inr (absent input member verified)
    | some source =>
      obtain ⟨name, producer, feeds⟩ := inputFact_produced verified
      have current := sources input member source name producer verified feeds
      exact .inl ⟨source, verified, (root?_currentFacts ok).mpr ⟨name, producer, source, feeds, verified, current, rfl⟩⟩

/-- A service proof needs the plan. -/
theorem deploymentProof_requires (produced : producer? "DeploymentProof" = some (name, spec)) :
    Text.ofString "DeploymentPlan" ∈ requiredKinds spec := by
  have node : (producer? "DeploymentProof").all fun node => Text.ofString "DeploymentPlan" ∈ requiredKinds node.2 := by
    decide
  simpa [produced] using node

/-- With a placed patch, neither the plan nor the service proof is handed over. -/
theorem patched_withheld (ok : currentFacts host disk registry subject environment context facts nodes = .ok given)
    (raw : inputFact host disk registry subject environment context facts "PlacedPatch" false = .ok (some patch)) :
    given.root? "DeploymentProof" = none ∧ given.root? "DeploymentPlan" = none := by
  constructor <;> rw [Option.eq_none_iff_forall_ne_some] <;> intro root handed
  · obtain ⟨name, spec, fact, produced, -, current, -⟩ := (root?_currentFacts ok).mp handed
    exact (current.unpatched raw).1 (deploymentProof_requires produced)
  · obtain ⟨name, spec, fact, produced, -, current, -⟩ := (root?_currentFacts ok).mp handed
    exact (current.unpatched raw).2 name produced

end Handed

/-! ## The end of a walk -/

theorem LoopState.deliver_ok {loop : LoopState} (ok : loop.deliver subject mode publication = .ok memory) :
    (memory.status = "COMPLETED" ∧ memory.currentLoopBlock = none) ∧
      ∃ record, memory.completedLoopBlocks.getLast? = some record ∧ record.state = "DELIVERED" ∧
        record.artifacts = [publication.receiptPath.toText, publication.manifestPath.toText] := by
  have closing : Text.ofString "DELIVERED" ∈ TaskMemory.deliveredStates := by decide
  simp only [LoopState.deliver, bind_ok, pure_ok] at ok
  obtain ⟨before, -, finished, closed, -, -, rfl⟩ := ok
  simp only [TaskMemory.finishBlock, TaskMemory.startBlock, Except.ok.injEq] at closed
  subst closed
  exact ⟨⟨by simp [closing], rfl⟩, _, List.getLast?_concat, rfl, rfl⟩

section Finish
variable (host : Host) (disk : Disk) (registry : Registry) (subject : Text) (environment : Environment)
  (context : Dict) (facts : List Journal.Fact) (course : Bridge.Course) (walk : Path → Except Exn (List Path))
  (stores : Bridge.Stores) (bridge : Bridge) (loop : LoopState)

/-- What a recorded delivery says: of the scheduler, of the evidence, and of the task memory. -/
structure Recorded (world after : World) (publication : Bridge.Publication) (memory : TaskMemory.Memory) : Prop where
  delivered : ∃ given, currentFacts host disk registry subject environment context facts nodes = .ok given ∧
    (∃ run, Bridge.Delivered host course stores bridge given world after run publication) ∧
    ∀ entry ∈ Bridge.factStatus, HandedOver host disk registry subject environment context facts given entry.1
  completed : memory.status = "COMPLETED" ∧ memory.currentLoopBlock = none
  last : ∃ record, memory.completedLoopBlocks.getLast? = some record ∧ record.state = "DELIVERED" ∧
    record.artifacts = [publication.receiptPath.toText, publication.manifestPath.toText]

/-- A scheduled walk is blocked, or its delivery is published with every kind of fact and recorded. -/
theorem finishScheduledGraph_spec (world : World) :
    Prog.wlp (finishScheduledGraph host disk registry subject environment context facts course walk stores bridge loop)
      (fun ending after => (∃ message, ending = .blocked message) ∨
        ∃ given publication memory run mode, ending = .recorded publication memory ∧
          currentFacts host disk registry subject environment context facts nodes = .ok given ∧
          Bridge.Delivered host course stores bridge given world after run publication ∧
          (∀ entry ∈ Bridge.factStatus, (given.root? entry.1).isSome) ∧
          loop.deliver subject mode publication = .ok memory) world := by
  rw [Prog.wlp, finishScheduledGraph, Prog.wp_bind]
  refine wlp_lift fun given handed => ?_
  have finalized : Prog.wlp (Bridge.finalize host course walk stores bridge given)
      (fun publication after => (∃ run, Bridge.Delivered host course stores bridge given world after run publication) ∧
        ∀ entry ∈ Bridge.factStatus, (given.root? entry.1).isSome) world :=
    Bridge.finalize_of_deliver
      ((Bridge.deliver_spec.and Bridge.deliver_complete).mono (fun _ _ _ both => both) fun _ _ _ _ => trivial)
  simp only [Prog.wp_bind, Prog.wp_handle, Prog.wp_pure]
  refine finalized.mono (fun publication after _ delivered => ?_) fun e after _ _ => ?_
  · obtain ⟨⟨run, delivered⟩, complete⟩ := delivered
    refine wlp_requireRun fun run' _ => ?_
    refine wlp_lift fun memory recorded => ?_
    exact .inr ⟨given, publication, memory, run, _, rfl, handed, delivered, complete, recorded⟩
  · split
    · exact .inl ⟨_, rfl⟩
    · trivial

/-- A walk that ends with a delivery has handed over every kind of fact, each with what it was made from. -/
theorem finishScheduledGraph_recorded (world : World) :
    Prog.wlp (finishScheduledGraph host disk registry subject environment context facts course walk stores bridge loop)
      (fun ending after => ∀ publication memory, ending = .recorded publication memory →
        Recorded host disk registry subject environment context facts course stores bridge world after publication memory)
      world := by
  refine (finishScheduledGraph_spec host disk registry subject environment context facts course walk stores bridge loop
    world).mono (fun ending after _ ended publication memory recorded => ?_) fun _ _ _ _ => trivial
  subst recorded
  obtain ⟨message, impossible⟩ | ⟨given, published, kept, run, mode, same, handed, delivered, complete, written⟩ := ended
  · cases impossible
  · cases same
    obtain ⟨completed, last⟩ := LoopState.deliver_ok written
    exact ⟨⟨given, handed, ⟨run, delivered⟩, fun entry member => handedOver handed (complete entry member)⟩, completed, last⟩

/-- Once a patch is placed for the subject, no scheduled walk ends with a delivery. -/
theorem finishScheduledGraph_patched (world : World) (patch : Journal.Fact)
    (placed : inputFact host disk registry subject environment context facts "PlacedPatch" false = .ok (some patch)) :
    Prog.wlp (finishScheduledGraph host disk registry subject environment context facts course walk stores bridge loop)
      (fun ending _ => ∃ message, ending = .blocked message) world := by
  refine (finishScheduledGraph_spec host disk registry subject environment context facts course walk stores bridge loop
    world).mono (fun ending after _ ended => ?_) fun _ _ _ _ => trivial
  obtain blocked | ⟨given, -, -, -, -, -, handed, -, complete, -⟩ := ended
  · exact blocked
  · have served := complete ("DeploymentProof", "status.json") (by decide)
    rw [(patched_withheld handed placed).1] at served
    cases served

/-! A placed patch, and a walk that ends after it. -/

def placedPatch : Journal.Fact :=
  ⟨"PlacedPatch", "model", "PATCH_PLACED", .ofText "/runs/patch", reuseEnvironment, none⟩

def placedHost : Host := .reading [([1], .obj [("state", .str "PATCH_PLACED")])]

def placedDisk : Disk := .holding [(Text.ofString "/runs/patch/status.json", [1])]

def placedLoop : LoopState := ⟨none, "graph", 0, 0, fun _ => .ok ()⟩

theorem finishScheduledGraph_patched_placed :
    Prog.wlp (finishScheduledGraph placedHost placedDisk ⟨fun _ _ => .ok none⟩ "model" reuseEnvironment []
        [placedPatch] ⟨placedDisk, placedDisk, placedDisk⟩ (fun _ => .ok []) (fun _ => .ok .empty)
        Bridge.sample placedLoop)
      (fun ending _ => ∃ message, ending = .blocked message) .empty :=
  finishScheduledGraph_patched placedHost placedDisk ⟨fun _ _ => .ok none⟩ "model" reuseEnvironment []
    [placedPatch] ⟨placedDisk, placedDisk, placedDisk⟩ (fun _ => .ok []) (fun _ => .ok .empty)
    Bridge.sample placedLoop .empty placedPatch rfl

end Finish
end InferForge.Graph

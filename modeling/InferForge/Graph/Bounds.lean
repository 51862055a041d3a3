import InferForge.Graph.Walk
import Mathlib.Algebra.BigOperators.Group.Finset.Piecewise
import Mathlib.Algebra.Group.Action.Defs
import Mathlib.Algebra.Order.BigOperators.Group.Finset

/-! The walk stops: its iterations are counted by the visits of all nodes, which the guard bounds. -/
namespace InferForge.Graph
open Py Effect

/-- How often a node was executed, reused or planned. -/
def State.worked (s : State) (id : Text) : Nat := (s.log.filter fun entry => entry.1 = id).length

/-- What holds whenever the walk comes back to the head of its loop. -/
structure Paced (workflow : Workflow) (s : State) : Prop where
  known : ∀ id ∈ s.current, id ∈ workflow.ids
  guarded : ∀ id, s.visits id ≤ 3
  logged : ∀ id, s.worked id ≤ s.visits id
  counted : s.iterations = ∑ id ∈ workflow.ids.toFinset, s.visits id

namespace Paced
variable {workflow : Workflow} {s : State}

/-- Three visits for every node. -/
theorem iterations_le (paced : Paced workflow s) : s.iterations ≤ 3 * workflow.nodes.length := by
  rw [paced.counted]
  calc ∑ id ∈ workflow.ids.toFinset, s.visits id
      ≤ workflow.ids.toFinset.card • 3 := Finset.sum_le_card_nsmul _ _ 3 fun id _ => paced.guarded id
    _ = 3 * workflow.nodes.length := by
        rw [Workflow.ids, List.toFinset_card_of_nodup workflow.unique, List.length_map, smul_eq_mul,
          Nat.mul_comm]

theorem begin (begun : begin workflow args = .ok s) : Paced workflow s := by
  have fresh (current : Option Text) (known : ∀ id ∈ current, id ∈ workflow.ids) :
      Paced workflow ⟨current, fun _ => 0, [], 0⟩ :=
    ⟨known, fun _ => Nat.zero_le 3, fun _ => le_rfl, Finset.sum_const_zero.symm⟩
  unfold Graph.begin at begun
  split at begun
  · obtain rfl := Except.ok.inj begun
    exact fresh _ fun id first => List.mem_of_mem_head? first
  · split at begun
    · next listed =>
      obtain rfl := Except.ok.inj begun
      apply fresh
      rintro id ⟨⟩
      exact listed
    · cases begun

end Paced

/-- A target that is followed is a node. -/
theorem Workflow.target_mem {workflow : Workflow} {id : Text}
    (ok : workflow.target value = .ok (some id)) :
    id ∈ workflow.ids := by
  unfold Workflow.target at ok
  split at ok
  · next name =>
    have found := Except.ok.inj ok
    split at found
    · next listed => exact Option.some.inj found ▸ listed
    · cases found
  · cases ok
  · cases ok
  · cases ok

section Targets
variable {workflow : Workflow} {args : Args} {current : Text} {node : Dict} {round : Round}

/-- Whatever comes next is a node. -/
def Leads (workflow : Workflow) (next : Next) : Prop := ∀ id, next = .ok (some id) → id ∈ workflow.ids

theorem call_ok {result : Except GraphFault α} : call result = .ok a ↔ result = .ok a := by
  cases result with
  | ok a' => simp [call, Except.mapError]
  | error fault => simp [call, Except.mapError]

theorem Leads.error (ending : Ending) : Leads workflow (.error ending) := fun _ ok => nomatch ok

theorem Leads.target (value : Json) : Leads workflow (call (workflow.target value)) :=
  fun _ ok => Workflow.target_mem (call_ok.mp ok)

theorem Leads.bind {x : Except Ending α} {f : α → Next} (rest : ∀ a, Leads workflow (f a)) :
    Leads workflow (x >>= f) := by
  intro id ok
  obtain ⟨a, _, ok⟩ := bind_ok.mp ok
  exact rest a id ok

theorem Leads.finish (delivery : Delivery) : Leads workflow delivery.finish := by
  apply Leads.bind
  intro _
  split
  · apply Leads.bind
    intro _
    split <;> exact .error _
  · exact .bind fun _ => .error _

theorem followReused_leads (value : Json) : Leads workflow (followReused workflow args round value) := by
  unfold followReused
  split
  · exact .finish _
  · exact .target value

theorem followPassed_leads (value : Json) : Leads workflow (followPassed workflow args round value) := by
  intro id ok
  obtain ⟨found, here, ok⟩ := bind_ok.mp ok
  cases found with
  | some id' =>
    obtain rfl := Option.some.inj (Except.ok.inj ok)
    exact Leads.target value _ here
  | none =>
    dsimp only at ok
    split at ok
    · exact Leads.finish _ id ok
    · cases ok

theorem visit_leads : Leads workflow (visit workflow args current node round).2 := by
  have onward : Leads workflow (do
      stopAtUntil args current
      followPassed workflow args round (onSuccess node)) := .bind fun _ => followPassed_leads _
  unfold visit
  cases call round.taskType with
  | error ending => exact .error ending
  | ok taskType =>
    cases taskType with
    | none => exact .error _
    | some taskType =>
      dsimp only
      cases round.skill with
      | error fault =>
        dsimp only
        split <;> exact .error _
      | ok =>
        dsimp only
        cases nodes.lookup taskType with
        | none => exact .error _
        | some spec =>
          dsimp only
          cases priorFact args round spec with
          | error ending => exact .error ending
          | ok prior =>
            dsimp only
            split
            · exact .bind fun _ => .bind fun _ => followReused_leads _
            · cases round.plan with
              | error fault =>
                dsimp only
                split <;> exact .error _
              | ok =>
                dsimp only
                split
                · cases executeNode args round spec with
                  | error ending => exact .error ending
                  | ok work =>
                    cases work with
                    | failed => exact .target _
                    | planned | reused | passed | recovered | stopped => exact .bind fun _ => onward
                · exact onward

end Targets

section Steps
variable {workflow : Workflow} {args : Args} {round : Round} {current : Text} {s t : State}

/-- The state after one more iteration, with another visit of `current` and the work done there. -/
def State.visited (s : State) (current : Text) (work : Option Work) : State where
  current := s.current
  visits := Function.update s.visits current (s.visits current + 1)
  log := (work.map fun work => (current, work)).toList ++ s.log
  iterations := s.iterations + 1

/-- What one iteration can do. -/
inductive Iterated (workflow : Workflow) (args : Args) (round : Round) (current : Text) (s : State) :
    State × Option Ending → Prop where
  | refused (visits : Text → Nat) (reason : Text) :
      Iterated workflow args round current s
        ({ s with visits, iterations := s.iterations + 1 }, some (.leave reason))
  | ended {ending : Ending} (node : Dict) (guard : s.visits current < 3)
      (seen : visit workflow args current node round = (work, .error ending)) :
      Iterated workflow args round current s (s.visited current work, some ending)
  | moved {target : Option Text} (node : Dict) (guard : s.visits current < 3)
      (seen : visit workflow args current node round = (work, .ok target)) :
      Iterated workflow args round current s
        ({ s.visited current work with current := target }, none)

theorem iterate_cases : Iterated workflow args round current s (iterate workflow args round current s) := by
  unfold iterate
  dsimp only
  split
  · exact .refused _ _
  · split
    · exact .refused _ _
    · next unguarded =>
      rw [Function.update_self] at unguarded
      generalize seen : visit workflow args current ((workflow.byId current).getD []) round = outcome
      obtain ⟨work, next⟩ := outcome
      cases next with
      | error ending => exact .ended _ (by omega) seen
      | ok target => exact .moved _ (by omega) seen

theorem State.worked_visited (s : State) (current : Text) (work : Option Work) (id : Text) :
    (s.visited current work).worked id ≤ s.worked id + if id = current then 1 else 0 := by
  unfold State.worked State.visited
  rw [List.filter_append, List.length_append, Nat.add_comm]
  cases work with
  | none => simp
  | some work =>
    by_cases same : id = current
    · subst same
      simp
    · simp [same, Ne.symm same]

/-- Every visit is counted, and no node is visited a fourth time. -/
theorem Paced.moved (paced : Paced workflow s) (here : s.current = some current)
    (guard : s.visits current < 3) (work : Option Work) (target : Option Text)
    (leads : ∀ id ∈ target, id ∈ workflow.ids) :
    Paced workflow { s.visited current work with current := target } := by
  refine ⟨leads, fun id => ?_, fun id => ?_, ?_⟩
  · by_cases same : id = current
    · subst same
      show Function.update s.visits id (s.visits id + 1) id ≤ 3
      rw [Function.update_self]
      omega
    · simpa [State.visited, same] using paced.guarded id
  · refine (s.worked_visited current work id).trans ?_
    have before := paced.logged id
    by_cases same : id = current
    · subst same
      simpa [State.visited] using before
    · simpa [State.visited, same] using before
  · have member : current ∈ workflow.ids.toFinset := List.mem_toFinset.mpr (paced.known _ here)
    show s.iterations + 1 = ∑ id ∈ _, Function.update s.visits current (s.visits current + 1) id
    rw [paced.counted, Finset.sum_update_of_mem member,
      ← Finset.add_sum_erase _ s.visits member, Finset.sdiff_singleton_eq_erase]
    omega

/-- The loop comes back to its head paced, or ends within its bounds. -/
theorem Iterated.paced {outcome : State × Option Ending}
    (iterated : Iterated workflow args round current s outcome) (paced : Paced workflow s)
    (here : s.current = some current) :
    outcome.1.iterations = s.iterations + 1 ∧ (∀ id, outcome.1.worked id ≤ 3) ∧
      (outcome.2 = none → Paced workflow outcome.1) := by
  have worked (work : Option Work) (guard : s.visits current < 3) (id : Text) :
      (s.visited current work).worked id ≤ 3 := by
    have after := s.worked_visited current work id
    have logged := paced.logged id
    have guarded := paced.guarded id
    by_cases same : id = current
    · subst same
      rw [if_pos rfl] at after
      omega
    · rw [if_neg same] at after
      omega
  cases iterated with
  | refused visits reason =>
    exact ⟨rfl, fun id => (paced.logged id).trans (paced.guarded id), nofun⟩
  | ended node guard seen => exact ⟨rfl, worked _ guard, nofun⟩
  | moved node guard seen =>
    refine ⟨rfl, worked _ guard, fun _ => paced.moved here guard _ _ fun id follows => ?_⟩
    have leads : Leads workflow (visit workflow args current node round).2 := visit_leads
    specialize leads id
    rw [seen] at leads
    exact leads (by rw [Option.mem_def.mp follows])

end Steps

/-- From a paced state, the iterations that are left are enough. -/
theorem Paced.loop_ends {workflow : Workflow} {s : State} (paced : Paced workflow s) (args : Args)
    (rounds : Nat → Round) (enough : 3 * workflow.nodes.length + 1 ≤ s.iterations + fuel) :
    ∃ ending t, loop workflow args rounds fuel s = some (ending, t) ∧
      t.iterations ≤ 3 * workflow.nodes.length + 1 ∧ ∀ id, t.worked id ≤ 3 := by
  have done := paced.iterations_le
  induction fuel generalizing s with
  | zero => omega
  | succ fuel ih =>
    unfold loop
    cases here : s.current with
    | none =>
      exact ⟨_, s, rfl, by omega, fun id => (paced.logged id).trans (paced.guarded id)⟩
    | some current =>
      have iterated : Iterated workflow args (rounds s.iterations) current s
          (iterate workflow args (rounds s.iterations) current s) := iterate_cases
      obtain ⟨counted, worked, again⟩ := iterated.paced paced here
      dsimp only
      generalize iterate workflow args (rounds s.iterations) current s = outcome at *
      obtain ⟨t, ended⟩ := outcome
      dsimp only at counted worked again ⊢
      cases ended with
      | some ending => exact ⟨ending, t, rfl, by omega, worked⟩
      | none => exact ih (again rfl) (by omega) (again rfl).iterations_le

/-- Whatever the nodes, the reuses, the recoveries and the bridge answer, the walk stops after at
most `3 * n + 1` iterations, in which it worked at most three times on each node. -/
theorem walk_terminates (workflow : Workflow) (args : Args) (start : State)
    (begun : begin workflow args = .ok start) (rounds : Nat → Round) (fuel : Nat)
    (enough : 3 * workflow.nodes.length + 1 ≤ fuel) :
    ∃ ending s, loop workflow args rounds fuel start = some (ending, s) ∧
      s.iterations ≤ 3 * workflow.nodes.length + 1 ∧ ∀ id, s.worked id ≤ 3 :=
  (Paced.begin begun).loop_ends args rounds (by omega)

/-! A workflow whose two nodes fail into each other. -/

def cycle : Workflow where
  nodes := [
    [("id", .str "mat-006"), ("task", .str "tasks/failure-triage.yaml"), ("on_failure", .str "mat-020")],
    [("id", .str "mat-020"), ("task", .str "tasks/model-scan.yaml"), ("on_failure", .str "mat-006")]]
  nonempty := nofun
  named := by decide
  unique := by decide

def cycleArgs : Args where
  execute := true
  resume := false
  autoRecover := false
  bridge := false
  fromNode := none
  untilNode := none

/-- A node whose command succeeds. -/
def passing : Round where
  taskType := .ok (some "model_scan")
  skill := .ok ()
  prior := .ok false
  inputsCurrent := .ok false
  deliveryState := .ok .null
  reuse := .ok ()
  plan := .ok ()
  start := .ok ()
  commands := [⟨.ok (), .ok (), .ok (), .ok 0, .ok ()⟩]
  payload := .ok [("state", .str "SCAN_READY")]
  record := .ok ()
  registry := false
  dispatch := .ok .null
  dispatched := .ok ()
  bind := .ok ()
  recovery := .ok none
  recovered := .ok ()
  issue := .ok ()
  rebind := .ok ()
  delivery := ⟨false, .ok (), .ok (), .ok (), .ok (), .ok ()⟩

/-- A node whose command fails. -/
def failing : Round := { passing with
  commands := [⟨.ok (), .ok (), .ok (), .ok 1, .ok ()⟩]
  payload := .ok [("state", .str "BLOCKED")] }

theorem walk_terminates_cycle : ∃ ending s,
    loop cycle cycleArgs (fun _ => failing) 7 ⟨some "mat-006", fun _ => 0, [], 0⟩ = some (ending, s) ∧
      s.iterations ≤ 7 ∧ ∀ id, s.worked id ≤ 3 :=
  walk_terminates cycle cycleArgs _ rfl _ 7 (by decide)

end InferForge.Graph

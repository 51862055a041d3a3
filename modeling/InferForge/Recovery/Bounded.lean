import InferForge.Recovery.Controller
import Mathlib.Data.List.Basic

/-! The recovery is bounded and truthful: budget, order and history of the calls, and what the
outcome says about them. -/
namespace InferForge
open Py

namespace OracleCall

def isAsk : OracleCall → Bool
  | .asked _ _ => true
  | _ => false

/-- An action or a rerun. -/
def isStep : OracleCall → Bool
  | .asked _ _ => false
  | _ => true

end OracleCall

namespace RecoveryController
variable (controller : RecoveryController) (request : DecisionRequest)

/-- What a call leaves in the history. -/
def entry : OracleCall → Option Dict
  | .asked _ decision =>
      if decision.nextAction = "BLOCKED" then some (blockedEntry decision)
      else if decision.reruns then none
      else if (controller.actions decision.nextAction).isNone then some (missingEntry decision)
      else none
  | .acted decision result => some (actionEntry decision result)
  | .reran decision passed state => some (rerunEntry decision passed state)

def recorded (calls : List OracleCall) : List Dict := calls.filterMap controller.entry

def asks (calls : List OracleCall) : Nat := calls.countP OracleCall.isAsk

def steps (calls : List OracleCall) : Nat := calls.countP OracleCall.isStep

/-- A call that nothing may follow. -/
def Final : OracleCall → Prop
  | .asked _ decision => decision.nextAction = "BLOCKED" ∨
      (decision.reruns = false ∧ controller.actions decision.nextAction = none)
  | .acted _ _ => False
  | .reran _ passed _ => passed = true

/-- A request carries what was recorded before and the budget that is left; a step performs the
decision just given. -/
def Fits (before : List OracleCall) : OracleCall → Prop
  | .asked asking _ =>
      asking = ask request (controller.recorded before) (controller.budget - asks before) ∧
        (controller.recorded before).length = asks before
  | .acted decision _ => ∃ earlier asking, before = earlier ++ [.asked asking decision]
  | .reran decision _ _ => ∃ earlier asking, before = earlier ++ [.asked asking decision]

/-- Every call fits what came before it, and none of that was final. -/
def Sequenced (calls : List OracleCall) : Prop :=
  ∀ before call after, calls = before ++ call :: after →
    (∀ earlier ∈ before, ¬ controller.Final earlier) ∧ controller.Fits request before call

section Calls
variable {controller : RecoveryController} {request : DecisionRequest} {calls : List OracleCall}
  {call : OracleCall}

theorem Sequenced.empty : controller.Sequenced request [] := by
  intro before call after same
  cases before <;> cases same

theorem Sequenced.snoc (sequenced : controller.Sequenced request calls)
    (going : ∀ earlier ∈ calls, ¬ controller.Final earlier)
    (fits : controller.Fits request calls call) :
    controller.Sequenced request (calls ++ [call]) := by
  intro before other after same
  rcases List.eq_nil_or_concat after with rfl | ⟨after, last, rfl⟩
  · obtain ⟨rfl, ends⟩ := List.append_inj' same rfl
    cases ends
    exact ⟨going, fits⟩
  · rw [List.concat_eq_append, ← List.cons_append, ← List.append_assoc] at same
    exact sequenced before other after (List.append_inj_left' same rfl)

theorem recorded_snoc : controller.recorded (calls ++ [call]) =
    controller.recorded calls ++ (controller.entry call).toList := by
  rw [recorded, List.filterMap_append, recorded]
  cases entered : controller.entry call <;> simp [entered]

theorem asks_snoc : asks (calls ++ [call]) = asks calls + if call.isAsk then 1 else 0 := by
  simp [asks, List.countP_append, List.countP_cons]

theorem steps_snoc : steps (calls ++ [call]) = steps calls + if call.isStep then 1 else 0 := by
  simp [steps, List.countP_append, List.countP_cons]

end Calls

/-- What holds between two rounds. -/
structure Going (remaining : Nat) (course : Course) : Prop where
  sequenced : controller.Sequenced request course.calls
  unfinished : ∀ call ∈ course.calls, ¬ controller.Final call
  attempts : course.outcome.attempts = controller.recorded course.calls
  budget : asks course.calls + remaining = controller.budget
  entries : (controller.recorded course.calls).length = asks course.calls
  steps : steps course.calls = asks course.calls
  status : course.outcome.status = "BLOCKED"

/-- What holds at the end of a recovery. -/
structure Ended (course : Course) : Prop where
  sequenced : controller.Sequenced request course.calls
  attempts : course.outcome.attempts = controller.recorded course.calls
  asks : asks course.calls ≤ controller.budget
  steps : steps course.calls ≤ controller.budget
  recovered : course.outcome.status = "RECOVERED" ↔
    ∃ decision, (course.calls.filter OracleCall.isStep).getLast? =
      some (.reran decision true course.outcome.finalState)
  status : course.outcome.status = "RECOVERED" ∨ course.outcome.status = "BLOCKED"

section Rounds
variable {controller : RecoveryController} {request : DecisionRequest} {remaining : Nat}
  {course : Course}

/-- No rerun among calls that are not final has passed. -/
theorem unfinished_rerun {calls : List OracleCall} {decision : Decision} {state : Text}
    (unfinished : ∀ call ∈ calls, ¬ controller.Final call) :
    (calls.filter OracleCall.isStep).getLast? ≠ some (.reran decision true state) := by
  intro last
  have member := List.mem_of_getLast? last
  exact unfinished _ (List.mem_filter.mp member).1 rfl

theorem Going.ended (going : controller.Going request remaining course) :
    controller.Ended request course where
  sequenced := going.sequenced
  attempts := going.attempts
  asks := by
    have budget := going.budget
    omega
  steps := by
    have budget := going.budget
    rw [going.steps]
    omega
  recovered := by
    constructor
    · intro recovered
      rw [going.status] at recovered
      exact absurd recovered (by decide)
    · rintro ⟨decision, last⟩
      exact absurd last (unfinished_rerun going.unfinished)
  status := .inr going.status

/-- What holds once a decision has been given in a round that leaves `remaining`. -/
structure Asked (controller : RecoveryController) (request : DecisionRequest) (remaining : Nat)
    (decision : Decision) (earlier : List OracleCall) (course : Course) : Prop where
  asked : ∃ asking, course.calls = earlier ++ [.asked asking decision]
  sequenced : controller.Sequenced request course.calls
  unfinished : ∀ call ∈ earlier, ¬ controller.Final call
  attempts : course.outcome.attempts = controller.recorded earlier
  budget : asks earlier + 1 + remaining = controller.budget
  entries : (controller.recorded earlier).length = asks earlier
  steps : steps earlier = asks earlier
  status : course.outcome.status = "BLOCKED"

theorem Going.ask (going : controller.Going request (remaining + 1) course) (decision : Decision) :
    Asked controller request remaining decision course.calls
      { course.calling (.asked (ask request course.outcome.attempts (remaining + 1)) decision) with
        outcome := { course.outcome with lastDecision := some decision } } where
  asked := ⟨_, rfl⟩
  sequenced := by
    apply going.sequenced.snoc going.unfinished
    refine ⟨?_, going.entries⟩
    have budget := going.budget
    rw [going.attempts, show controller.budget - asks course.calls = remaining + 1 by omega]
  unfinished := going.unfinished
  attempts := going.attempts
  budget := by
    have budget := going.budget
    omega
  entries := going.entries
  steps := going.steps
  status := going.status

/-- What holds after a step, whatever came of it. -/
structure Stepped (controller : RecoveryController) (request : DecisionRequest) (remaining : Nat)
    (before : List OracleCall) (call : OracleCall) (attempts : List Dict) : Prop where
  sequenced : controller.Sequenced request (before ++ [call])
  unfinished : ∀ other ∈ before, ¬ controller.Final other
  attempts : attempts = controller.recorded (before ++ [call])
  budget : RecoveryController.asks (before ++ [call]) + remaining = controller.budget
  entries : (controller.recorded (before ++ [call])).length =
    RecoveryController.asks (before ++ [call])
  steps : RecoveryController.steps (before ++ [call]) = RecoveryController.asks (before ++ [call])

section Decided
variable {decision : Decision} {earlier : List OracleCall}

/-- A decision that ends the recovery. -/
theorem Asked.stopped (asked : Asked controller request remaining decision earlier course)
    {entry : Dict} (left : ∀ asking, controller.entry (.asked asking decision) = some entry) :
    controller.Ended request (course.recording entry) := by
  obtain ⟨asking, calls⟩ := asked.asked
  have budget := asked.budget
  have filtered : (earlier ++ [OracleCall.asked asking decision]).filter OracleCall.isStep =
      earlier.filter OracleCall.isStep := by
    rw [List.filter_append]
    exact List.append_nil _
  constructor
  · exact asked.sequenced
  · change course.outcome.attempts ++ [entry] = controller.recorded course.calls
    rw [calls, recorded_snoc, left, asked.attempts]
    rfl
  · change asks course.calls ≤ _
    rw [calls, asks_snoc]
    simp only [OracleCall.isAsk, if_true]
    omega
  · change RecoveryController.steps course.calls ≤ _
    rw [calls, steps_snoc, asked.steps]
    simp only [OracleCall.isStep, Bool.false_eq_true, if_false]
    omega
  · change course.outcome.status = _ ↔ ∃ decision, (course.calls.filter _).getLast? = _
    rw [asked.status, calls, filtered]
    constructor
    · exact fun same => absurd same (by decide)
    · rintro ⟨_, last⟩
      exact absurd last (unfinished_rerun asked.unfinished)
  · exact .inr asked.status

/-- A step that is performed on the decision. -/
theorem Asked.performed (asked : Asked controller request remaining decision earlier course)
    (goes : ∀ asking, ¬ controller.Final (.asked asking decision) ∧
      controller.entry (.asked asking decision) = none) {call : OracleCall} {entry : Dict}
    (step : call.isStep = true) (ask : call.isAsk = false) (left : controller.entry call = some entry)
    (fits : ∀ before asking, controller.Fits request (before ++ [.asked asking decision]) call) :
    Stepped controller request remaining course.calls call (course.outcome.attempts ++ [entry]) := by
  obtain ⟨asking, calls⟩ := asked.asked
  have open' : ∀ other ∈ course.calls, ¬ controller.Final other := by
    rw [calls]
    intro other member
    rcases List.mem_append.mp member with before | here
    · exact asked.unfinished other before
    · rw [List.mem_singleton.mp here]
      exact (goes asking).1
  have budget := asked.budget
  have recorded : controller.recorded (course.calls ++ [call]) =
      controller.recorded earlier ++ [entry] := by
    rw [recorded_snoc, calls, recorded_snoc, left, (goes asking).2]
    exact congrArg (· ++ [entry]) (List.append_nil _)
  have asked' : asks (course.calls ++ [call]) = asks earlier + 1 := by
    rw [asks_snoc, calls, asks_snoc, ask]
    rfl
  have stepped : RecoveryController.steps (course.calls ++ [call]) = asks earlier + 1 := by
    rw [steps_snoc, calls, steps_snoc, step, asked.steps]
    rfl
  refine ⟨asked.sequenced.snoc open' ?_, open', ?_, ?_, ?_, ?_⟩
  · rw [calls]
    exact fits earlier asking
  · rw [recorded, asked.attempts]
  · rw [asked']
    exact budget
  · rw [recorded, List.length_append, asked.entries, asked']
    rfl
  · rw [stepped, asked']

/-- A step that does not end the recovery. -/
theorem Stepped.going {before : List OracleCall} {call : OracleCall} {attempts : List Dict}
    (stepped : Stepped controller request remaining before call attempts)
    (open' : ¬ controller.Final call) (calls : course.calls = before ++ [call])
    (same : course.outcome.attempts = attempts) (status : course.outcome.status = "BLOCKED") :
    controller.Going request remaining course where
  sequenced := calls ▸ stepped.sequenced
  unfinished := by
    rw [calls]
    intro other member
    rcases List.mem_append.mp member with earlier | here
    · exact stepped.unfinished other earlier
    · rwa [List.mem_singleton.mp here]
  attempts := by rw [same, calls, stepped.attempts]
  budget := calls ▸ stepped.budget
  entries := calls ▸ stepped.entries
  steps := calls ▸ stepped.steps
  status := status

/-- A rerun that passed. -/
theorem Stepped.ended {before : List OracleCall} {state : Text} {attempts : List Dict}
    (stepped : Stepped controller request remaining before (.reran decision true state) attempts)
    (calls : course.calls = before ++ [.reran decision true state])
    (same : course.outcome.attempts = attempts) (status : course.outcome.status = "RECOVERED")
    (final : course.outcome.finalState = state) : controller.Ended request course where
  sequenced := calls ▸ stepped.sequenced
  attempts := by rw [same, calls, stepped.attempts]
  asks := by
    have budget := stepped.budget
    rw [calls]
    omega
  steps := by
    have budget := stepped.budget
    rw [calls, stepped.steps]
    omega
  recovered := by
    constructor
    · intro _
      rw [calls, List.filter_append, final]
      exact ⟨decision, List.getLast?_concat⟩
    · exact fun _ => status
  status := .inl status

end Decided

/-- What follows a decision is another round, or the end. -/
theorem perform_spec {decision : Decision} {earlier : List OracleCall}
    (asked : Asked controller request remaining decision earlier course) :
    ((controller.perform decision course).2 = .again →
      controller.Going request remaining (controller.perform decision course).1) ∧
    controller.Ended request (controller.perform decision course).1 ∧
    ∀ message, (controller.perform decision course).2 ≠ .raised message := by
  unfold perform
  split
  · next blocked =>
    refine ⟨nofun, asked.stopped fun _ => ?_, nofun⟩
    simp only [entry, if_pos blocked]
  · next going =>
    split
    · next reruns =>
      have goes (asking : DecisionRequest) : ¬ controller.Final (.asked asking decision) ∧
          controller.entry (.asked asking decision) = none := by
        simp [Final, entry, going, reruns]
      unfold performRerun
      generalize controller.rerun course.calls decision = answer
      obtain ⟨passed, state⟩ := answer
      have stepped : Stepped controller request remaining course.calls
          (.reran decision passed state)
          (course.outcome.attempts ++ [rerunEntry decision passed state]) :=
        asked.performed goes rfl rfl rfl fun before asking => ⟨before, asking, rfl⟩
      cases passed with
      | true => exact ⟨nofun, stepped.ended rfl rfl rfl rfl, nofun⟩
      | false =>
        let failed : Course := ⟨course.calls ++ [.reran decision false state], { course.outcome with
          attempts := course.outcome.attempts ++ [rerunEntry decision false state]
          finalState := state }⟩
        have again : controller.Going request remaining failed :=
          stepped.going nofun rfl rfl asked.status
        exact ⟨fun _ => again, again.ended, nofun⟩
    · next stays =>
      cases registered : controller.actions decision.nextAction with
      | none =>
        refine ⟨nofun, asked.stopped fun _ => ?_, nofun⟩
        simp [entry, going, stays, registered]
      | some executor =>
        have goes (asking : DecisionRequest) : ¬ controller.Final (.asked asking decision) ∧
            controller.entry (.asked asking decision) = none := by
          simp [Final, entry, going, stays, registered]
        dsimp only [performAction]
        generalize executor course.calls decision = result
        have stepped : Stepped controller request remaining course.calls (.acted decision result)
            (course.outcome.attempts ++ [actionEntry decision result]) :=
          asked.performed goes rfl rfl rfl fun before asking => ⟨before, asking, rfl⟩
        have again : controller.Going request remaining
            ((course.calling (.acted decision result)).recording (actionEntry decision result)) :=
          stepped.going id rfl rfl asked.status
        exact ⟨fun _ => again, again.ended, nofun⟩

theorem round_spec (going : controller.Going request (remaining + 1) course) :
    ((controller.round request (remaining + 1) course).2 = .again →
      controller.Going request remaining (controller.round request (remaining + 1) course).1) ∧
    controller.Ended request (controller.round request (remaining + 1) course).1 := by
  unfold round
  dsimp only
  cases decided : decideWithBudget (controller.brain course.calls)
      (ask request course.outcome.attempts (remaining + 1)) with
  | error message => exact ⟨nofun, going.ended⟩
  | ok decision =>
    have performed := perform_spec (going.ask decision)
    exact ⟨performed.1, performed.2.1⟩

theorem rounds_ended (going : controller.Going request remaining course) :
    controller.Ended request (controller.rounds request remaining course).1 := by
  induction remaining generalizing course with
  | zero => exact going.ended
  | succ remaining ih =>
    have spec := round_spec going
    unfold rounds
    split
    · next next again =>
      rw [again] at spec
      exact ih (spec.1 rfl)
    · next next stopped =>
      rw [stopped] at spec
      exact spec.2
    · next next message raised =>
      rw [raised] at spec
      exact spec.2

end Rounds

/-- For every brain, registry and rerun: a recovery stays within its budget, keeps the order and the
history of its calls, and says `RECOVERED` only of a rerun that passed. -/
theorem recover_bounded (controller : RecoveryController) (request : DecisionRequest) :
    let course := (controller.recover request).1
    asks course.calls ≤ controller.budget ∧ steps course.calls ≤ controller.budget ∧
    (∀ before call after, course.calls = before ++ call :: after →
      (∀ earlier ∈ before, ¬ controller.Final earlier) ∧ controller.Fits request before call) ∧
    course.outcome.attempts = course.calls.filterMap controller.entry ∧
    (course.outcome.status = "RECOVERED" ↔
      ∃ decision, (course.calls.filter OracleCall.isStep).getLast? =
        some (.reran decision true course.outcome.finalState)) ∧
    (course.outcome.status = "RECOVERED" ∨ course.outcome.status = "BLOCKED") := by
  have start : controller.Going request controller.budget
      ⟨[], ⟨"BLOCKED", [], request.failure.state, none⟩⟩ :=
    ⟨Sequenced.empty, nofun, rfl, Nat.zero_add _, rfl, rfl, rfl⟩
  have ended := rounds_ended start
  exact ⟨ended.asks, ended.steps, ended.sequenced, ended.attempts, ended.recovered, ended.status⟩

end RecoveryController
end InferForge

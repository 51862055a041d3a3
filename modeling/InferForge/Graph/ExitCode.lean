import InferForge.Graph.Bounds

/-! The exit code of a walk with a scheduler: what a zero stands for. -/
namespace InferForge.Graph
open Py Effect

/-- The ends of a walk that are no success of a scheduled graph. -/
def Ending.unsuccessful : Ending → Prop
  | .leave _ => True
  | .exit code _ => code ≠ 0
  | .delivered _ => False
  | .raised _ => True

/-- Whatever `x` raises is no success. -/
def Sober (x : Except Ending α) : Prop := ∀ ending, x = .error ending → ending.unsuccessful

namespace Sober

theorem ok (a : α) : Sober (.ok a : Except Ending α) := fun _ raised => nomatch raised

theorem exit {code : Int} (nonzero : code ≠ 0) (reason : String) : Sober (exit code reason : Except Ending α) := by
  rintro ending ⟨⟩
  exact nonzero

theorem leave (reason : String) : Sober (leave reason : Except Ending α) := by
  rintro ending ⟨⟩
  trivial

theorem call (result : Except GraphFault α) : Sober (call result) := by
  intro ending raised
  cases result with
  | ok a => cases raised
  | error fault =>
    cases raised
    trivial

theorem bind {x : Except Ending α} {f : α → Except Ending β} (first : Sober x)
    (rest : ∀ a, Sober (f a)) : Sober (x >>= f) := by
  intro ending raised
  cases here : x with
  | ok a =>
    rw [here] at raised
    exact rest a ending raised
  | error e =>
    rw [here] at raised
    cases raised
    exact first _ here

theorem ite {x y : Except Ending α} {condition : Prop} [Decidable condition] (here : Sober x)
    (there : Sober y) : Sober (if condition then x else y) := by
  split
  · exact here
  · exact there

end Sober

section Parts
variable {workflow : Workflow} {args : Args} {current : Text} {node : Dict} {round : Round}

theorem priorFact_sober (spec : NodeSpec) : Sober (priorFact args round spec) := by
  apply (Sober.call _).bind
  intro found
  apply Sober.bind
  · exact .ite (.ok _) (.ite (.call _) (.ok _))
  · intro fresh
    exact .ite ((Sober.call _).bind fun _ => .ok _) (.ok _)

theorem runCommands_sober (returncode : Int) (commands : List CommandRound) :
    Sober (runCommands returncode commands) := by
  induction commands generalizing returncode with
  | nil => exact .ok _
  | cons command rest ih =>
    apply (Sober.call _).bind
    intro _
    cases command.contract with
    | error fault => exact .ite (.exit (by decide) _) (.call _)
    | ok =>
      apply (Sober.call _).bind
      intro _
      cases command.ran with
      | error fault => exact (Sober.call _).bind fun _ => .call _
      | ok code => exact ih _

theorem dispatchShims_sober (spec : NodeSpec) : Sober (dispatchShims args round spec) := by
  apply Sober.ite _ (.ok _)
  apply (Sober.call _).bind
  intro state
  apply (Sober.call _).bind
  intro _
  exact .ite (.ok _) (.exit (by decide) _)

theorem operatorGate_sober (spec : NodeSpec) (state : Text) (passed : Bool) :
    Sober (operatorGate args spec state passed) := by
  apply Sober.ite _ (.ok _)
  apply Sober.ite
  · rintro ending ⟨⟩
    exact (show (3 : Int) ≠ 0 by decide)
  · rintro ending ⟨⟩
    exact (show (2 : Int) ≠ 0 by decide)

theorem environmentGate_sober (spec : NodeSpec) (passed : Bool) :
    Sober (environmentGate args round spec passed) := by
  apply Sober.ite _ (.ok _)
  apply Sober.ite _ (.exit (by decide) _)
  unfold environmentFailed
  split
  · exact .ite (.exit (by decide) _) (.call _)
  · exact .call _
  · exact .exit (by decide) _

theorem bindProof_sober (spec : NodeSpec) : Sober (bindProof args round spec) := by
  apply Sober.ite _ (.ok _)
  apply (Sober.call _).bind
  intro _
  split
  · exact .exit (by decide) _
  · exact .call _
  · exact .ok _

theorem executeNode_sober (spec : NodeSpec) : Sober (executeNode args round spec) := by
  apply (Sober.call _).bind
  intro _
  apply (runCommands_sober _ _).bind
  intro returncode
  apply (Sober.call _).bind
  intro payload
  apply (Sober.call _).bind
  intro _
  apply (dispatchShims_sober spec).bind
  intro _
  apply (operatorGate_sober spec _ _).bind
  intro _
  apply (environmentGate_sober spec _).bind
  intro _
  apply Sober.bind
  · exact .ite (.exit (by decide) _) (.ok _)
  · intro _
    apply Sober.ite (.ok _)
    apply (Sober.call _).bind
    intro recovered
    exact .ite ((Sober.call _).bind fun _ => .ok _) ((Sober.call _).bind fun _ => .ok _)

/-- A walk that finishes a scheduled graph has recorded its receipt. -/
structure Delivery.Recorded (delivery : Delivery) (state : Text) : Prop where
  verdict : delivery.verdict = .ok ()
  recorded : delivery.recorded = .ok ()
  state : state = "FUNCTIONAL_READY" ∨ state = "SIMULATION_PASS"

/-- The node passed, in its own run or in its recovery, or a current fact of it was reused. -/
inductive Achieved (round : Round) : Work → Prop where
  | passed (ran : runCommands 0 round.commands = .ok returncode)
      (status : round.payload = .ok payload) (pass : nodePassed payload returncode = true) :
      Achieved round .passed
  | recovered (last : round.recovery = .ok (some rerun))
      (pass : nodePassed rerun.1 rerun.2 = true) : Achieved round .recovered
  | reused (found : round.prior = .ok true) (current : round.inputsCurrent = .ok true) :
      Achieved round .reused

/-- What a zero stands for at the end of one visit: `work` is what was done on the node. -/
def Earned (args : Args) (current : Text) (round : Round) (work : Option Work) (ending : Ending) : Prop :=
  ending.unsuccessful ∨
    (args.untilNode = some current ∧ ∃ done, work = some done ∧ Achieved round done) ∨
    ∃ state, ending = .delivered state ∧ round.delivery.Recorded state

/-- Whatever `x` raises is earned by `work`. -/
def Pays (args : Args) (current : Text) (round : Round) (work : Option Work) (x : Except Ending α) :
    Prop := ∀ ending, x = .error ending → Earned args current round work ending

theorem Sober.pays {x : Except Ending α} (sober : Sober x) : Pays args current round work x :=
  fun ending raised => Or.inl (sober ending raised)

theorem Pays.bind {x : Except Ending α} {f : α → Except Ending β}
    (first : Pays args current round work x) (rest : ∀ a, Pays args current round work (f a)) :
    Pays args current round work (x >>= f) := by
  intro ending raised
  cases here : x with
  | ok a =>
    rw [here] at raised
    exact rest a ending raised
  | error e =>
    rw [here] at raised
    cases raised
    exact first _ here

theorem stopAtUntil_pays (achieved : Achieved round done) :
    Pays args current round (some done) (stopAtUntil args current) := by
  intro ending raised
  unfold stopAtUntil at raised
  split at raised
  · next reached => exact Or.inr (Or.inl ⟨beq_iff_eq.mp reached, done, rfl, achieved⟩)
  · cases raised

theorem finish_pays : Pays args current round work (round.delivery.finish : Except Ending α) := by
  apply (Sober.call _).pays.bind
  intro _
  cases verdict : round.delivery.verdict with
  | error fault =>
    exact ((Sober.call _).bind fun _ => .ite (.exit (by decide) _) (.call _)).pays
  | ok =>
    cases recorded : round.delivery.recorded with
    | error fault =>
      exact ((Sober.call _).bind fun _ => .ite (.exit (by decide) _) (.call _)).pays
    | ok =>
      apply (Sober.call _).pays.bind
      rintro _ ending ⟨⟩
      refine Or.inr (Or.inr ⟨_, rfl, verdict, recorded, ?_⟩)
      cases round.delivery.simulation
      · exact Or.inl rfl
      · exact Or.inr rfl

theorem followReused_pays (value : Json) :
    Pays args current round work (followReused workflow args round value) := by
  unfold followReused
  split
  · exact finish_pays
  · exact (Sober.call _).pays

theorem followPassed_pays (value : Json) :
    Pays args current round work (followPassed workflow args round value) := by
  apply (Sober.call _).pays.bind
  intro target
  cases target with
  | some id => exact (Sober.ok _).pays
  | none =>
    dsimp only
    split
    · exact finish_pays
    · exact (Sober.leave _).pays

theorem priorFact_true {spec : NodeSpec} (ok : priorFact args round spec = .ok true) :
    Achieved round .reused := by
  simp only [priorFact, bind_ok] at ok
  obtain ⟨found, here, fresh, current, ok⟩ := ok
  have kept : fresh = true := by
    split at ok
    · simp only [bind_ok, pure_ok] at ok
      obtain ⟨state, _, ok⟩ := ok
      exact (Bool.and_eq_true_iff.mp (Bool.and_eq_true_iff.mp ok).1).1
    · exact (Bool.and_eq_true_iff.mp (pure_ok.mp ok)).1
  subst kept
  unfold freshFact at current
  split at current
  · cases current
  · split at current
    · next yes =>
      subst yes
      exact .reused (call_ok.mp here) (call_ok.mp current)
    · cases current

/-- A node whose commands ran and whose gates let it through passed, was recovered or failed. -/
theorem executeNode_ok {spec : NodeSpec} (ok : executeNode args round spec = .ok work) :
    work = .failed ∨ work ≠ .failed ∧ Achieved round work := by
  simp only [executeNode, bind_ok] at ok
  obtain ⟨_, _, returncode, ran, payload, status, _, _, _, _, _, _, _, _, _, _, ok⟩ := ok
  split at ok
  · next pass =>
    obtain rfl := Except.ok.inj ok
    exact Or.inr ⟨by rintro ⟨⟩, .passed ran (call_ok.mp status) pass⟩
  · obtain ⟨last, asked, ok⟩ := bind_ok.mp ok
    split at ok
    · next pass =>
      obtain ⟨_, _, ok⟩ := bind_ok.mp ok
      obtain rfl := Except.ok.inj ok
      cases last with
      | none => cases pass
      | some rerun =>
        have asked := call_ok.mp asked
        split at asked
        · exact Or.inr ⟨by rintro ⟨⟩, .recovered asked pass⟩
        · cases asked
    · obtain ⟨_, _, ok⟩ := bind_ok.mp ok
      exact Or.inl (Except.ok.inj ok).symm

/-- The end of a visit of an executed walk is earned by the work of that visit. -/
theorem visit_pays (executing : args.execute = true) :
    Pays args current round (visit workflow args current node round).1
      (visit workflow args current node round).2 := by
  unfold visit
  cases asked : call round.taskType with
  | error ending =>
    rintro _ ⟨⟩
    exact Or.inl (Sober.call _ _ asked)
  | ok found =>
    cases found with
    | none =>
      dsimp only
      exact (Sober.call _).pays
    | some taskType =>
      dsimp only
      cases round.skill with
      | error fault =>
        dsimp only
        exact (Sober.ite (.leave _) (.call _)).pays
      | ok =>
        dsimp only
        cases nodes.lookup taskType with
        | none =>
          dsimp only
          exact (Sober.leave _).pays
        | some spec =>
          dsimp only
          cases prior : priorFact args round spec with
          | error ending =>
            rintro _ ⟨⟩
            exact Or.inl (priorFact_sober spec _ prior)
          | ok prior =>
            dsimp only
            split
            · next reused =>
              rw [(Bool.and_eq_true_iff.mp reused).2] at prior
              apply (Sober.call _).pays.bind
              intro _
              exact (stopAtUntil_pays (priorFact_true prior)).bind fun _ => followReused_pays _
            · cases round.plan with
              | error fault =>
                dsimp only
                exact (Sober.ite (.exit (by decide) _) (.call _)).pays
              | ok =>
                dsimp only
                cases done : executeNode args round spec with
                | error ending =>
                  rintro _ ⟨⟩
                  exact Or.inl (executeNode_sober spec _ done)
                | ok work =>
                  have onward (achieved : Achieved round work) : Pays args current round (some work) (do
                        bindProof args round spec
                        stopAtUntil args current
                        followPassed workflow args round (onSuccess node)) := by
                    apply (bindProof_sober spec).pays.bind
                    intro _
                    exact (stopAtUntil_pays achieved).bind fun _ => followPassed_pays _
                  obtain rfl | ⟨passed, achieved⟩ := executeNode_ok done
                  · exact (Sober.call _).pays
                  · cases work with
                    | failed => exact absurd rfl passed
                    | planned | reused | passed | recovered | stopped => exact onward achieved

end Parts

section Runs
variable {workflow : Workflow} {args : Args} {s t : State}

/-- A walk ended without success, at the node it was to stop at, or with a recorded delivery; the
round of its last iteration says so. -/
def Concluded (args : Args) (rounds : Nat → Round) (ending : Ending) (t : State) : Prop :=
  ending.unsuccessful ∨
    (∃ id work, args.untilNode = some id ∧ t.log.head? = some (id, work) ∧
      Achieved (rounds (t.iterations - 1)) work) ∨
    ∃ state, ending = .delivered state ∧ (rounds (t.iterations - 1)).delivery.Recorded state

theorem iterate_concluded (executing : args.execute = true) {rounds : Nat → Round}
    (ended : iterate workflow args (rounds s.iterations) current s = (t, some ending)) :
    Concluded args rounds ending t := by
  have left (reason : Text) : (Ending.leave reason).unsuccessful := trivial
  unfold iterate at ended
  dsimp only at ended
  split at ended
  · cases ended
    exact Or.inl (left _)
  · split at ended
    · cases ended
      exact Or.inl (left _)
    · have pays : Pays args current (rounds s.iterations)
          (visit workflow args current ((workflow.byId current).getD []) (rounds s.iterations)).1
          (visit workflow args current ((workflow.byId current).getD []) (rounds s.iterations)).2 :=
        visit_pays executing
      generalize visit workflow args current ((workflow.byId current).getD []) (rounds s.iterations) = outcome at *
      obtain ⟨work, next⟩ := outcome
      cases next with
      | ok target => cases ended
      | error e =>
        cases ended
        rcases pays _ rfl with failed | ⟨here, done, rfl, achieved⟩ | ⟨state, delivered, recorded⟩
        · exact Or.inl failed
        · exact Or.inr (Or.inl ⟨current, done, here, rfl, achieved⟩)
        · exact Or.inr (Or.inr ⟨state, delivered, recorded⟩)

theorem loop_concluded (executing : args.execute = true) {rounds : Nat → Round}
    (ended : loop workflow args rounds fuel s = some (ending, t)) : Concluded args rounds ending t := by
  induction fuel generalizing s with
  | zero =>
    cases here : s.current with
    | none =>
      unfold loop at ended
      simp only [here] at ended
      cases ended
      exact Or.inl trivial
    | some current =>
      unfold loop at ended
      simp [here] at ended
  | succ fuel ih =>
    cases here : s.current with
    | none =>
      unfold loop at ended
      simp only [here] at ended
      cases ended
      exact Or.inl trivial
    | some current =>
      unfold loop at ended
      simp only [here] at ended
      split at ended
      · next iterated =>
        cases ended
        exact iterate_concluded executing iterated
      · exact ih ended

end Runs

/-- With a scheduler, a walk that executes nodes exits with zero only at its last node, passed
(possibly in its recovery) or reused, or with the recorded receipt of the delivery. -/
theorem exit_zero (workflow : Workflow) (args : Args) (rounds : Nat → Round) (fuel : Nat)
    (start t : State) (ending : Ending) (scheduled : args.bridge = true)
    (executing : args.execute = true) (ended : loop workflow args rounds fuel start = some (ending, t))
    (zero : ending.code args = some 0) :
    (∃ id work, args.untilNode = some id ∧ t.log.head? = some (id, work) ∧
      Achieved (rounds (t.iterations - 1)) work) ∨
    ∃ state, ending = .delivered state ∧ (rounds (t.iterations - 1)).delivery.Recorded state := by
  rcases loop_concluded executing ended with failed | earned
  · cases ending with
    | leave reason => simp [Ending.code, scheduled, executing] at zero
    | exit code reason => exact absurd (Option.some.inj zero) failed
    | delivered state => exact absurd failed id
    | raised fault =>
      change (if fault.blocked then some 2 else none) = some 0 at zero
      split at zero
      · cases zero
      · cases zero
  · exact earned

/-! The first node fails, and the walk ends at the node of its failure edge. -/

def scheduledArgs : Args := { cycleArgs with bridge := true, untilNode := some "mat-020" }

def scheduledRounds (n : Nat) : Round := if n = 0 then failing else passing

def scheduledEnd : State where
  current := some "mat-020"
  visits := Function.update (Function.update (fun _ => 0) "mat-006" 1) "mat-020" 1
  log := [("mat-020", .passed), ("mat-006", .failed)]
  iterations := 2

theorem exit_zero_until : (∃ id work, scheduledArgs.untilNode = some id ∧
      scheduledEnd.log.head? = some (id, work) ∧ Achieved (scheduledRounds (2 - 1)) work) ∨
    ∃ state, Ending.exit 0 "UNTIL_NODE_REACHED" = .delivered state ∧
      (scheduledRounds (2 - 1)).delivery.Recorded state :=
  exit_zero cycle scheduledArgs scheduledRounds 7 ⟨some "mat-006", fun _ => 0, [], 0⟩ scheduledEnd
    (.exit 0 "UNTIL_NODE_REACHED") rfl rfl rfl rfl

end InferForge.Graph

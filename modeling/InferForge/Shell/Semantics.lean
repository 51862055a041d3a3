import InferForge.Shell.Syntax
import Mathlib.Algebra.Ring.Nat
import Mathlib.Data.Option.Basic
import Mathlib.Logic.Function.Basic

/-! What commands do to variables and files, and rules for what they leave. Files have contents of
any type. A command that needs more and more fuel does not terminate. -/
namespace InferForge.Shell
open Py

structure State (α : Type) where
  vars : Name → Nat
  files : Text → Option α

variable {α : Type}

def Term.value (vars : Name → Nat) : Term → Nat
  | .number n => n
  | .variable name => vars name

def sum (vars : Name → Nat) (terms : List Term) : Nat := (terms.map (Term.value vars)).sum

def Part.expand (vars : Name → Nat) : Part → Text
  | .plain text => ⟨text⟩
  | .quoted text => ⟨text⟩
  | .arithmetic terms => Text.ofNat (sum vars terms)

def expand (vars : Name → Nat) (word : Word) : Text := ⟨word.flatMap fun part => (part.expand vars).codes⟩

/-- The commands `[ -e p ]`, `cp` and `true`; any other name is not found. -/
def builtin (args : List Text) (s : State α) : Bool × State α :=
  match args with
  | [name, a, b, c] =>
      if name = "[" ∧ a = "-e" ∧ c = "]" then ((s.files b).isSome, s) else (false, s)
  | [name, source, target] =>
      if name = "cp" ∧ source ≠ target then
        match s.files source with
        | some content => (true, { s with files := Function.update s.files target (some content) })
        | none => (false, s)
      else (false, s)
  | [name] => (name = "true", s)
  | _ => (false, s)

/-- The status and the state after at most `fuel` nested steps. -/
def exec : Nat → Command → State α → Option (Bool × State α)
  | 0, _, _ => none
  | _ + 1, .assign name terms, s =>
      some (true, { s with vars := Function.update s.vars name (sum s.vars terms) })
  | _ + 1, .simple words, s => some (builtin (words.map (expand s.vars)) s)
  | fuel + 1, .sequence first second, s => (exec fuel first s).bind fun r => exec fuel second r.2
  | fuel + 1, .orElse first second, s =>
      (exec fuel first s).bind fun r => if r.1 then some r else exec fuel second r.2
  | fuel + 1, .andThen first second, s =>
      (exec fuel first s).bind fun r => if r.1 then exec fuel second r.2 else some r
  | fuel + 1, .loop last condition body, s =>
      (exec fuel condition s).bind fun r =>
        if r.1 then (exec fuel body r.2).bind fun r => exec fuel (.loop r.1 condition body) r.2
        else some (last, r.2)

/-- The command terminates, with this status and state. -/
def Returns (command : Command) (s : State α) (r : Bool × State α) : Prop :=
  ∃ fuel, exec fuel command s = some r

theorem exec_succ {command : Command} {s : State α} (done : exec fuel command s = some r) :
    exec (fuel + 1) command s = some r := by
  induction fuel generalizing command s r with
  | zero => cases done
  | succ fuel ih =>
    cases command with
    | assign name terms => exact done
    | simple words => exact done
    | sequence first second =>
      obtain ⟨r', here, there⟩ := Option.bind_eq_some_iff.mp done
      exact Option.bind_eq_some_iff.mpr ⟨r', ih here, ih there⟩
    | orElse first second =>
      obtain ⟨r', here, there⟩ := Option.bind_eq_some_iff.mp done
      refine Option.bind_eq_some_iff.mpr ⟨r', ih here, ?_⟩
      split at there
      · next fine => rwa [if_pos fine]
      · next failed => rw [if_neg failed, ih there]
    | andThen first second =>
      obtain ⟨r', here, there⟩ := Option.bind_eq_some_iff.mp done
      refine Option.bind_eq_some_iff.mpr ⟨r', ih here, ?_⟩
      split at there
      · next fine => rw [if_pos fine, ih there]
      · next failed => rwa [if_neg failed]
    | loop last condition body =>
      obtain ⟨r', here, there⟩ := Option.bind_eq_some_iff.mp done
      refine Option.bind_eq_some_iff.mpr ⟨r', ih here, ?_⟩
      split at there
      · next goes =>
        obtain ⟨r'', round, again⟩ := Option.bind_eq_some_iff.mp there
        rw [if_pos goes]
        exact Option.bind_eq_some_iff.mpr ⟨r'', ih round, ih again⟩
      · next stops => rwa [if_neg stops]

theorem exec_mono {command : Command} {s : State α} (done : exec fuel command s = some r)
    (more : fuel ≤ fuel') : exec fuel' command s = some r := by
  induction fuel', more using Nat.le_induction with
  | base => exact done
  | succ fuel' _ ih => exact exec_succ ih

theorem Returns.unique {command : Command} {s : State α} (one : Returns command s r)
    (other : Returns command s r') : r = r' := by
  obtain ⟨fuel, one⟩ := one
  obtain ⟨fuel', other⟩ := other
  have here := exec_mono one (Nat.le_max_left fuel fuel')
  rw [exec_mono other (Nat.le_max_right fuel fuel')] at here
  exact (Option.some.inj here).symm

@[simp] theorem returns_assign {s : State α} : Returns (.assign name terms) s r ↔
    r = (true, { s with vars := Function.update s.vars name (sum s.vars terms) }) := by
  constructor
  · rintro ⟨fuel, done⟩
    cases fuel with
    | zero => cases done
    | succ fuel => exact (Option.some.inj done).symm
  · rintro rfl
    exact ⟨1, rfl⟩

@[simp] theorem returns_simple {s : State α} : Returns (.simple words) s r ↔
    r = builtin (words.map (expand s.vars)) s := by
  constructor
  · rintro ⟨fuel, done⟩
    cases fuel with
    | zero => cases done
    | succ fuel => exact (Option.some.inj done).symm
  · rintro rfl
    exact ⟨1, rfl⟩

theorem returns_sequence {first second : Command} {s : State α} :
    Returns (.sequence first second) s r ↔ ∃ r', Returns first s r' ∧ Returns second r'.2 r := by
  constructor
  · rintro ⟨fuel, done⟩
    cases fuel with
    | zero => cases done
    | succ fuel =>
      obtain ⟨r', here, there⟩ := Option.bind_eq_some_iff.mp done
      exact ⟨r', ⟨fuel, here⟩, fuel, there⟩
  · rintro ⟨r', ⟨fuel, here⟩, fuel', there⟩
    exact ⟨max fuel fuel' + 1, Option.bind_eq_some_iff.mpr
      ⟨r', exec_mono here (Nat.le_max_left _ _), exec_mono there (Nat.le_max_right _ _)⟩⟩

theorem returns_orElse {first second : Command} {s : State α} :
    Returns (.orElse first second) s r ↔
      ∃ r', Returns first s r' ∧ (if r'.1 then r = r' else Returns second r'.2 r) := by
  constructor
  · rintro ⟨fuel, done⟩
    cases fuel with
    | zero => cases done
    | succ fuel =>
      obtain ⟨r', here, there⟩ := Option.bind_eq_some_iff.mp done
      refine ⟨r', ⟨fuel, here⟩, ?_⟩
      split at there
      · next fine =>
        rw [if_pos fine]
        exact (Option.some.inj there).symm
      · next failed =>
        rw [if_neg failed]
        exact ⟨fuel, there⟩
  · rintro ⟨r', ⟨fuel, here⟩, there⟩
    split at there
    · next fine =>
      subst there
      exact ⟨fuel + 1, Option.bind_eq_some_iff.mpr ⟨r, here, if_pos fine⟩⟩
    · next failed =>
      obtain ⟨fuel', there⟩ := there
      refine ⟨max fuel fuel' + 1, Option.bind_eq_some_iff.mpr
        ⟨r', exec_mono here (Nat.le_max_left _ _), ?_⟩⟩
      rw [if_neg failed]
      exact exec_mono there (Nat.le_max_right _ _)

/-- A loop whose condition fails at once. -/
theorem returns_loop_done {condition body : Command} {s s' : State α}
    (stops : Returns condition s (false, s')) :
    Returns (.loop last condition body) s (last, s') := by
  obtain ⟨fuel, stops⟩ := stops
  exact ⟨fuel + 1, Option.bind_eq_some_iff.mpr ⟨_, stops, rfl⟩⟩

/-- A loop with an invariant under which its condition holds does not terminate. -/
theorem loop_diverges {condition body : Command} (inv : State α → Prop)
    (goes : ∀ s r, inv s → Returns condition s r → r.1 = true ∧ inv r.2)
    (round : ∀ s r, inv s → Returns body s r → inv r.2) {s : State α} (start : inv s) :
    ¬ Returns (.loop last condition body) s r := by
  rintro ⟨fuel, done⟩
  induction fuel generalizing s last r with
  | zero => cases done
  | succ fuel ih =>
    obtain ⟨r', here, there⟩ := Option.bind_eq_some_iff.mp done
    obtain ⟨again, kept⟩ := goes s r' start ⟨fuel, here⟩
    rw [if_pos again] at there
    obtain ⟨r'', body', there⟩ := Option.bind_eq_some_iff.mp there
    exact ih (round _ _ kept ⟨fuel, body'⟩) there

end InferForge.Shell

import InferForge.Attempts.Allocation
import InferForge.DirectoryNames

/-! One identity for a run root and one owner for every attempt, whatever the interleaving. -/
namespace InferForge
open Py Effect

theorem attemptName_injective : Function.Injective attemptName := by
  have value (n : Nat) : Loads.natOf (attemptName n).codes = n := by
    have zeros (k : Nat) (digits : List CodePoint) :
        Loads.natOf (List.replicate k 48 ++ digits) = Loads.natOf digits := by
      induction k with
      | zero => rfl
      | succ k ih => simpa [List.replicate_succ, Loads.natOf] using ih
    rw [attemptName, zeros, natOf_nat]
  intro a b same
  rw [← value a, same, value b]

namespace Allocation

namespace Stage

/-- The identity a call works under. -/
def runId? : Stage → Option Text
  | .clear runId _ | .identified runId | .prepare runId _ _ _ | .number runId _ _ _ | .fill runId _ _ _ _
  | .note runId _ _ _ _ | .replace runId _ _ _ _ | .done runId _ => some runId
  | _ => none

/-- The pending identity file a stage works at. -/
def uuid? : Stage → Option Nat
  | .write _ uuid | .link _ uuid | .clear _ uuid | .retry uuid => some uuid
  | _ => none

/-- The identity a call is about to publish. -/
def proposed? : Stage → Option Text
  | .write runId _ | .link runId _ => some runId
  | _ => none

/-- The directory a call made for itself. -/
def attempt? : Stage → Option (Text × Nat)
  | .fill _ _ component n _ | .note _ _ component n _ | .replace _ _ component n _ =>
      some (component, n)
  | .done _ attempt => attempt
  | _ => none

/-- Past `initialize`. -/
def allocating : Stage → Bool
  | .prepare _ _ _ _ | .number _ _ _ _ | .fill _ _ _ _ _ | .note _ _ _ _ _ | .replace _ _ _ _ _ | .done _ _ => true
  | _ => false

end Stage

/-- The pending identity files of a call, those of its retries included. -/
def Call.Holds (call : Call) (uuid : Nat) : Prop :=
  call.stage.uuid? = some uuid ∨ uuid ∈ call.retried

/-- What one operation may touch. -/
inductive Touch (uuids : Uuids) (files : Files) (count : Nat) (call : Call) :
    Name → Option Node → Prop
  | root (absent : files [] = none) : Touch uuids files count call [] (some .directory)
  | marker (linking : call.stage = .link runId uuid) (absent : files markerName = none)
      (pending : files (pendingName uuids uuid) = some node) :
      Touch uuids files count call markerName (some node)
  | pending (own : call.Holds uuid ∨ uuid = count) :
      Touch uuids files count call (pendingName uuids uuid) node
  | task (absent : files (taskName component depth) = none) :
      Touch uuids files count call (taskName component depth) (some .directory)
  | attempt (numbering : call.stage = .number runId taskId component n)
      (absent : files (attemptDirectory component n) = none) :
      Touch uuids files count call (attemptDirectory component n) (some .directory)
  | inside (own : call.stage.attempt? = some (component, n)) :
      Touch uuids files count call (attemptDirectory component n ++ [entry]) node

section Names
variable {uuids : Uuids}

theorem pending_marker (uuid : Nat) : pendingName uuids uuid ≠ markerName := by
  intro same
  have text := (List.cons.inj same).1
  have first := congrArg (fun t : Text => t.codes.head?) text
  cases first

theorem pending_injective (same : pendingName uuids a = pendingName uuids b) : a = b := by
  have text := congrArg Text.codes (List.cons.inj same).1
  simp only [Text.codes_append, List.append_assoc] at text
  exact uuids.distinct (Text.ext (List.append_cancel_right (List.append_cancel_left text)))

theorem task_head (component : Text) (depth : Nat) :
    taskName component depth = [] ∨ ∃ rest, taskName component depth = Text.ofString "tasks" :: rest := by
  cases depth with
  | zero => exact .inl rfl
  | succ depth => exact .inr ⟨_, rfl⟩

theorem task_short (component : Text) (depth : Nat) : (taskName component depth).length ≤ 3 := by
  rw [taskName, List.length_take]
  exact Nat.min_le_right _ _

theorem pending_tasks (uuid : Nat) (rest : Name) : pendingName uuids uuid ≠ Text.ofString "tasks" :: rest := by
  intro same
  have first := congrArg (fun t : Text => t.codes.head?) (List.cons.inj same).1
  cases first

end Names

section Touching
variable {host : Host} {uuids : Uuids} {external : Name → Except Exn Unit} {files : Files}
  {count : Nat} {call : Call}

theorem ensureDirectory_changes {next : Stage}
    (member : change ∈ (ensureDirectory files name next).changes) :
    files name = none ∧ change = (name, some .directory) := by
  unfold ensureDirectory at member
  split at member
  · next absent => exact ⟨absent, List.mem_singleton.mp member⟩
  · cases member
  · cases member

/-- Every change an operation makes is one of these. -/
theorem operation_touches (change : Name × Option Node)
    (member : change ∈ (operation host uuids external files count call).changes) :
    Touch uuids files count call change.1 change.2 := by
  unfold operation at member
  split at member
  case h_1 =>
    split at member <;> cases member
  case h_2 =>
    split at member
    · cases member
    · obtain ⟨absent, rfl⟩ := ensureDirectory_changes member
      exact .root absent
  case h_3 =>
    split at member <;> cases member
  case h_4 => cases member
  case h_5 =>
    split at member <;> cases member
  case h_6 =>
    dsimp only at member
    split at member
    · cases member
    · obtain rfl := List.mem_singleton.mp member
      exact .pending (.inr rfl)
  case h_7 runId uuid stage =>
    obtain rfl := List.mem_singleton.mp member
    exact .pending (.inl (.inl (by rw [stage]; rfl)))
  case h_8 runId uuid stage =>
    split at member
    · cases member
    · next node pending absent =>
      obtain rfl := List.mem_singleton.mp member
      exact .marker stage absent pending
    · cases member
  case h_9 runId uuid stage =>
    obtain rfl := List.mem_singleton.mp member
    exact .pending (.inl (.inl (by rw [stage]; rfl)))
  case h_10 => cases member
  case h_11 =>
    split at member
    · next retried =>
      obtain rfl := List.mem_singleton.mp member
      exact .pending (.inl (.inr (by rw [retried]; exact List.mem_cons_self)))
    · cases member
    · split at member <;> cases member
  case h_12 =>
    obtain ⟨absent, rfl⟩ := ensureDirectory_changes member
    exact .task absent
  case h_13 runId taskId component n stage =>
    split at member
    · cases member
    · next absent =>
      obtain rfl := List.mem_singleton.mp member
      exact .attempt stage absent
  case h_14 runId taskId component n name todo stage =>
    split at member
    · cases member
    · obtain rfl := List.mem_singleton.mp member
      exact .inside (by rw [stage]; rfl)
  case h_15 runId taskId component n stage =>
    dsimp only at member
    split at member <;> obtain rfl := List.mem_singleton.mp member <;>
      exact .inside (by rw [stage]; rfl)
  case h_16 runId taskId component n uuid stage =>
    obtain rfl := List.mem_singleton.mp member
    exact .inside (by rw [stage]; rfl)
  case h_17 runId taskId component n uuid stage =>
    rcases List.mem_cons.mp member with rfl | member
    · exact .inside (by rw [stage]; rfl)
    · obtain rfl := List.mem_singleton.mp member
      exact .inside (by rw [stage]; rfl)
  case h_18 => cases member
  case h_19 =>
    split at member
    · next retried =>
      obtain rfl := List.mem_singleton.mp member
      exact .pending (.inl (.inr (by rw [retried]; exact List.mem_cons_self)))
    · cases member

end Touching

/-! ## What a call is known to have -/

/-- The identity of the run as it was published. -/
def Identified (files : Files) (runId : Text) : Prop :=
  ∃ identity, files markerName = some (.file (some identity)) ∧ identityOf identity = some runId

/-- A call by itself. -/
structure Fine (uuids : Uuids) (files : Files) (count : Nat) (call : Call) : Prop where
  explicit : call.stage ≠ .construct → (∀ e, call.stage ≠ .raised e) →
    ∀ e, call.explicit = some e → e.blank = false
  identified : ∀ r, call.stage.runId? = some r →
    Identified files r ∧ ∀ e, call.explicit = some e → e = r
  drawn : ∀ u, call.Holds u → u < count
  proposed : ∀ r, call.stage.proposed? = some r →
    r.blank = false ∧ ∀ e, call.explicit = some e → e = r
  linked : ∀ r u, call.stage = .link r u →
    files (pendingName uuids u) = some (.file (some (identityPayload r)))
  owned : ∀ c n, call.stage.attempt? = some (c, n) → (files (attemptDirectory c n)).isSome
  /-- Nothing is left of `initialize`. -/
  cleared : call.stage.allocating = true → call.retried = []

/-- Two calls share neither a pending file nor an attempt. -/
structure Separate (call other : Call) : Prop where
  uuid : ∀ u, call.Holds u → ¬ other.Holds u
  attempt : ∀ a, call.stage.attempt? = some a → other.stage.attempt? ≠ some a

theorem Separate.symm {call other : Call} (separate : Separate call other) : Separate other call :=
  ⟨fun u here there => separate.uuid u there here, fun a here there => separate.attempt a there here⟩

section Frames
variable {uuids : Uuids} {files : Files} {count : Nat} {call : Call} {name : Name}
  {node : Option Node}

theorem apply_other {changes : List (Name × Option Node)}
    (other : ∀ change ∈ changes, change.1 ≠ name) : apply files changes name = files name := by
  unfold apply
  induction changes generalizing files with
  | nil => rfl
  | cons change rest ih =>
    rw [List.foldl_cons, ih fun c member => other c (List.mem_cons_of_mem _ member),
      Function.update_of_ne (other change List.mem_cons_self).symm]

theorem apply_single (files : Files) (name : Name) (node : Option Node) :
    apply files [(name, node)] name = node := by
  simp [apply]

/-- A published marker stays. -/
theorem Touch.not_marker (touch : Touch uuids files count call name node)
    (published : (files markerName).isSome) : name ≠ markerName := by
  cases touch with
  | root => exact nofun
  | marker linking absent pending =>
    rw [absent] at published
    cases published
  | pending own => exact pending_marker _
  | @task component depth absent =>
    rcases task_head component depth with same | ⟨rest, same⟩
    · rw [same]
      exact nofun
    · rw [same]
      intro clash
      exact absurd (List.cons.inj clash).1 (by decide)
  | attempt => exact fun clash => absurd (List.cons.inj clash).1 (by decide)
  | inside => exact fun clash => absurd (List.cons.inj clash).1 (by decide)

/-- A directory that is there stays, whoever made it. -/
theorem Touch.not_attempt (touch : Touch uuids files count call name node)
    (present : (files (attemptDirectory c n)).isSome) : name ≠ attemptDirectory c n := by
  cases touch with
  | root => exact nofun
  | marker => exact fun clash => absurd (List.cons.inj clash).1 (by decide)
  | pending own => exact pending_tasks _ _
  | @task component depth absent =>
    intro clash
    have short := task_short component depth
    rw [clash] at short
    exact absurd short (by simp [attemptDirectory])
  | attempt numbering absent =>
    intro clash
    rw [clash] at absent
    rw [absent] at present
    cases present
  | inside =>
    intro clash
    have lengths := congrArg List.length clash
    simp [attemptDirectory] at lengths

/-- The pending file of another call stays. -/
theorem Touch.not_pending (touch : Touch uuids files count call name node)
    (drawn : u < count) (other : ¬ call.Holds u) : name ≠ pendingName uuids u := by
  cases touch with
  | root => exact nofun
  | marker => exact (pending_marker u).symm
  | pending own =>
    intro clash
    obtain rfl := pending_injective clash
    rcases own with own | rfl
    · exact other own
    · exact absurd drawn (Nat.lt_irrefl _)
  | @task component depth absent =>
    rcases task_head component depth with same | ⟨rest, same⟩
    · rw [same]
      exact nofun
    · rw [same]
      exact (pending_tasks u rest).symm
  | attempt => exact (pending_tasks u _).symm
  | inside => exact (pending_tasks u _).symm

/-- Nothing inside the directory of another call is touched. -/
theorem Touch.not_inside (touch : Touch uuids files count call name node)
    (present : (files (attemptDirectory c n)).isSome) (other : call.stage.attempt? ≠ some (c, n)) :
    ¬ attemptDirectory c n <+: name := by
  intro within
  have long := within.length_le
  cases touch with
  | root => exact absurd long (by simp [attemptDirectory])
  | marker => exact absurd long (by simp [attemptDirectory, markerName])
  | pending own => exact absurd long (by simp [attemptDirectory, pendingName])
  | @task component depth absent =>
    have short := task_short component depth
    exact absurd (Nat.le_trans long short) (by simp [attemptDirectory])
  | attempt numbering absent =>
    have same := within.eq_of_length rfl
    rw [← same] at absent
    rw [absent] at present
    cases present
  | inside own =>
    obtain ⟨rest, same⟩ := within
    simp only [attemptDirectory, List.cons_append, List.nil_append, List.cons.injEq, true_and] at same
    obtain ⟨rfl, named, _⟩ := same
    rw [attemptName_injective named] at other
    exact other own

end Frames

section Operation
variable {host : Host} {uuids : Uuids} {external : Name → Except Exn Unit} {files : Files}
  {count : Nat} {call other : Call}

/-- The files after the next operation of a call. -/
def next (host : Host) (uuids : Uuids) (external : Name → Except Exn Unit) (files : Files)
    (count : Nat) (call : Call) : Files :=
  apply files (operation host uuids external files count call).changes

theorem next_marker (published : (files markerName).isSome) :
    next host uuids external files count call markerName = files markerName :=
  apply_other fun change member => (operation_touches change member).not_marker published

theorem next_attempt (present : (files (attemptDirectory c n)).isSome) :
    next host uuids external files count call (attemptDirectory c n) = files (attemptDirectory c n) :=
  apply_other fun change member => (operation_touches change member).not_attempt present

theorem next_pending (drawn : u < count) (foreign : ¬ call.Holds u) :
    next host uuids external files count call (pendingName uuids u) = files (pendingName uuids u) :=
  apply_other fun change member => (operation_touches change member).not_pending drawn foreign

theorem next_inside (present : (files (attemptDirectory c n)).isSome)
    (foreign : call.stage.attempt? ≠ some (c, n)) (within : attemptDirectory c n <+: name) :
    next host uuids external files count call name = files name :=
  apply_other fun change member clash =>
    (operation_touches change member).not_inside present foreign (clash ▸ within)

theorem Identified.next (identified : Identified files r) :
    Identified (next host uuids external files count call) r := by
  obtain ⟨identity, published, named⟩ := identified
  exact ⟨identity, (next_marker (by rw [published]; rfl)).trans published, named⟩

/-- What is known of a call stays known when another one moves. -/
theorem Fine.frame (fine : Fine uuids files count other) (separate : Separate call other) :
    Fine uuids (next host uuids external files count call)
      (count + (operation host uuids external files count call).drawn) other := by
  refine ⟨fine.explicit, fun r same => ?_, fun u same => ?_, fine.proposed, fun r u same => ?_,
    fun c n same => ?_, fine.cleared⟩
  · obtain ⟨identified, asked⟩ := fine.identified r same
    exact ⟨identified.next, asked⟩
  · exact Nat.lt_add_right _ (fine.drawn u same)
  · have own : other.Holds u := .inl (by rw [same]; rfl)
    rw [next_pending (fine.drawn u own) (separate.symm.uuid u own)]
    exact fine.linked r u same
  · rw [next_attempt (fine.owned c n same)]
    exact fine.owned c n same

theorem identityOf_payload (nonblank : r.blank = false) : identityOf (identityPayload r) = some r := by
  change (if r.blank = true then none else some r) = some r
  rw [nonblank]
  rfl

/-- What a read identity is. -/
theorem readIdentity_ok {explicit : Option Text} {node : Option Node}
    (ok : readIdentity explicit node = .ok r) :
    (∃ identity, node = some (.file (some identity)) ∧ identityOf identity = some r) ∧
      ∀ e, explicit = some e → e = r := by
  unfold readIdentity at ok
  split at ok
  · next identity =>
    split at ok
    · next existing named =>
      split at ok
      · cases ok
      · next same =>
        obtain rfl := Except.ok.inj ok
        refine ⟨⟨identity, rfl, named⟩, fun e asked => ?_⟩
        rw [asked] at same
        simpa using same
    · cases ok
  · cases ok

theorem safeComponent_nonblank (ok : safeComponent host t = .ok component) : t.blank = false := by
  unfold safeComponent at ok
  split at ok
  · cases ok
  · next some' => exact Bool.eq_false_iff.mpr some'

theorem Stage.identified_of_allocating {stage : Stage} (allocating : stage.allocating = true) :
    stage.runId? ≠ none := by
  cases stage with
  | prepare | number | fill | note | replace | done => exact nofun
  | _ => cases allocating

/-- A call that works under no identity yet. -/
theorem Fine.early (explicit : ∀ e, call.explicit = some e → e.blank = false)
    (drawn : ∀ u, call.Holds u → u < count) (run : call.stage.runId? = none)
    (proposed : call.stage.proposed? = none) (attempt : call.stage.attempt? = none) :
    Fine uuids files count call := by
  refine ⟨fun _ _ => explicit, ?_, drawn, ?_, ?_, ?_, fun allocating => ?_⟩
  · intro r same
    cases run.symm.trans same
  · intro r same
    cases proposed.symm.trans same
  · intro r u same
    rw [same] at proposed
    cases proposed
  · intro c n same
    cases attempt.symm.trans same
  · exact absurd run (Stage.identified_of_allocating allocating)

/-- A call that knows the identity of its run. -/
theorem Fine.settled (explicit : ∀ e, call.explicit = some e → e.blank = false)
    (identified : Identified files r ∧ ∀ e, call.explicit = some e → e = r)
    (drawn : ∀ u, call.Holds u → u < count) (run : call.stage.runId? = some r)
    (proposed : call.stage.proposed? = none)
    (owned : ∀ c n, call.stage.attempt? = some (c, n) → (files (attemptDirectory c n)).isSome)
    (cleared : call.stage.allocating = true → call.retried = []) : Fine uuids files count call := by
  refine ⟨fun _ _ => explicit, ?_, drawn, ?_, ?_, owned, cleared⟩
  · intro r' same
    cases run.symm.trans same
    exact identified
  · intro r same
    cases proposed.symm.trans same
  · intro r u same
    rw [same] at proposed
    cases proposed

/-- A call that raised has only pending files to remove. -/
theorem Fine.raised (ended : call.stage = .raised e) (drawn : ∀ u, call.Holds u → u < count) :
    Fine uuids files count call := by
  refine ⟨fun _ other => absurd ended (other e), ?_, drawn, ?_, ?_, ?_, ?_⟩ <;> rw [ended] <;> exact nofun

theorem ensureDirectory_stage (files : Files) (name : Name) (next : Stage) :
    (ensureDirectory files name next).stage = next ∨
      ∃ e, (ensureDirectory files name next).stage = .raised e := by
  unfold ensureDirectory
  split
  · exact .inl rfl
  · exact .inl rfl
  · exact .inr ⟨_, rfl⟩

theorem enter_ok (ok : enter host external files runId taskId = .ok stage) :
    ∃ component, stage = .prepare runId taskId component 1 := by
  obtain ⟨component, _, ok⟩ := bind_ok.mp ok
  obtain ⟨_, _, ok⟩ := bind_ok.mp ok
  obtain ⟨_, _, ok⟩ := bind_ok.mp ok
  exact ⟨component, (pure_ok.mp ok).symm⟩

/-- What a call gains: a uuid just drawn, or a directory that was not there. -/
theorem operation_gains (host : Host) (uuids : Uuids) (external : Name → Except Exn Unit) (files : Files)
    (count : Nat) (call : Call) :
    (∀ u, (operation host uuids external files count call).stage.uuid? = some u →
      call.stage.uuid? = some u ∨ u = count ∧ 0 < (operation host uuids external files count call).drawn) ∧
    ∀ c n, (operation host uuids external files count call).stage.attempt? = some (c, n) →
      call.stage.attempt? = some (c, n) ∨ files (attemptDirectory c n) = none := by
  obtain ⟨explicit, task, stage, retried⟩ := call
  have prepared (name : Name) (next : Stage) (uuid : next.uuid? = none) (attempt : next.attempt? = none) :
      (ensureDirectory files name next).stage.uuid? = none ∧
        (ensureDirectory files name next).stage.attempt? = none := by
    rcases ensureDirectory_stage files name next with same | ⟨e, same⟩ <;> rw [same]
    · exact ⟨uuid, attempt⟩
    · exact ⟨rfl, rfl⟩
  cases stage with
  | construct | look | probe | read | raised =>
    unfold operation
    dsimp only [Effect.pure]
    split <;> exact ⟨nofun, nofun⟩
  | begin =>
    unfold operation
    dsimp only [Effect.pure]
    split
    · exact ⟨nofun, nofun⟩
    · obtain ⟨uuid, attempt⟩ := prepared [] .look rfl rfl
      rw [uuid, attempt]
      exact ⟨nofun, nofun⟩
  | create =>
    unfold operation
    dsimp only
    split <;> exact ⟨fun u same => .inr ⟨(Option.some.inj same).symm, Nat.two_pos⟩, nofun⟩
  | write runId uuid => exact ⟨fun u same => .inl same, nofun⟩
  | link runId uuid =>
    unfold operation
    dsimp only [Effect.pure]
    split
    · exact ⟨nofun, nofun⟩
    · exact ⟨fun u same => .inl same, nofun⟩
    · exact ⟨fun u same => .inl same, nofun⟩
  | clear | retry => exact ⟨nofun, nofun⟩
  | identified runId =>
    unfold operation
    dsimp only [Effect.pure]
    split
    · exact ⟨nofun, nofun⟩
    · exact ⟨nofun, nofun⟩
    · split
      · next entered =>
        obtain ⟨component, rfl⟩ := enter_ok entered
        exact ⟨nofun, nofun⟩
      · exact ⟨nofun, nofun⟩
  | prepare runId taskId component depth =>
    unfold operation
    dsimp only
    split
    · obtain ⟨uuid, attempt⟩ := prepared (taskName component depth)
        (.prepare runId taskId component (depth + 1)) rfl rfl
      rw [uuid, attempt]
      exact ⟨nofun, nofun⟩
    · obtain ⟨uuid, attempt⟩ := prepared (taskName component depth)
        (.number runId taskId component 1) rfl rfl
      rw [uuid, attempt]
      exact ⟨nofun, nofun⟩
  | number runId taskId component n =>
    unfold operation
    dsimp only [Effect.pure]
    split
    · exact ⟨nofun, nofun⟩
    · next absent =>
      refine ⟨nofun, fun c m same => .inr ?_⟩
      cases same
      exact absent
  | fill runId taskId component n todo =>
    unfold operation
    cases todo with
    | nil =>
      dsimp only
      split
      · exact ⟨nofun, nofun⟩
      · exact ⟨nofun, fun c m same => .inl same⟩
    | cons entry todo =>
      dsimp only [Effect.pure]
      split
      · exact ⟨nofun, nofun⟩
      · exact ⟨nofun, fun c m same => .inl same⟩
  | note | replace | done => exact ⟨nofun, fun c m same => .inl same⟩

/-- The pending files that stay were the call's before. -/
theorem Call.Holds.of_retried {stage : Stage} (member : u ∈ (call.advance stage).retried) : call.Holds u := by
  obtain ⟨explicit, task, stage', retried⟩ := call
  cases stage' with
  | retry uuid =>
    rcases List.mem_cons.mp member with rfl | member
    · exact .inl rfl
    · exact .inr member
  | identified | raised => exact .inr (List.mem_of_mem_tail member)
  | _ => exact .inr member

theorem holds_after (holds : (call.advance (operation host uuids external files count call).stage).Holds u) :
    call.Holds u ∨ u = count ∧ 0 < (operation host uuids external files count call).drawn := by
  rcases holds with own | member
  · exact ((operation_gains host uuids external files count call).1 u own).imp_left .inl
  · exact .inl (.of_retried member)

theorem Fine.drawn_after (fine : Fine uuids files count call) (u : Nat)
    (holds : (call.advance (operation host uuids external files count call).stage).Holds u) :
    u < count + (operation host uuids external files count call).drawn := by
  rcases holds_after holds with old | ⟨rfl, some⟩
  · exact Nat.lt_add_right _ (fine.drawn u old)
  · exact Nat.lt_add_of_pos_right some

/-! ## The next stage of a call -/

section Stages
variable {asked task : Option Text} {retried : List Nat}

/-- A call is fine after its next operation. -/
def Advances (host : Host) (uuids : Uuids) (external : Name → Except Exn Unit) (files : Files) (count : Nat)
    (call : Call) : Prop :=
  Fine uuids (next host uuids external files count call)
    (count + (operation host uuids external files count call).drawn)
    (call.advance (operation host uuids external files count call).stage)

theorem Advances.raised (fine : Fine uuids files count call)
    (ended : (operation host uuids external files count call).stage = .raised e) :
    Advances host uuids external files count call :=
  Fine.raised ended fine.drawn_after

/-- An operation of `initialize` before the identity is known. -/
theorem Advances.early (fine : Fine uuids files count call)
    (explicit : ∀ e, call.explicit = some e → e.blank = false) (after : Stage)
    (moved : (operation host uuids external files count call).stage = after)
    (run : after.runId? = none) (proposed : after.proposed? = none) (attempt : after.attempt? = none) :
    Advances host uuids external files count call := by
  subst moved
  exact Fine.early explicit fine.drawn_after run proposed attempt

/-- An operation under a known identity. -/
theorem Advances.settled (fine : Fine uuids files count call)
    (explicit : ∀ e, call.explicit = some e → e.blank = false)
    (identified : Identified files r ∧ ∀ e, call.explicit = some e → e = r) (after : Stage)
    (moved : (operation host uuids external files count call).stage = after)
    (run : after.runId? = some r) (proposed : after.proposed? = none)
    (owned : ∀ c n, after.attempt? = some (c, n) →
      (next host uuids external files count call (attemptDirectory c n)).isSome)
    (cleared : after.allocating = true → (call.advance after).retried = []) :
    Advances host uuids external files count call := by
  subst moved
  exact Fine.settled explicit ⟨identified.1.next, identified.2⟩ fine.drawn_after run proposed owned cleared

theorem construct_advances (fine : Fine uuids files count ⟨asked, task, .construct, retried⟩) :
    Advances host uuids external files count ⟨asked, task, .construct, retried⟩ := by
  cases asked with
  | none => exact .early fine nofun .begin rfl rfl rfl rfl
  | some e =>
    cases valid : safeComponent host e with
    | error raised => exact .raised fine (e := raised) (by simp [operation, valid, Effect.pure])
    | ok component =>
      refine .early fine (fun e' same => ?_) .begin (by simp [operation, valid, Effect.pure]) rfl rfl rfl
      obtain rfl := Option.some.inj same
      exact safeComponent_nonblank valid

theorem begin_advances (fine : Fine uuids files count ⟨asked, task, .begin, retried⟩) :
    Advances host uuids external files count ⟨asked, task, .begin, retried⟩ := by
  have known := fine.explicit nofun nofun
  cases accepted : external [] with
  | error e => exact .raised fine (e := e) (by simp only [operation, accepted, Effect.pure])
  | ok _ =>
    have moved : (operation host uuids external files count ⟨asked, task, .begin, retried⟩).stage =
        (ensureDirectory files [] .look).stage := by
      simp only [operation, accepted]
    rcases ensureDirectory_stage files [] .look with same | ⟨e, same⟩
    · exact .early fine known .look (moved.trans same) rfl rfl rfl
    · exact .raised fine (moved.trans same)

theorem look_advances (fine : Fine uuids files count ⟨asked, task, .look, retried⟩) :
    Advances host uuids external files count ⟨asked, task, .look, retried⟩ := by
  have known := fine.explicit nofun nofun
  cases link : isSymlink (files markerName) with
  | true => exact .raised fine (by rw [operation, if_pos link]; rfl)
  | false => exact .early fine known .probe (by rw [operation, if_neg (by simp [link])]; rfl) rfl rfl rfl

theorem probe_advances (fine : Fine uuids files count ⟨asked, task, .probe, retried⟩) :
    Advances host uuids external files count ⟨asked, task, .probe, retried⟩ := by
  have known := fine.explicit nofun nofun
  refine .early fine known _ rfl ?_ ?_ ?_
  · dsimp only [operation, Effect.pure]
    split <;> rfl
  · dsimp only [operation, Effect.pure]
    split <;> rfl
  · dsimp only [operation, Effect.pure]
    split <;> rfl

theorem read_advances (fine : Fine uuids files count ⟨asked, task, .read, retried⟩) :
    Advances host uuids external files count ⟨asked, task, .read, retried⟩ := by
  have known := fine.explicit nofun nofun
  cases found : readIdentity asked (files markerName) with
  | error e => exact .raised fine (e := e) (by simp only [operation, found, Effect.pure])
  | ok runId =>
    exact .settled fine known (readIdentity_ok found) (.identified runId)
      (by simp only [operation, found, Effect.pure]) rfl rfl nofun nofun

theorem create_advances (fine : Fine uuids files count ⟨asked, task, .create, retried⟩) :
    Advances host uuids external files count ⟨asked, task, .create, retried⟩ := by
  have known := fine.explicit nofun nofun
  cases taken : files (pendingName uuids count) with
  | some node => exact .early fine known (.retry count) (by simp only [operation, taken]) rfl rfl rfl
  | none =>
    have moved : (operation host uuids external files count ⟨asked, task, .create, retried⟩).stage =
        .write (asked.getD (uuids.hex (count + 1))) count := by
      simp only [operation, taken]
    refine ⟨fun _ _ => known, ?_, fine.drawn_after, ?_, ?_, ?_, ?_⟩ <;> rw [moved]
    · exact nofun
    · intro r same
      obtain rfl := Option.some.inj same
      cases asked with
      | none => exact ⟨uuids.nonblank _, nofun⟩
      | some e => exact ⟨known e rfl, fun e' same => (Option.some.inj same).symm⟩
    · exact nofun
    · exact nofun
    · exact nofun

theorem write_advances (fine : Fine uuids files count ⟨asked, task, .write runId uuid, retried⟩) :
    Advances host uuids external files count ⟨asked, task, .write runId uuid, retried⟩ := by
  have known := fine.explicit nofun nofun
  refine ⟨fun _ _ => known, nofun, fine.drawn_after, fun r same => fine.proposed r same, ?_, nofun, nofun⟩
  intro r u same
  cases same
  exact apply_single _ _ _

theorem link_advances (fine : Fine uuids files count ⟨asked, task, .link runId uuid, retried⟩) :
    Advances host uuids external files count ⟨asked, task, .link runId uuid, retried⟩ := by
  have known := fine.explicit nofun nofun
  have pending := fine.linked runId uuid rfl
  obtain ⟨nonblank, agrees⟩ := fine.proposed runId rfl
  cases published : files markerName with
  | none =>
    have moved : operation host uuids external files count ⟨asked, task, .link runId uuid, retried⟩ =
        ⟨[(markerName, some (.file (some (identityPayload runId))))], 0, .clear runId uuid⟩ := by
      simp only [operation, pending, published]
    have there : next host uuids external files count ⟨asked, task, .link runId uuid, retried⟩ markerName =
        some (.file (some (identityPayload runId))) := by
      rw [next, moved, apply_single]
    refine Fine.settled known (r := runId) ⟨⟨_, there, identityOf_payload nonblank⟩, agrees⟩ fine.drawn_after ?_ ?_ ?_ ?_ <;>
      rw [moved]
    · rfl
    · rfl
    · exact nofun
    · exact nofun
  | some node =>
    exact .early fine known (.retry uuid) (by simp only [operation, pending, published, Effect.pure])
      rfl rfl rfl

theorem retry_advances (fine : Fine uuids files count ⟨asked, task, .retry uuid, retried⟩) :
    Advances host uuids external files count ⟨asked, task, .retry uuid, retried⟩ :=
  .early fine (fine.explicit nofun nofun) .begin rfl rfl rfl rfl

theorem clear_advances (fine : Fine uuids files count ⟨asked, task, .clear runId uuid, retried⟩) :
    Advances host uuids external files count ⟨asked, task, .clear runId uuid, retried⟩ :=
  .settled fine (fine.explicit nofun nofun) (fine.identified runId rfl) (.identified runId)
    rfl rfl rfl nofun nofun

theorem identified_advances (fine : Fine uuids files count ⟨asked, task, .identified runId, retried⟩) :
    Advances host uuids external files count ⟨asked, task, .identified runId, retried⟩ := by
  have known := fine.explicit nofun nofun
  have identified := fine.identified runId rfl
  cases retried with
  | cons uuid rest => exact .settled fine known identified (.identified runId) rfl rfl rfl nofun nofun
  | nil =>
    cases task with
    | none => exact .settled fine known identified (.done runId none) rfl rfl rfl nofun fun _ => rfl
    | some taskId =>
      cases entered : enter host external files runId taskId with
      | error e => exact .raised fine (e := e) (by simp only [operation, entered, Effect.pure])
      | ok stage =>
        obtain ⟨component, rfl⟩ := enter_ok entered
        exact .settled fine known identified (.prepare runId taskId component 1)
          (by simp only [operation, entered, Effect.pure]) rfl rfl nofun fun _ => rfl

theorem prepare_advances (fine : Fine uuids files count ⟨asked, task, .prepare runId taskId component depth, retried⟩) :
    Advances host uuids external files count ⟨asked, task, .prepare runId taskId component depth, retried⟩ := by
  have known := fine.explicit nofun nofun
  have identified := fine.identified runId rfl
  by_cases deeper : depth < 3
  · have moved : (operation host uuids external files count
        ⟨asked, task, .prepare runId taskId component depth, retried⟩).stage =
        (ensureDirectory files (taskName component depth) (.prepare runId taskId component (depth + 1))).stage := by
      simp only [operation, if_pos deeper]
    rcases ensureDirectory_stage files (taskName component depth)
      (.prepare runId taskId component (depth + 1)) with same | ⟨e, same⟩
    · exact .settled fine known identified _ (moved.trans same) rfl rfl nofun fun _ => fine.cleared rfl
    · exact .raised fine (moved.trans same)
  · have moved : (operation host uuids external files count
        ⟨asked, task, .prepare runId taskId component depth, retried⟩).stage =
        (ensureDirectory files (taskName component depth) (.number runId taskId component 1)).stage := by
      simp only [operation, if_neg deeper]
    rcases ensureDirectory_stage files (taskName component depth)
      (.number runId taskId component 1) with same | ⟨e, same⟩
    · exact .settled fine known identified _ (moved.trans same) rfl rfl nofun fun _ => fine.cleared rfl
    · exact .raised fine (moved.trans same)

theorem number_advances (fine : Fine uuids files count ⟨asked, task, .number runId taskId component n, retried⟩) :
    Advances host uuids external files count ⟨asked, task, .number runId taskId component n, retried⟩ := by
  have known := fine.explicit nofun nofun
  have identified := fine.identified runId rfl
  cases taken : files (attemptDirectory component n) with
  | some node =>
    exact .settled fine known identified (.number runId taskId component (n + 1))
      (by simp only [operation, taken, Effect.pure]) rfl rfl nofun fun _ => fine.cleared rfl
  | none =>
    have moved : operation host uuids external files count
        ⟨asked, task, .number runId taskId component n, retried⟩ =
        ⟨[(attemptDirectory component n, some .directory)], 0,
          .fill runId taskId component n subdirectories⟩ := by
      simp only [operation, taken]
    refine .settled fine known identified _ (congrArg Effect.stage moved) rfl rfl ?_ fun _ => fine.cleared rfl
    intro c m same
    cases same
    rw [next, moved, apply_single]
    rfl

/-- The directory of an attempt stays when its call moves on. -/
theorem Fine.owned_after (fine : Fine uuids files count call) (c : Text) (n : Nat)
    (own : call.stage.attempt? = some (c, n)) :
    (next host uuids external files count call (attemptDirectory c n)).isSome := by
  rw [next_attempt (fine.owned c n own)]
  exact fine.owned c n own

theorem fill_advances (fine : Fine uuids files count ⟨asked, task, .fill runId taskId component n todo, retried⟩) :
    Advances host uuids external files count ⟨asked, task, .fill runId taskId component n todo, retried⟩ := by
  have known := fine.explicit nofun nofun
  have identified := fine.identified runId rfl
  cases todo with
  | nil =>
    cases taken : files (attemptPending uuids component n count) with
    | some node => exact .raised fine (by simp only [operation, taken]; rfl)
    | none =>
      exact .settled fine known identified (.note runId taskId component n count)
        (by simp only [operation, taken]) rfl rfl fine.owned_after fun _ => fine.cleared rfl
  | cons entry todo =>
    cases taken : files (attemptDirectory component n ++ [entry]) with
    | some node => exact .raised fine (by simp only [operation, taken, Effect.pure]; rfl)
    | none =>
      exact .settled fine known identified (.fill runId taskId component n todo)
        (by simp only [operation, taken]) rfl rfl fine.owned_after fun _ => fine.cleared rfl

theorem Fine.move (fine : Fine uuids files count call) : Advances host uuids external files count call := by
  obtain ⟨asked, task, stage, retried⟩ := call
  cases stage with
  | construct => exact construct_advances fine
  | begin => exact begin_advances fine
  | look => exact look_advances fine
  | probe => exact probe_advances fine
  | read => exact read_advances fine
  | create => exact create_advances fine
  | write => exact write_advances fine
  | link => exact link_advances fine
  | clear => exact clear_advances fine
  | retry => exact retry_advances fine
  | identified => exact identified_advances fine
  | prepare => exact prepare_advances fine
  | number => exact number_advances fine
  | fill => exact fill_advances fine
  | note runId =>
    exact .settled fine (fine.explicit nofun nofun) (fine.identified runId rfl) _ rfl rfl rfl fine.owned_after
      fun _ => fine.cleared rfl
  | replace runId =>
    exact .settled fine (fine.explicit nofun nofun) (fine.identified runId rfl) _ rfl rfl rfl fine.owned_after
      fun _ => fine.cleared rfl
  | done runId =>
    exact .settled fine (fine.explicit nofun nofun) (fine.identified runId rfl) _ rfl rfl rfl fine.owned_after
      fun _ => fine.cleared rfl
  | raised e =>
    cases retried with
    | nil => exact .raised fine rfl
    | cons => exact .raised fine rfl

end Stages

/-- The pending file or the attempt a call gains is nobody else's. -/
theorem Separate.move (separate : Separate call other) (theirs : Fine uuids files count other) :
    Separate (call.advance (operation host uuids external files count call).stage) other := by
  constructor
  · intro u mine yours
    rcases holds_after mine with old | ⟨rfl, _⟩
    · exact separate.uuid u old yours
    · exact absurd (theirs.drawn _ yours) (Nat.lt_irrefl _)
  · rintro ⟨c, n⟩ mine yours
    rcases (operation_gains host uuids external files count call).2 c n mine with old | absent
    · exact separate.attempt _ old yours
    · have present := theirs.owned c n yours
      rw [absent] at present
      cases present

end Operation

section Histories
variable {host : Host} {uuids : Uuids} {external : Name → Except Exn Unit}

/-- Every call is fine, and no two share anything. -/
structure Kept (uuids : Uuids) (system : System) : Prop where
  fine : ∀ id call, system.calls id = some call → Fine uuids system.files system.count call
  separate : ∀ id id' call call', system.calls id = some call → system.calls id' = some call' →
    id ≠ id' → Separate call call'

theorem step_kept {system : System} (kept : Kept uuids system) (action : Action) :
    Kept uuids (system.step host uuids external action) := by
  cases action with
  | start id explicit task =>
    unfold System.step
    cases taken : system.calls id with
    | some call => simpa only [taken] using kept
    | none =>
      simp only [taken]
      have idle : ∀ u, ¬ Call.Holds ⟨explicit, task, .construct, []⟩ u := by
        rintro u (own | own) <;> cases own
      have fresh : ∀ call, Separate ⟨explicit, task, .construct, []⟩ call :=
        fun _ => ⟨fun u holds => absurd holds (idle u), nofun⟩
      constructor
      · intro id' call here
        dsimp only at here ⊢
        by_cases same : id' = id
        · subst same
          rw [Function.update_self] at here
          obtain rfl := Option.some.inj here
          exact ⟨fun other => absurd rfl other, nofun, fun u holds => absurd holds (idle u), nofun, nofun, nofun, nofun⟩
        · rw [Function.update_of_ne same] at here
          exact kept.fine id' call here
      · intro one other call call' here there different
        dsimp only at here there
        by_cases first : one = id
        · subst first
          rw [Function.update_self] at here
          obtain rfl := Option.some.inj here
          exact fresh _
        · rw [Function.update_of_ne first] at here
          by_cases second : other = id
          · subst second
            rw [Function.update_self] at there
            obtain rfl := Option.some.inj there
            exact (fresh _).symm
          · rw [Function.update_of_ne second] at there
            exact kept.separate one other call call' here there different
  | move id =>
    unfold System.step
    cases known : system.calls id with
    | none => simpa only [known] using kept
    | some call =>
      simp only [known]
      constructor
      · intro id' other here
        dsimp only at here ⊢
        by_cases same : id' = id
        · subst same
          rw [Function.update_self] at here
          obtain rfl := Option.some.inj here
          exact (kept.fine id' call known).move
        · rw [Function.update_of_ne same] at here
          exact (kept.fine id' other here).frame
            (kept.separate id id' call other known here (Ne.symm same))
      · intro one two here there found found' different
        dsimp only at found found'
        by_cases first : one = id
        · subst first
          rw [Function.update_self] at found
          rw [Function.update_of_ne different.symm] at found'
          obtain rfl := Option.some.inj found
          exact (kept.separate one two call there known found' different).move
            (kept.fine two there found')
        · rw [Function.update_of_ne first] at found
          by_cases second : two = id
          · subst second
            rw [Function.update_self] at found'
            obtain rfl := Option.some.inj found'
            exact ((kept.separate two one call here known found different.symm).move
              (kept.fine one here found)).symm
          · rw [Function.update_of_ne second] at found'
            exact kept.separate one two here there found found' different

theorem run_kept {system : System} (kept : Kept uuids system) (actions : List Action) :
    Kept uuids (system.run host uuids external actions) := by
  induction actions generalizing system with
  | nil => exact kept
  | cons action rest ih => exact ih (step_kept kept action)

theorem run_marker {system : System} (published : system.files markerName = some node)
    (actions : List Action) :
    (system.run host uuids external actions).files markerName = some node := by
  induction actions generalizing system with
  | nil => exact published
  | cons action rest ih =>
    apply ih
    unfold System.step
    split
    · split <;> exact published
    · split
      · exact published
      · exact (next_marker (by rw [published]; rfl)).trans published

variable (host external) in
/-- A call that returned an attempt stays returned, and its directory as it is. -/
theorem step_returned {system : System} {id : Nat} (kept : Kept uuids system) {call : Call}
    (here : system.calls id = some call) (returned : call.stage = .done r (some (c, n)))
    (action : Action) : (system.step host uuids external action).calls id = some call ∧
      ∀ name, attemptDirectory c n <+: name →
        (system.step host uuids external action).files name = system.files name := by
  have own : call.stage.attempt? = some (c, n) := by rw [returned]; rfl
  unfold System.step
  cases action with
  | start id' explicit task =>
    dsimp only
    split
    · exact ⟨here, fun _ _ => rfl⟩
    · next fresh =>
      have other : id ≠ id' := by
        rintro rfl
        cases fresh.symm.trans here
      exact ⟨(Function.update_of_ne other _ _).trans here, fun _ _ => rfl⟩
  | move id' =>
    dsimp only
    split
    · exact ⟨here, fun _ _ => rfl⟩
    · next other there =>
      by_cases same : id' = id
      · subst same
        obtain rfl := Option.some.inj (there.symm.trans here)
        have still : operation host uuids external system.files system.count other =
            .pure (.done r (some (c, n))) := by
          rw [operation, returned]
        have whole : other.advance (.done r (some (c, n))) = other := by
          obtain ⟨asked, task, stage, retried⟩ := other
          cases returned
          rfl
        rw [still]
        exact ⟨(Function.update_self _ _ _).trans (congrArg some whole), fun _ _ => rfl⟩
      · refine ⟨(Function.update_of_ne (Ne.symm same) _ _).trans here, fun name within => ?_⟩
        exact next_inside ((kept.fine id call here).owned c n own)
          ((kept.separate id id' call other here there (Ne.symm same)).attempt _ own) within

theorem run_returned {system : System} {id : Nat} (kept : Kept uuids system) {call : Call}
    (here : system.calls id = some call) (returned : call.stage = .done r (some (c, n)))
    (actions : List Action) (within : attemptDirectory c n <+: name) :
    (system.run host uuids external actions).files name = system.files name := by
  induction actions generalizing system with
  | nil => rfl
  | cons action rest ih =>
    have moved := step_returned host external kept here returned action
    exact (ih (step_kept kept action) moved.1).trans (moved.2 name within)

/-! ## A conflicting identity -/

/-- How many operations a call is from reading a published marker. -/
def Stage.distance : Stage → Nat
  | .construct => 5
  | .begin => 4
  | .look => 3
  | .probe => 2
  | .read => 1
  | .create => 8
  | .write _ _ => 7
  | .link _ _ => 6
  | .retry _ => 5
  | _ => 0

theorem Stage.distance_le (stage : Stage) : stage.distance ≤ 8 := by
  cases stage <;> simp [distance]

/-- A call with another identity than the published one comes closer to raising. -/
theorem conflict_move {files : Files} {call : Call} (fine : Fine uuids files count call)
    (asked : call.explicit = some e) (identified : Identified files r) (different : e ≠ r) :
    (∃ error, call.stage = .raised error) ∨
      (∃ error, (operation host uuids external files count call).stage = .raised error) ∨
      (operation host uuids external files count call).stage.distance < call.stage.distance := by
  obtain ⟨identity, published, named⟩ := identified
  have elsewhere : call.stage.runId? = none := by
    cases run : call.stage.runId? with
    | none => rfl
    | some r' =>
      obtain ⟨⟨identity', published', named'⟩, agrees⟩ := fine.identified r' run
      rw [published] at published'
      cases published'
      rw [named] at named'
      cases named'
      exact absurd (agrees e asked) different
  obtain ⟨explicit, task, stage, retried⟩ := call
  obtain rfl := asked
  have ensured (next : Stage) : (∃ error, (ensureDirectory files [] next).stage = .raised error) ∨
      (ensureDirectory files [] next).stage = next := (ensureDirectory_stage files [] next).symm
  cases stage with
  | construct =>
    right
    unfold operation
    dsimp only [Effect.pure]
    split
    · exact .inl ⟨_, rfl⟩
    · exact .inr (by decide : 4 < 5)
  | begin =>
    right
    unfold operation
    dsimp only [Effect.pure]
    split
    · exact .inl ⟨_, rfl⟩
    · rcases ensured .look with raised | same
      · exact .inl raised
      · rw [same]
        exact .inr (by decide : 3 < 4)
  | look =>
    have moved : (operation host uuids external files count ⟨some e, task, .look, retried⟩).stage = .probe := by
      simp only [operation, published, isSymlink, Effect.pure]
      rfl
    rw [moved]
    exact .inr (.inr (by decide : 2 < 3))
  | probe =>
    have moved : (operation host uuids external files count ⟨some e, task, .probe, retried⟩).stage = .read := by
      simp only [operation, published, Effect.pure]
      rfl
    rw [moved]
    exact .inr (.inr (by decide : 1 < 2))
  | read =>
    have refused : readIdentity (some e) (files markerName) =
        .error (.policy "run identity conflicts with run.json") := by
      simp [readIdentity, published, named, different]
    have moved : (operation host uuids external files count ⟨some e, task, .read, retried⟩).stage =
        .raised (.policy "run identity conflicts with run.json") := by
      simp only [operation, refused, Effect.pure]
    exact .inr (.inl ⟨_, moved⟩)
  | create =>
    right
    right
    unfold operation
    dsimp only
    split
    · exact (by decide : 5 < 8)
    · exact (by decide : 7 < 8)
  | write r u => exact .inr (.inr (by decide : 6 < 7))
  | link r' u =>
    have pending := fine.linked r' u rfl
    have moved : (operation host uuids external files count ⟨some e, task, .link r' u, retried⟩).stage =
        .retry u := by
      simp only [operation, pending, published, Effect.pure]
    rw [moved]
    exact .inr (.inr (by decide : 5 < 6))
  | retry u => exact .inr (.inr (by decide : 4 < 5))
  | clear | identified | prepare | number | fill | note | replace | done => cases elsewhere
  | raised error => exact .inl ⟨error, rfl⟩

/-- How many operations of a call are among these actions. -/
def moves (id : Nat) (actions : List Action) : Nat :=
  (actions.filter fun action => match action with
    | .move id' => id' == id
    | .start _ _ _ => false).length

/-- Whatever happens in between, a conflicting call raises after its own next operations. -/
theorem conflict_raises {system : System} {id : Nat} {call : Call} (kept : Kept uuids system)
    (here : system.calls id = some call) (asked : call.explicit = some e)
    (identified : Identified system.files r) (different : e ≠ r) (actions : List Action)
    (enough : (∃ error, call.stage = .raised error) ∨ call.stage.distance < moves id actions) :
    ∃ call' error, (system.run host uuids external actions).calls id = some call' ∧
      call'.stage = .raised error := by
  induction actions generalizing system call with
  | nil =>
    rcases enough with ⟨error, raised⟩ | none
    · exact ⟨call, error, here, raised⟩
    · cases none
  | cons action rest ih =>
    have after : Kept uuids (system.step host uuids external action) := step_kept kept action
    have still : Identified (system.step host uuids external action).files r := by
      obtain ⟨identity, published, named⟩ := identified
      exact ⟨identity, run_marker published [action], named⟩
    by_cases own : action = .move id
    · subst own
      have counted : moves id (.move id :: rest) = moves id rest + 1 := by simp [moves]
      have moved : (system.step host uuids external (.move id)).calls id = some
          (call.advance (operation host uuids external system.files system.count call).stage) := by
        simp only [System.step, here, Function.update_self]
      apply ih after moved asked still
      rcases conflict_move (kept.fine id call here) asked identified different with
        ⟨error, raised⟩ | raised | closer
      · refine .inl ⟨error, ?_⟩
        rw [Call.advance_stage, operation, raised]
        dsimp only
        split <;> rfl
      · exact .inl raised
      · rcases enough with ⟨error, raised⟩ | enough
        · rw [raised] at closer
          cases closer
        · rw [counted] at enough
          exact .inr (Nat.lt_of_lt_of_le closer (Nat.le_of_lt_succ enough))
    · have same : (system.step host uuids external action).calls id = some call ∧
          moves id (action :: rest) = moves id rest := by
        cases action with
        | start id' explicit task =>
          refine ⟨?_, by simp [moves]⟩
          unfold System.step
          dsimp only
          split
          · exact here
          · next fresh =>
            have other : id ≠ id' := by
              rintro rfl
              cases fresh.symm.trans here
            exact (Function.update_of_ne other _ _).trans here
        | move id' =>
          have other : id' ≠ id := fun clash => own (by rw [clash])
          refine ⟨?_, by simp [moves, other]⟩
          unfold System.step
          dsimp only
          split
          · exact here
          · exact (Function.update_of_ne other.symm _ _).trans here
      rw [same.2] at enough
      exact ih after same.1 asked still enough

/-- Two moments of one run root. -/
structure Exclusive (before after : System) : Prop where
  /-- A published identity never changes. -/
  published : ∀ node, before.files markerName = some node → after.files markerName = some node
  /-- A call that returned works under it. -/
  agrees : ∀ id call r attempt, after.calls id = some call → call.stage = .done r attempt →
    Identified after.files r ∧ ∀ e, call.explicit = some e → e = r
  /-- No two calls return the same directory. -/
  distinct : ∀ id id' call call' r r' attempt, after.calls id = some call →
    after.calls id' = some call' → call.stage = .done r (some attempt) →
    call'.stage = .done r' (some attempt) → id = id'
  /-- Nothing in a returned directory changes. -/
  untouched : ∀ id call r c n, before.calls id = some call → call.stage = .done r (some (c, n)) →
    ∀ name, attemptDirectory c n <+: name → after.files name = before.files name

/-- Calls of one run root exclude each other in every interleaving from any file system, and a call
that asks for another identity than the published one raises. -/
theorem allocation_exclusive (host : Host) (uuids : Uuids) (external : Name → Except Exn Unit)
    (files : Files) (past later : List Action) :
    Exclusive (System.run host uuids external ⟨files, 0, fun _ => none⟩ past)
        (System.run host uuids external ⟨files, 0, fun _ => none⟩ (past ++ later)) ∧
      ∀ id call e r,
        (System.run host uuids external ⟨files, 0, fun _ => none⟩ past).calls id = some call →
        call.explicit = some e → Identified
          (System.run host uuids external ⟨files, 0, fun _ => none⟩ past).files r → e ≠ r →
        9 ≤ moves id later → ∃ call' error,
          (System.run host uuids external ⟨files, 0, fun _ => none⟩ (past ++ later)).calls id =
            some call' ∧ call'.stage = .raised error := by
  have start : Kept uuids ⟨files, 0, fun _ => none⟩ := by
    constructor
    · intro id call here
      cases here
    · intro id id' call call' here
      cases here
  have split : System.run host uuids external ⟨files, 0, fun _ => none⟩ (past ++ later) =
      (System.run host uuids external ⟨files, 0, fun _ => none⟩ past).run host uuids external later := by
    simp only [System.run, List.foldl_append]
  have kept : Kept uuids (System.run host uuids external ⟨files, 0, fun _ => none⟩ past) :=
    run_kept start past
  rw [split]
  generalize System.run host uuids external ⟨files, 0, fun _ => none⟩ past = before at *
  have after : Kept uuids (before.run host uuids external later) := run_kept kept later
  constructor
  · refine ⟨fun node there => run_marker there later, ?_, ?_, ?_⟩
    · intro id call r attempt here returned
      exact (after.fine id call here).identified r (by rw [returned]; rfl)
    · intro id id' call call' r r' attempt here here' returned returned'
      by_contra different
      exact (after.separate id id' call call' here here' different).attempt attempt
        (by rw [returned]; rfl) (by rw [returned']; rfl)
    · intro id call r c n here returned name within
      exact run_returned kept here returned later within
  · intro id call e r here asked identified different enough
    exact conflict_raises kept here asked identified different later
      (.inr (Nat.lt_of_lt_of_le (Nat.lt_succ_of_le call.stage.distance_le) enough))

end Histories

/-! Two callers that want different identities. -/

/-- Uuids that are told apart by their length. -/
def letters : Uuids where
  hex n := ⟨List.replicate (n + 1) 97⟩
  distinct a b same := by
    have sizes := congrArg (fun t : Text => t.codes.length) same
    simpa using sizes
  nonblank n := DirectoryNames.component_nonblank
    (fun c member => List.eq_of_mem_replicate member ▸ rfl) rfl

/-- The second caller has its pending file when the first one publishes. -/
def overtaken : List Action :=
  [.start 0 (some "first") none, .start 1 (some "second") none] ++ List.replicate 5 (.move 1) ++
    List.replicate 8 (.move 0)

theorem allocation_exclusive_conflict : ∃ call error,
    (System.run Host.sample letters (fun _ => .ok ()) ⟨fun _ => none, 0, fun _ => none⟩
      (overtaken ++ List.replicate 9 (.move 1))).calls 1 = some call ∧ call.stage = .raised error := by
  have published : Identified (System.run Host.sample letters (fun _ => .ok ()) ⟨fun _ => none, 0, fun _ => none⟩
      overtaken).files "first" := ⟨identityPayload "first", rfl, rfl⟩
  exact (allocation_exclusive Host.sample letters (fun _ => .ok ()) (fun _ => none) overtaken
    (List.replicate 9 (.move 1))).2 1 _ "second" "first" rfl rfl published (by decide) (by decide)
end Allocation
end InferForge

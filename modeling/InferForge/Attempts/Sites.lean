import InferForge.Attempts.Exclusive
import InferForge.DirectoryNames
import Mathlib.Logic.Relation

/-! Any number of run roots, also inside each other's attempts. Their calls interleave with workers that
write files, copy attempt directories elsewhere and remove them. -/
namespace InferForge
open Py Effect

namespace Allocation
namespace Sites

def markerOf (directory : Name) : Name := directory ++ ([".attempt.json"] : Name)

/-- The files below a directory, by their names from there. -/
def under (files : Files) (root : Name) : Files := fun name => files (root ++ name)

/-- The names that only the harness writes. -/
def reserved (name : Text) : Bool :=
  name == ".attempt.json" || name == "run.json" ||
    (Text.ofString ".run.").codes.isPrefixOf name.codes || (Text.ofString "..attempt.json.").codes.isPrefixOf name.codes

def Plain (name : Name) : Prop := ∀ last, name.getLast? = some last → reserved last = false

/-- All files, by absolute names. -/
structure Site where
  files : Files
  count : Nat
  /-- The calls with their run roots. -/
  calls : Nat → Option (Name × Call)
  /-- The call that made the attempt directory which stands under a name. -/
  maker : Name → Option Nat

/-- The attempt a call makes with an operation. -/
def claimed (before after : Stage) : Option (Text × Nat) :=
  match before.attempt? with
  | none => after.attempt?
  | some _ => none

/-- A call that has nothing to do any more. -/
def settled (call : Call) : Bool :=
  match call.stage with
  | .done _ _ | .raised _ => call.retried.isEmpty
  | _ => false

/-- The deepest directory a call still counts on. -/
def held : Stage → Name
  | .prepare _ _ component _ | .number _ _ component _ => taskName component 3
  | .fill _ _ component n _ | .note _ _ component n _ | .replace _ _ component n _ => attemptDirectory component n
  | _ => []

/-- No call in progress counts on anything in this directory. -/
def Site.Unused (s : Site) (directory : Name) : Prop :=
  ∀ id root call, s.calls id = some (root, call) → settled call = false → ¬ directory <+: root ++ held call.stage

section Steps
variable (host : Host) (uuids : Uuids) (external : Name → Except Exn Unit)

def Site.effect (s : Site) (root : Name) (call : Call) : Effect :=
  operation host uuids (fun name => external (root ++ name)) (under s.files root) s.count call

/-- A site after an operation of a call. -/
def Site.after (s : Site) (id : Nat) (root : Name) (call : Call) (effect : Effect) : Site where
  files := apply s.files (effect.changes.map fun change => (root ++ change.1, change.2))
  count := s.count + effect.drawn
  calls := Function.update s.calls id (some (root, call.advance effect.stage))
  maker := match claimed call.stage effect.stage with
    | some (component, n) => Function.update s.maker (root ++ attemptDirectory component n) (some id)
    | none => s.maker

/-- The next operation of a call. -/
def Site.move (s : Site) (id : Nat) : Site :=
  match s.calls id with
  | none => s
  | some (root, call) => s.after id root call (s.effect host uuids external root call)

def Site.start (s : Site) (id : Nat) (root : Name) (explicit task : Option Text) : Site :=
  { s with calls := Function.update s.calls id (some (root, ⟨explicit, task, .construct, []⟩)) }

/-- `copytree`, and `rename` up to removing the source. -/
def Site.copy (s : Site) (source target : Name) : Site :=
  { s with files := fun name => if target <+: name then s.files (source ++ name.drop target.length) else s.files name }

def Site.remove (s : Site) (directory : Name) : Site :=
  { s with
    files := fun name => if directory <+: name then none else s.files name
    maker := fun name => if directory <+: name then none else s.maker name }

def Site.write (s : Site) (name : Name) (node : Option Node) : Site :=
  { s with files := Function.update s.files name node }

inductive Step : Site → Site → Prop
  | start (id : Nat) (root : Name) (explicit task : Option Text) (fresh : s.calls id = none) (plain : Plain root) :
      Step s (s.start id root explicit task)
  | move (id : Nat) : Step s (s.move host uuids external id)
  | copy (source target : Name) (attempt : (s.files (markerOf source)).isSome)
      (free : ∀ rest, s.files (target ++ rest) = none) (plain : Plain target) : Step s (s.copy source target)
  | remove (directory : Name) (there : s.files directory = some .directory) (unused : s.Unused directory) :
      Step s (s.remove directory)
  | write (name : Name) (node : Option Node) (other : s.files name ≠ some .directory) (plain : Plain name) :
      Step s (s.write name node)

/-- What can come of these files. -/
abbrev Reached (files : Files) : Site → Prop :=
  Relation.ReflTransGen (Step host uuids external) ⟨files, 0, fun _ => none, fun _ => none⟩

end Steps

/-- A call returned this attempt. -/
def Granted (s : Site) (root : Name) (runId taskId component : Text) (n : Nat) : Prop :=
  ∃ id call, s.calls id = some (root, call) ∧ call.task = some taskId ∧ call.stage = .done runId (some (component, n))

/-! ## Names -/

theorem attemptName_digits (n : Nat) : ∀ c ∈ (attemptName n).codes, Loads.isDigit c = true := by
  intro c member
  rw [attemptName, List.mem_append] at member
  rcases member with zero | digit
  · rw [List.eq_of_mem_replicate zero]
    rfl
  · exact nat_digits n c digit

theorem attemptName_undotted (n : Nat) {name : Text} (dot : (46 : CodePoint) ∈ name.codes) : attemptName n ≠ name := by
  rintro rfl
  have digit := attemptName_digits n 46 dot
  revert digit
  decide

theorem component_unmarked (accepted : safeComponent host t = .ok component) : component ≠ ".attempt.json" := by
  rintro rfl
  have dot : (Text.ofString ".attempt.json").codes.head? = some 46 := rfl
  obtain ⟨_, ⟨clean, _⟩ | ⟨_, _, same⟩⟩ := (DirectoryNames.safeComponent_ok host).mp accepted
  · rename_i same
    obtain ⟨⟨first, head, letter⟩, _⟩ := DirectoryNames.plain_iff.mp (same ▸ clean)
    rw [dot] at head
    obtain rfl := Option.some.inj head
    revert letter
    decide
  · have head : (DirectoryNames.hashed host t).codes.head? = some ((t.codes.find? DirectoryNames.isWord).getD 105) := by
      rw [DirectoryNames.hashed_codes, List.head?_append, DirectoryNames.stem_head]
      rfl
    rw [← same, dot] at head
    cases found : t.codes.find? DirectoryNames.isWord with
    | none =>
      rw [found] at head
      revert head
      decide
    | some c =>
      rw [found] at head
      obtain rfl := Option.some.inj head
      have word := List.find?_some found
      revert word
      decide

section Last
variable {root : Name} {uuids : Uuids}

theorem last_append (front : Name) (last : Text) : (front ++ [last]).getLast? = some last := by
  rw [List.getLast?_append]
  rfl

theorem last_marker : (root ++ markerName).getLast? = some (Text.ofString "run.json") := last_append root _

theorem last_markerOf (directory : Name) : (markerOf directory).getLast? = some (Text.ofString ".attempt.json") :=
  last_append directory _

theorem last_pending : (root ++ pendingName uuids u).getLast? = some (".run." ++ uuids.hex u ++ ".pending") :=
  last_append root _

theorem last_attempt : (root ++ attemptDirectory c n).getLast? = some (attemptName n) := by
  rw [List.getLast?_append]
  rfl

theorem last_note : (root ++ attemptPending uuids c n u).getLast? =
    some (Text.ofString "..attempt.json." ++ uuids.hex u ++ ".pending") := by
  rw [List.getLast?_append]
  rfl

/-! The names that the harness writes are told apart by their first two characters. -/

theorem pending_ne_run (rest last : Text) : Text.ofString ".run." ++ rest ++ last ≠ "run.json" := by
  intro same
  have first := congrArg (fun t : Text => t.codes.head?) same
  cases first

theorem note_ne_run (rest last : Text) : Text.ofString "..attempt.json." ++ rest ++ last ≠ "run.json" := by
  intro same
  have first := congrArg (fun t : Text => t.codes.head?) same
  cases first

theorem pending_ne_marker (rest last : Text) : Text.ofString ".run." ++ rest ++ last ≠ ".attempt.json" := by
  intro same
  have second := congrArg (fun t : Text => t.codes.tail.head?) same
  cases second

theorem note_ne_marker (rest last : Text) : Text.ofString "..attempt.json." ++ rest ++ last ≠ ".attempt.json" := by
  intro same
  have second := congrArg (fun t : Text => t.codes.tail.head?) same
  cases second

theorem pending_ne_note (rest last rest' last' : Text) :
    Text.ofString ".run." ++ rest ++ last ≠ Text.ofString "..attempt.json." ++ rest' ++ last' := by
  intro same
  have second := congrArg (fun t : Text => t.codes.tail.head?) same
  cases second

theorem dotted (front rest last : Text) (dot : (46 : CodePoint) ∈ front.codes) : 46 ∈ (front ++ rest ++ last).codes := by
  simp [dot]

/-- Equal names of one kind are in one place. -/
theorem same_place {uuids : Uuids} {root root' : Name} (same : root ++ attemptPending uuids c n u = root' ++ attemptPending uuids c' n' u') :
    root ++ attemptDirectory c n = root' ++ attemptDirectory c' n' := by
  have fronts := congrArg List.dropLast same
  simpa [attemptPending, attemptDirectory, List.dropLast_append] using fronts

end Last

/-! ## What an operation may change -/

/-- The task a stage works at, and its directory. -/
def work? : Stage → Option (Text × Text)
  | .prepare _ taskId component _ | .number _ taskId component _ | .fill _ taskId component _ _
  | .note _ taskId component _ _ | .replace _ taskId component _ _ => some (taskId, component)
  | _ => none

inductive Change (uuids : Uuids) (files : Files) (count : Nat) (call : Call) : Name → Option Node → Prop
  /-- What is made anew is not an attempt marker. -/
  | fresh (absent : files name = none) (unmarked : name.getLast? ≠ some (Text.ofString ".attempt.json")) :
      Change uuids files count call name (some node)
  | pending (own : call.Holds uuid ∨ uuid = count) : Change uuids files count call (pendingName uuids uuid) node
  | note (own : call.stage.attempt? = some (component, n)) :
      Change uuids files count call (attemptPending uuids component n uuid) node
  | mark (replacing : call.stage = .replace runId taskId component n uuid) :
      Change uuids files count call (attemptMarker component n) (files (attemptPending uuids component n uuid))

/-- A stage works at the task of its call, in the directory of that task. -/
structure Proper (host : Host) (task : Option Text) (stage : Stage) : Prop where
  work : ∀ t c, work? stage = some (t, c) → task = some t ∧ safeComponent host t = .ok c
  filling : ∀ r t c n todo, stage = .fill r t c n todo → todo ⊆ subdirectories

section Operation
variable {host : Host} {uuids : Uuids} {external : Name → Except Exn Unit} {files : Files} {count : Nat} {call : Call}

theorem attempt_unmarked (component : Text) (n : Nat) :
    (attemptDirectory component n).getLast? ≠ some (Text.ofString ".attempt.json") := by
  intro same
  exact attemptName_undotted n (by decide) (Option.some.inj same)

theorem taskName_unmarked {component : Text} (other : component ≠ ".attempt.json") (depth : Nat) :
    (taskName component depth).getLast? ≠ some (Text.ofString ".attempt.json") := by
  have tasks : Text.ofString "tasks" ≠ ".attempt.json" := by decide
  have attempts : Text.ofString "attempts" ≠ ".attempt.json" := by decide
  intro same
  have member := List.mem_of_mem_take (List.mem_of_getLast? same)
  simp only [List.mem_cons, List.not_mem_nil, or_false] at member
  rcases member with same | same | same
  · exact tasks same.symm
  · exact other same.symm
  · exact attempts same.symm

theorem subdirectory_unmarked (listed : name ∈ subdirectories) :
    (attemptDirectory component n ++ [name]).getLast? ≠ some (Text.ofString ".attempt.json") := by
  have none : Text.ofString ".attempt.json" ∉ subdirectories := by decide
  rw [last_append]
  intro same
  exact none (Option.some.inj same ▸ listed)

theorem operation_changes (proper : Proper host call.task call.stage)
    (change : Name × Option Node) (member : change ∈ (operation host uuids external files count call).changes) :
    Change uuids files count call change.1 change.2 := by
  unfold operation at member
  split at member
  case h_1 =>
    split at member <;> cases member
  case h_2 =>
    split at member
    · cases member
    · obtain ⟨absent, rfl⟩ := ensureDirectory_changes member
      exact .fresh absent (by rintro ⟨⟩)
  case h_3 =>
    split at member <;> cases member
  case h_4 => cases member
  case h_5 =>
    split at member <;> cases member
  case h_6 =>
    dsimp only at member
    split at member
    · cases member
    · obtain rfl := List.mem_singleton.mp member
      exact .pending (.inr rfl)
  case h_7 runId uuid stage =>
    obtain rfl := List.mem_singleton.mp member
    exact .pending (.inl (.inl (by rw [stage]; rfl)))
  case h_8 runId uuid stage =>
    split at member
    · cases member
    · next absent =>
      obtain rfl := List.mem_singleton.mp member
      have other : markerName.getLast? ≠ some (Text.ofString ".attempt.json") := by decide
      exact .fresh absent other
    · cases member
  case h_9 runId uuid stage =>
    obtain rfl := List.mem_singleton.mp member
    exact .pending (.inl (.inl (by rw [stage]; rfl)))
  case h_10 => cases member
  case h_11 =>
    split at member
    · next retried =>
      obtain rfl := List.mem_singleton.mp member
      exact .pending (.inl (.inr (by rw [retried]; exact List.mem_cons_self)))
    · cases member
    · split at member <;> cases member
  case h_12 runId taskId component depth stage =>
    obtain ⟨absent, rfl⟩ := ensureDirectory_changes member
    have other := component_unmarked (proper.work taskId component (by rw [stage]; rfl)).2
    exact .fresh absent (taskName_unmarked other depth)
  case h_13 runId taskId component n stage =>
    split at member
    · cases member
    · next absent =>
      obtain rfl := List.mem_singleton.mp member
      exact .fresh absent (attempt_unmarked component n)
  case h_14 runId taskId component n name todo stage =>
    split at member
    · cases member
    · next absent =>
      obtain rfl := List.mem_singleton.mp member
      have listed := proper.filling runId taskId component n (name :: todo) stage List.mem_cons_self
      exact .fresh absent (subdirectory_unmarked listed)
  case h_15 runId taskId component n stage =>
    dsimp only at member
    split at member <;> obtain rfl := List.mem_singleton.mp member <;> exact .note (by rw [stage]; rfl)
  case h_16 runId taskId component n uuid stage =>
    obtain rfl := List.mem_singleton.mp member
    exact .note (by rw [stage]; rfl)
  case h_17 runId taskId component n uuid stage =>
    rcases List.mem_cons.mp member with rfl | member
    · exact .mark stage
    · obtain rfl := List.mem_singleton.mp member
      exact .note (by rw [stage]; rfl)
  case h_18 => cases member
  case h_19 =>
    split at member
    · next retried =>
      obtain rfl := List.mem_singleton.mp member
      exact .pending (.inl (.inr (by rw [retried]; exact List.mem_cons_self)))
    · cases member

/-- What the next operation of a call leads to. -/
structure Next (host : Host) (uuids : Uuids) (files : Files) (call : Call) (effect : Effect) : Prop where
  proper : Proper host call.task effect.stage
  made : ∀ c n, effect.stage.attempt? = some (c, n) → call.stage.attempt? = some (c, n) ∨
    call.stage.attempt? = none ∧ files (attemptDirectory c n) = none ∧
      effect.changes = [(attemptDirectory c n, some .directory)]
  noted : ∀ r t c n u, effect.stage = .replace r t c n u →
    effect.changes = [(attemptPending uuids c n u, some (.file (some (attemptPayload r t (attemptName n)))))]
  done : ∀ r c n, effect.stage = .done r (some (c, n)) →
    call.stage = .done r (some (c, n)) ∨ ∃ t u, call.stage = .replace r t c n u

theorem Proper.idle {stage : Stage} (none : work? stage = none) : Proper host task stage := by
  constructor
  · intro t c same
    cases none.symm.trans same
  · rintro r t c n todo rfl
    cases none

/-- A call that has no attempt yet. -/
theorem Next.before {effect : Effect} (proper : Proper host call.task effect.stage)
    (none : effect.stage.attempt? = none) : Next host uuids files call effect := by
  refine ⟨proper, ?_, ?_, ?_⟩
  · intro c n same
    cases none.symm.trans same
  · intro r t c n u same
    rw [same] at none
    cases none
  · intro r c n same
    rw [same] at none
    cases none

theorem Next.ensured {stage : Stage} (proper : Proper host call.task stage) (none : stage.attempt? = none) :
    Next host uuids files call (ensureDirectory files name stage) := by
  rcases ensureDirectory_stage files name stage with same | ⟨e, same⟩
  · exact .before (by rw [same]; exact proper) (by rw [same]; exact none)
  · exact .before (by rw [same]; exact .idle rfl) (by rw [same]; rfl)

/-- A call that is filling its attempt. -/
theorem Next.within {effect : Effect} (proper : Proper host call.task effect.stage)
    (same : effect.stage.attempt? = call.stage.attempt?) (early : ∀ r t c n u, effect.stage ≠ .replace r t c n u)
    (late : ∀ r a, effect.stage ≠ .done r a) : Next host uuids files call effect :=
  ⟨proper, fun _ _ here => .inl (same ▸ here), fun r t c n u here => absurd here (early r t c n u),
    fun r c n here => absurd here (late r (some (c, n)))⟩

/-- A stage that goes on with the task of its call. -/
theorem Proper.going {stage : Stage} (known : task = some taskId ∧ safeComponent host taskId = .ok component)
    (same : work? stage = some (taskId, component))
    (filling : ∀ r t c n todo, stage = .fill r t c n todo → todo ⊆ subdirectories) : Proper host task stage := by
  refine ⟨fun t c here => ?_, filling⟩
  cases same.symm.trans here
  exact known

section Stages
variable {asked task : Option Text} {retried : List Nat}

theorem identified_next : Next host uuids files ⟨asked, task, .identified runId, retried⟩
    (operation host uuids external files count ⟨asked, task, .identified runId, retried⟩) := by
  unfold operation
  dsimp only
  split
  · exact .before (.idle rfl) rfl
  · exact .before (.idle rfl) rfl
  · next taskId _ =>
    split
    · next stage entered =>
      obtain ⟨component, accepted, rest⟩ := bind_ok.mp entered
      obtain ⟨_, _, rest⟩ := bind_ok.mp rest
      obtain ⟨_, _, rest⟩ := bind_ok.mp rest
      obtain rfl := pure_ok.mp rest
      exact .before (.going ⟨rfl, accepted⟩ rfl (by rintro _ _ _ _ _ ⟨⟩)) rfl
    · exact .before (.idle rfl) rfl

theorem prepare_next (proper : Proper host task (.prepare runId taskId component depth)) :
    Next host uuids files ⟨asked, task, .prepare runId taskId component depth, retried⟩
      (operation host uuids external files count ⟨asked, task, .prepare runId taskId component depth, retried⟩) := by
  have known := proper.work taskId component rfl
  unfold operation
  dsimp only
  split
  · exact .ensured (.going known rfl (by rintro _ _ _ _ _ ⟨⟩)) rfl
  · exact .ensured (.going known rfl (by rintro _ _ _ _ _ ⟨⟩)) rfl

theorem number_next (proper : Proper host task (.number runId taskId component n)) :
    Next host uuids files ⟨asked, task, .number runId taskId component n, retried⟩
      (operation host uuids external files count ⟨asked, task, .number runId taskId component n, retried⟩) := by
  have known := proper.work taskId component rfl
  unfold operation
  dsimp only
  split
  · exact .before (.going known rfl (by rintro _ _ _ _ _ ⟨⟩)) rfl
  · next absent =>
    refine ⟨.going known rfl ?_, ?_, ?_, ?_⟩
    · rintro r t c n todo ⟨⟩
      exact List.Subset.refl _
    · intro c m same
      cases same
      exact .inr ⟨rfl, absent, rfl⟩
    · rintro r t c n u ⟨⟩
    · rintro r c n ⟨⟩

theorem fill_next (proper : Proper host task (.fill runId taskId component n todo)) :
    Next host uuids files ⟨asked, task, .fill runId taskId component n todo, retried⟩
      (operation host uuids external files count ⟨asked, task, .fill runId taskId component n todo, retried⟩) := by
  have known := proper.work taskId component rfl
  cases todo with
  | cons name todo =>
    have listed := proper.filling runId taskId component n (name :: todo) rfl
    unfold operation
    dsimp only
    split
    · exact .before (.idle rfl) rfl
    · refine .within (.going known rfl ?_) rfl (by rintro _ _ _ _ _ ⟨⟩) (by rintro _ _ ⟨⟩)
      rintro r t c n todo ⟨⟩
      exact List.subset_of_cons_subset listed
  | nil =>
    unfold operation
    dsimp only
    split
    · exact .before (.idle rfl) rfl
    · refine .within (.going known rfl ?_) rfl (by rintro _ _ _ _ _ ⟨⟩) (by rintro _ _ ⟨⟩)
      rintro r t c n todo ⟨⟩

theorem operation_next (proper : Proper host call.task call.stage) :
    Next host uuids files call (operation host uuids external files count call) := by
  obtain ⟨explicit, task, stage, retried⟩ := call
  cases stage with
  | construct | look | probe | read | create | link | raised =>
    unfold operation
    dsimp only
    split <;> exact .before (.idle rfl) rfl
  | begin =>
    unfold operation
    dsimp only
    split
    · exact .before (.idle rfl) rfl
    · exact .ensured (.idle rfl) rfl
  | write | clear | retry => exact .before (.idle rfl) rfl
  | identified => exact identified_next
  | prepare => exact prepare_next proper
  | number => exact number_next proper
  | fill => exact fill_next proper
  | note runId taskId component n uuid =>
    refine ⟨.going (proper.work _ _ rfl) rfl ?_, fun c m same => .inl same, ?_, ?_⟩
    · rintro r t c n todo ⟨⟩
    · rintro r t c n u ⟨⟩
      rfl
    · rintro r c n ⟨⟩
  | replace runId taskId component n uuid =>
    refine ⟨.idle rfl, fun c m same => .inl same, ?_, ?_⟩
    · rintro r t c n u ⟨⟩
    · rintro r c n ⟨⟩
      exact .inr ⟨_, _, rfl⟩
  | done runId attempt =>
    refine ⟨.idle rfl, fun c m same => .inl same, ?_, fun r c n same => .inl same⟩
    rintro r t c n u ⟨⟩

end Stages

theorem operation_settled (ended : settled call = true) :
    operation host uuids external files count call = .pure call.stage := by
  obtain ⟨explicit, task, stage, retried⟩ := call
  cases stage with
  | done => rfl
  | raised =>
    obtain rfl := List.isEmpty_iff.mp ended
    rfl
  | _ => cases ended

theorem advance_settled (ended : settled call = true) : call.advance call.stage = call := by
  obtain ⟨explicit, task, stage, retried⟩ := call
  cases stage with
  | done => rfl
  | raised =>
    obtain rfl := List.isEmpty_iff.mp ended
    rfl
  | _ => cases ended

/-- A settled call has no pending files. -/
theorem not_holds_settled (ended : settled call = true) : ¬ call.Holds u := by
  obtain ⟨explicit, task, stage, retried⟩ := call
  cases stage with
  | done | raised =>
    obtain rfl := List.isEmpty_iff.mp ended
    rintro (own | own) <;> cases own
  | _ => cases ended

end Operation

/-! ## Files after changes -/

section Files
variable {files : Files} {root : Name} {changes : List (Name × Option Node)}

/-- The changes of a call, by absolute names. -/
abbrev absolute (root : Name) (changes : List (Name × Option Node)) : List (Name × Option Node) :=
  changes.map fun change => (root ++ change.1, change.2)

theorem under_apply : under (apply files (absolute root changes)) root = apply (under files root) changes := by
  induction changes generalizing files with
  | nil => rfl
  | cons change rest ih =>
    rw [absolute, List.map_cons, apply, List.foldl_cons, ← apply, ih, apply, apply, List.foldl_cons]
    congr 1
    funext name
    by_cases same : name = change.1
    · rw [under, same, Function.update_self, Function.update_self]
    · rw [under, Function.update_of_ne same, Function.update_of_ne fun clash => same (List.append_cancel_left clash)]
      rfl

/-- A name either stands as before, or a change gave it what it has. -/
theorem apply_cases (files : Files) (changes : List (Name × Option Node)) (name : Name) :
    apply files changes name = files name ∨ ∃ change ∈ changes, change.1 = name ∧ apply files changes name = change.2 := by
  induction changes generalizing files with
  | nil => exact .inl rfl
  | cons change rest ih =>
    rw [apply, List.foldl_cons, ← apply]
    rcases ih (Function.update files change.1 change.2) with same | ⟨other, member, named, given⟩
    · by_cases own : name = change.1
      · refine .inr ⟨change, List.mem_cons_self, own.symm, ?_⟩
        rw [same, own, Function.update_self]
      · rw [Function.update_of_ne own] at same
        exact .inl same
    · exact .inr ⟨other, List.mem_cons_of_mem _ member, named, given⟩

end Files

end Sites
end Allocation
end InferForge

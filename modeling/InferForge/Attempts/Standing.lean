import InferForge.Attempts.Sites

/-! What every marker and every returned attempt is known by, whatever calls and workers did. -/
namespace InferForge
open Py Effect

namespace Allocation
namespace Sites

/-- The names whose files a call in progress relies on. -/
inductive Relied (uuids : Uuids) (root : Name) (stage : Stage) : Name → Prop
  | marker (run : stage.runId? = some r) : Relied uuids root stage (root ++ markerName)
  | pending (linking : stage = .link r u) : Relied uuids root stage (root ++ pendingName uuids u)
  | attempt (own : stage.attempt? = some (c, n)) : Relied uuids root stage (root ++ attemptDirectory c n)
  | note (replacing : stage = .replace r t c n u) : Relied uuids root stage (root ++ attemptPending uuids c n u)

structure Working (host : Host) (uuids : Uuids) (s : Site) (id : Nat) (root : Name) (call : Call) : Prop where
  fine : Fine uuids (under s.files root) s.count call
  proper : Proper host call.task call.stage
  made : ∀ c n, call.stage.attempt? = some (c, n) → s.maker (root ++ attemptDirectory c n) = some id
  noted : ∀ r t c n u, call.stage = .replace r t c n u →
    s.files (root ++ attemptPending uuids c n u) = some (.file (some (attemptPayload r t (attemptName n))))

/-- The names a returned attempt is found by. -/
inductive Found (root : Name) (c : Text) (n : Nat) : Name → Prop
  | directory : Found root c n (root ++ attemptDirectory c n)
  | marker : Found root c n (markerOf (root ++ attemptDirectory c n))
  | run : Found root c n (root ++ markerName)

/-- What a returned attempt has while its directory stands. -/
structure Returned (s : Site) (root : Name) (r t c : Text) (n : Nat) : Prop where
  marker : s.files (markerOf (root ++ attemptDirectory c n)) = some (.file (some (attemptPayload r t (attemptName n))))
  run : Identified (under s.files root) r

structure Sound (host : Host) (uuids : Uuids) (s : Site) : Prop where
  working : ∀ id root call, s.calls id = some (root, call) → settled call = false →
    Working host uuids s id root call
  plain : ∀ id root call, s.calls id = some (root, call) → Plain root
  apart : ∀ id id' root root' call call' u, s.calls id = some (root, call) → s.calls id' = some (root', call') →
    call.Holds u → call'.Holds u → id = id'
  /-- Wherever it lies, a marker names an attempt that was returned. -/
  marked : ∀ directory node, s.files (markerOf directory) = some node → ∃ root r t c n, Granted s root r t c n ∧
    safeComponent host t = .ok c ∧ r.blank = false ∧ node = .file (some (attemptPayload r t (attemptName n)))
  named : ∀ id root call r t c n, s.calls id = some (root, call) → call.task = some t →
    call.stage = .done r (some (c, n)) → safeComponent host t = .ok c ∧ r.blank = false
  placed : ∀ directory id, s.maker directory = some id → ∃ root c n, directory = root ++ attemptDirectory c n
  stands : ∀ directory id, s.maker directory = some id → s.files directory = some .directory
  returned : ∀ id root call r t c n, s.calls id = some (root, call) → call.task = some t →
    call.stage = .done r (some (c, n)) → s.maker (root ++ attemptDirectory c n) = some id → Returned s root r t c n

section Invariant
variable {host : Host} {uuids : Uuids} {external : Name → Except Exn Unit} {s s' : Site} {id : Nat}

theorem Working.frame (working : Working host uuids s id root call)
    (kept : ∀ name node, Relied uuids root call.stage name → s.files name = some node → s'.files name = some node)
    (count : s.count ≤ s'.count)
    (maker : ∀ c n, call.stage.attempt? = some (c, n) → s'.maker (root ++ attemptDirectory c n) = some id) :
    Working host uuids s' id root call where
  fine := by
    have fine := working.fine
    refine ⟨fine.explicit, fun r run => ?_, fun u own => Nat.lt_of_lt_of_le (fine.drawn u own) count, fine.proposed,
      fun r u linking => kept _ _ (.pending linking) (fine.linked r u linking), fun c n own => ?_, fine.cleared⟩
    · obtain ⟨⟨identity, published, named⟩, agrees⟩ := fine.identified r run
      exact ⟨⟨identity, kept _ _ (.marker run) published, named⟩, agrees⟩
    · obtain ⟨node, there⟩ := Option.isSome_iff_exists.mp (fine.owned c n own)
      exact Option.isSome_iff_exists.mpr ⟨node, kept _ _ (.attempt own) there⟩
  proper := working.proper
  made := maker
  noted := fun r t c n u replacing => kept _ _ (.note replacing) (working.noted r t c n u replacing)

theorem Returned.frame (returned : Returned s root r t c n)
    (kept : ∀ name node, Found root c n name → s.files name = some node → s'.files name = some node) :
    Returned s' root r t c n := by
  obtain ⟨marker, identity, published, named⟩ := returned
  exact ⟨kept _ _ .marker marker, identity, kept _ _ .run published, named⟩

/-- A directory that is counted on, or a file of the harness in one above it. -/
def Guarded (s : Site) (base name : Name) : Prop :=
  s.files name = some .directory ∧ name = base ∨ ∃ content front last, s.files name = some (.file content) ∧
    name = front ++ [last] ∧ reserved last = true ∧ front <+: base

theorem reserved_marker : reserved ".attempt.json" = true := rfl

theorem reserved_run : reserved "run.json" = true := rfl

theorem reserved_pending (rest : Text) : reserved (".run." ++ rest) = true := by
  simp [reserved, List.prefix_append]

theorem reserved_note (rest : Text) : reserved (Text.ofString "..attempt.json." ++ rest) = true := by
  simp [reserved, List.prefix_append]

theorem Working.guarded (working : Working host uuids s id root call) (busy : settled call = false)
    (stands : ∀ directory id, s.maker directory = some id → s.files directory = some .directory)
    (relied : Relied uuids root call.stage name) : Guarded s (root ++ held call.stage) name := by
  cases relied with
  | marker run =>
    obtain ⟨⟨identity, published, _⟩, _⟩ := working.fine.identified _ run
    exact .inr ⟨_, root, _, published, rfl, reserved_run, List.prefix_append _ _⟩
  | pending linking =>
    exact .inr ⟨_, root, _, working.fine.linked _ _ linking, rfl, reserved_pending _, List.prefix_append _ _⟩
  | attempt own =>
    refine .inl ⟨stands _ _ (working.made _ _ own), ?_⟩
    obtain ⟨explicit, task, stage, retried⟩ := call
    cases stage with
    | fill | note | replace =>
      cases own
      rfl
    | done =>
      cases working.fine.cleared rfl
      cases busy
    | _ => cases own
  | note replacing =>
    rename_i r t c n u
    have whole : root ++ attemptPending uuids c n u =
        (root ++ attemptDirectory c n) ++ [Text.ofString "..attempt.json." ++ uuids.hex u ++ ".pending"] :=
      (List.append_assoc _ _ _).symm
    refine .inr ⟨_, root ++ attemptDirectory c n, _, working.noted r t c n u replacing, whole, reserved_note _, ?_⟩
    rw [replacing]
    exact List.prefix_refl _

theorem Returned.guarded (returned : Returned s root r t c n)
    (stands : s.files (root ++ attemptDirectory c n) = some .directory) (found : Found root c n name) :
    Guarded s (root ++ attemptDirectory c n) name := by
  cases found with
  | directory => exact .inl ⟨stands, rfl⟩
  | marker => exact .inr ⟨_, _, _, returned.marker, rfl, reserved_marker, List.prefix_refl _⟩
  | run =>
    obtain ⟨identity, published, _⟩ := returned.run
    exact .inr ⟨_, root, _, published, rfl, reserved_run, List.prefix_append _ _⟩

/-- A step that moves no call. -/
theorem Sound.environment (sound : Sound host uuids s) (safe : Name → Prop) (calls : s'.calls = s.calls)
    (count : s'.count = s.count)
    (busy : ∀ id root call, s.calls id = some (root, call) → settled call = false → safe (root ++ held call.stage))
    (maker : ∀ directory id, s'.maker directory = some id → s.maker directory = some id ∧ safe directory)
    (still : ∀ directory, safe directory → s'.maker directory = s.maker directory)
    (kept : ∀ base name node, safe base → Guarded s base name → s.files name = some node → s'.files name = some node)
    (marks : ∀ directory node, s'.files (markerOf directory) = some node → ∃ source, s.files (markerOf source) = some node) :
    Sound host uuids s' := by
  constructor
  · intro id root call here unsettled
    rw [calls] at here
    have working := sound.working id root call here unsettled
    have free := busy id root call here unsettled
    refine working.frame (fun name node relied => kept _ name node free (working.guarded unsettled sound.stands relied))
      count.ge fun c n own => ?_
    have held' : root ++ attemptDirectory c n = root ++ held call.stage := by
      rcases working.guarded unsettled sound.stands (.attempt own) with ⟨_, same⟩ | ⟨_, _, _, file, _⟩
      · exact same
      · rw [sound.stands _ _ (working.made c n own)] at file
        cases file
    rw [still _ (held' ▸ free)]
    exact working.made c n own
  · rw [calls]
    exact sound.plain
  · rw [calls]
    exact sound.apart
  · intro directory node there
    obtain ⟨source, same⟩ := marks directory node there
    obtain ⟨root, r, t, c, n, granted, rest⟩ := sound.marked source node same
    refine ⟨root, r, t, c, n, ?_, rest⟩
    unfold Granted
    rw [calls]
    exact granted
  · rw [calls]
    exact sound.named
  · intro directory id made
    exact sound.placed directory id (maker directory id made).1
  · intro directory id made
    obtain ⟨before, free⟩ := maker directory id made
    have there := sound.stands directory id before
    exact kept directory directory _ free (.inl ⟨there, rfl⟩) there
  · intro id root call r t c n here asked ended made
    rw [calls] at here
    obtain ⟨before, free⟩ := maker _ id made
    have returned := sound.returned id root call r t c n here asked ended before
    exact returned.frame fun name node found => kept _ name node free (returned.guarded (sound.stands _ id before) found)

/-- What is copied to a free place covers nothing. -/
theorem Sound.copy (sound : Sound host uuids s) (free : ∀ rest, s.files (target ++ rest) = none) (plain : Plain target) :
    Sound host uuids (s.copy source target) := by
  refine sound.environment (fun _ => True) rfl rfl (fun _ _ _ _ _ => trivial)
    (fun _ _ made => ⟨made, trivial⟩) (fun _ _ => rfl) (fun base name node _ _ there => ?_) fun directory node there => ?_
  · have outside : ¬ target <+: name := by
      rintro ⟨rest, rfl⟩
      rw [free rest] at there
      cases there
    exact (if_neg outside).trans there
  · by_cases inside : target <+: markerOf directory
    · replace there : s.files (source ++ (markerOf directory).drop target.length) = some node := (if_pos inside).symm.trans there
      obtain ⟨rest, whole⟩ := inside
      rw [← whole, List.drop_left] at there
      rcases List.eq_nil_or_concat' rest with rfl | ⟨front, last, rfl⟩
      · rw [List.append_nil] at whole
        have hidden := plain _ (whole ▸ last_markerOf directory)
        cases hidden
      · have same : last = Text.ofString ".attempt.json" := by
          have ends := congrArg List.getLast? whole
          rw [last_markerOf, ← List.append_assoc, last_append] at ends
          exact Option.some.inj ends
        subst same
        exact ⟨source ++ front, by rw [markerOf, List.append_assoc]; exact there⟩
    · exact ⟨directory, (if_neg inside).symm.trans there⟩

theorem Sound.remove (sound : Sound host uuids s) (there : s.files directory = some .directory)
    (unused : s.Unused directory) : Sound host uuids (s.remove directory) := by
  refine sound.environment (fun base => ¬ directory <+: base) rfl rfl unused (fun name id made => ?_)
    (fun name outside => if_neg outside) (fun base name node outside guarded here => ?_) fun name node here => ?_
  · by_cases inside : directory <+: name
    · cases (if_pos inside).symm.trans made
    · exact ⟨(if_neg inside).symm.trans made, inside⟩
  · refine (if_neg fun inside => ?_).trans here
    rcases guarded with ⟨_, rfl⟩ | ⟨content, front, last, file, rfl, _, above⟩
    · exact outside inside
    · rcases List.prefix_concat_iff.mp inside with rfl | inside
      · rw [there] at file
        cases file
      · exact outside (inside.trans above)
  · by_cases inside : directory <+: markerOf name
    · cases (if_pos inside).symm.trans here
    · exact ⟨name, (if_neg inside).symm.trans here⟩

theorem Sound.write (sound : Sound host uuids s) (other : s.files name ≠ some .directory) (plain : Plain name) :
    Sound host uuids (s.write name node) := by
  have elsewhere {given : Name} {last : Text} (named : given.getLast? = some last) (known : reserved last = true) :
      given ≠ name := by
    rintro rfl
    rw [plain last named] at known
    cases known
  refine sound.environment (fun _ => True) rfl rfl (fun _ _ _ _ _ => trivial)
    (fun _ _ made => ⟨made, trivial⟩) (fun _ _ => rfl) (fun base given found _ guarded here => ?_) fun directory found here => ?_
  · refine (Function.update_of_ne ?_ _ _).trans here
    rcases guarded with ⟨dir, _⟩ | ⟨content, front, last, _, rfl, known, _⟩
    · rintro rfl
      exact other dir
    · exact elsewhere (last_append front last) known
  · exact ⟨directory, (Function.update_of_ne (elsewhere (last_markerOf directory) reserved_marker) _ _).symm.trans here⟩

theorem Sound.start (sound : Sound host uuids s) (fresh : s.calls id = none) (plain : Plain root) :
    Sound host uuids (s.start id root explicit task) := by
  have other {id' : Nat} {found : Name × Call} (here : (s.start id root explicit task).calls id' = some found) :
      id' = id ∧ found = (root, ⟨explicit, task, .construct, []⟩) ∨ s.calls id' = some found := by
    by_cases same : id' = id
    · subst same
      exact .inl ⟨rfl, Option.some.inj ((Function.update_self _ _ _).symm.trans here).symm⟩
    · exact .inr ((Function.update_of_ne same _ _).symm.trans here)
  constructor
  · intro id' root' call here busy
    rcases other here with ⟨rfl, same⟩ | old
    · cases same
      refine ⟨⟨fun begun => absurd rfl begun, ?_, ?_, ?_, ?_, ?_, fun _ => rfl⟩, .idle rfl, ?_, ?_⟩
      · rintro r ⟨⟩
      · rintro u (own | own) <;> cases own
      · rintro r ⟨⟩
      · rintro r u ⟨⟩
      · rintro c n ⟨⟩
      · rintro c n ⟨⟩
      · rintro r t c n u ⟨⟩
    · exact (sound.working id' root' call old busy).frame (fun _ _ _ there => there) (Nat.le_refl _)
        (sound.working id' root' call old busy).made
  · intro id' root' call here
    rcases other here with ⟨rfl, same⟩ | old
    · cases same
      exact plain
    · exact sound.plain id' root' call old
  · intro one two root1 root2 call1 call2 u here there own own'
    rcases other here with ⟨rfl, same⟩ | old
    · cases same
      rcases own with own | own <;> cases own
    · rcases other there with ⟨rfl, same⟩ | old'
      · cases same
        rcases own' with own | own <;> cases own
      · exact sound.apart one two root1 root2 call1 call2 u old old' own own'
  · intro directory node there
    obtain ⟨root', r, t, c, n, ⟨id', call, here, granted⟩, rest⟩ := sound.marked directory node there
    have different : id' ≠ id := by
      rintro rfl
      rw [fresh] at here
      cases here
    exact ⟨root', r, t, c, n, ⟨id', call, (Function.update_of_ne different _ _).trans here, granted⟩, rest⟩
  · intro id' root' call r t c n here asked ended
    rcases other here with ⟨rfl, same⟩ | old
    · cases same
      cases ended
    · exact sound.named id' root' call r t c n old asked ended
  · exact sound.placed
  · exact sound.stands
  · intro id' root' call r t c n here asked ended made
    rcases other here with ⟨rfl, same⟩ | old
    · cases same
      cases ended
    · exact (sound.returned id' root' call r t c n old asked ended made).frame fun _ _ _ there => there

theorem identityOf_nonblank (named : identityOf identity = some r) : r.blank = false := by
  unfold identityOf at named
  split at named
  · split at named
    · split at named
      · split at named
        · cases named
        · next some' =>
          cases named
          exact Bool.eq_false_iff.mpr some'
      · cases named
    · cases named
  · cases named

section Moving
variable {root : Name} {call : Call}

theorem move_eq (here : s.calls id = some (root, call)) :
    s.move host uuids external id = s.after id root call (s.effect host uuids external root call) := by
  rw [Site.move, here]

theorem move_settled (here : s.calls id = some (root, call)) (ended : settled call = true) :
    s.move host uuids external id = s := by
  have effect : s.effect host uuids external root call = .pure call.stage := operation_settled ended
  have nothing : claimed call.stage call.stage = none := by
    unfold claimed
    cases call.stage.attempt? <;> rfl
  rw [move_eq here, effect, Site.after]
  dsimp only [Effect.pure]
  rw [nothing, advance_settled ended]
  congr 1
  exact Function.update_eq_self_iff.mpr here.symm

/-- What a call in progress leaves: all that stands, but its own files. -/
theorem Working.keeps (working : Working host uuids s id root call) (there : s.files name = some node)
    (pending : ∀ u, call.Holds u ∨ u = s.count → name ≠ root ++ pendingName uuids u)
    (note : ∀ c n u, call.stage.attempt? = some (c, n) → name ≠ root ++ attemptPending uuids c n u)
    (mark : ∀ c n, call.stage.attempt? = some (c, n) → name ≠ markerOf (root ++ attemptDirectory c n)) :
    (s.after id root call (s.effect host uuids external root call)).files name = some node := by
  refine (apply_other fun change member same => ?_).trans there
  obtain ⟨⟨place, given⟩, listed, rfl⟩ := List.mem_map.mp member
  cases operation_changes working.proper _ listed with
  | fresh absent _ =>
    rw [← same] at there
    cases absent.symm.trans there
  | pending own => exact pending _ own same.symm
  | note own => exact note _ _ _ own same.symm
  | mark replacing =>
    refine mark _ _ (by rw [replacing]; rfl) ?_
    rw [← same]
    exact (List.append_assoc root (attemptDirectory _ _) _).symm

theorem Working.keeps_undotted (working : Working host uuids s id root call) (there : s.files name = some node)
    {last : Text} (named : name.getLast? = some last) (plain : (46 : CodePoint) ∉ last.codes) :
    (s.after id root call (s.effect host uuids external root call)).files name = some node := by
  have other {given : Name} {text : Text} (ends : given.getLast? = some text) (dot : (46 : CodePoint) ∈ text.codes) :
      name ≠ given := by
    rintro rfl
    rw [named] at ends
    exact plain (Option.some.inj ends ▸ dot)
  exact working.keeps there (fun u _ => other last_pending (dotted _ _ _ (by decide)))
    (fun c n u _ => other last_note (dotted _ _ _ (by decide))) fun c n _ => other (last_markerOf _) (by decide)

theorem Working.keeps_directory (working : Working host uuids s id root call)
    (there : s.files (root' ++ attemptDirectory c n) = some node) :
    (s.after id root call (s.effect host uuids external root call)).files (root' ++ attemptDirectory c n) = some node :=
  working.keeps_undotted there last_attempt fun dot => attemptName_undotted n dot rfl

theorem Working.keeps_run (working : Working host uuids s id root call) (there : s.files (root' ++ markerName) = some node) :
    (s.after id root call (s.effect host uuids external root call)).files (root' ++ markerName) = some node := by
  have other {given : Name} {text : Text} (ends : given.getLast? = some text) (apart : text ≠ "run.json") :
      root' ++ markerName ≠ given := by
    rintro rfl
    rw [last_marker] at ends
    exact apart (Option.some.inj ends).symm
  exact working.keeps there (fun u _ => other last_pending (pending_ne_run _ _))
    (fun c n u _ => other last_note (note_ne_run _ _)) fun c n _ => other (last_markerOf _) (by decide)

/-- The marker of an attempt that is not its own. -/
theorem Working.keeps_marker (working : Working host uuids s id root call) (there : s.files (markerOf directory) = some node)
    (foreign : ∀ c n, call.stage.attempt? = some (c, n) → directory ≠ root ++ attemptDirectory c n) :
    (s.after id root call (s.effect host uuids external root call)).files (markerOf directory) = some node := by
  have other {given : Name} {text : Text} (ends : given.getLast? = some text) (apart : text ≠ ".attempt.json") :
      markerOf directory ≠ given := by
    rintro rfl
    rw [last_markerOf] at ends
    exact apart (Option.some.inj ends).symm
  exact working.keeps there (fun u _ => other last_pending (pending_ne_marker _ _))
    (fun c n u _ => other last_note (note_ne_marker _ _))
    fun c n own same => foreign c n own (List.append_cancel_right same)

theorem Working.keeps_pending (working : Working host uuids s id root call)
    (there : s.files (root' ++ pendingName uuids u) = some node) (drawn : u < s.count) (foreign : ¬ call.Holds u) :
    (s.after id root call (s.effect host uuids external root call)).files (root' ++ pendingName uuids u) = some node := by
  refine working.keeps there (fun v own same => ?_) (fun c n v _ same => ?_) fun c n _ same => ?_
  · have ends := congrArg List.getLast? same
    rw [last_pending, last_pending] at ends
    have hexes := congrArg Text.codes (Option.some.inj ends)
    simp only [Text.codes_append, List.append_assoc] at hexes
    obtain rfl := uuids.distinct (Text.ext (List.append_cancel_right (List.append_cancel_left hexes)))
    rcases own with own | rfl
    · exact foreign own
    · exact Nat.lt_irrefl _ drawn
  · have ends := congrArg List.getLast? same
    rw [last_pending, last_note] at ends
    exact pending_ne_note _ _ _ _ (Option.some.inj ends)
  · have ends := congrArg List.getLast? same
    rw [last_pending, last_markerOf] at ends
    exact pending_ne_marker _ _ (Option.some.inj ends)

theorem Working.keeps_note (working : Working host uuids s id root call)
    (there : s.files (root' ++ attemptPending uuids c n u) = some node)
    (foreign : ∀ c' n', call.stage.attempt? = some (c', n') → root' ++ attemptDirectory c n ≠ root ++ attemptDirectory c' n') :
    (s.after id root call (s.effect host uuids external root call)).files (root' ++ attemptPending uuids c n u) = some node := by
  refine working.keeps there (fun v own same => ?_) (fun c' n' v own same => ?_) fun c' n' own same => ?_
  · have ends := congrArg List.getLast? same
    rw [last_pending, last_note] at ends
    exact pending_ne_note _ _ _ _ (Option.some.inj ends).symm
  · exact foreign c' n' own (same_place same)
  · have ends := congrArg List.getLast? same
    rw [last_note, last_markerOf] at ends
    exact note_ne_marker _ _ (Option.some.inj ends)

/-- What another call in progress relies on. -/
theorem Sound.keeps_relied (sound : Sound host uuids s) (here : s.calls id = some (root, call))
    (busy : settled call = false) (there : s.calls id' = some (root', call')) (busy' : settled call' = false)
    (different : id' ≠ id) (relied : Relied uuids root' call'.stage name) (known : s.files name = some node) :
    (s.after id root call (s.effect host uuids external root call)).files name = some node := by
  have working := sound.working id root call here busy
  have other := sound.working id' root' call' there busy'
  cases relied with
  | marker => exact working.keeps_run known
  | pending linking =>
    rename_i r u
    have own : call'.Holds u := .inl (by rw [linking]; rfl)
    exact working.keeps_pending known (other.fine.drawn _ own)
      fun mine => different (sound.apart id' id root' root call' call _ there here own mine)
  | attempt => exact working.keeps_directory known
  | note replacing =>
    refine working.keeps_note known fun c' n' mine same => different ?_
    have theirs := other.made _ _ (show call'.stage.attempt? = some _ by rw [replacing]; rfl)
    rw [same, working.made c' n' mine] at theirs
    exact (Option.some.inj theirs).symm

/-- What the directory of another call stands with. -/
theorem Sound.keeps_returned (sound : Sound host uuids s) (here : s.calls id = some (root, call))
    (busy : settled call = false) (returned : Returned s root' r t c n)
    (made : s.maker (root' ++ attemptDirectory c n) = some id') (different : id' ≠ id) :
    Returned (s.after id root call (s.effect host uuids external root call)) root' r t c n := by
  have working := sound.working id root call here busy
  refine returned.frame fun name node found known => ?_
  cases found with
  | directory => exact working.keeps_directory known
  | marker =>
    refine working.keeps_marker known fun c' n' mine same => different ?_
    rw [same, working.made c' n' mine] at made
    exact (Option.some.inj made).symm
  | run => exact working.keeps_run known

/-- The call itself, after its operation. -/
theorem Working.next (working : Working host uuids s id root call) :
    Working host uuids (s.after id root call (s.effect host uuids external root call)) id root
      (call.advance (s.effect host uuids external root call).stage) := by
  have leads : Next host uuids (under s.files root) call (s.effect host uuids external root call) :=
    operation_next working.proper
  have files : under (s.after id root call (s.effect host uuids external root call)).files root =
      apply (under s.files root) (s.effect host uuids external root call).changes := under_apply
  refine ⟨?_, leads.proper, fun c n own => ?_, fun r t c n u replacing => ?_⟩
  · rw [files]
    exact working.fine.move
  · unfold Site.after claimed
    rcases leads.made c n own with old | ⟨none, _, _⟩
    · rw [old]
      exact working.made c n old
    · rw [Call.advance_stage] at own
      rw [none, own]
      exact Function.update_self _ _ _
  · have written := congrFun files (attemptPending uuids c n u)
    rw [leads.noted r t c n u replacing, apply_single] at written
    exact written

/-- An attempt that is returned now. -/
theorem Working.returns (working : Working host uuids s id root call) (busy : settled call = false)
    (asked : call.task = some t) (ended : (s.effect host uuids external root call).stage = .done r (some (c, n))) :
    Returned (s.after id root call (s.effect host uuids external root call)) root r t c n ∧
      safeComponent host t = .ok c ∧ r.blank = false := by
  have leads : Next host uuids (under s.files root) call (s.effect host uuids external root call) :=
    operation_next working.proper
  have files : under (s.after id root call (s.effect host uuids external root call)).files root =
      apply (under s.files root) (s.effect host uuids external root call).changes := under_apply
  obtain ⟨explicit, task, stage, retried⟩ := call
  rcases leads.done r c n ended with old | ⟨t', u, old⟩
  · dsimp only at old
    subst old
    cases working.fine.cleared rfl
    cases busy
  · dsimp only at old asked
    subst old
    obtain ⟨same, accepted⟩ := working.proper.work t' c rfl
    obtain rfl := Option.some.inj (asked.symm.trans same)
    obtain ⟨identified, _⟩ := working.next.fine.identified r (by rw [ended]; rfl)
    have nonblank : r.blank = false := by
      obtain ⟨identity, _, named⟩ := identified
      exact identityOf_nonblank named
    refine ⟨⟨?_, identified⟩, accepted, nonblank⟩
    have written := congrFun files (attemptMarker c n)
    have other : attemptMarker c n ≠ attemptPending uuids c n u := by
      intro same
      have ends := congrArg List.getLast? same
      rw [attemptMarker, attemptPending, last_append, last_append] at ends
      exact note_ne_marker _ _ (Option.some.inj ends).symm
    have given : apply (under s.files root) (s.effect host uuids external root
        ⟨explicit, task, .replace r t c n u, retried⟩).changes (attemptMarker c n) =
          s.files (root ++ attemptPending uuids c n u) :=
      (Function.update_of_ne other _ _).trans (Function.update_self _ _ _)
    rw [given, working.noted r t c n u rfl] at written
    rw [markerOf, List.append_assoc]
    exact written

theorem maker_after (s : Site) (id : Nat) (root : Name) (call : Call) (effect : Effect) (directory : Name) :
    (s.after id root call effect).maker directory = s.maker directory ∨ ∃ c n, call.stage.attempt? = none ∧
      effect.stage.attempt? = some (c, n) ∧ directory = root ++ attemptDirectory c n ∧
        (s.after id root call effect).maker directory = some id := by
  unfold Site.after claimed
  cases own : call.stage.attempt? with
  | some a => exact .inl rfl
  | none =>
    cases next : effect.stage.attempt? with
    | none => exact .inl rfl
    | some a =>
      obtain ⟨c, n⟩ := a
      by_cases same : directory = root ++ attemptDirectory c n
      · subst same
        exact .inr ⟨c, n, rfl, rfl, rfl, Function.update_self _ _ _⟩
      · exact .inl (Function.update_of_ne same _ _)

/-- What the other calls returned is still theirs. -/
theorem Granted.after (granted : Granted s root' r t c n) (here : s.calls id = some (root, call))
    (working : Working host uuids s id root call) (busy : settled call = false) (effect : Effect) : Granted (s.after id root call effect) root' r t c n := by
  obtain ⟨id', call', there, asked, ended⟩ := granted
  have different : id' ≠ id := by
    rintro rfl
    cases here.symm.trans there
    have cleared := working.fine.cleared (by rw [ended]; rfl)
    rw [settled, ended, cleared] at busy
    cases busy
  exact ⟨id', call', (Function.update_of_ne different _ _).trans there, asked, ended⟩

section Next
variable (sound : Sound host uuids s) (here : s.calls id = some (root, call)) (busy : settled call = false)

theorem calls_after {effect : Effect} (there : (s.after id root call effect).calls id' = some found) :
    id' = id ∧ found = (root, call.advance effect.stage) ∨ id' ≠ id ∧ s.calls id' = some found := by
  by_cases same : id' = id
  · subst same
    exact .inl ⟨rfl, Option.some.inj ((Function.update_self _ _ _).symm.trans there).symm⟩
  · exact .inr ⟨same, (Function.update_of_ne same _ _).symm.trans there⟩

include sound here busy

theorem after_working
    (there : (s.after id root call (s.effect host uuids external root call)).calls id' = some (root', call'))
    (busy' : settled call' = false) :
    Working host uuids (s.after id root call (s.effect host uuids external root call)) id' root' call' := by
  have working := sound.working id root call here busy
  have leads : Next host uuids (under s.files root) call (s.effect host uuids external root call) :=
    operation_next working.proper
  rcases calls_after there with ⟨rfl, same⟩ | ⟨different, old⟩
  · cases same
    exact working.next
  · have other := sound.working id' root' call' old busy'
    refine other.frame (fun name node relied known => sound.keeps_relied here busy old busy' different relied known)
      (Nat.le_add_right _ _) fun c n own => ?_
    rcases maker_after s id root call (s.effect host uuids external root call) (root' ++ attemptDirectory c n) with
      same | ⟨d, m, none, made, same, _⟩
    · exact same.trans (other.made c n own)
    · rcases leads.made d m made with mine | ⟨_, absent, _⟩
      · cases none.symm.trans mine
      · have there := sound.stands _ _ (other.made c n own)
        rw [same] at there
        cases absent.symm.trans there

omit here busy in
/-- The uuids of all calls were drawn. -/
theorem drawn_before (old : s.calls id' = some (root', call')) (own : call'.Holds u) : u < s.count := by
  have unsettled : settled call' = false := Bool.eq_false_iff.mpr fun ended => not_holds_settled ended own
  exact (sound.working id' root' call' old unsettled).fine.drawn u own

omit busy in
theorem after_apart
    (there : (s.after id root call (s.effect host uuids external root call)).calls one = some (root1, call1))
    (there' : (s.after id root call (s.effect host uuids external root call)).calls two = some (root2, call2))
    (own : call1.Holds u) (own' : call2.Holds u) : one = two := by
  have clash {id' : Nat} {root' : Name} {call' : Call} (old : s.calls id' = some (root', call'))
      (mine : (call.advance (s.effect host uuids external root call).stage).Holds u) (own : call'.Holds u) :
      id' = id := by
    rcases holds_after mine with before | ⟨rfl, _⟩
    · exact sound.apart id' id root' root call' call u old here own before
    · exact absurd (drawn_before sound old own) (Nat.lt_irrefl _)
  rcases calls_after there with ⟨rfl, same⟩ | ⟨_, old⟩
  · cases same
    rcases calls_after there' with ⟨rfl, _⟩ | ⟨_, old'⟩
    · rfl
    · exact (clash old' own own').symm
  · rcases calls_after there' with ⟨rfl, same⟩ | ⟨_, old'⟩
    · cases same
      exact clash old own' own
    · exact sound.apart one two root1 root2 call1 call2 u old old' own own'

/-- A new marker is the one that the call gives its own attempt. -/
theorem after_marked
    (there : (s.after id root call (s.effect host uuids external root call)).files (markerOf directory) = some node) :
    ∃ root' r t c n, Granted (s.after id root call (s.effect host uuids external root call)) root' r t c n ∧
      safeComponent host t = .ok c ∧ r.blank = false ∧ node = .file (some (attemptPayload r t (attemptName n))) := by
  have working := sound.working id root call here busy
  rcases apply_cases s.files (absolute root (s.effect host uuids external root call).changes) (markerOf directory) with
    same | ⟨change, member, named, given⟩
  · obtain ⟨root', r, t, c, n, granted, rest⟩ := sound.marked directory node (same.symm.trans there)
    exact ⟨root', r, t, c, n, granted.after here working busy _, rest⟩
  · have value := given.symm.trans there
    obtain ⟨⟨place, what⟩, listed, rfl⟩ := List.mem_map.mp member
    dsimp only at named value
    have ends := (congrArg List.getLast? named).trans (last_markerOf directory)
    cases operation_changes working.proper _ listed with
    | fresh absent unmarked =>
      rcases List.eq_nil_or_concat' place with rfl | ⟨front, last, rfl⟩
      · rw [List.append_nil] at ends
        have hidden := sound.plain id root call here _ ends
        cases hidden
      · rw [← List.append_assoc, last_append] at ends
        rw [last_append] at unmarked
        exact absurd ends unmarked
    | pending own => exact absurd (Option.some.inj (last_pending.symm.trans ends)) (pending_ne_marker _ _)
    | note own => exact absurd (Option.some.inj (last_note.symm.trans ends)) (note_ne_marker _ _)
    | mark replacing =>
      rename_i r t c n u
      obtain ⟨asked, _⟩ := working.proper.work t c (by rw [replacing]; rfl)
      have ended : (s.effect host uuids external root call).stage = .done r (some (c, n)) := by
        rw [Site.effect, operation, replacing]
      obtain ⟨_, accepted, nonblank⟩ := working.returns busy asked ended
      refine ⟨root, r, t, c, n, ⟨id, _, Function.update_self _ _ _, asked, ended⟩, accepted, nonblank, ?_⟩
      exact Option.some.inj (value.symm.trans (working.noted r t c n u replacing))

theorem after_stands
    (made : (s.after id root call (s.effect host uuids external root call)).maker directory = some id') :
    (s.after id root call (s.effect host uuids external root call)).files directory = some .directory := by
  have working := sound.working id root call here busy
  have leads : Next host uuids (under s.files root) call (s.effect host uuids external root call) :=
    operation_next working.proper
  rcases maker_after s id root call (s.effect host uuids external root call) directory with
    same | ⟨c, n, none, own, rfl, _⟩
  · rw [same] at made
    obtain ⟨root', c, n, rfl⟩ := sound.placed directory id' made
    exact working.keeps_directory (sound.stands _ id' made)
  · rcases leads.made c n own with mine | ⟨_, _, changes⟩
    · cases none.symm.trans mine
    · have written : under (s.after id root call (s.effect host uuids external root call)).files root (attemptDirectory c n) =
          apply (under s.files root) (s.effect host uuids external root call).changes (attemptDirectory c n) :=
        congrFun under_apply _
      have made : (s.effect host uuids external root call).changes = [(attemptDirectory c n, some .directory)] := changes
      rw [made, apply_single] at written
      exact written

theorem after_returned
    (there : (s.after id root call (s.effect host uuids external root call)).calls id' = some (root', call'))
    (asked : call'.task = some t) (ended : call'.stage = .done r (some (c, n)))
    (made : (s.after id root call (s.effect host uuids external root call)).maker (root' ++ attemptDirectory c n) = some id') :
    Returned (s.after id root call (s.effect host uuids external root call)) root' r t c n := by
  rcases calls_after there with ⟨rfl, same⟩ | ⟨different, old⟩
  · cases same
    exact ((sound.working id' root call here busy).returns busy asked ended).1
  · rcases maker_after s id root call (s.effect host uuids external root call) (root' ++ attemptDirectory c n) with
      same | ⟨_, _, _, _, _, mine⟩
    · rw [same] at made
      exact sound.keeps_returned here busy (sound.returned id' root' call' r t c n old asked ended made) made different
    · rw [mine] at made
      exact absurd (Option.some.inj made).symm different

end Next

theorem Sound.move (sound : Sound host uuids s) (id : Nat) : Sound host uuids (s.move host uuids external id) := by
  cases here : s.calls id with
  | none => rwa [Site.move, here]
  | some found =>
  obtain ⟨root, call⟩ := found
  cases busy : settled call with
  | true => rwa [move_settled here busy]
  | false =>
  rw [move_eq here]
  constructor
  · exact fun id' root' call' there busy' => after_working sound here busy there busy'
  · intro id' root' call' there
    rcases calls_after there with ⟨rfl, same⟩ | ⟨_, old⟩
    · cases same
      exact sound.plain id' root call here
    · exact sound.plain id' root' call' old
  · exact fun one two root1 root2 call1 call2 u there there' own own' => after_apart sound here there there' own own'
  · exact fun directory node there => after_marked sound here busy there
  · intro id' root' call' r t c n there asked ended
    rcases calls_after there with ⟨rfl, same⟩ | ⟨_, old⟩
    · cases same
      exact ((sound.working id' root call here busy).returns busy asked ended).2
    · exact sound.named id' root' call' r t c n old asked ended
  · intro directory id' made
    rcases maker_after s id root call (s.effect host uuids external root call) directory with
      same | ⟨c, n, _, _, same, _⟩
    · exact sound.placed directory id' (same ▸ made)
    · exact ⟨root, c, n, same⟩
  · exact fun directory id' made => after_stands sound here busy made
  · exact fun id' root' call' r t c n there asked ended made => after_returned sound here busy there asked ended made

end Moving

theorem step_sound (sound : Sound host uuids s) (step : Step host uuids external s s') : Sound host uuids s' := by
  cases step with
  | start id root explicit task fresh plain => exact sound.start fresh plain
  | move id => exact sound.move id
  | copy source target _ free plain => exact sound.copy free plain
  | remove directory there unused => exact sound.remove there unused
  | write name node other plain => exact sound.write other plain

/-- In everything that comes of files without attempts. -/
theorem reached_sound {files : Files} (fresh : ∀ directory, files (markerOf directory) = none)
    (reached : Reached host uuids external files s) : Sound host uuids s := by
  induction reached with
  | refl =>
    constructor
    · rintro id root call ⟨⟩
    · rintro id root call ⟨⟩
    · rintro id id' root root' call call' u ⟨⟩
    · intro directory node there
      cases (fresh directory).symm.trans there
    · rintro id root call r t c n ⟨⟩
    · rintro directory id ⟨⟩
    · rintro directory id ⟨⟩
    · rintro id root call r t c n ⟨⟩
  | tail _ step sound => exact step_sound sound step

end Invariant

end Sites
end Allocation
end InferForge

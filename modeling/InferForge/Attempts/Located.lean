import InferForge.Attempts.Standing
import InferForge.Bridge.Evidence

/-! `locate_attempt` over the files of any site: whose attempt a path lies in. -/
namespace InferForge
open Py Effect

namespace Allocation
namespace Sites

/-- The resolved path of some names. -/
abbrev rooted (names : Name) : Path := ⟨1, names⟩

def isFile : Option Node → Bool
  | some (.file _) => true
  | _ => false

/-- The two names a walk asks for. -/
def Asked (name : Text) : Prop := name = Text.ofString ".attempt.json" ∨ name = Text.ofString "run.json"

/-- A disk shows the files a walk up from a resolved place looks at. -/
structure Shows (host : Host) (disk : Disk) (files : Files) (place : Name) : Prop where
  isSymlink : ∀ directory name, directory <+: place → Asked name →
    disk.isSymlink (rooted (directory ++ [name])) = .ok (isSymlink (files (directory ++ [name])))
  exists' : ∀ directory name, directory <+: place → Asked name →
    Allocation.isSymlink (files (directory ++ [name])) = false →
    disk.exists' (rooted (directory ++ [name])) = .ok (files (directory ++ [name])).isSome
  isFile : ∀ directory name, directory <+: place → Asked name →
    Allocation.isSymlink (files (directory ++ [name])) = false →
    disk.isFile (rooted (directory ++ [name])) = .ok (isFile (files (directory ++ [name])))
  /-- A document is read with its fields, whatever their order. -/
  read : ∀ directory name fields, directory <+: place → Asked name →
    files (directory ++ [name]) = some (.file (some (.obj fields))) →
    ∃ loaded, loadJson host disk (rooted (directory ++ [name])) = .ok (.obj loaded) ∧
      ∀ key, Dict.get? loaded key = Dict.get? fields key
  /-- Whatever else stands there, no object is read. -/
  unread : ∀ directory name, directory <+: place → Asked name →
    Allocation.isSymlink (files (directory ++ [name])) = false →
    (∀ fields, files (directory ++ [name]) ≠ some (.file (some (.obj fields)))) →
    (∃ e, loadJson host disk (rooted (directory ++ [name])) = .error e ∧ (e.kind = .osError ∨ e.isValueError = true)) ∨
      ∃ loaded, loadJson host disk (rooted (directory ++ [name])) = .ok loaded ∧ ∀ fields, loaded ≠ .obj fields

/-! ## Paths -/

section Paths
variable {names : Name}

theorem rooted_child (directory : Name) {name : Text} (own : Path.ofText name = ⟨0, [name]⟩) :
    (rooted directory).child name = rooted (directory ++ [name]) := by
  rw [Path.child, own]
  rfl

theorem rooted_parent (directory : Name) (name : Text) : (rooted (directory ++ [name])).parent = rooted directory := by
  rw [Path.parent, List.dropLast_concat]

theorem rooted_name (directory : Name) (name : Text) : (rooted (directory ++ [name])).name = name := by
  rw [Path.name, last_append]
  rfl

theorem parents_length (path : Path) : path.parents.length = path.parts.length := by
  simp [Path.parents]

/-- The last names of a path. -/
theorem concat_of_length (long : k < names.length) : ∃ front last, names = front ++ [last] ∧ front.length = names.length - 1 := by
  rcases List.eq_nil_or_concat' names with rfl | ⟨front, last, rfl⟩
  · cases long
  · exact ⟨front, last, rfl, by simp⟩

end Paths

/-! ## One directory -/

section Directory
variable {host : Host} {disk : Disk} {files : Files} {place directory : Name}

theorem marker_child (directory : Name) : (rooted directory).child ".attempt.json" = rooted (markerOf directory) :=
  rooted_child directory (by decide)

theorem run_child (directory : Name) : (rooted directory).child "run.json" = rooted (directory ++ markerName) :=
  rooted_child directory (by decide)

theorem unmarked_passed (shows : Shows host disk files place) (above : directory <+: place)
    (none : files (markerOf directory) = none) : markedAttempt host disk (rooted directory) = .ok .none := by
  have plain : Allocation.isSymlink (files (markerOf directory)) = false := by rw [none]; rfl
  have link : disk.isSymlink (rooted (markerOf directory)) = .ok false := by
    rw [markerOf, shows.isSymlink directory _ above (.inl rfl), ← markerOf, plain]
  have absent : disk.exists' (rooted (markerOf directory)) = .ok false := by
    rw [markerOf, shows.exists' directory _ above (.inl rfl) plain, ← markerOf, none]
    rfl
  rw [markedAttempt, marker_child, link, ok_bind, absent]
  rfl

/-- A marker with the payload of an attempt. -/
theorem marked_read (shows : Shows host disk files place) (above : directory <+: place)
    (marked : files (markerOf directory) = some (.file (some (attemptPayload r t a)))) :
    ∃ loaded, markedAttempt host disk (rooted directory) =
        (attemptIdentity host disk (rooted directory) (.obj loaded)).map some ∧
      Dict.get? loaded "schema_version" = some (.int 1) ∧ Dict.get? loaded "run_id" = some (.str r) ∧
      Dict.get? loaded "task_id" = some (.str t) ∧ Dict.get? loaded "attempt_id" = some (.str a) := by
  obtain ⟨loaded, read, same⟩ := shows.read directory _ _ above (.inl rfl) marked
  have plain : Allocation.isSymlink (files (markerOf directory)) = false := by rw [marked]; rfl
  have link : disk.isSymlink (rooted (markerOf directory)) = .ok false := by
    rw [markerOf, shows.isSymlink directory _ above (.inl rfl), ← markerOf, plain]
  have there : disk.exists' (rooted (markerOf directory)) = .ok true := by
    rw [markerOf, shows.exists' directory _ above (.inl rfl) plain, ← markerOf, marked]
    rfl
  have regular : disk.isFile (rooted (markerOf directory)) = .ok true := by
    rw [markerOf, shows.isFile directory _ above (.inl rfl) plain, ← markerOf, marked]
    rfl
  refine ⟨loaded, ?_, (same _).trans rfl, (same _).trans rfl, (same _).trans rfl, (same _).trans rfl⟩
  rw [markedAttempt, marker_child, link, ok_bind, refuse, if_neg (by decide), ok_bind, there, ok_bind, if_pos rfl, regular,
    ok_bind, refuse, if_neg (by decide), ok_bind, markerOf, read, orPolicy, ok_bind]
  cases attemptIdentity host disk (rooted directory) (.obj loaded) <;> rfl

variable {loaded : Dict} {r t a c : Text}

/-- The fields of a marker. -/
structure Names (loaded : Dict) (r t a : Text) : Prop where
  schema : Dict.get? loaded "schema_version" = some (.int 1)
  run : Dict.get? loaded "run_id" = some (.str r)
  task : Dict.get? loaded "task_id" = some (.str t)
  attempt : Dict.get? loaded "attempt_id" = some (.str a)
  filled : r.isEmpty = false ∧ t.isEmpty = false ∧ a.isEmpty = false

/-- Where an attempt lies. -/
def placeOf (root : Name) (c a : Text) : Name := root ++ [Text.ofString "tasks"] ++ [c] ++ [Text.ofString "attempts"] ++ [a]

theorem placeOf_attempt (root : Name) (c : Text) (n : Nat) : placeOf root c (attemptName n) = root ++ attemptDirectory c n := by
  simp [placeOf, attemptDirectory]

theorem identity_misplaced (names : Names loaded r t a) (accepted : safeComponent host t = .ok c)
    (elsewhere : ∀ root, directory ≠ placeOf root c a) :
    ∃ message, attemptIdentity host disk (rooted directory) (.obj loaded) = .error (.policy message) := by
  obtain ⟨schema, run, task, attempt, filled⟩ := names
  have supported : Json.eqOpt (some (.int 1)) (.int 1) = true := rfl
  unfold attemptIdentity
  dsimp only
  rw [schema, supported, Dict.getD, Dict.getD, Dict.getD, run, task, attempt]
  simp only [Option.getD_some, nonemptyText, filled.1, filled.2.1, filled.2.2, Bool.not_true, Bool.false_eq_true, if_false]
  simp only [refuse, if_false, ok_bind, Bool.false_eq_true, accepted]
  by_cases outer : (decide ((rooted directory).parents.length < 4) || (rooted directory).name != a ||
      (rooted directory).parent.name != Text.ofString "attempts") = true
  · rw [if_pos outer]
    exact ⟨_, rfl⟩
  · rw [if_neg outer, ok_bind]
    by_cases inner : ((rooted directory).parent.parent.name != c ||
        (rooted directory).parent.parent.parent.name != Text.ofString "tasks") = true
    · rw [if_pos inner]
      exact ⟨_, rfl⟩
    · exfalso
      simp only [Bool.or_eq_true, decide_eq_true_eq, bne_iff_ne, ne_eq, not_or, not_not, parents_length, not_lt] at outer inner
      obtain ⟨⟨long, last⟩, attempts⟩ := outer
      obtain ⟨front, _, rfl, size⟩ := concat_of_length (k := 0) (by omega : 0 < directory.length)
      obtain ⟨front', _, rfl, size'⟩ := concat_of_length (k := 0) (by omega : 0 < front.length)
      obtain ⟨front'', _, rfl, size''⟩ := concat_of_length (k := 0) (by omega : 0 < front'.length)
      obtain ⟨root, _, rfl, _⟩ := concat_of_length (k := 0) (by omega : 0 < front''.length)
      simp only [rooted_parent, rooted_name] at last attempts inner
      exact elsewhere root (by rw [placeOf, last, attempts, inner.1, inner.2])

theorem identityOf_some (named : identityOf identity = some r) : ∃ fields, identity = .obj fields ∧
    Json.eqOpt (Dict.get? fields "schema_version") (.int 1) = true ∧ Dict.get? fields "run_id" = some (.str r) := by
  unfold identityOf at named
  split at named
  · next fields =>
    split at named
    · next schema =>
      split at named
      · next given own =>
        split at named
        · cases named
        · cases named
          exact ⟨fields, rfl, schema, own⟩
      · cases named
    · cases named
  · cases named

theorem identityOf_obj {fields : Dict} (schema : Json.eqOpt (Dict.get? fields "schema_version") (.int 1) = true)
    (own : Dict.get? fields "run_id" = some (.str r)) (filled : r.blank = false) : identityOf (.obj fields) = some r := by
  unfold identityOf
  dsimp only
  rw [if_pos schema, own]
  dsimp only
  rw [filled]
  rfl

theorem eqOpt_str : Json.eqOpt found (.str t) = true ↔ found = some (.str t) := by
  rw [Json.eqOpt, Json.eq_str_right]
  cases found with
  | none => exact ⟨by rintro ⟨⟩, by rintro ⟨⟩⟩
  | some value => rw [Option.getD_some, Option.some.injEq]

theorem root_above (above : placeOf root c a <+: place) : root <+: place := by
  refine List.IsPrefix.trans ?_ above
  simp only [placeOf, List.append_assoc]
  exact List.prefix_append _ _

/-- In the place its number and its task say, a marker counts where the run has the identity it names. -/
theorem identity_placed (shows : Shows host disk files place) (names : Names loaded r t a) (blank : r.blank = false)
    (accepted : safeComponent host t = .ok c) (above : placeOf root c a <+: place) :
    (Identified (under files root) r → attemptIdentity host disk (rooted (placeOf root c a)) (.obj loaded) =
      (ensureExternal disk (rooted (placeOf root c a))).map fun found => ⟨found, r, t, a⟩) ∧
    (¬ Identified (under files root) r →
      ∃ message, attemptIdentity host disk (rooted (placeOf root c a)) (.obj loaded) = .error (.policy message)) := by
  obtain ⟨schema, own, task, attempt, filled⟩ := names
  have supported : Json.eqOpt (some (.int 1)) (.int 1) = true := rfl
  have link : disk.isSymlink (rooted (root ++ markerName)) = .ok (Allocation.isSymlink (files (root ++ markerName))) :=
    shows.isSymlink root _ (root_above above) (.inr rfl)
  unfold attemptIdentity
  dsimp only
  rw [schema, supported, Dict.getD, Dict.getD, Dict.getD, own, task, attempt]
  simp only [Option.getD_some, nonemptyText, filled.1, filled.2.1, filled.2.2, Bool.not_true, Bool.false_eq_true, if_false]
  simp only [refuse, if_false, ok_bind, Bool.false_eq_true, accepted, placeOf, rooted_parent, rooted_name, parents_length,
    run_child, link, bne_self_eq_false, Bool.or_false, List.length_append, List.length_cons, List.length_nil]
  rw [if_neg (by simp), ok_bind]
  constructor
  · rintro ⟨identity, published, named⟩
    obtain ⟨fields, rfl, version, mine⟩ := identityOf_some named
    obtain ⟨run, read, same⟩ := shows.read root _ fields (root_above above) (.inr rfl) published
    have plain : Allocation.isSymlink (files (root ++ markerName)) = false := by
      rw [under] at published
      rw [published]
      rfl
    have agrees : Json.eqOpt (some (.str r)) (.str r) = true := eqOpt_str.mpr rfl
    rw [plain, if_neg (by decide), ok_bind, markerName, read, orPolicy, ok_bind]
    dsimp only
    rw [same, version, same, mine, agrees]
    simp only [Bool.not_true, Bool.or_false, Bool.false_eq_true, if_false, ok_bind]
    cases ensureExternal disk _ <;> rfl
  · intro foreign
    cases symlink : Allocation.isSymlink (files (root ++ markerName)) with
    | true =>
      rw [if_pos rfl]
      exact ⟨_, rfl⟩
    | false =>
    rw [if_neg (by decide), ok_bind]
    by_cases object : ∃ fields, files (root ++ markerName) = some (.file (some (.obj fields)))
    · obtain ⟨fields, published⟩ := object
      obtain ⟨run, read, same⟩ := shows.read root _ fields (root_above above) (.inr rfl) published
      rw [markerName, read, orPolicy, ok_bind]
      dsimp only
      rw [same, same]
      by_cases differs : (!Json.eqOpt (Dict.get? fields "schema_version") (.int 1) ||
          !Json.eqOpt (Dict.get? fields "run_id") (.str r)) = true
      · rw [if_pos differs]
        exact ⟨_, rfl⟩
      · simp only [Bool.or_eq_true, Bool.not_eq_true', not_or, Bool.not_eq_false] at differs
        exact absurd ⟨_, published, identityOf_obj differs.1 (eqOpt_str.mp differs.2) blank⟩ foreign
    · rcases shows.unread root _ (root_above above) (.inr rfl) symlink fun fields there => object ⟨fields, there⟩ with
        ⟨e, failed, kind⟩ | ⟨value, read, other⟩
      · rw [markerName, failed, orPolicy, if_pos kind]
        exact ⟨_, rfl⟩
      · rw [markerName, read, orPolicy, ok_bind]
        cases value with
        | obj fields => exact absurd rfl (other fields)
        | _ => exact ⟨_, rfl⟩

end Directory

/-! ## The walk up -/

/-- The deepest attempt directory at or above a place. -/
structure Nearest (files : Files) (place directory : Name) : Prop where
  above : directory <+: place
  marked : (files (markerOf directory)).isSome
  deepest : ∀ other, other <+: place → (files (markerOf other)).isSome → other.length ≤ directory.length

section Walk
variable {host : Host} {disk : Disk} {files : Files} {place directory : Name}

/-- The first `k` names of a place, and all that is above them. -/
def chain (place : Name) (k : Nat) : List Path := (List.range k).reverse.map fun n => rooted (place.take n)

theorem chain_succ (place : Name) (k : Nat) : chain place (k + 1) = rooted (place.take k) :: chain place k := by
  rw [chain, List.range_succ, List.reverse_append]
  rfl

theorem parents_chain (place : Name) : rooted place :: (rooted place).parents = chain place (place.length + 1) := by
  rw [chain_succ, List.take_length]
  rfl

theorem chain_outside (shows : Shows host disk files place) (k : Nat)
    (unmarked : ∀ n < k, files (markerOf (place.take n)) = none) : firstAttempt host disk (chain place k) = .ok none := by
  induction k with
  | zero => rfl
  | succ k ih =>
    rw [chain_succ, firstAttempt, unmarked_passed shows (List.take_prefix _ _) (unmarked k (Nat.lt_succ_self k)), ok_bind]
    exact ih fun n less => unmarked n (Nat.lt_succ_of_lt less)

theorem chain_nearest (shows : Shows host disk files place) (m k : Nat) (below : m < k)
    (unmarked : ∀ n, m < n → n < k → files (markerOf (place.take n)) = none) :
    firstAttempt host disk (chain place k) = firstAttempt host disk (chain place (m + 1)) := by
  induction k with
  | zero => cases below
  | succ k ih =>
    rcases Nat.lt_succ_iff_lt_or_eq.mp below with less | rfl
    · rw [chain_succ, firstAttempt, unmarked_passed shows (List.take_prefix _ _) (unmarked k less (Nat.lt_succ_self k)),
        ok_bind]
      exact ih less fun n more before => unmarked n more (Nat.lt_succ_of_lt before)
    · rfl

/-- Only the nearest marker counts. -/
theorem locate_nearest {result : Except Exn Attempt} (shows : Shows host disk files place) (accepted : ensureExternal disk path = .ok (rooted place))
    (nearest : Nearest files place directory) (found : markedAttempt host disk (rooted directory) = result.map some) :
    locateAttempt host disk path = result.map some := by
  have short : directory.length < place.length + 1 := Nat.lt_succ_of_le nearest.above.length_le
  have taken : place.take directory.length = directory := (List.prefix_iff_eq_take.mp nearest.above).symm
  rw [locateAttempt, accepted, ok_bind, parents_chain, chain_nearest shows directory.length _ short, chain_succ, firstAttempt,
    taken, found]
  · cases result <;> rfl
  · intro n more less
    refine Option.eq_none_iff_forall_ne_some.mpr fun node there => ?_
    have bound := nearest.deepest (place.take n) (List.take_prefix _ _) (by rw [there]; rfl)
    rw [List.length_take] at bound
    omega

end Walk

/-! ## Whose attempt it is -/

/-- What `locate_attempt` tells about a path that resolves to this place. -/
structure Located (host : Host) (disk : Disk) (s : Site) (path : Path) (place : Name) : Prop where
  /-- In no attempt, none is found. -/
  outside : (∀ directory, directory <+: place → s.files (markerOf directory) = none) →
    locateAttempt host disk path = .ok none
  /-- The nearest marker names an attempt that was returned. It is found where its number, the component of its task and
  the identity of the run are all the same, and refused everywhere else. -/
  inside : ∀ directory, Nearest s.files place directory → ∃ root r t c n, Granted s root r t c n ∧
    safeComponent host t = .ok c ∧
    (∀ owner, directory = owner ++ attemptDirectory c n → Identified (under s.files owner) r →
      locateAttempt host disk path =
        (ensureExternal disk (rooted directory)).map fun found => some ⟨found, r, t, attemptName n⟩) ∧
    ((∀ owner, directory = owner ++ attemptDirectory c n → ¬ Identified (under s.files owner) r) →
      ∃ message, locateAttempt host disk path = .error (.policy message))
  /-- In the directory that a call made and returned, it is that call's attempt. -/
  own : ∀ id root call r t c n, s.calls id = some (root, call) → call.task = some t →
    call.stage = .done r (some (c, n)) → s.maker (root ++ attemptDirectory c n) = some id →
    Nearest s.files place (root ++ attemptDirectory c n) → locateAttempt host disk path =
      (ensureExternal disk (rooted (root ++ attemptDirectory c n))).map fun found => some ⟨found, r, t, attemptName n⟩

section Reaching
variable {host : Host} {uuids : Uuids} {external : Name → Except Exn Unit} {disk : Disk} {files : Files} {s : Site}

theorem blank_empty {t : Text} (filled : t.blank = false) : t.isEmpty = false := by
  cases t with
  | mk codes =>
    cases codes with
    | nil => cases filled
    | cons => rfl

/-- A marker's document, from the place that shows it. -/
theorem names_marked (shows : Shows host disk s.files place) (above : directory <+: place)
    (marked : s.files (markerOf directory) = some (.file (some (attemptPayload r t (attemptName n)))))
    (filled : r.blank = false) (accepted : safeComponent host t = .ok c) :
    ∃ loaded, Names loaded r t (attemptName n) ∧ markedAttempt host disk (rooted directory) =
      (attemptIdentity host disk (rooted directory) (.obj loaded)).map some := by
  obtain ⟨loaded, read, schema, run, task, attempt⟩ := marked_read shows above marked
  refine ⟨loaded, ⟨schema, run, task, attempt, blank_empty filled, blank_empty (safeComponent_nonblank accepted), ?_⟩, read⟩
  have long : (attemptName n).codes ≠ [] := by
    intro none
    have size := congrArg List.length none
    rw [attemptName, List.length_append, List.length_replicate, List.length_nil] at size
    omega
  rw [Text.isEmpty]
  cases codes : (attemptName n).codes with
  | nil => exact absurd codes long
  | cons => rfl

/-- Where its directory, its task and its run agree, a marked attempt is found. -/
theorem locate_owned (shows : Shows host disk s.files place) (external' : ensureExternal disk path = .ok (rooted place))
    (nearest : Nearest s.files place (owner ++ attemptDirectory c n)) (filled : r.blank = false)
    (accepted : safeComponent host t = .ok c) (run : Identified (under s.files owner) r)
    (marked : s.files (markerOf (owner ++ attemptDirectory c n)) =
      some (.file (some (attemptPayload r t (attemptName n))))) :
    locateAttempt host disk path =
      (ensureExternal disk (rooted (owner ++ attemptDirectory c n))).map fun found => some ⟨found, r, t, attemptName n⟩ := by
  obtain ⟨loaded, names, read⟩ := names_marked shows nearest.above marked filled accepted
  have above : placeOf owner c (attemptName n) <+: place := placeOf_attempt owner c n ▸ nearest.above
  have identity := (identity_placed shows names filled accepted above).1 run
  rw [placeOf_attempt] at identity
  rw [locate_nearest shows external' nearest read, identity]
  cases ensureExternal disk (rooted (owner ++ attemptDirectory c n)) <;> rfl

/-- Whatever was allocated under whatever roots, written, copied and removed. -/
theorem attempts_located (fresh : ∀ directory, files (markerOf directory) = none)
    (reached : Reached host uuids external files s) (shows : Shows host disk s.files place)
    (accepted : ensureExternal disk path = .ok (rooted place)) : Located host disk s path place := by
  have sound := reached_sound fresh reached
  refine ⟨fun unmarked => ?_, fun directory nearest => ?_, fun id root call r t c n here asked ended made nearest => ?_⟩
  · rw [locateAttempt, accepted, ok_bind, parents_chain]
    exact chain_outside shows _ fun n _ => unmarked _ (List.take_prefix _ _)
  · obtain ⟨node, there⟩ := Option.isSome_iff_exists.mp nearest.marked
    obtain ⟨root, r, t, c, n, granted, component, filled, rfl⟩ := sound.marked directory node there
    refine ⟨root, r, t, c, n, granted, component, ?_, fun foreign => ?_⟩
    · rintro owner rfl run
      exact locate_owned shows accepted nearest filled component run there
    · obtain ⟨loaded, names, read⟩ := names_marked shows nearest.above there filled component
      have refused : ∃ message, attemptIdentity host disk (rooted directory) (.obj loaded) = .error (.policy message) := by
        by_cases placed : ∃ owner, directory = placeOf owner c (attemptName n)
        · obtain ⟨owner, rfl⟩ := placed
          exact (identity_placed shows names filled component nearest.above).2 (foreign owner (placeOf_attempt owner c n))
        · exact identity_misplaced names component fun owner same => placed ⟨owner, same⟩
      obtain ⟨message, refused⟩ := refused
      refine ⟨message, ?_⟩
      rw [locate_nearest shows accepted nearest read, refused]
      rfl
  · obtain ⟨component, filled⟩ := sound.named id root call r t c n here asked ended
    obtain ⟨marker, run⟩ := sound.returned id root call r t c n here asked ended made
    exact locate_owned shows accepted nearest filled component run marker

end Reaching

/-! One attempt under a run that has its identity. -/

def runFiles : Files := fun name =>
  if name = [Text.ofString "w"] then some .directory
  else if name = [Text.ofString "w", Text.ofString "run.json"] then some (.file (some (identityPayload "run")))
  else none

def firstDirectory : Name := [Text.ofString "w"] ++ attemptDirectory "task" 1

def documentHost : Host := { Host.sample with
  loads := fun content =>
    if content = [1] then some (attemptPayload "run" "task" (attemptName 1)) else some (identityPayload "run") }

def runDisk : Disk := { Disk.sample with
  exists' := fun path => .ok (path.parts == markerOf firstDirectory || path.parts == [Text.ofString "w", Text.ofString "run.json"])
  isFile := fun path => .ok (path.parts == markerOf firstDirectory || path.parts == [Text.ofString "w", Text.ofString "run.json"])
  read := fun path =>
    if path.parts = markerOf firstDirectory then .ok [1]
    else if path.parts = [Text.ofString "w", Text.ofString "run.json"] then .ok [2]
    else .error (.os "No such file or directory") }

/-- A site after some operations of its first call. -/
def moved : Nat → Site
  | 0 => Site.start ⟨runFiles, 0, fun _ => none, fun _ => none⟩ 0 [Text.ofString "w"] (some "run") (some "task")
  | k + 1 => (moved k).move documentHost letters (fun _ => .ok ()) 0

theorem moved_reached (k : Nat) : Reached documentHost letters (fun _ => .ok ()) runFiles (moved k) := by
  induction k with
  | zero =>
    refine .single (.start 0 _ _ _ rfl fun last named => ?_)
    obtain rfl := Option.some.inj named
    rfl
  | succ k ih => exact .tail ih (.move 0)

def outputPlace : Name := firstDirectory ++ [Text.ofString "output"]

theorem moved_files (above : directory <+: outputPlace) (asked : Asked name) : (moved 17).files (directory ++ [name]) =
    if directory ++ [name] = markerOf firstDirectory then
      some (.file (some (attemptPayload "run" "task" (attemptName 1))))
    else if directory ++ [name] = [Text.ofString "w", Text.ofString "run.json"] then
      some (.file (some (identityPayload "run")))
    else none := by
  rw [← List.mem_inits] at above
  have listed : outputPlace.inits = (List.range 7).map outputPlace.take := by decide
  rw [listed] at above
  obtain ⟨k, small, rfl⟩ := List.mem_map.mp above
  have counted : k = 0 ∨ k = 1 ∨ k = 2 ∨ k = 3 ∨ k = 4 ∨ k = 5 ∨ k = 6 := by
    have bound := List.mem_range.mp small
    omega
  rcases asked with rfl | rfl <;> rcases counted with rfl | rfl | rfl | rfl | rfl | rfl | rfl <;> rfl

theorem runDisk_read (path : Path) : runDisk.read path =
    if path.parts = markerOf firstDirectory then .ok [1]
    else if path.parts = [Text.ofString "w", Text.ofString "run.json"] then .ok [2]
    else .error (.os "No such file or directory") := rfl

theorem runDisk_shows : Shows documentHost runDisk (moved 17).files outputPlace where
  isSymlink directory name above asked := by
    rw [moved_files above asked]
    split
    · rfl
    · split <;> rfl
  exists' directory name above asked _ := by
    rw [moved_files above asked]
    split
    · next same => simp [runDisk, same]
    · next other =>
      split
      · next same => simp [runDisk, same]
      · next other' => simp [runDisk, other, other']
  isFile directory name above asked _ := by
    rw [moved_files above asked]
    split
    · next same => simp [runDisk, same, isFile]
    · next other =>
      split
      · next same => simp [runDisk, same, isFile]
      · next other' => simp [runDisk, other, other', isFile]
  read directory name fields above asked there := by
    rw [moved_files above asked] at there
    split at there
    · next same =>
      cases there
      refine ⟨_, ?_, fun _ => rfl⟩
      rw [same]
      rfl
    · split at there
      · next same =>
        cases there
        refine ⟨_, ?_, fun _ => rfl⟩
        rw [same]
        rfl
      · cases there
  unread directory name above asked _ other := by
    rw [moved_files above asked] at other
    split at other
    · exact absurd rfl (other _)
    · next first =>
      split at other
      · exact absurd rfl (other _)
      · next second =>
        refine .inl ⟨.os "No such file or directory", ?_, .inl rfl⟩
        rw [loadJson, runDisk_read, if_neg first, if_neg second]
        rfl

/-- What lies in the output of the attempt is the attempt's. -/
theorem attempts_located_output : locateAttempt documentHost runDisk (rooted outputPlace) =
    .ok (some ⟨rooted firstDirectory, "run", "task", attemptName 1⟩) := by
  have apart {directory given : Name} (last : Text) (ends : given.getLast? = some last) (other : last ≠ ".attempt.json") :
      markerOf directory ≠ given := by
    rintro rfl
    rw [last_markerOf] at ends
    exact other (Option.some.inj ends).symm
  have fresh : ∀ directory, runFiles (markerOf directory) = none := by
    intro directory
    rw [runFiles, if_neg (apart "w" rfl (by decide)),
      if_neg (apart "run.json" rfl (by decide))]
  have nearest : Nearest (moved 17).files outputPlace firstDirectory := by
    refine ⟨List.prefix_append _ _, rfl, fun other above there => ?_⟩
    rw [markerOf, moved_files above (.inl rfl)] at there
    split at there
    · next same => rw [List.append_cancel_right same]
    · split at there
      · next same => exact absurd same (apart "run.json" rfl (by decide))
      · cases there
  exact (attempts_located fresh (moved_reached 17) runDisk_shows rfl).own 0 [Text.ofString "w"] _ "run" "task" "task" 1 rfl rfl
    rfl rfl nearest

end Sites
end Allocation
end InferForge

import InferForge.Runners.ProofSteps

/-! The namespace of a proof is shared: no command of a proof changes a resource before its name
passed `assert_owned`, and a deployment that exists already is not applied again. -/
namespace InferForge
open Py Effect Effect.Prog

/-- `metadata.name` of a manifest. -/
def manifestName : Json → Option Text
  | .obj fields =>
      match Dict.get? fields "metadata" with
      | some (.obj metadata) =>
          match Dict.get? metadata "name" with
          | some (.str name) => some name
          | _ => none
      | _ => none
  | _ => none

/-- What a mutating command addresses passed `assert_owned` before: the Pod, and with a file that is
applied the resource of every manifest in it. -/
def Site.Authorised (site : Site) (past : List Occurrence) : Command → Prop
  | .query _ => True
  | .apply content => ∃ documents, site.safeLoadAll content = .ok documents ∧
      ∀ manifest ∈ documents, manifest.truthy = true →
        ∃ name, manifestName manifest = some name ∧ .owned name ∈ past
  | .copyInto pod _ => .owned pod ∈ past
  | .exec pod _ => .owned pod ∈ past

/-- Every mutating command addressed what had passed `assert_owned`. -/
def Guarded (site : Site) (trace : List Occurrence) : Prop :=
  ∀ past command reply rest, trace = past ++ .ran command reply :: rest → site.Authorised past command

/-- The names that passed are those of the owner. -/
def Allowed (config : ClusterConfig) (trace : List Occurrence) : Prop :=
  ∀ name, Occurrence.owned name ∈ trace → config.assertOwned name = .ok ()

def Applied (trace : List Occurrence) : Prop := ∃ content reply, Occurrence.ran (.apply content) reply ∈ trace

/-- A deployment of the contract was there already. -/
def FoundExisting (trace : List Occurrence) : Prop :=
  ∃ kind name result, Occurrence.ran (.query (.resource kind name)) (.completed result) ∈ trace ∧
    result.returncode = 0 ∧ result.stdout.blank = false

/-- What holds of all that a proof did. -/
structure Orderly (site : Site) (attachPod : Option Text) (trace : List Occurrence) : Prop where
  guarded : Guarded site trace
  allowed : Allowed site.config trace
  fresh : Applied trace → given attachPod = none ∧ ¬ FoundExisting trace

/-- The proof has its Pod, and the Pod is owned. -/
structure Held (site : Site) (attachPod : Option Text) (pod : Text) (s : Session) : Prop where
  orderly : Orderly site attachPod s.trace
  current : s.pod = some pod
  owned : .owned pod ∈ s.trace
  attached : ∀ other, given s.attachPod = some other → other = pod

section Traces
variable {site : Site} {config : ClusterConfig} {attachPod : Option Text} {trace : List Occurrence}

theorem Guarded.empty : Guarded site [] := by
  intro past command reply rest same
  cases past <;> cases same

theorem Guarded.owned (guarded : Guarded site trace) (name : Text) :
    Guarded site (trace ++ [.owned name]) := by
  intro past command reply rest same
  rcases List.eq_nil_or_concat rest with rfl | ⟨rest, last, rfl⟩
  · have ends := congrArg List.getLast? same
    simp at ends
  · rw [List.concat_eq_append, ← List.cons_append, ← List.append_assoc] at same
    exact guarded past command reply rest (List.append_inj_left' same rfl)

theorem Guarded.ran (guarded : Guarded site trace) {command : Command} (reply : Reply)
    (authorised : site.Authorised trace command) :
    Guarded site (trace ++ [.ran command reply]) := by
  intro past other otherReply rest same
  rcases List.eq_nil_or_concat rest with rfl | ⟨rest, last, rfl⟩
  · obtain ⟨rfl, ends⟩ := List.append_inj' same rfl
    obtain ⟨rfl, rfl⟩ := Occurrence.ran.inj (List.cons.inj ends).1
    exact authorised
  · rw [List.concat_eq_append, ← List.cons_append, ← List.append_assoc] at same
    exact guarded past other otherReply rest (List.append_inj_left' same rfl)

theorem Allowed.owned (allowed : Allowed config trace) {name : Text}
    (passed : config.assertOwned name = .ok ()) : Allowed config (trace ++ [.owned name]) := by
  intro other member
  rcases List.mem_append.mp member with before | here
  · exact allowed other before
  · cases List.mem_singleton.mp here
    exact passed

theorem Allowed.ran (allowed : Allowed config trace) (command : Command) (reply : Reply) :
    Allowed config (trace ++ [.ran command reply]) := by
  intro name member
  rcases List.mem_append.mp member with before | here
  · exact allowed name before
  · cases List.mem_singleton.mp here

theorem Orderly.owned (orderly : Orderly site attachPod trace) {name : Text}
    (passed : site.config.assertOwned name = .ok ()) :
    Orderly site attachPod (trace ++ [.owned name]) where
  guarded := orderly.guarded.owned name
  allowed := orderly.allowed.owned passed
  fresh := by
    rintro ⟨names, reply, member⟩
    have applied : Applied trace := ⟨names, reply, by simpa using member⟩
    refine ⟨(orderly.fresh applied).1, ?_⟩
    rintro ⟨kind, name, result, member, here⟩
    exact (orderly.fresh applied).2 ⟨kind, name, result, by simpa using member, here⟩

/-- A command that is neither an application nor a look for an existing deployment. -/
theorem Orderly.ran (orderly : Orderly site attachPod trace) {command : Command} (reply : Reply)
    (authorised : site.Authorised trace command) (apply : ∀ content, command ≠ .apply content)
    (resource : ∀ kind name, command ≠ .query (.resource kind name)) :
    Orderly site attachPod (trace ++ [.ran command reply]) where
  guarded := orderly.guarded.ran reply authorised
  allowed := orderly.allowed.ran command reply
  fresh := by
    rintro ⟨names, other, member⟩
    have applied : Applied trace := by
      rcases List.mem_append.mp member with before | here
      · exact ⟨names, other, before⟩
      · exact absurd (Occurrence.ran.inj (List.mem_singleton.mp here)).1.symm (apply names)
    refine ⟨(orderly.fresh applied).1, ?_⟩
    rintro ⟨kind, name, result, member, here⟩
    rcases List.mem_append.mp member with before | last
    · exact (orderly.fresh applied).2 ⟨kind, name, result, before, here⟩
    · exact resource kind name (Occurrence.ran.inj (List.mem_singleton.mp last)).1.symm

end Traces

/-- A Pod that is held keeps the order under every command to it. -/
theorem Held.ran (held : Held site attachPod pod s) {command : Command} (reply : Reply)
    (authorised : site.Authorised s.trace command) (apply : ∀ content, command ≠ .apply content)
    (resource : ∀ kind name, command ≠ .query (.resource kind name)) :
    Held site attachPod pod (s.noting (.ran command reply)) where
  orderly := held.orderly.ran reply authorised apply resource
  current := held.current
  owned := List.mem_append_left _ held.owned
  attached := held.attached

theorem held_steady : Steady site.config pod (fun _ => True) (Held site attachPod pod) where
  quiet held trace pod attached _ :=
    ⟨trace ▸ held.orderly, pod.trans held.current, trace ▸ held.owned, attached ▸ held.attached⟩
  checked held _ := ⟨held.orderly, held.current, held.owned, held.attached⟩
  current held := held.current
  attached held := held.attached _
  owned held passed :=
    ⟨held.orderly.owned passed, held.current, List.mem_append_left _ held.owned, held.attached⟩
  ran held plain := by
    apply held.ran
    · rename_i command _
      cases command with
      | query => trivial
      | apply => exact plain.elim
      | copyInto target _ =>
        obtain rfl : target = pod := plain
        exact held.owned
      | exec target script =>
        obtain rfl : target = pod := by cases script <;> first | exact plain | exact plain.elim
        exact held.owned
    · rintro names rfl
      exact plain
    · rintro kind name rfl
      exact plain

/-! ## The actions whose answers are parsed -/

section Parsed
variable {runner : Runner} {attachPod : Option Text} {pod : Text}

/-- Steps that keep the Pod, whether they return or raise. -/
abbrev Keeping (site : Site) (attachPod : Option Text) (pod : Text) (x : Proof α) : Prop :=
  Kept (Held site attachPod pod) x

theorem held_exec {s : Session} {script : Script} {reply : Reply}
    (held : Held site attachPod pod s) :
    Held site attachPod pod (s.noting (.ran (.exec pod script) reply)) :=
  held.ran reply held.owned (fun _ => nofun) fun _ _ => nofun

theorem alreadyServing_keeping : Keeping runner.site attachPod pod runner.alreadyServing :=
  Runner.alreadyServing_keeps held_steady held_exec

theorem runChatSmoke_keeping (pre : Text) :
    Keeping runner.site attachPod pod (runner.runChatSmoke pre) :=
  Runner.runChatSmoke_keeps held_steady held_exec (fun _ => trivial) pre

theorem toyBringup_keeping :
    Keeping runner.site attachPod pod runner.toyBringupBeforeLoad :=
  Runner.toyBringup_keeps held_steady held_exec trivial

end Parsed

/-! ## A proof without a Pod -/

/-- Nothing was applied so far. -/
structure Idle (site : Site) (trace : List Occurrence) : Prop where
  guarded : Guarded site trace
  allowed : Allowed site.config trace
  still : ¬ Applied trace

theorem Idle.orderly (idle : Idle site trace) : Orderly site attachPod trace :=
  ⟨idle.guarded, idle.allowed, fun applied => absurd applied idle.still⟩

theorem Idle.owned (idle : Idle site trace) (passed : site.config.assertOwned name = .ok ()) :
    Idle site (trace ++ [.owned name]) := by
  refine ⟨idle.guarded.owned name, idle.allowed.owned passed, ?_⟩
  rintro ⟨names, reply, member⟩
  exact idle.still ⟨names, reply, by simpa using member⟩

theorem Idle.query (idle : Idle site trace) (query : Query) (reply : Reply) :
    Idle site (trace ++ [.ran (.query query) reply]) := by
  refine ⟨idle.guarded.ran reply trivial, idle.allowed.ran _ _, ?_⟩
  rintro ⟨names, other, member⟩
  exact idle.still ⟨names, other, by simpa using member⟩

/-- What a program without a Pod comes to: its commands were orderly, a return leaves `Q`, and an
exception is not a success. -/
abbrev Comes (site : Site) (attachPod : Option Text) (P : Session → Prop)
    (Q : α → Session → Prop) (x : Proof α) : Prop :=
  ∀ s, P s → wp x Q (fun fault t => fault.ready = false ∧ Orderly site attachPod t.trace) s

section Preparing
variable {runner : Runner} {site : Site} {attachPod : Option Text} {P : Session → Prop}

theorem Comes.bind {x : Proof α} {f : α → Proof β} {Q : α → Session → Prop}
    {R : β → Session → Prop} (first : Comes site attachPod P Q x)
    (rest : ∀ a, Comes site attachPod (Q a) R (f a)) : Comes site attachPod P R (x >>= f) := by
  intro s holds
  rw [wp_bind]
  exact (first s holds).mono (fun a t _ => rest a t) fun _ _ _ raised => raised

/-- A computation that leaves the session alone. -/
theorem Comes.lift (orderly : ∀ s, P s → Orderly site attachPod s.trace) {result : Except Fault α}
    (fine : ∀ fault, result = .error fault → fault.ready = false) :
    Comes site attachPod P (fun _ => P) (Prog.lift result) :=
  Preserves.lift fun fault raised s holds => ⟨fine fault raised, orderly s holds⟩

theorem Comes.run (orderly : ∀ s, P s → Orderly site attachPod s.trace) (result : Except Exn α) :
    Comes site attachPod P (fun _ => P) (Proof.run result) :=
  Comes.lift orderly fun _ => run_ready

/-- A computation whose result is known to what follows. -/
theorem Comes.run_bind {Q : β → Session → Prop} {f : α → Proof β}
    (orderly : ∀ s, P s → Orderly site attachPod s.trace) {result : Except Exn α}
    (rest : ∀ a, result = .ok a → Comes site attachPod P Q (f a)) :
    Comes site attachPod P Q (Proof.run result >>= f) := by
  intro s holds
  rw [wp_bind, Proof.run, wp_lift]
  cases result with
  | ok a =>
    refine ⟨fun b same => ?_, nofun⟩
    cases same
    exact rest a rfl s holds
  | error e =>
    refine ⟨nofun, fun fault raised => ?_⟩
    cases raised
    exact ⟨rfl, orderly s holds⟩

theorem Comes.raise {Q : α → Session → Prop} (orderly : ∀ s, P s → Orderly site attachPod s.trace)
    {fault : Fault} (fine : fault.ready = false) :
    Comes site attachPod P Q (Prog.raise fault) := fun s holds => ⟨fine, orderly s holds⟩

theorem Comes.ite {x y : Proof α} {Q : α → Session → Prop} {condition : Prop} [Decidable condition]
    (here : condition → Comes site attachPod P Q x)
    (there : ¬ condition → Comes site attachPod P Q y) :
    Comes site attachPod P Q (if condition then x else y) := by
  split
  · next holds => exact here holds
  · next fails => exact there fails

theorem Held.comes {x : Proof α} (kept : Keeping site attachPod pod x) :
    Comes site attachPod (Held site attachPod pod) (fun _ => Held site attachPod pod) x := by
  intro s held
  apply (kept s held).mono
  · exact fun _ _ _ held => held
  · rintro fault t - ⟨fine, held⟩
    rw [ite_self] at held
    exact ⟨fine, held.orderly⟩

/-- The names that pass belong to the owner. -/
theorem assertOwned_passed {config : ClusterConfig} (passed : config.assertOwned name = .ok ()) :
    name.isEmpty = false ∧ name.startsWith config.resourcePrefix = true := by
  unfold ClusterConfig.assertOwned at passed
  split at passed
  · cases passed
  · next fine =>
    simpa using fine

theorem renderManifest_ready (raised : renderManifest host template values = .error fault) :
    fault.ready = false := by
  unfold renderManifest at raised
  dsimp only at raised
  split at raised
  · cases raised
  · rw [← Except.error.inj raised]
    rfl

/-- The manifest is filled in without a command. -/
theorem rendered_comes (orderly : ∀ s, P s → Orderly runner.site attachPod s.trace) :
    Comes runner.site attachPod P (fun _ => P) runner.rendered := by
  apply (Comes.run orderly _).bind
  intro _
  apply (Comes.run orderly _).bind
  intro _
  exact (Comes.run orderly _).bind fun _ => Comes.lift orderly fun _ => renderManifest_ready

theorem assertOwned_comes {site : Site} {name : Text} {Q : Session → Prop}
    (orderly : ∀ s, P s → Orderly site attachPod s.trace)
    (passes : ∀ s, P s → site.config.assertOwned name = .ok () → Q (s.noting (.owned name))) :
    Comes site attachPod P (fun _ => Q) (site.assertOwned name) := by
  intro s holds
  unfold Site.assertOwned
  rw [wp_bind, wp_lift]
  refine ⟨fun _ passed => passes s holds passed, fun fault refused => ⟨?_, orderly s holds⟩⟩
  unfold ClusterConfig.assertOwned at refused
  split at refused
  · rw [← Except.error.inj refused]
    rfl
  · cases refused

theorem send_comes {site : Site} {command : Command} {Q : Completed → Session → Prop}
    (orderly : ∀ s reply, P s → Orderly site attachPod (s.trace ++ [.ran command reply]))
    (answers : ∀ s result, P s → Q result (s.noting (.ran command (.completed result)))) :
    Comes site attachPod P Q (site.send command) := by
  intro s holds
  unfold Site.send
  rw [wp_bind, wp_read]
  generalize site.cluster s.trace command = reply
  dsimp only
  rw [wp_bind]
  have noted := orderly s reply holds
  cases reply with
  | completed result => exact answers s result holds
  | timedOut => exact ⟨rfl, noted⟩
  | refused => exact ⟨rfl, noted⟩

theorem attach_comes (pod : Text) : Comes runner.site attachPod
    (fun s => Orderly runner.site attachPod s.trace ∧
      ∀ other, given s.attachPod = some other → other = pod)
    (fun _ => Held runner.site attachPod pod) (runner.attach pod) := by
  apply Comes.bind (Q := fun _ s => Orderly runner.site attachPod s.trace ∧
      .owned pod ∈ s.trace ∧ ∀ other, given s.attachPod = some other → other = pod)
  · apply assertOwned_comes fun _ holds => holds.1
    exact fun s holds passed => ⟨holds.1.owned passed, List.mem_append_right _ List.mem_cons_self, holds.2⟩
  · intro _
    apply Comes.bind (Q := fun _ => Held runner.site attachPod pod)
    · exact fun s holds => ⟨holds.1, rfl, holds.2.1, holds.2.2⟩
    · exact fun _ => Held.comes (Runner.importContext_calm held_steady fun _ => trivial).endures

/-! ### An existing deployment -/

/-- Before a deployment is looked for. -/
structure Looking (site : Site) (attachPod : Option Text) (s : Session) : Prop where
  idle : Idle site s.trace
  missing : ¬ FoundExisting s.trace
  attached : s.attachPod = attachPod

theorem assertOwnedValue_comes (name : Json) :
    Comes runner.site attachPod (Looking runner.site attachPod)
      (fun _ => Looking runner.site attachPod) (runner.site.assertOwnedValue name) := by
  unfold Site.assertOwnedValue
  split
  · apply Comes.bind (Q := fun _ => Looking runner.site attachPod)
    · apply assertOwned_comes fun _ looking => looking.idle.orderly
      intro s looking passed
      refine ⟨looking.idle.owned passed, ?_, looking.attached⟩
      rintro ⟨kind, other, result, member, here⟩
      exact looking.missing ⟨kind, other, result, by simpa [Session.noting] using member, here⟩
    · exact fun _ => Preserves.pure _
  · apply Preserves.ite
    · exact fun _ => Comes.run (fun _ looking => looking.idle.orderly) _
    · exact fun _ => Comes.raise (fun _ looking => looking.idle.orderly) rfl

/-- The Pod of a deployment is owned, or nothing is returned. -/
theorem deploymentPod_comes (resource : Json) :
    Comes runner.site attachPod (fun s => Idle runner.site s.trace)
      (fun pod s => Idle runner.site s.trace ∧ pod.isEmpty = false)
      (runner.deploymentPod resource) := by
  have orderly (s : Session) (idle : Idle runner.site s.trace) :
      Orderly runner.site attachPod s.trace := idle.orderly
  apply Comes.bind (Q := fun _ s => Idle runner.site s.trace)
  · exact fun _ idle => idle
  · intro _
    apply (Comes.run orderly _).bind
    intro labels
    apply Comes.ite
    · exact fun _ => Comes.raise orderly rfl
    · intro _
      apply (Comes.run orderly _).bind
      intro selector
      apply Comes.bind (Q := fun _ s => Idle runner.site s.trace)
      · apply send_comes
        · exact fun s reply idle => (idle.query _ _).orderly
        · exact fun s result idle => idle.query _ _
      · intro listed
        split
        · next name _ _ =>
          apply Comes.bind (Q := fun _ s => Idle runner.site s.trace ∧ name.isEmpty = false)
          · apply assertOwned_comes orderly
            exact fun s idle passed => ⟨idle.owned passed, (assertOwned_passed passed).1⟩
          · exact fun _ _ holds => holds
        · exact Comes.raise orderly rfl

/-- What the search for a Pod comes to: an owned one, or no deployment at all. -/
def Found (site : Site) (attachPod found : Option Text) (s : Session) : Prop :=
  match found with
  | some pod => Idle site s.trace ∧ given s.attachPod = some pod
  | none => Idle site s.trace ∧ ¬ FoundExisting s.trace ∧ given s.attachPod = none ∧
      given attachPod = none

theorem existingEnvironmentPod_comes : Comes runner.site attachPod
    (Looking runner.site attachPod)
    (fun found s => match found with
      | some pod => Idle runner.site s.trace ∧ pod.isEmpty = false
      | none => Looking runner.site attachPod s) runner.existingEnvironmentPod := by
  have orderly (s : Session) (looking : Looking runner.site attachPod s) :
      Orderly runner.site attachPod s.trace := looking.idle.orderly
  apply (rendered_comes orderly).bind
  intro _
  apply (Comes.run orderly _).bind
  intro manifest
  apply (Comes.run orderly _).bind
  intro metadata
  apply (Comes.run orderly _).bind
  intro name
  apply (assertOwnedValue_comes name).bind
  intro name
  apply (Comes.run orderly _).bind
  intro kind
  apply Comes.bind (Q := fun result s => Idle runner.site s.trace ∧ s.attachPod = attachPod ∧
    (FoundExisting s.trace → result.returncode = 0 ∧ result.stdout.blank = false))
  · apply send_comes
    · exact fun s reply looking => (looking.idle.query _ _).orderly
    · intro s result looking
      refine ⟨looking.idle.query _ _, looking.attached, ?_⟩
      rintro ⟨other, otherName, found, member, here⟩
      rcases List.mem_append.mp member with before | last
      · exact absurd ⟨other, otherName, found, before, here⟩ looking.missing
      · cases List.mem_singleton.mp last
        exact here
  · intro result
    apply Comes.ite
    · exact fun _ => Comes.raise (fun _ holds => holds.1.orderly) rfl
    · intro fine
      apply Comes.ite
      · intro blank s holds
        refine ⟨holds.1, ?_, holds.2.1⟩
        intro found
        rw [(holds.2.2 found).2] at blank
        cases blank
      · intro _
        split
        · exact fun s holds => ⟨rfl, holds.1.orderly⟩
        · intro s holds
          rw [wp_map]
          exact deploymentPod_comes _ s holds.1

theorem findPod_comes : Comes runner.site attachPod (Looking runner.site attachPod)
    (fun found => Found runner.site attachPod found) runner.findPod := by
  intro s looking
  unfold Runner.findPod
  rw [wp_bind, wp_read]
  cases attached : given s.attachPod with
  | some pod => exact ⟨looking.idle, attached⟩
  | none =>
    dsimp only
    split
    · exact ⟨rfl, looking.idle.orderly⟩
    · rw [wp_bind]
      apply (existingEnvironmentPod_comes s looking).mono
      · intro found t _ holds
        cases found with
        | none => exact ⟨holds.idle, holds.missing, rfl, looking.attached ▸ attached⟩
        | some pod =>
          have kept : given (some pod) = some pod := by simp [given, holds.2]
          rw [kept]
          exact ⟨holds.1, kept⟩
      · exact fun _ _ _ orderly => orderly

/-! ### A deployment of its own -/

/-- No deployment was found, and none was given. -/
structure Unprepared (site : Site) (attachPod : Option Text) (s : Session) : Prop where
  orderly : Orderly site attachPod s.trace
  attached : given s.attachPod = none
  fresh : given attachPod = none ∧ ¬ FoundExisting s.trace

theorem Found.fresh (found : Found site attachPod none s) : Unprepared site attachPod s :=
  ⟨found.1.orderly, found.2.2.1, found.2.2.2, found.2.1⟩

theorem Unprepared.noting (fresh : Unprepared site attachPod s) (event : Occurrence)
    (orderly : Orderly site attachPod (s.trace ++ [event]))
    (other : ∀ kind name reply, event ≠ .ran (.query (.resource kind name)) reply) :
    Unprepared site attachPod (s.noting event) := by
  refine ⟨orderly, fresh.attached, fresh.fresh.1, ?_⟩
  rintro ⟨kind, name, result, member, here⟩
  rcases List.mem_append.mp member with before | last
  · exact fresh.fresh.2 ⟨kind, name, result, before, here⟩
  · exact other kind name _ (List.mem_singleton.mp last).symm

theorem Unprepared.quiet (fresh : Unprepared site attachPod s) (trace : t.trace = s.trace)
    (attached : t.attachPod = s.attachPod) : Unprepared site attachPod t :=
  ⟨trace ▸ fresh.orderly, attached ▸ fresh.attached, trace ▸ fresh.fresh⟩

theorem Unprepared.owned (fresh : Unprepared site attachPod s) (passed : site.config.assertOwned name = .ok ()) :
    Unprepared site attachPod (s.noting (.owned name)) :=
  fresh.noting _ (fresh.orderly.owned passed) fun _ _ _ => nofun

theorem Unprepared.query (fresh : Unprepared site attachPod s) {query : Query} (reply : Reply)
    (other : ∀ kind name, query ≠ .resource kind name) :
    Unprepared site attachPod (s.noting (.ran (.query query) reply)) := by
  have command : ∀ kind name, Command.query query ≠ .query (.resource kind name) :=
    fun kind name same => other kind name (Command.query.inj same)
  have authorised : site.Authorised s.trace (.query query) := trivial
  apply fresh.noting
  · apply fresh.orderly.ran reply authorised _ command
    intro _ same
    cases same
  · exact fun kind name _ same => command kind name (Occurrence.ran.inj same).1

/-- The text that `assert_manifest_owned` checks is the name of the manifest, where it is not empty. -/
theorem manifestName_eq {manifest : Json} {metadata name : Option Json} {text : Text}
    (outer : manifest.get "metadata" = .ok metadata)
    (inner : (metadata.getD (.obj [])).get "name" = .ok name)
    (read : name.getD (.str ⟨[]⟩) = .str text) (some' : text.isEmpty = false) :
    manifestName manifest = some text := by
  cases manifest with
  | obj fields =>
    obtain rfl := Except.ok.inj outer
    cases named : Dict.get? fields "metadata" with
    | none =>
      rw [named] at inner
      obtain rfl := Except.ok.inj inner
      cases read
      cases some'
    | some found =>
      rw [named] at inner
      cases found with
      | obj inside =>
        obtain rfl := Except.ok.inj inner
        simp only [manifestName, named]
        cases given : Dict.get? inside "name" with
        | none =>
          rw [given] at read
          cases read
          cases some'
        | some value =>
          rw [given] at read
          obtain rfl : value = .str text := read
          rfl
      | _ => cases inner
  | _ => cases outer

/-- A manifest that passes has a name, and the name passed. -/
theorem assertManifestOwned_comes (manifest : Json) : Comes runner.site attachPod
    (Unprepared runner.site attachPod)
    (fun _ s => Unprepared runner.site attachPod s ∧
      ∃ name, manifestName manifest = some name ∧ .owned name ∈ s.trace)
    (runner.site.assertManifestOwned manifest) := by
  have orderly (s : Session) (fresh : Unprepared runner.site attachPod s) :
      Orderly runner.site attachPod s.trace := fresh.orderly
  unfold Site.assertManifestOwned
  apply Comes.run_bind orderly
  intro metadata outer
  apply Comes.run_bind orderly
  intro name inner
  generalize read : name.getD (.str ⟨[]⟩) = value
  unfold Site.assertOwnedValue
  cases value with
  | str text =>
    apply Comes.bind (Q := fun _ s => Unprepared runner.site attachPod s ∧
      ∃ name, manifestName manifest = some name ∧ .owned name ∈ s.trace)
    · apply Comes.bind (Q := fun _ s => Unprepared runner.site attachPod s ∧
        ∃ name, manifestName manifest = some name ∧ .owned name ∈ s.trace)
      · apply assertOwned_comes orderly
        intro s fresh passed
        exact ⟨fresh.owned passed, text, manifestName_eq outer inner read (assertOwned_passed passed).1,
          List.mem_append_right _ List.mem_cons_self⟩
      · exact fun _ _ holds => holds
    · exact fun _ _ holds => holds
  | _ =>
    apply Comes.bind (Q := fun _ _ => False)
    · apply Comes.ite
      · exact fun _ s fresh => ⟨rfl, fresh.orderly⟩
      · exact fun _ => Comes.raise orderly rfl
    · exact fun _ _ never => never.elim

theorem assertManifestsOwned_comes (manifests : List Json) : Comes runner.site attachPod
    (Unprepared runner.site attachPod)
    (fun _ s => Unprepared runner.site attachPod s ∧ ∀ manifest ∈ manifests,
      ∃ name, manifestName manifest = some name ∧ .owned name ∈ s.trace)
    (runner.site.assertManifestsOwned manifests) := by
  induction manifests with
  | nil => exact fun s fresh => ⟨fresh, fun _ member => absurd member List.not_mem_nil⟩
  | cons manifest rest ih =>
    apply (assertManifestOwned_comes manifest).bind
    rintro - s ⟨fresh, name, named, owned⟩
    apply (ih s fresh).mono
    · intro _ t ahead later
      refine ⟨later.1, List.forall_mem_cons.mpr ⟨⟨name, named, ahead.1.subset owned⟩, later.2⟩⟩
    · exact fun _ _ _ raised => raised

/-- The manifests that are applied were all owned before. -/
theorem apply_comes (content : Text) : Comes runner.site attachPod
    (Unprepared runner.site attachPod) (fun _ => Unprepared runner.site attachPod)
    (runner.site.apply content) := by
  unfold Site.apply
  apply Comes.run_bind fun _ fresh => fresh.orderly
  intro documents loaded
  apply (assertManifestsOwned_comes _).bind
  intro _
  have applied (s : Session) (reply : Reply) (holds : Unprepared runner.site attachPod s ∧
      ∀ manifest ∈ documents.filter Json.truthy,
        ∃ name, manifestName manifest = some name ∧ .owned name ∈ s.trace) :
      Unprepared runner.site attachPod (s.noting (.ran (.apply content) reply)) := by
    have authorised : runner.site.Authorised s.trace (.apply content) :=
      ⟨documents, loaded, fun manifest member some' => holds.2 manifest (List.mem_filter.mpr ⟨member, some'⟩)⟩
    have unfound : ¬ FoundExisting (s.trace ++ [.ran (.apply content) reply]) := by
      rintro ⟨kind, name, result, member, here⟩
      exact holds.1.fresh.2 ⟨kind, name, result, by simpa using member, here⟩
    exact ⟨⟨holds.1.orderly.guarded.ran reply authorised, holds.1.orderly.allowed.ran _ _,
      fun _ => ⟨holds.1.fresh.1, unfound⟩⟩, holds.1.attached, holds.1.fresh.1, unfound⟩
  apply send_comes
  · exact fun s reply holds => (applied s reply holds).orderly
  · exact fun s result holds => applied s _ holds

theorem waitForPod_comes : Comes runner.site attachPod
    (Unprepared runner.site attachPod) (fun _ => Unprepared runner.site attachPod)
    runner.waitForPod := by
  have query {query : Query} (other : ∀ kind name, query ≠ .resource kind name) :
      Comes runner.site attachPod (Unprepared runner.site attachPod)
        (fun _ => Unprepared runner.site attachPod) (runner.site.send (.query query)) := by
    apply send_comes
    · exact fun s reply fresh => (fresh.query reply other).orderly
    · exact fun s result fresh => fresh.query _ other
  have tick : Comes runner.site attachPod (Unprepared runner.site attachPod)
      (fun _ => Unprepared runner.site attachPod) Proof.tick := fun s fresh => fresh.quiet rfl rfl
  have recorded (action : Text) (ok : Bool) (detail : Text) : Comes runner.site attachPod
      (Unprepared runner.site attachPod) (fun _ => Unprepared runner.site attachPod)
      (Proof.record action ok detail) := fun s fresh => fresh.quiet rfl rfl
  have checked (key : Text) (value : Json) : Comes runner.site attachPod
      (Unprepared runner.site attachPod) (fun _ => Unprepared runner.site attachPod)
      (Proof.check key value) := fun s fresh => fresh.quiet rfl rfl
  have saved (name : Text) (content : Written) : Comes runner.site attachPod
      (Unprepared runner.site attachPod) (fun _ => Unprepared runner.site attachPod)
      (Proof.save name content) := fun s fresh => fresh.quiet rfl rfl
  apply Comes.bind (Q := fun _ => Unprepared runner.site attachPod)
  · exact fun s fresh => fresh.quiet rfl rfl
  · intro deadline
    apply preserves_whileBefore tick
    · intro _
      apply (query (by nofun)).bind
      intro listed
      split
      · exact fun _ holds => holds
      · next name _ _ =>
        have ready : Comes runner.site attachPod (Unprepared runner.site attachPod)
            (fun _ => Unprepared runner.site attachPod) (runner.site.podReady name) :=
          (query (by nofun)).bind fun _ => Preserves.pure _
        apply ready.bind
        intro ready
        apply Comes.ite
        · intro _
          apply (recorded _ _ _).bind
          intro _
          apply (checked _ _).bind
          intro _
          apply Comes.bind (query (by nofun))
          intro spec
          exact (saved _ _).bind fun _ => Preserves.pure _
        · exact fun _ _ holds => holds
    · exact fun _ s fresh => ⟨rfl, fresh.orderly⟩

/-- The first command to a Pod of its own is guarded. -/
theorem installRuntime_comes (pod : Text) : Comes runner.site attachPod
    (fun s => Unprepared runner.site attachPod s ∧ s.pod = some pod)
    (fun _ s => ∃ pod, Held runner.site attachPod pod s) runner.installRuntime := by
  intro s holds
  unfold Runner.installRuntime
  rw [wp_bind, Proof.currentPod, wp_bind, wp_read, holds.2, wp_pure]
  have copied : Comes runner.site attachPod
      (fun s => Unprepared runner.site attachPod s ∧ s.pod = some pod)
      (fun _ => Held runner.site attachPod pod)
      (runner.site.copyInto pod (runner.site.workdir ++ "/install_vllm_kunlun.sh")) := by
    apply Comes.bind (Q := fun _ => Held runner.site attachPod pod)
    · apply assertOwned_comes fun _ holds => holds.1.orderly
      intro s holds passed
      refine ⟨holds.1.orderly.owned passed, holds.2, List.mem_append_right _ List.mem_cons_self, ?_⟩
      intro other given
      exact absurd (holds.1.attached.symm.trans given) nofun
    · intro _
      exact Held.comes (Calm.send held_steady (by rfl)).endures
  have whole := copied.bind fun result =>
    Held.comes (Runner.installCopied_calm held_steady result).endures
  apply (whole s holds).mono
  · exact fun _ t _ held => ⟨pod, held⟩
  · exact fun _ _ _ raised => raised

theorem prepareEnvironment_comes : Comes runner.site attachPod
    (Unprepared runner.site attachPod)
    (fun _ s => ∃ pod, Held runner.site attachPod pod s) runner.prepareEnvironment := by
  have orderly (s : Session) (fresh : Unprepared runner.site attachPod s) :
      Orderly runner.site attachPod s.trace := fresh.orderly
  apply (rendered_comes orderly).bind
  intro manifest
  apply Comes.bind (Q := fun _ => Unprepared runner.site attachPod)
  · exact fun s fresh => fresh.quiet rfl rfl
  · intro _
    apply (apply_comes _).bind
    intro applied
    apply Comes.ite
    · exact fun _ => Comes.raise orderly rfl
    · intro _
      apply Comes.bind (Q := fun _ => Unprepared runner.site attachPod)
      · exact fun s fresh => fresh.quiet rfl rfl
      · intro _
        apply waitForPod_comes.bind
        intro pod
        apply Comes.bind (Q := fun _ s => Unprepared runner.site attachPod s ∧ s.pod = some pod)
        · exact fun s fresh => ⟨fresh.quiet rfl rfl, rfl⟩
        · exact fun _ => installRuntime_comes pod

theorem preflight_comes : Comes runner.site attachPod (Unprepared runner.site attachPod)
    (fun _ => Unprepared runner.site attachPod) runner.preflight := by
  have sent : Comes runner.site attachPod (Unprepared runner.site attachPod)
      (fun _ => Unprepared runner.site attachPod) (runner.site.send (.query .canCreatePods)) := by
    apply send_comes
    · exact fun s reply fresh => (fresh.query reply (by nofun)).orderly
    · exact fun s result fresh => fresh.query _ (by nofun)
  have allowed : Comes runner.site attachPod (Unprepared runner.site attachPod)
      (fun _ => Unprepared runner.site attachPod) runner.site.canCreatePods :=
    sent.bind fun _ => Preserves.pure _
  apply allowed.bind
  intro can
  apply Comes.ite
  · exact fun _ s fresh => fresh.quiet rfl rfl
  · exact fun _ s fresh => ⟨rfl, fresh.orderly⟩

theorem obtainPod_comes : Comes runner.site attachPod
    (Looking runner.site attachPod)
    (fun _ s => ∃ pod, Held runner.site attachPod pod s) runner.obtainPod := by
  apply findPod_comes.bind
  intro found
  cases found with
  | some pod =>
    intro s holds
    have entered : Orderly runner.site attachPod s.trace ∧
        ∀ other, given s.attachPod = some other → other = pod :=
      ⟨holds.1.orderly, fun other given => (Option.some.inj (holds.2.symm.trans given)).symm⟩
    exact (attach_comes pod s entered).mono (fun _ _ _ held => ⟨pod, held⟩) fun _ _ _ raised => raised
  | none =>
    apply Comes.bind (Q := fun _ => Unprepared runner.site attachPod)
    · intro s holds
      exact preflight_comes s holds.fresh
    · exact fun _ => prepareEnvironment_comes

theorem actions_comes : Comes runner.site attachPod (Looking runner.site attachPod)
    (fun _ s => Orderly runner.site attachPod s.trace) runner.actions := by
  apply obtainPod_comes.bind
  rintro - s ⟨pod, held⟩
  have environment : Keeping runner.site attachPod pod runner.proveEnvironment :=
    Runner.proveEnvironment_endures held_steady alreadyServing_keeping toyBringup_keeping
      runChatSmoke_keeping fun _ => trivial
  have service : Keeping runner.site attachPod pod runner.proveService :=
    Runner.proveService_endures held_steady alreadyServing_keeping toyBringup_keeping
      runChatSmoke_keeping fun _ => trivial
  split
  · rw [wp_bind]
    exact (Held.comes environment s held).mono (fun _ _ _ held => held.orderly)
      fun _ _ _ orderly => orderly
  · rw [wp_bind]
    exact (Held.comes service s held).mono (fun _ _ _ held => held.orderly)
      fun _ _ _ orderly => orderly

end Preparing

/-- Publishing a status sends no command. -/
theorem conclude_trace (runner : Runner) (outcome : Except Fault Text) (trace : List Occurrence) :
    Preserves (fun s => s.trace = trace) (fun _ s => s.trace = trace) (runner.conclude outcome) := by
  have saved (name : Text) (content : Written) : Preserves (fun s => s.trace = trace)
      (fun _ s => s.trace = trace) (Proof.save name content) := fun _ same => same
  have recorded (action : Text) (ok : Bool) (detail : Text) : Preserves (fun s => s.trace = trace)
      (fun _ s => s.trace = trace) (Proof.record action ok detail) := fun _ same => same
  have registered (status : Dict) : Preserves (fun s => s.trace = trace)
      (fun _ s => s.trace = trace) (runner.registerStatus status) := by
    apply Preserves.read
    intro s same
    split
    · exact same
    · split
      · exact same
      · exact same
  have published (state reason : Text) : Preserves (fun s => s.trace = trace)
      (fun _ s => s.trace = trace) (runner.publish state reason) := by
    apply Preserves.read
    intro s
    apply Preserves.bind (saved _ _)
    intro _
    apply Preserves.read
    intro t
    exact (saved _ _).bind (fun _ => registered _) t
  have collected (state reason : Text) : Preserves (fun s => s.trace = trace)
      (fun _ s => s.trace = trace) (runner.collectArtifacts state reason) := by
    apply (saved _ _).bind
    intro _
    apply (saved _ _).bind
    intro _
    apply Preserves.ite
    · exact fun _ => (saved _ _).bind fun _ => published _ _
    · exact fun _ => published _ _
  unfold Runner.conclude
  split
  · exact collected _ _
  · exact (recorded _ _ _).bind fun _ => collected _ _
  · exact (recorded _ _ _).bind fun _ => collected _ _
  · exact (recorded _ _ _).bind fun _ => collected _ _
  · exact Preserves.raise fun _ same => same

theorem looking_start (site : Site) (attachPod : Option Text) :
    Looking site attachPod (.start attachPod) := by
  refine ⟨⟨Guarded.empty, nofun, ?_⟩, ?_, rfl⟩
  · rintro ⟨_, _, member⟩
    cases member
  · rintro ⟨_, _, _, member, _⟩
    cases member

/-- Along a whole proof, whatever the cluster answers: a mutating command addresses only resources
whose names passed before, those are the owner's, and a deployment is applied only where no Pod
was given and none existed. -/
theorem proof_orderly (runner : Runner) (attachPod : Option Text) :
    let trace := (runner.proof (.start attachPod)).2.1.trace
    (∀ past command reply rest, trace = past ++ .ran command reply :: rest →
      runner.site.Authorised past command) ∧
    (∀ name, .owned name ∈ trace →
      name.isEmpty = false ∧ name.startsWith runner.site.config.resourcePrefix = true) ∧
    ((given attachPod ≠ none ∨ FoundExisting trace) → ¬ Applied trace) := by
  have whole : wp runner.proof
      (fun _ t => Orderly runner.site attachPod t.trace)
      (fun _ t => Orderly runner.site attachPod t.trace) (.start attachPod) := by
    have concluded (outcome : Except Fault Text) (t : Session)
        (orderly : Orderly runner.site attachPod t.trace) :
        wp (runner.conclude outcome)
          (fun _ u => Orderly runner.site attachPod u.trace)
          (fun _ u => Orderly runner.site attachPod u.trace) t := by
      apply (conclude_trace runner outcome t.trace t rfl).mono
      · exact fun _ _ _ same => same ▸ orderly
      · exact fun _ _ _ same => same ▸ orderly
    unfold Runner.proof
    rw [wp_bind, wp_attempt]
    apply (actions_comes _ (looking_start _ attachPod)).mono
    · exact fun state t _ => concluded (.ok state) t
    · exact fun fault t _ raised => concluded (.error fault) t raised.2
  have orderly := Prog.wp.final whole
  refine ⟨orderly.guarded, fun name member => assertOwned_passed (orderly.allowed name member), ?_⟩
  rintro given applied
  rcases given with given | found
  · exact given (orderly.fresh applied).1
  · exact (orderly.fresh applied).2 found

end InferForge

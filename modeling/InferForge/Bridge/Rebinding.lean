import InferForge.Bridge.Acceptance

/-! What repeated calls of `bind_environment` make of evidence that was accepted before. A call
compares its files with the last accepted record, so a file is protected while that record lists
it. -/
namespace InferForge
open Py Effect Sched ResultValidation

/-- Paths that resolve to one name show one content. -/
def Disk.Coherent (disk : Disk) : Prop :=
  ∀ p q target target', disk.resolve p = .ok target → disk.resolve q = .ok target' →
    target.toText = target'.toText → disk.read p = disk.read q

namespace Bridge

/-- A file the proof in a directory consists of: its status file, or one of its artifacts. -/
inductive Presents (host : Host) (disk : Disk) (artifacts : Path) : Path → Prop
  | status (found : ensureExternal disk artifacts = .ok root) :
      Presents host disk artifacts (root.child "status.json")
  | artifact (found : ensureExternal disk artifacts = .ok root)
      (loaded : loadObject host disk (root.child "status.json") = .ok proof)
      (named : Json.item (.obj proof) "artifacts" = .ok value) (listed : value.elements = .ok names)
      (member : name ∈ names) (text : pathOf name = .ok relative)
      (owner : ArtifactStore disk root = .ok base)
      (inside : ArtifactStore.path disk base relative = .ok path) :
      Presents host disk artifacts path

/-- A call on the run, with the files as it finds them. -/
structure Visit where
  bridge : Bridge
  disk : Disk
  artifacts : Path

/-- The state after some calls, with the records they returned. -/
structure Session where
  world : World
  accepted : List EnvironmentRecord

def Session.visit (host : Host) (session : Session) (visit : Visit) : Session :=
  match bindEnvironment host visit.disk visit.bridge visit.artifacts session.world with
  | (.ok record, w) => ⟨w, session.accepted ++ [record]⟩
  | (.error _, w) => ⟨w, session.accepted⟩

/-- No later record lists a path of an earlier one with another digest. -/
def Faithful (records : List EnvironmentRecord) : Prop :=
  records.Pairwise fun earlier later => ∀ file ∈ earlier.files, ∀ file' ∈ later.files,
    file'.path = file.path → file'.sha256 = file.sha256

/-- A record of the run's metadata lists a path. -/
def Lists (accepted : Json) (path : Text) : Prop :=
  ∃ items item, accepted.item "files" = .ok (.arr items) ∧ item ∈ items ∧
    item.item "path" = .ok (.str path)

/-- The presented proof holds no file that was accepted earlier, is no longer listed by the current
record and shows another digest now. -/
def Untouched (host : Host) (session : Session) (visit : Visit) : Prop :=
  ∀ record ∈ session.accepted, ∀ file ∈ record.files,
    (∃ run, session.world.db.run? visit.bridge.runId = some run ∧
      Lists (Dict.getD run.metadata "graph_environment" .null) file.path) ∨
    ∀ path found, Presents host visit.disk visit.artifacts path →
      fileEvidence host visit.disk path = .ok found → found.path = file.path →
      found.sha256 = file.sha256

section Alike

theorem Alike.field {item : Json} {file : FileEvidence} (alike : Alike item file.json) :
    (∀ v, item.item "path" = .ok v → v = .str file.path) ∧
      ∀ v, item.item "sha256" = .ok v → v = .str file.sha256 := by
  have read {key : Text} {t : Text} (own : Dict.get? [("path", .str file.path), ("sha256", .str file.sha256)] key =
      some (.str t)) (v : Json) (found : item.item key = .ok v) : v = .str t := by
    rcases alike with rfl | same
    · simp only [FileEvidence.json, Json.item, own] at found
      exact (Except.ok.inj found).symm
    · cases item with
      | obj fields =>
        simp only [FileEvidence.json, Json.eq, Bool.and_eq_true] at same
        simp only [Json.item] at found
        split at found
        · next value here =>
          obtain rfl := Except.ok.inj found
          obtain ⟨w, there, equal⟩ := Json.eqFields_lookup same.2 here
          rw [Dict.get?] at own
          obtain rfl := Option.some.inj (there.symm.trans own)
          exact (Json.eq_str_right _ _).mp equal
        · cases found
      | _ => simp [Json.item] at found
  exact ⟨read rfl, read rfl⟩

theorem Alike.files {accepted : Json} {record : EnvironmentRecord}
    (alike : Alike accepted (.obj record.toDict)) (read : accepted.item "files" = .ok value) :
    ∃ items, value = .arr items ∧ List.Forall₂ (fun item file => Alike item file.json) items
      record.files := by
  have own : Dict.get? record.toDict "files" = some (.arr (record.files.map FileEvidence.json)) := rfl
  rcases alike with rfl | same
  · simp only [Json.item, own] at read
    refine ⟨_, (Except.ok.inj read).symm, ?_⟩
    rw [List.forall₂_map_left_iff]
    exact List.forall₂_same.mpr fun _ _ => .inl rfl
  · cases accepted with
    | obj fields =>
      simp only [Json.eq, Bool.and_eq_true] at same
      simp only [Json.item] at read
      split at read
      · next found here =>
        obtain rfl := Except.ok.inj read
        obtain ⟨w, there, equal⟩ := Json.eqFields_lookup same.2 here
        rw [Dict.get?] at own
        obtain rfl := Option.some.inj (there.symm.trans own)
        cases found with
        | arr items =>
          rw [Json.eq] at equal
          refine ⟨items, rfl, ?_⟩
          have pairs := Json.eqItems_forall₂ equal
          rw [List.forall₂_map_right_iff] at pairs
          exact pairs.imp fun _ _ h => .inr h
        | _ => simp [Json.eq, Json.num?] at equal
      · cases read
    | _ => simp [Json.item] at read

theorem Alike.truthy {accepted : Json} {record : EnvironmentRecord}
    (alike : Alike accepted (.obj record.toDict)) : accepted.truthy = true := by
  rcases alike with rfl | same
  · rfl
  · cases accepted with
    | obj fields =>
      simp only [Json.eq, Bool.and_eq_true, beq_iff_eq] at same
      cases fields with
      | nil => exact absurd same.1 (by simp [EnvironmentRecord.toDict])
      | cons => rfl
    | _ => simp [Json.eq, Json.num?] at same

end Alike

section Digests
variable {host : Host} {disk : Disk}

/-- The digests of an accepted record, by path: each is the digest of a file it lists. -/
theorem acceptedDigests_spec {items : List Json} {files : List FileEvidence} {found : Mapping}
    (pairs : List.Forall₂ (fun item file => Alike item (FileEvidence.json file)) items files)
    (read : acceptedDigests items = .ok found) (path : Text) :
    (∀ d, found.get? (.str path) = some d → ∃ file ∈ files, file.path = path ∧ d = .str file.sha256) ∧
      ((∃ file ∈ files, file.path = path) → (found.get? (.str path)).isSome) := by
  -- with what was collected before
  have collected : ∀ (start : Mapping),
      (items.foldlM (fun m item => do
        let path ← item.item "path"
        let digest ← item.item "sha256"
        refuse (!path.hashable) (.type "unhashable type")
        return m.set path digest) start : Except Exn Mapping) = .ok found →
      (∀ d, found.get? (.str path) = some d → start.get? (.str path) = some d ∨
        ∃ file ∈ files, file.path = path ∧ d = .str file.sha256) ∧
      ((∃ file ∈ files, file.path = path) ∨ (start.get? (.str path)).isSome →
        (found.get? (.str path)).isSome) := by
    clear read
    induction pairs with
    | nil =>
      intro start read
      obtain rfl := pure_ok.mp read
      exact ⟨fun d h => .inl h, fun h => by simpa using h⟩
    | @cons item file items files alike rest ih =>
      intro start read
      rw [List.foldlM_cons] at read
      obtain ⟨next, step, read⟩ := bind_ok.mp read
      obtain ⟨p, named, step⟩ := bind_ok.mp step
      obtain ⟨d, digest, step⟩ := bind_ok.mp step
      obtain ⟨_, _, step⟩ := bind_ok.mp step
      obtain rfl := pure_ok.mp step
      obtain rfl := (Alike.field alike).1 p named
      obtain rfl := (Alike.field alike).2 d digest
      obtain ⟨from', has⟩ := ih _ read
      rw [Mapping.get?_set_text] at from' has
      by_cases here : path = file.path
      · subst here
        rw [if_pos rfl] at from' has
        constructor
        · intro d h
          rcases from' d h with same | ⟨other, member, named⟩
          · exact .inr ⟨file, List.mem_cons_self, rfl, (Option.some.inj same).symm⟩
          · exact .inr ⟨other, List.mem_cons_of_mem _ member, named⟩
        · exact fun _ => has (.inr rfl)
      · rw [if_neg here] at from' has
        constructor
        · intro d h
          rcases from' d h with same | ⟨other, member, named⟩
          · exact .inl same
          · exact .inr ⟨other, List.mem_cons_of_mem _ member, named⟩
        · rintro (⟨other, member, same⟩ | before)
          · rcases List.mem_cons.mp member with rfl | member
            · exact absurd same.symm here
            · exact has (.inl ⟨other, member, same⟩)
          · exact has (.inr before)
  obtain ⟨from', has⟩ := collected [] read
  refine ⟨fun d h => ?_, fun member => has (.inl member)⟩
  rcases from' d h with none | listed
  · cases none
  · exact listed

/-- A file that passed the comparison has the digest the current record gives its path. -/
theorem checkUnchanged_digest {accepted : Json} {record : EnvironmentRecord}
    {files : List FileEvidence} (alike : Alike accepted (.obj record.toDict))
    (passed : checkUnchanged accepted files = .ok ()) {file : FileEvidence} (member : file ∈ files)
    (listed : Lists accepted file.path) :
    ∃ old ∈ record.files, old.path = file.path ∧ file.sha256 = old.sha256 := by
  obtain ⟨value, read, passed⟩ := bind_ok.mp passed
  obtain ⟨elements, found, passed⟩ := bind_ok.mp passed
  obtain ⟨old, digests, compared⟩ := bind_ok.mp passed
  obtain ⟨items, rfl, pairs⟩ := Alike.files alike read
  obtain rfl := Except.ok.inj found
  obtain ⟨from', has⟩ := acceptedDigests_spec pairs digests file.path
  have there : ∃ f ∈ record.files, f.path = file.path := by
    obtain ⟨items', item, read', inside, named⟩ := listed
    rw [read] at read'
    obtain rfl := Json.arr.inj (Except.ok.inj read')
    obtain ⟨f, other, alike⟩ := forall₂_member pairs inside
    exact ⟨f, other, (Json.str.inj ((Alike.field alike).1 _ named)).symm⟩
  obtain ⟨digest, here⟩ := Option.isSome_iff_exists.mp (has there)
  obtain ⟨f, inside, same, rfl⟩ := from' digest here
  have checked := forM_member compared member
  rw [here] at checked
  have equal := refuse_ok.mp checked
  rw [Bool.not_eq_false'] at equal
  refine ⟨f, inside, same, ?_⟩
  have := (Json.eq_str_right _ _).mp equal
  exact (Json.str.inj this).symm

/-- The files of a new record are those the proof consists of. -/
theorem artifactFiles_presents {names rest : List Json}
    (found : ensureExternal disk artifacts = .ok root)
    (loaded : loadObject host disk (root.child "status.json") = .ok proof)
    (named : Json.item (.obj proof) "artifacts" = .ok value) (listed : value.elements = .ok names)
    (within : rest ⊆ names) (read : artifactFiles host disk root rest = .ok files) :
    ∀ file ∈ files, ∃ path, Presents host disk artifacts path ∧ fileEvidence host disk path = .ok file := by
  induction rest generalizing files with
  | nil =>
    obtain rfl := Except.ok.inj read
    exact nofun
  | cons name rest ih =>
    obtain ⟨base, owner, read⟩ := bind_ok.mp read
    obtain ⟨relative, text, read⟩ := bind_ok.mp read
    obtain ⟨path, inside, read⟩ := bind_ok.mp read
    obtain ⟨file, shown, read⟩ := bind_ok.mp read
    obtain ⟨more, others, read⟩ := bind_ok.mp read
    obtain rfl := pure_ok.mp read
    intro f member
    rcases List.mem_cons.mp member with rfl | member
    · exact ⟨path, .artifact found loaded named listed (within List.mem_cons_self) text owner inside,
        shown⟩
    · exact ih (fun _ h => within (List.mem_cons_of_mem _ h)) others f member

/-- The content of a file does not depend on the way to it. -/
theorem fileEvidence_coherent (coherent : disk.Coherent) {f g : FileEvidence}
    (one : fileEvidence host disk p = .ok f) (other : fileEvidence host disk q = .ok g)
    (same : f.path = g.path) : f.sha256 = g.sha256 := by
  have shown {p : Path} {f : FileEvidence} (read : fileEvidence host disk p = .ok f) :
      ∃ target content, disk.resolve p = .ok target ∧ disk.read p = .ok content ∧
        f = ⟨target.toText, host.sha256 content⟩ := by
    obtain ⟨_, _, read⟩ := bind_ok.mp read
    obtain ⟨_, _, read⟩ := bind_ok.mp read
    obtain ⟨_, _, read⟩ := bind_ok.mp read
    obtain ⟨_, _, read⟩ := bind_ok.mp read
    obtain ⟨content, loaded, read⟩ := bind_ok.mp read
    obtain ⟨_, _, read⟩ := bind_ok.mp read
    obtain ⟨target, resolved, read⟩ := bind_ok.mp read
    exact ⟨target, content, resolved, loaded, (pure_ok.mp read).symm⟩
  obtain ⟨target, content, resolved, loaded, rfl⟩ := shown one
  obtain ⟨target', content', resolved', loaded', rfl⟩ := shown other
  have equal := coherent p q target target' resolved resolved' same
  rw [loaded, loaded'] at equal
  rw [Except.ok.inj equal]

end Digests

section Sessions
variable {host : Host}

/-- The files of an accepted proof are the files it consists of, and the record they were compared
with did not object. -/
theorem acceptProof_files {disk : Disk} {bridge : Bridge} {run : AdaptationRun} {proof : Dict}
    {record : EnvironmentRecord} (found : ensureExternal disk artifacts = .ok root)
    (loaded : loadObject host disk (root.child "status.json") = .ok proof)
    (ok : acceptProof host disk bridge run root imported proof = .ok record) :
    (∀ file ∈ record.files, ∃ path, Presents host disk artifacts path ∧
      fileEvidence host disk path = .ok file) ∧
    ((Dict.getD run.metadata "graph_environment" .null).truthy = true →
      checkUnchanged (Dict.getD run.metadata "graph_environment" .null) record.files = .ok ()) := by
  obtain ⟨_, _, ok⟩ := bind_ok.mp ok
  obtain ⟨_, _, ok⟩ := bind_ok.mp ok
  obtain ⟨status, shown, ok⟩ := bind_ok.mp ok
  obtain ⟨value, named, ok⟩ := bind_ok.mp ok
  obtain ⟨names, listed, ok⟩ := bind_ok.mp ok
  obtain ⟨files, read, ok⟩ := bind_ok.mp ok
  dsimp only at ok
  have made : record.files = status :: files ∧
      ((Dict.getD run.metadata "graph_environment" .null).truthy = true →
        checkUnchanged (Dict.getD run.metadata "graph_environment" .null) (status :: files) = .ok ()) := by
    split at ok
    · obtain ⟨_, compared, ok⟩ := bind_ok.mp ok
      exact ⟨congrArg EnvironmentRecord.files (pure_ok.mp ok).symm, fun _ => compared⟩
    · next unbound =>
      exact ⟨congrArg EnvironmentRecord.files (pure_ok.mp ok).symm, fun bound => absurd bound unbound⟩
  rw [made.1]
  refine ⟨fun file member => ?_, made.2⟩
  rcases List.mem_cons.mp member with rfl | member
  · exact ⟨_, .status found, shown⟩
  · exact artifactFiles_presents found loaded named listed (List.Subset.refl _) read file member

theorem verdict_files {disk : Disk} {bridge : Bridge} {db : Store} {run : AdaptationRun}
    {record : EnvironmentRecord} (ok : verdict host disk bridge db run artifacts = .ok record) :
    (∀ file ∈ record.files, ∃ path, Presents host disk artifacts path ∧
      fileEvidence host disk path = .ok file) ∧
    ((Dict.getD run.metadata "graph_environment" .null).truthy = true →
      checkUnchanged (Dict.getD run.metadata "graph_environment" .null) record.files = .ok ()) := by
  unfold verdict at ok
  split at ok
  · cases ok
  next root imported located =>
  split at ok
  · cases ok
  next proof loaded =>
  split at ok
  · cases ok
  next record' accepted =>
  have same : record' = record := by
    split at ok
    · exact Except.ok.inj ok
    · split at ok
      · cases ok
      · exact Except.ok.inj ok
  subst same
  exact acceptProof_files (locateProof_root located) loaded accepted

/-- What is known after each call: the records agree on every file, and the run keeps the last. -/
structure Kept (runId : Text) (session : Session) : Prop where
  agree : ∀ r ∈ session.accepted, ∀ r' ∈ session.accepted, ∀ file ∈ r.files, ∀ file' ∈ r'.files,
    file'.path = file.path → file'.sha256 = file.sha256
  last : ∀ record, session.accepted.getLast? = some record →
    ∃ run, session.world.db.run? runId = some run ∧
      Alike (Dict.getD run.metadata "graph_environment" .null) (.obj record.toDict)

/-- A call that raised leaves the record of the run alone. -/
theorem bindEnvironment_raised (host : Host) (disk : Disk) (artifacts : Path) {bridge : Bridge}
    {w : World} {run : AdaptationRun} (known : w.db.run? bridge.runId = some run)
    (raised : (bindEnvironment host disk bridge artifacts w).1 = .error e) :
    ∃ run', (bindEnvironment host disk bridge artifacts w).2.1.db.run? bridge.runId = some run' ∧
      run'.metadata = run.metadata := by
  by_cases execute : bridge.execute = true
  · obtain ⟨proof, e', _, left'⟩ :=
      (bindEnvironment_exact host disk known artifacts execute).raised raised
    generalize (bindEnvironment host disk bridge artifacts w).2.1.db.run? = after at left'
    cases left' with
    | escaped => exact ⟨run, known, rfl⟩
    | unrecorded => exact ⟨run, known, rfl⟩
    | @recorded handoff => exact ⟨run.failed handoff, Function.update_self _ _ _, rfl⟩
  · have kept : Prog.wp (bindEnvironment host disk bridge artifacts) (fun _ _ => False)
        (fun _ u => u.db = w.db) w := by
      unfold bindEnvironment
      rw [Prog.wp_bind, Prog.wp_require]
      exact ⟨fun open' => absurd open' execute, fun _ => rfl⟩
    rw [kept.raised raised]
    exact ⟨run, known, rfl⟩

/-- Only a known run in execute mode gets a record. -/
theorem bindEnvironment_returned {disk : Disk} {bridge : Bridge} {w : World}
    (returned : (bindEnvironment host disk bridge artifacts w).1 = .ok record) :
    ∃ run, w.db.run? bridge.runId = some run ∧
      verdict host disk bridge w.db run artifacts = .ok record ∧
      ∃ run', (bindEnvironment host disk bridge artifacts w).2.1.db.run? bridge.runId = some run' ∧
        Alike (Dict.getD run'.metadata "graph_environment" .null) (.obj record.toDict) := by
  have allowed : Prog.wlp (bindEnvironment host disk bridge artifacts)
      (fun _ _ => bridge.execute = true ∧ ∃ run, w.db.run? bridge.runId = some run) w := by
    unfold bindEnvironment
    rw [Prog.wlp, Prog.wp_bind]
    refine wlp_require fun execute => ?_
    cases found : w.db.run? bridge.runId with
    | some run => exact Prog.wp_of_runs (fun _ _ _ => ⟨execute, run, rfl⟩) fun _ _ _ => trivial
    | none =>
      -- the handler raises again
      rw [Prog.wp_bind, Prog.wp_handle, Prog.wp_bind]
      simp only [Bridge.run, requireRun, Prog.wp_bind, wp_query, found, Prog.wp_raise]
      split
      · unfold rejectProof
        rw [Prog.wp_bind]
        exact Prog.wp_of_runs (fun _ _ _ => trivial) fun _ _ _ => trivial
      · trivial
  obtain ⟨execute, run, known⟩ := allowed.returned returned
  obtain ⟨accepted, run', known', _, alike⟩ :=
    (bindEnvironment_exact host disk known artifacts execute).returned returned
  exact ⟨run, known, accepted, run', known', alike⟩

/-- Files that no call found changed cannot have changed since they were accepted. -/
theorem untouched_of_unchanged {w : World} {past : List Visit} {v : Visit}
    (coherent : v.disk.Coherent) (unchanged : ∀ u ∈ past, u.disk = v.disk) :
    Untouched host (past.foldl (Session.visit host) ⟨w, []⟩) v := by
  -- every accepted record lists files as the disk shows them
  have shown : ∀ (rest : List Visit) (session : Session), (∀ u ∈ rest, u.disk = v.disk) →
      (∀ r ∈ session.accepted, ∀ file ∈ r.files, ∃ path, fileEvidence host v.disk path = .ok file) →
      ∀ r ∈ (rest.foldl (Session.visit host) session).accepted, ∀ file ∈ r.files,
        ∃ path, fileEvidence host v.disk path = .ok file := by
    intro rest
    induction rest with
    | nil => exact fun _ _ before => before
    | cons u rest ih =>
      intro session same before
      refine ih _ (fun u' h => same u' (List.mem_cons_of_mem _ h)) ?_
      unfold Session.visit
      rcases outcome : bindEnvironment host u.disk u.bridge u.artifacts session.world with
        ⟨e | record, after⟩
      · exact before
      · intro r member file inside
        rcases List.mem_append.mp member with old | new
        · exact before r old file inside
        · obtain rfl := List.mem_singleton.mp new
          obtain ⟨run, _, accepted, _⟩ := bindEnvironment_returned (by rw [outcome])
          obtain ⟨path, _, found⟩ := (verdict_files accepted).1 file inside
          exact ⟨path, same u List.mem_cons_self ▸ found⟩
  intro r member file inside
  obtain ⟨path, found⟩ := shown past ⟨w, []⟩ unchanged nofun r member file inside
  exact .inr fun path' found' _ shown' same => fileEvidence_coherent coherent shown' found same

theorem visit_kept {session : Session} {v : Visit} (kept : Kept v.bridge.runId session)
    (coherent : v.disk.Coherent) (untouched : Untouched host session v) :
    Kept v.bridge.runId (session.visit host v) := by
  unfold Session.visit
  rcases outcome : bindEnvironment host v.disk v.bridge v.artifacts session.world with ⟨e | record, u⟩
  · refine ⟨kept.agree, fun record last => ?_⟩
    obtain ⟨run, known, alike⟩ := kept.last record last
    obtain ⟨run', known', same⟩ := bindEnvironment_raised host v.disk v.artifacts known (by rw [outcome])
    rw [outcome] at known'
    exact ⟨run', known', same ▸ alike⟩
  · obtain ⟨run, known, accepted, run', known', alike⟩ := bindEnvironment_returned (by rw [outcome])
    rw [outcome] at known'
    obtain ⟨presented, compared⟩ := verdict_files accepted
    -- against an earlier record
    have past : ∀ r ∈ session.accepted, ∀ file ∈ r.files, ∀ file' ∈ record.files,
        file'.path = file.path → file'.sha256 = file.sha256 := by
      intro r member file inside file' inside' same
      rcases untouched r member file inside with ⟨run₀, known₀, listed⟩ | unmodified
      · obtain rfl := Option.some.inj (known₀.symm.trans known)
        obtain ⟨last, final⟩ : ∃ last, session.accepted.getLast? = some last :=
          ⟨_, List.getLast?_eq_some_getLast (List.ne_nil_of_mem member)⟩
        obtain ⟨run₁, known₁, kept'⟩ := kept.last last final
        obtain rfl := Option.some.inj (known₁.symm.trans known)
        rw [← same] at listed
        obtain ⟨old, inside₁, named, digest⟩ :=
          checkUnchanged_digest kept' (compared (Alike.truthy kept')) inside' listed
        rw [digest]
        exact kept.agree r member last (List.mem_of_getLast? final) file inside old inside₁
          (named.trans same)
      · obtain ⟨path, presents, shown⟩ := presented file' inside'
        exact unmodified path file' presents shown same
    refine ⟨?_, fun r last => ?_⟩
    · intro r member r' member' file inside file' inside' same
      rcases List.mem_append.mp member with old | new <;>
        rcases List.mem_append.mp member' with old' | new'
      · exact kept.agree r old r' old' file inside file' inside' same
      · obtain rfl := List.mem_singleton.mp new'
        exact past r old file inside file' inside' same
      · obtain rfl := List.mem_singleton.mp new
        exact (past r' old' file' inside' file inside same.symm).symm
      · obtain rfl := List.mem_singleton.mp new
        obtain rfl := List.mem_singleton.mp new'
        obtain ⟨p, _, shown⟩ := presented file inside
        obtain ⟨q, _, shown'⟩ := presented file' inside'
        exact fileEvidence_coherent coherent shown' shown same
    · rw [List.getLast?_append, List.getLast?_singleton] at last
      obtain rfl := Option.some.inj last
      exact ⟨run', known', alike⟩

/-- Evidence that was accepted is accepted again only unchanged, as long as no call presents a
modified file that an earlier record listed and the current one does not. -/
theorem bindEnvironment_faithful (host : Host) (runId : Text) (w : World) (visits : List Visit)
    (own : ∀ v ∈ visits, v.bridge.runId = runId) (coherent : ∀ v ∈ visits, v.disk.Coherent)
    (untouched : ∀ past v rest, visits = past ++ v :: rest →
      Untouched host (past.foldl (Session.visit host) ⟨w, []⟩) v) :
    Faithful (visits.foldl (Session.visit host) ⟨w, []⟩).accepted := by
  have start : Kept runId ⟨w, []⟩ := ⟨nofun, nofun⟩
  have kept : ∀ rest past, visits = past ++ rest →
      Kept runId (past.foldl (Session.visit host) ⟨w, []⟩) →
      Kept runId (visits.foldl (Session.visit host) ⟨w, []⟩) := by
    intro rest
    induction rest with
    | nil =>
      intro past all kept
      rwa [all, List.append_nil]
    | cons v rest ih =>
      intro past all kept
      have member : v ∈ visits := by simp [all]
      obtain rfl := own v member
      refine ih (past ++ [v]) (by simp [all]) ?_
      rw [List.foldl_append]
      exact visit_kept kept (coherent v member) (untouched past v rest all)
  exact List.pairwise_of_forall_mem_list (kept visits [] rfl start).agree

end Sessions

theorem Disk.holding_coherent (files : List (Text × Bytes)) (baseModel : Except Exn Json) :
    Disk.Coherent { Disk.holding files with baseModel } := by
  intro p q target target' one other same
  obtain rfl := Except.ok.inj one
  obtain rfl := Except.ok.inj other
  simp only [Disk.holding, same]

/-! A run that goes from one directory to another and back, where a file has changed meanwhile. -/

def proofHost : Host :=
  .reading [(baseModelText, .obj baseModelSample),
    ([1], .obj (Dict.erase (proofSample "alice" "pod") "artifact_root"))]

/-- Two directories with a proof each; the last file of the first has the content `chat`. -/
def proofDisk (chat : Bytes) : Disk :=
  { Disk.holding ((Text.ofString "/runs/a/base_chat_result.json", chat) ::
      evidenceSample "/runs/a" [1] [3] ++ evidenceSample "/runs/b" [1] [3]) with
    baseModel := .ok (.obj baseModelSample) }

def proofSession : Session :=
  ⟨history proofHost [(proofDisk [49], .createRun runSample)], []⟩

def returnVisits : List Visit :=
  [⟨sample, proofDisk [49], .ofText "/runs/a"⟩, ⟨sample, proofDisk [49], .ofText "/runs/b"⟩,
    ⟨sample, proofDisk [50], .ofText "/runs/a"⟩]

instance (records : List EnvironmentRecord) : Decidable (Faithful records) :=
  inferInstanceAs (Decidable (List.Pairwise _ _))

/-- The changed file of the first directory is accepted again. -/
theorem returned_unfaithful :
    ¬ Faithful (returnVisits.foldl (Session.visit proofHost) proofSession).accepted := by
  decide +kernel

/-- The directories visited in the same order while nothing changes. -/
def unchangedVisits : List Visit :=
  [⟨sample, proofDisk [49], .ofText "/runs/a"⟩, ⟨sample, proofDisk [49], .ofText "/runs/b"⟩,
    ⟨sample, proofDisk [49], .ofText "/runs/a"⟩]

theorem unchangedVisits_spec {v : Visit} (member : v ∈ unchangedVisits) :
    v.bridge = sample ∧ v.disk = proofDisk [49] := by
  simp only [unchangedVisits, List.mem_cons, List.not_mem_nil, or_false] at member
  rcases member with rfl | rfl | rfl <;> exact ⟨rfl, rfl⟩

/-- The return to the first directory is accepted, and its record agrees with the first one. -/
theorem bindEnvironment_faithful_sample :
    (unchangedVisits.foldl (Session.visit proofHost) proofSession).accepted.length = 3 ∧
      Faithful (unchangedVisits.foldl (Session.visit proofHost) proofSession).accepted :=
  ⟨by decide +kernel,
    bindEnvironment_faithful proofHost "run" _ unchangedVisits
      (fun v member => congrArg Bridge.runId (unchangedVisits_spec member).1)
      (fun v member => (unchangedVisits_spec member).2 ▸ Disk.holding_coherent _ _)
      (fun past v rest all => by
        have here : v.disk = proofDisk [49] := (unchangedVisits_spec (by simp [all])).2
        refine untouched_of_unchanged (here ▸ Disk.holding_coherent _ _) fun u before => ?_
        exact (unchangedVisits_spec (by simp [all, before])).2.trans here.symm)⟩

end Bridge
end InferForge

import InferForge.Patches.Checked

/-! What the drift repairs leave behind, and that a second run finds nothing to do. -/
namespace InferForge.Patches.Drift
open Py

section
variable {Path : Type} [DecidableEq Path] {files files' : Files Path} {transaction after : Transaction Path}

/-- The text of a file. -/
def textOf (files : Files Path) (path : Path) : Option Text := (files path).bind readText

/-- The text that a commit of the transaction leaves in a file. -/
def Settled (files : Files Path) (transaction : Transaction Path) (path : Path) (text : Text) : Prop :=
  transaction.staged.lookup path = some text ∨
    transaction.staged.lookup path = none ∧ textOf files path = some text

theorem read_fresh (fresh : transaction.staged.lookup path = none) :
    transaction.read files path = textOf files path := by
  rw [Transaction.read, fresh]
  rfl

/-- A `stage` call for a path not staged before. -/
theorem stage_settles {content : Text} (fresh : transaction.staged.lookup path = none)
    (staged : transaction.stage files path content = some (changed, after)) :
    Settled files after path content ∧
      ∀ other, other ≠ path → after.staged.lookup other = transaction.staged.lookup other := by
  obtain ⟨current, read, same⟩ := Option.map_eq_some_iff.mp staged
  split at same
  · next unchanged =>
    cases same
    have text := current_fresh fresh read
    rw [unchanged] at text
    exact ⟨.inr ⟨fresh, text.symm⟩, fun _ _ => rfl⟩
  · cases same
    constructor
    · exact .inl (by rw [lookup_assign, if_pos rfl])
    · intro other elsewhere
      dsimp only
      rw [lookup_assign, if_neg elsewhere]

theorem stage_available (fresh : transaction.staged.lookup path = none)
    (readable : ∀ bytes, files path = some bytes → (readText bytes).isSome = true) (content : Text) :
    ∃ result, transaction.stage files path content = some result := by
  have current : ∃ current, transaction.current files path = some current := by
    cases file : files path with
    | none => exact ⟨none, by simp [Transaction.current, file, fresh]⟩
    | some bytes =>
      obtain ⟨text, read⟩ := Option.isSome_iff_exists.mp (readable bytes file)
      exact ⟨some text, by simp [Transaction.current, Transaction.read, file, fresh, read]⟩
  obtain ⟨current, read⟩ := current
  rw [Transaction.stage, read]
  exact ⟨_, rfl⟩

/-! ## A step -/

def Action.path : Action Path → Path
  | .stage path _ => path
  | .patch path _ => path

/-- The text that a step wants in its file. -/
inductive Aims (files : Files Path) : Action Path → Text → Prop
  | stage : Aims files (.stage path content) content
  | patch (read : textOf files path = some text)
      (ran : repairText repairs false text = some (changed, text')) :
      Aims files (.patch path repairs) text'

theorem repairText_unchanged {repairs : List Repair}
    (ran : repairText repairs changed text = some (false, text')) : changed = false ∧ text' = text := by
  induction repairs generalizing changed text with
  | nil =>
    cases ran
    exact ⟨rfl, rfl⟩
  | cons repair rest ih =>
    obtain ⟨-, ran⟩ | ⟨-, -, ran⟩ := repairText_cons ran
    · exact ih ran
    · cases (ih ran).1

theorem perform_settles {action : Action Path} {results results' : List (Option Bool)}
    (fresh : transaction.staged.lookup action.path = none)
    (ran : perform files (results, transaction) action = some (results', after)) :
    (∃ more, results' = results ++ more) ∧
      (none ∉ results' → ∃ text, Aims files action text ∧ Settled files after action.path text) ∧
      ∀ other, other ≠ action.path → after.staged.lookup other = transaction.staged.lookup other := by
  cases action with
  | stage path content =>
    obtain ⟨⟨_, _⟩, staged, same⟩ := Option.bind_eq_some_iff.mp ran
    cases same
    obtain ⟨settled, others⟩ := stage_settles fresh staged
    exact ⟨⟨[], (List.append_nil _).symm⟩, fun _ => ⟨content, .stage, settled⟩, others⟩
  | patch path repairs =>
    obtain ⟨⟨result, _⟩, patched, same⟩ := Option.bind_eq_some_iff.mp ran
    cases same
    refine ⟨⟨[result], rfl⟩, ?_⟩
    obtain ⟨text, read, patched⟩ := Option.bind_eq_some_iff.mp patched
    replace read := (read_fresh fresh).symm.trans read
    split at patched
    · cases patched
      exact ⟨fun clean => absurd (by simp) clean, fun _ _ => rfl⟩
    · next _ same outcome =>
      cases patched
      obtain ⟨-, rfl⟩ := repairText_unchanged outcome
      exact ⟨fun _ => ⟨_, .patch read outcome, .inr ⟨fresh, read⟩⟩, fun _ _ => rfl⟩
    · next _ text' outcome =>
      obtain ⟨⟨_, _⟩, staged, same⟩ := Option.bind_eq_some_iff.mp patched
      cases same
      obtain ⟨settled, others⟩ := stage_settles fresh staged
      exact ⟨fun _ => ⟨text', .patch read outcome, settled⟩, others⟩

/-- The steps one after the other, each on a path of its own. -/
theorem foldlM_settles {actions : List (Action Path)} {results results' : List (Option Bool)}
    (distinct : (actions.map Action.path).Nodup)
    (fresh : ∀ action ∈ actions, transaction.staged.lookup action.path = none)
    (ran : actions.foldlM (perform files) (results, transaction) = some (results', after)) :
    (∃ more, results' = results ++ more) ∧
      (none ∉ results' → ∀ action ∈ actions, ∃ text,
        Aims files action text ∧ Settled files after action.path text) ∧
      ∀ other, other ∉ actions.map Action.path →
        after.staged.lookup other = transaction.staged.lookup other := by
  induction actions generalizing results transaction with
  | nil =>
    cases ran
    exact ⟨⟨[], (List.append_nil _).symm⟩, (fun _ _ none => nomatch none), fun _ _ => rfl⟩
  | cons action rest ih =>
    rw [List.map_cons, List.nodup_cons] at distinct
    rw [List.forall_mem_cons] at fresh
    rw [List.foldlM_cons] at ran
    obtain ⟨⟨first, middle⟩, step, ran⟩ := Option.bind_eq_some_iff.mp ran
    obtain ⟨⟨more, rfl⟩, here, others⟩ := perform_settles fresh.1 step
    have fresh' : ∀ later ∈ rest, middle.staged.lookup later.path = none := by
      intro later member
      have elsewhere : later.path ≠ action.path :=
        fun same => distinct.1 (same ▸ List.mem_map_of_mem member)
      rw [others _ elsewhere, fresh.2 later member]
    obtain ⟨⟨more', rfl⟩, settled, others'⟩ := ih distinct.2 fresh' ran
    refine ⟨⟨more ++ more', by rw [List.append_assoc]⟩, fun clean => ?_, fun other outside => ?_⟩
    · rw [List.forall_mem_cons]
      refine ⟨?_, settled clean⟩
      obtain ⟨text, aims, settles⟩ := here fun member => clean (List.mem_append_left _ member)
      refine ⟨text, aims, ?_⟩
      rwa [Settled, others' _ distinct.1]
    · rw [List.map_cons, List.mem_cons, not_or] at outside
      rw [others' other outside.2, others other outside.1]

/-! ## The commit -/

theorem writeAll_easy {faults : Path → Option (Option (List UInt8))} (files : Files Path)
    (attempted : List Path) {entries : List (Path × Text)}
    (wrote : (writeAll faults files attempted entries).2.2 = none) :
    ∀ entry ∈ entries, smooth faults entry = true := by
  induction entries generalizing files attempted with
  | nil => exact fun _ none => nomatch none
  | cons entry rest ih =>
    rw [List.forall_mem_cons]
    by_cases easy : smooth faults entry = true
    · rw [writeAll, writeText_smooth easy] at wrote
      exact ⟨easy, ih _ _ wrote⟩
    · cases fault : faults entry.1 with
      | some left => simp [writeAll, writeText, fault] at wrote
      | none =>
        have refused : entry.2.encodable = false := by simpa [smooth, fault] using easy
        simp [writeAll, writeText, fault, refused] at wrote

theorem commit_ok {faults : Path → Option (Option (List UInt8))} {paths : List Path}
    (committed : transaction.commit faults files = (files', .ok paths)) :
    (∀ entry ∈ transaction.staged, smooth faults entry = true) ∧
      files' = written files transaction.staged := by
  have easy : ∀ entry ∈ transaction.staged, smooth faults entry = true := by
    apply writeAll_easy files []
    unfold Transaction.commit at committed
    split at committed
    · next same => rw [same]
    · split at committed <;> cases committed
    · cases committed
  refine ⟨easy, ?_⟩
  rw [commit_returns easy] at committed
  cases committed
  rfl

theorem settled_written {path : Path} {text : Text} (distinct : (transaction.staged.map Prod.fst).Nodup)
    (stable : Stable text) (settled : Settled files transaction path text) :
    textOf (written files transaction.staged) path = some text := by
  obtain staged | ⟨unstaged, kept⟩ := settled
  · rw [textOf, written_entry distinct ((lookup_mem distinct).mp staged)]
    exact stable.readText
  · rw [textOf, written_other, ← textOf, kept]
    intro member
    obtain ⟨⟨_, content⟩, listed, rfl⟩ := List.mem_map.mp member
    rw [(lookup_mem distinct).mpr listed] at unstaged
    cases unstaged

theorem stage_distinct {content : Text} (distinct : (transaction.staged.map Prod.fst).Nodup)
    (staged : transaction.stage files path content = some (changed, after)) :
    (after.staged.map Prod.fst).Nodup := by
  obtain ⟨same, -⟩ | ⟨current, same, -⟩ := stage_cases staged
  · cases same
    exact distinct
  · cases same
    rw [keys_assign]
    exact nodup_insertNew distinct path

theorem foldlM_distinct {actions : List (Action Path)} {results results' : List (Option Bool)}
    (distinct : (transaction.staged.map Prod.fst).Nodup)
    (ran : actions.foldlM (perform files) (results, transaction) = some (results', after)) :
    (after.staged.map Prod.fst).Nodup := by
  induction actions generalizing results transaction with
  | nil =>
    cases ran
    exact distinct
  | cons action rest ih =>
    rw [List.foldlM_cons] at ran
    obtain ⟨⟨first, middle⟩, step, ran⟩ := Option.bind_eq_some_iff.mp ran
    refine ih ?_ ran
    cases action with
    | stage path content =>
      obtain ⟨⟨_, _⟩, staged, same⟩ := Option.bind_eq_some_iff.mp step
      cases same
      exact stage_distinct distinct staged
    | patch path repairs =>
      obtain ⟨⟨_, _⟩, patched, same⟩ := Option.bind_eq_some_iff.mp step
      cases same
      obtain ⟨text, read, patched⟩ := Option.bind_eq_some_iff.mp patched
      split at patched
      · cases patched
        exact distinct
      · cases patched
        exact distinct
      · obtain ⟨⟨_, _⟩, staged, same⟩ := Option.bind_eq_some_iff.mp patched
        cases same
        exact stage_distinct distinct staged

/-! ## The steps applied -/

/-- The new contents and new texts of a step come back from a file as written. -/
def Action.Steady : Action Path → Prop
  | .stage _ content => Stable content
  | .patch _ repairs => ∀ repair ∈ repairs, Stable repair.new

omit [DecidableEq Path] in
theorem Aims.stable {action : Action Path} {text : Text} (steady : action.Steady)
    (aims : Aims files action text) : Stable text := by
  cases aims with
  | stage => exact steady
  | patch read ran =>
    obtain ⟨bytes, -, read⟩ := Option.bind_eq_some_iff.mp read
    exact stable_repairText (stable_of_readText read) steady ran

/-- After a run that returns 0 each file has the text that its step wants. -/
theorem apply_zero {actions : List (Action Path)} {faults : Path → Option (Option (List UInt8))}
    (distinct : (actions.map Action.path).Nodup) (steady : ∀ action ∈ actions, action.Steady)
    (ran : apply faults files actions = (files', some 0)) :
    ∀ action ∈ actions, ∃ text, Aims files action text ∧ textOf files' action.path = some text := by
  unfold apply at ran
  split at ran
  · cases ran
  · next _ results transaction folded =>
    split at ran
    · cases ran
    · next clean =>
      split at ran
      · next _ _ committed =>
        cases ran
        have missing : none ∉ results := by
          intro member
          exact clean (List.any_eq_true.mpr ⟨none, member, rfl⟩)
        obtain ⟨-, settled, -⟩ := foldlM_settles distinct (fun _ _ => rfl) folded
        intro action member
        obtain ⟨text, aims, settles⟩ := settled missing action member
        refine ⟨text, aims, ?_⟩
        rw [(commit_ok committed).2]
        have empty : (({} : Transaction Path).staged.map Prod.fst).Nodup := List.nodup_nil
        exact settled_written (foldlM_distinct empty folded)
          (aims.stable (steady action member)) settles
      · cases ran

/-- A step whose file has the text that it wants, with every new text of a patch in it. -/
inductive Idle (files : Files Path) : Action Path → Prop
  | stage (kept : textOf files path = some content) : Idle files (.stage path content)
  | patch (read : textOf files path = some text)
      (present : ∀ repair ∈ repairs, repair.new.codes <:+: text.codes) :
      Idle files (.patch path repairs)

theorem perform_idle {action : Action Path} (idle : Idle files action) (results : List (Option Bool)) :
    ∃ more, none ∉ more ∧ perform files (results, {}) action = some (results ++ more, {}) := by
  cases idle with
  | @stage path content kept =>
    refine ⟨[], List.not_mem_nil, ?_⟩
    obtain ⟨bytes, file, read⟩ := Option.bind_eq_some_iff.mp kept
    have current : ({} : Transaction Path).current files path = some (some content) := by
      simp [Transaction.current, Transaction.read, file, read]
    simp [perform, Transaction.stage, current]
  | @patch path text repairs read present =>
    refine ⟨[some false], by simp, ?_⟩
    have read' : ({} : Transaction Path).read files path = some text := read
    simp [perform, patch, read', repairText_idle present]

theorem any_isNone {results : List (Option Bool)} (clean : none ∉ results) :
    ¬ results.any Option.isNone = true := by
  intro found
  obtain ⟨result, member, missing⟩ := List.any_eq_true.mp found
  rw [Option.isNone_iff_eq_none] at missing
  exact clean (missing ▸ member)

theorem apply_idle {actions : List (Action Path)} (idle : ∀ action ∈ actions, Idle files action)
    (faults : Path → Option (Option (List UInt8))) :
    apply faults files actions = (files, some 0) := by
  have folded : ∀ results, none ∉ results → ∃ results', none ∉ results' ∧
      actions.foldlM (perform files) (results, {}) = some (results', {}) := by
    induction actions with
    | nil => exact fun results clean => ⟨results, clean, rfl⟩
    | cons action rest ih =>
      rw [List.forall_mem_cons] at idle
      intro results clean
      obtain ⟨more, clean', step⟩ := perform_idle idle.1 results
      obtain ⟨results', missing, ran⟩ := ih idle.2 (results ++ more) (by simp [clean, clean'])
      refine ⟨results', missing, ?_⟩
      rw [List.foldlM_cons, step]
      exact ran
  obtain ⟨results, clean, ran⟩ := folded [] List.not_mem_nil
  rw [apply, ran]
  dsimp only
  rw [if_neg (any_isNone clean)]
  rfl

theorem perform_available {action : Action Path} {text : Text}
    (readable : ∀ path bytes, files path = some bytes → (readText bytes).isSome = true)
    (fresh : transaction.staged.lookup action.path = none) (aims : Aims files action text)
    (results : List (Option Bool)) :
    ∃ more after, none ∉ more ∧ perform files (results, transaction) action =
      some (results ++ more, after) := by
  cases aims with
  | @stage path content =>
    obtain ⟨⟨changed, after⟩, staged⟩ := stage_available fresh (readable path) text
    replace staged : transaction.stage files path text = some (changed, after) := staged
    refine ⟨[], after, List.not_mem_nil, ?_⟩
    simp [perform, staged]
  | @patch path before repairs changed after read ran =>
    have read' : transaction.read files path = some before := (read_fresh fresh).trans read
    cases changed with
    | false =>
      refine ⟨[some false], transaction, by simp, ?_⟩
      simp [perform, patch, read', ran]
    | true =>
      obtain ⟨⟨changed, after⟩, staged⟩ := stage_available fresh (readable path) text
      replace staged : transaction.stage files path text = some (changed, after) := staged
      refine ⟨[some true], after, by simp, ?_⟩
      simp [perform, patch, read', ran, staged]

theorem foldlM_available {actions : List (Action Path)}
    (distinct : (actions.map Action.path).Nodup)
    (fresh : ∀ action ∈ actions, transaction.staged.lookup action.path = none)
    (readable : ∀ path bytes, files path = some bytes → (readText bytes).isSome = true)
    (applicable : ∀ action ∈ actions, ∃ text, Aims files action text)
    {results : List (Option Bool)} (clean : none ∉ results) :
    ∃ results' after, none ∉ results' ∧
      actions.foldlM (perform files) (results, transaction) = some (results', after) := by
  induction actions generalizing results transaction with
  | nil => exact ⟨results, transaction, clean, rfl⟩
  | cons action rest ih =>
    rw [List.map_cons, List.nodup_cons] at distinct
    rw [List.forall_mem_cons] at fresh applicable
    obtain ⟨text, aims⟩ := applicable.1
    obtain ⟨more, middle, clean', step⟩ := perform_available readable fresh.1 aims results
    have others := (perform_settles fresh.1 step).2.2
    have fresh' : ∀ later ∈ rest, middle.staged.lookup later.path = none := by
      intro later member
      have elsewhere : later.path ≠ action.path :=
        fun same => distinct.1 (same ▸ List.mem_map_of_mem member)
      rw [others _ elsewhere, fresh.2 later member]
    have clean'' : none ∉ results ++ more := by simp [clean, clean']
    obtain ⟨results', after, missing, ran⟩ := ih distinct.2 fresh' applicable.2 clean''
    refine ⟨results', after, missing, ?_⟩
    rw [List.foldlM_cons, step]
    exact ran

/-- A run that gets through the steps returns 0 when no write fails. -/
theorem apply_available {actions : List (Action Path)}
    (distinct : (actions.map Action.path).Nodup) (steady : ∀ action ∈ actions, action.Steady)
    (readable : ∀ path bytes, files path = some bytes → (readText bytes).isSome = true)
    (applicable : ∀ action ∈ actions, ∃ text, Aims files action text) :
    ∃ files', apply (fun _ => none) files actions = (files', some 0) := by
  have fresh : ∀ action ∈ actions, ({} : Transaction Path).staged.lookup action.path = none :=
    fun _ _ => rfl
  have empty : (({} : Transaction Path).staged.map Prod.fst).Nodup := List.nodup_nil
  have none' : none ∉ ([] : List (Option Bool)) := List.not_mem_nil
  obtain ⟨results, after, clean, folded⟩ := foldlM_available distinct fresh readable applicable none'
  obtain ⟨-, settled, others⟩ := foldlM_settles distinct fresh folded
  have unique := foldlM_distinct empty folded
  have easy : ∀ entry ∈ after.staged, smooth (fun _ => none) entry = true := by
    rintro ⟨path, content⟩ member
    have found := (lookup_mem unique).mpr member
    have listed : path ∈ actions.map Action.path := by
      by_contra outside
      rw [others path outside] at found
      cases found
    obtain ⟨action, inside, rfl⟩ := List.mem_map.mp listed
    obtain ⟨text, aims, settles⟩ := settled clean action inside
    obtain staged | ⟨unstaged, -⟩ := settles
    · obtain rfl := Option.some.inj (found.symm.trans staged)
      simpa [smooth] using (aims.stable (steady action inside)).encodable
    · rw [found] at unstaged
      cases unstaged
  refine ⟨written files after.staged, ?_⟩
  rw [apply, folded]
  dsimp only
  rw [if_neg (any_isNone clean), commit_returns easy]

end

/-! ## `main` -/

/-- The files that `main` repairs, and how. -/
def repaired : List (RuntimeFile × List Repair) :=
  [(.deepseekV2, deepseekV2), (.indexer, indexer), (.pluginInit, pluginInit),
    (.kunlunPlatform, kunlunPlatform)]

theorem repaired_separate : ∀ entry ∈ repaired,
    Separate entry.2 ∧ ∀ repair ∈ entry.2, Stable repair.old ∧ Stable repair.new := by
  simp only [repaired, List.forall_mem_cons]
  exact ⟨deepseekV2_separate, indexer_separate, pluginInit_separate, kunlunPlatform_separate,
    by simp⟩

/-- A text that `main` copies, if it does. -/
inductive Copies (ported : Option Text) : RuntimeFile → Text → Prop
  | ported (given : ported = some content) : Copies ported .flashmlaSparse content
  | stub : Copies ported .prefillXpu prefillStub

theorem mem_actions {ported : Option Text} {action : Action RuntimeFile} :
    action ∈ actions ported ↔ (∃ file content, Copies ported file content ∧ action = .stage file content) ∨
      ∃ entry ∈ repaired, action = .patch entry.1 entry.2 := by
  constructor
  · intro member
    simp only [actions, List.mem_append, Option.mem_toList, Option.map_eq_some_iff, List.mem_cons,
      List.not_mem_nil, or_false] at member
    obtain ⟨content, given, rfl⟩ | rfl | rfl | rfl | rfl | rfl := member
    · exact .inl ⟨_, content, .ported given, rfl⟩
    · exact .inr ⟨(.deepseekV2, deepseekV2), by simp [repaired], rfl⟩
    · exact .inr ⟨(.indexer, indexer), by simp [repaired], rfl⟩
    · exact .inl ⟨_, _, .stub, rfl⟩
    · exact .inr ⟨(.pluginInit, pluginInit), by simp [repaired], rfl⟩
    · exact .inr ⟨(.kunlunPlatform, kunlunPlatform), by simp [repaired], rfl⟩
  · rintro (⟨_, content, copies, rfl⟩ | ⟨entry, listed, rfl⟩)
    · cases copies with
      | ported given => simp [actions, given]
      | stub => simp [actions]
    · simp only [repaired, List.mem_cons, List.not_mem_nil, or_false] at listed
      obtain rfl | rfl | rfl | rfl := listed <;> simp [actions]

theorem actions_distinct (ported : Option Text) : ((actions ported).map Action.path).Nodup := by
  cases ported <;> simp [actions, Action.path]

theorem actions_steady {ported : Option Text} (stable : ∀ content, ported = some content → Stable content) :
    ∀ action ∈ actions ported, action.Steady := by
  intro action member
  obtain ⟨_, content, copies, rfl⟩ | ⟨entry, listed, rfl⟩ := mem_actions.mp member
  · cases copies with
    | ported given => exact stable content given
    | stub => exact prefillStub_stable
  · exact fun repair inside => ((repaired_separate entry listed).2 repair inside).2

/-- What a run that returns 0 leaves in the files of its steps, and what the next one does. -/
theorem apply_again {ported : Option Text} (stable : ∀ content, ported = some content → Stable content)
    {faults : RuntimeFile → Option (Option (List UInt8))} {files files' : Files RuntimeFile}
    (ran : apply faults files (actions ported) = (files', some 0))
    (faults' : RuntimeFile → Option (Option (List UInt8))) :
    apply faults' files' (actions ported) = (files', some 0) := by
  have wanted := apply_zero (actions_distinct ported) (actions_steady stable) ran
  apply apply_idle
  intro action member
  obtain ⟨text, aims, left⟩ := wanted action member
  obtain ⟨_, content, -, rfl⟩ | ⟨entry, listed, rfl⟩ := mem_actions.mp member
  · cases aims
    exact .stage left
  · cases aims with
    | patch read ran =>
      exact .patch left (repairText_present (repaired_separate entry listed).1.keeps ran)

/-- `main` as its steps, when the file beside the script can be read. -/
theorem main_cases (ported : Option (List UInt8))
    (faults : RuntimeFile → Option (Option (List UInt8))) (files : Files RuntimeFile) :
    (∃ content, (∀ text, content = some text → Stable text) ∧
      ∀ faults files, main ported faults files = apply faults files (actions content)) ∨
      ∃ bytes, ported = some bytes ∧ readText bytes = none ∧
        main ported faults files = (files, none) := by
  cases ported with
  | none => exact .inl ⟨none, by simp, fun _ _ => rfl⟩
  | some bytes =>
    cases read : readText bytes with
    | none => exact .inr ⟨bytes, rfl, read, by simp [main, read]⟩
    | some content =>
      refine .inl ⟨some content, ?_, fun faults files => by simp [main, read]⟩
      rintro text ⟨⟩
      exact stable_of_readText read

/-- `text` holds `repair.old` outside `repair.new` nowhere. -/
def Repair.Done (repair : Repair) (text : Text) : Prop :=
  Within repair.old.codes repair.new.codes text.codes

/-- The files of a run that returns 0. -/
theorem main_zero {ported : Option (List UInt8)} {faults : RuntimeFile → Option (Option (List UInt8))}
    {files files' : Files RuntimeFile} (ran : main ported faults files = (files', some 0)) :
    (∀ entry ∈ repaired, ∃ before after, textOf files entry.1 = some before ∧
      textOf files' entry.1 = some after ∧ (∀ repair ∈ entry.2, after.holds repair.new = true) ∧
      ∀ front repair back, entry.2 = front ++ repair :: back →
        (∀ other ∈ front ++ back, other.new.holds repair.old = false) →
        (before.holds repair.new = true → repair.Done before) → repair.Done after) ∧
      ∀ faults', main ported faults' files' = (files', some 0) := by
  obtain ⟨content, stable, same⟩ | ⟨_, -, -, raised⟩ :=
    main_cases ported faults files
  · rw [same] at ran
    refine ⟨fun entry listed => ?_, fun faults' => by rw [same]; exact apply_again stable ran faults'⟩
    have wanted := apply_zero (actions_distinct content) (actions_steady stable) ran
    obtain ⟨after, aims, left⟩ := wanted _ (mem_actions.mpr (.inr ⟨entry, listed, rfl⟩))
    obtain ⟨separate, -⟩ := repaired_separate entry listed
    cases aims with
    | @patch _ before _ _ _ read ran =>
      refine ⟨before, after, read, left, ?_, ?_⟩
      · exact fun repair member => holds_iff.mpr (repairText_present separate.keeps ran repair member)
      · intro front repair back split sole unrepaired
        rw [split] at separate ran
        apply repairText_within separate _ _ ran
        · intro other member inside
          exact absurd (holds_iff.mpr inside) (Bool.eq_false_iff.mp (sole other member))
        · exact fun found => unrepaired (holds_iff.mpr found)
  · rw [raised] at ran
    cases ran

/-- A tree with every anchor. -/
theorem main_available {ported : Option (List UInt8)} {files : Files RuntimeFile}
    (script : ∀ bytes, ported = some bytes → (readText bytes).isSome = true)
    (readable : ∀ file bytes, files file = some bytes → (readText bytes).isSome = true)
    (anchors : ∀ entry ∈ repaired, ∃ text, textOf files entry.1 = some text ∧
      ∀ repair ∈ entry.2, text.holds repair.old = true) :
    ∃ files', main ported (fun _ => none) files = (files', some 0) := by
  obtain ⟨content, stable, same⟩ | ⟨bytes, given, unread, -⟩ :=
    main_cases ported (fun _ => none) files
  · rw [same]
    apply apply_available (actions_distinct content) (actions_steady stable) readable
    intro action member
    obtain ⟨_, text, -, rfl⟩ | ⟨entry, listed, rfl⟩ := mem_actions.mp member
    · exact ⟨text, .stage⟩
    · obtain ⟨text, read, found⟩ := anchors entry listed
      obtain ⟨⟨changed, after⟩, ran⟩ := repairText_available (repaired_separate entry listed).1
        (fun repair member => holds_iff.mp (found repair member)) false
      exact ⟨after, .patch read ran⟩
  · have read := script bytes given
    rw [unread] at read
    cases read

/-! ## `patch` again -/

section
variable {Path : Type} [DecidableEq Path] {files files' : Files Path} {path : Path}
  {repairs : List Repair}

theorem patchFile_again (keeps : repairs.Pairwise Repair.Keeps)
    (plain : ∀ repair ∈ repairs, 13 ∉ repair.new.codes)
    (ran : patchFile files path repairs = (files', some (some changed))) :
    patchFile files' path repairs = (files', some (some false)) := by
  have again {text : Text} (read : (files' path).bind readText = some text)
      (present : ∀ repair ∈ repairs, repair.new.codes <:+: text.codes) :
      patchFile files' path repairs = (files', some (some false)) := by
    simp [patchFile, read, repairText_idle present]
  unfold patchFile at ran
  split at ran
  · cases ran
  · next _ text read =>
    split at ran
    · cases ran
    · next _ _ outcome =>
      cases ran
      obtain ⟨-, rfl⟩ := repairText_unchanged outcome
      exact again read (repairText_present keeps outcome)
    · next _ text' outcome =>
      rw [writeText] at ran
      split at ran
      · next _ wrote =>
        cases ran
        split at wrote
        · next encodable =>
          cases wrote
          have stable : Stable text' := by
            refine ⟨encodable, fun member => ?_⟩
            obtain ⟨bytes, -, read⟩ := Option.bind_eq_some_iff.mp read
            obtain before | ⟨repair, listed, added⟩ := mem_repairText outcome member
            · exact (stable_of_readText read).plain before
            · exact plain repair listed added
          apply again _ (repairText_present keeps outcome)
          rw [Files.set, if_pos rfl]
          exact stable.readText
        · cases wrote
      · cases ran

theorem read_staged {transaction after : Transaction Path} {content : Text}
    (staged : transaction.stage files path content = some (changed, after)) :
    after.read files path = some content := by
  obtain ⟨current, read, same⟩ := Option.map_eq_some_iff.mp staged
  split at same
  · next unchanged =>
    cases same
    rw [unchanged, Transaction.current] at read
    split at read
    · obtain ⟨text, read, same⟩ := Option.map_eq_some_iff.mp read
      rw [read, same]
    · cases read
  · cases same
    rw [Transaction.read, lookup_assign, if_pos rfl]

theorem patch_again {transaction after : Transaction Path} (keeps : repairs.Pairwise Repair.Keeps)
    (ran : patch transaction files path repairs = some (some changed, after)) :
    patch after files path repairs = some (some false, after) := by
  have again {text : Text} (read : after.read files path = some text)
      (present : ∀ repair ∈ repairs, repair.new.codes <:+: text.codes) :
      patch after files path repairs = some (some false, after) := by
    simp [patch, read, repairText_idle present]
  obtain ⟨text, read, ran⟩ := Option.bind_eq_some_iff.mp ran
  split at ran
  · cases ran
  · next _ _ outcome =>
    cases ran
    obtain ⟨-, rfl⟩ := repairText_unchanged outcome
    exact again read (repairText_present keeps outcome)
  · next _ text' outcome =>
    obtain ⟨⟨_, _⟩, staged, same⟩ := Option.bind_eq_some_iff.mp ran
    cases same
    exact again (read_staged staged) (repairText_present keeps outcome)

end

/-- A run that returns 0 leaves every new text in its file, and no old text outside its new text
where no other repair brings it in and the repair was not half done before; another run then returns
0 and changes nothing. A tree with every anchor gets a 0. `patch` finds nothing to do a second time
for lists in which no old text reaches into an earlier new text. -/
theorem drift_repair (ported : Option (List UInt8)) (files : Files RuntimeFile) :
    (∀ faults files', main ported faults files = (files', some 0) →
      (∀ entry ∈ repaired, ∃ before after, textOf files entry.1 = some before ∧
        textOf files' entry.1 = some after ∧ (∀ repair ∈ entry.2, after.holds repair.new = true) ∧
        ∀ front repair back, entry.2 = front ++ repair :: back →
          (∀ other ∈ front ++ back, other.new.holds repair.old = false) →
          (before.holds repair.new = true → repair.Done before) → repair.Done after) ∧
      ∀ faults', main ported faults' files' = (files', some 0)) ∧
    ((∀ bytes, ported = some bytes → (readText bytes).isSome = true) →
      (∀ file bytes, files file = some bytes → (readText bytes).isSome = true) →
      (∀ entry ∈ repaired, ∃ text, textOf files entry.1 = some text ∧
        ∀ repair ∈ entry.2, text.holds repair.old = true) →
      ∃ files', main ported (fun _ => none) files = (files', some 0)) ∧
    ∀ (Path : Type) [DecidableEq Path] (tree : Files Path) (path : Path) (repairs : List Repair),
      repairs.Pairwise Repair.Keeps →
      (∀ changed transaction after,
        patch transaction tree path repairs = some (some changed, after) →
        patch after tree path repairs = some (some false, after)) ∧
      ((∀ repair ∈ repairs, 13 ∉ repair.new.codes) → ∀ changed tree',
        patchFile tree path repairs = (tree', some (some changed)) →
        patchFile tree' path repairs = (tree', some (some false))) :=
  ⟨fun _ _ ran => main_zero ran, main_available, fun _ _ _ _ _ keeps =>
    ⟨fun _ _ _ ran => patch_again keeps ran, fun plain _ _ ran => patchFile_again keeps plain ran⟩⟩

/-! ## A tree with every anchor -/

/-- Each repaired file has its old texts one after the other. -/
def anchorText (repairs : List Repair) : Text := ⟨repairs.flatMap (·.old.codes)⟩

def anchored : Files RuntimeFile := fun file =>
  (repaired.lookup file).map fun repairs => (anchorText repairs).utf8

theorem anchorText_stable {repairs : List Repair} (stable : ∀ repair ∈ repairs, Stable repair.old) :
    Stable (anchorText repairs) := by
  constructor
  · rw [Text.encodable, List.all_eq_true]
    intro c member
    obtain ⟨repair, listed, inside⟩ := List.mem_flatMap.mp member
    exact List.all_eq_true.mp (stable repair listed).encodable c inside
  · intro member
    obtain ⟨repair, listed, inside⟩ := List.mem_flatMap.mp member
    exact (stable repair listed).plain inside

theorem anchorText_holds {repairs : List Repair} {repair : Repair} (listed : repair ∈ repairs) :
    (anchorText repairs).holds repair.old = true := by
  obtain ⟨front, back, rfl⟩ := List.append_of_mem listed
  apply holds_iff.mpr
  refine ⟨front.flatMap (·.old.codes), back.flatMap (·.old.codes), ?_⟩
  rw [anchorText, List.flatMap_append, List.flatMap_cons, List.append_assoc]

theorem anchored_entry : ∀ entry ∈ repaired,
    textOf anchored entry.1 = some (anchorText entry.2) := by
  intro entry listed
  have stable := anchorText_stable fun repair inside =>
    ((repaired_separate entry listed).2 repair inside).1
  have found : repaired.lookup entry.1 = some entry.2 := by
    simp only [repaired, List.mem_cons, List.not_mem_nil, or_false] at listed
    obtain rfl | rfl | rfl | rfl := listed <;> rfl
  rw [textOf, anchored, found]
  exact stable.readText

theorem anchored_readable (file : RuntimeFile) (bytes : List UInt8) (found : anchored file = some bytes) :
    (readText bytes).isSome = true := by
  obtain ⟨repairs, listed, rfl⟩ := Option.map_eq_some_iff.mp found
  have read := anchored_entry (file, repairs) (mem_of_lookup listed)
  rw [textOf, anchored, listed] at read
  rw [Option.isSome_iff_exists]
  exact ⟨_, read⟩

theorem drift_repair_anchored : ∃ files', main none (fun _ => none) anchored = (files', some 0) := by
  apply (drift_repair none anchored).2.1
  · exact fun _ none => nomatch none
  · exact anchored_readable
  · exact fun entry listed => ⟨_, anchored_entry entry listed, fun _ inside => anchorText_holds inside⟩

/-- Whenever `main` returns 0 the text of the wrapper is there beside its fallback. -/
theorem wrapper_remains {ported : Option (List UInt8)}
    {faults : RuntimeFile → Option (Option (List UInt8))} {files files' : Files RuntimeFile}
    (ran : main ported faults files = (files', some 0)) :
    ∃ after, textOf files' .indexer = some after ∧ ¬ opFallback.Done after := by
  obtain ⟨before, after, -, left, present, -⟩ :=
    (main_zero ran).1 (.indexer, indexer) (by simp [repaired])
  refine ⟨after, left, fun done => opFallback_apart.inside (done.inside ?_)⟩
  exact opWrapper_holds.trans (holds_iff.mp (present opWrapper (by simp [indexer])))

def backAndForth : List Repair := [⟨"a", "b"⟩, ⟨"b", "a"⟩]

def oneLetter : Files Unit := fun _ => some (Text.utf8 "a")

/-- A list that undoes its own repair, and a repair whose old text stays in the file. -/
theorem drift_not_repaired :
    (patchFile oneLetter () backAndForth).2 = some (some true) ∧
      (patchFile (patchFile oneLetter () backAndForth).1 () backAndForth).2 = some (some true) ∧
      ∃ files', main none (fun _ => none) anchored = (files', some 0) ∧
        ∃ after, textOf files' .indexer = some after ∧ ¬ opFallback.Done after := by
  refine ⟨by decide, by decide, ?_⟩
  have available : ∃ files', main none (fun _ => none) anchored = (files', some 0) :=
    main_available (fun _ none => nomatch none) anchored_readable
      (fun entry listed => ⟨_, anchored_entry entry listed, fun _ inside => anchorText_holds inside⟩)
  obtain ⟨files', ran⟩ := available
  exact ⟨files', ran, wrapper_remains ran⟩

end InferForge.Patches.Drift

import InferForge.Py.Ordered
import InferForge.Py.Utf8

/-! The transaction of a patch script: contents staged in memory, then one write for each staged
path, and on a write that fails the originals written back. -/
namespace InferForge.Patches
open Py

section
variable {Path : Type} [DecidableEq Path]

abbrev Files (Path : Type) := Path → Option (List UInt8)

structure Transaction (Path : Type) where
  staged : List (Path × Text) := []
  originals : List (Path × Option Text) := []

inductive Raised where
  | osError
  | unicodeEncodeError
  | keyError
deriving DecidableEq

/-- `none` is a `FileNotFoundError` or a `UnicodeDecodeError`. -/
def Transaction.read (transaction : Transaction Path) (files : Files Path) (path : Path) :
    Option Text :=
  match transaction.staged.lookup path with
  | some content => some content
  | none => (files path).bind readText

/-- The text that `stage` compares with, absent for a new path. -/
def Transaction.current (transaction : Transaction Path) (files : Files Path) (path : Path) :
    Option (Option Text) :=
  if (files path).isSome || (transaction.staged.lookup path).isSome then
    (transaction.read files path).map some
  else some none

/-- `none` when reading the current text raises; the transaction is then as it was. -/
def Transaction.stage (transaction : Transaction Path) (files : Files Path) (path : Path)
    (content : Text) : Option (Bool × Transaction Path) :=
  (transaction.current files path).map fun current =>
    if current = some content then (false, transaction)
    else (true, {
      staged := assign transaction.staged path content
      originals :=
        if (transaction.originals.lookup path).isSome then transaction.originals
        else assign transaction.originals path current })

/-- What the script does before `commit`. -/
inductive Operation (Path : Type) where
  | read (path : Path)
  | stage (path : Path) (content : Text)

def Transaction.perform (files : Files Path) (transaction : Transaction Path) :
    Operation Path → Transaction Path
  | .read _ => transaction
  | .stage path content => ((transaction.stage files path content).map Prod.snd).getD transaction

def Transaction.run (files : Files Path) (operations : List (Operation Path)) : Transaction Path :=
  operations.foldl (Transaction.perform files) {}

/-- One file replaced, or removed. -/
def Files.set (files : Files Path) (path : Path) (bytes : Option (List UInt8)) : Files Path :=
  fun other => if other = path then bytes else files other

/-- `write_text`, after the `mkdir` before it. With a fault an `OSError` leaves the file as the fault
says. An unencodable content raises once the file is open, and so empty. -/
def writeText (files : Files Path) (path : Path) (content : Text)
    (fault : Option (Option (List UInt8))) : Files Path × Option Raised :=
  match fault with
  | some left => (files.set path left, some .osError)
  | none =>
      if content.encodable then (files.set path (some content.utf8), none)
      else (files.set path (some []), some .unicodeEncodeError)

/-- The writes of `commit`: the files, the paths attempted and what was raised. A fault belongs to
the one write of its path. -/
def writeAll (faults : Path → Option (Option (List UInt8))) (files : Files Path)
    (attempted : List Path) : List (Path × Text) → Files Path × List Path × Option Raised
  | [] => (files, attempted, none)
  | (path, content) :: rest =>
      match writeText files path content (faults path) with
      | (files, none) => writeAll faults files (attempted ++ [path]) rest
      | (files, some error) => (files, attempted ++ [path], some error)

/-- The writes back, none of which meets an `OSError`; what they raise themselves. -/
def rollback (originals : List (Path × Option Text)) (files : Files Path) :
    List Path → Files Path × Option Raised
  | [] => (files, none)
  | path :: rest =>
      match originals.lookup path with
      | none => (files, some .keyError)
      | some none => rollback originals (files.set path none) rest
      | some (some original) =>
          match writeText files path original none with
          | (files, none) => rollback originals files rest
          | (files, some error) => (files, some error)

/-- The files afterwards, and the paths written or the exception. -/
def Transaction.commit (transaction : Transaction Path)
    (faults : Path → Option (Option (List UInt8))) (files : Files Path) :
    Files Path × Except Raised (List Path) :=
  match writeAll faults files [] transaction.staged with
  | (files, _, none) => (files, .ok (transaction.staged.map Prod.fst))
  | (files, attempted, some .osError) =>
      match rollback transaction.originals files attempted.reverse with
      | (files, none) => (files, .error .osError)
      | (files, some error) => (files, .error error)
  | (files, _, some error) => (files, .error error)

/-! What a transaction holds after any calls. -/

/-- The content of the last `stage` call on a path. -/
def lastStaged (path : Path) (operations : List (Operation Path)) : Option Text :=
  operations.foldl (fun last operation =>
    match operation with
    | .read _ => last
    | .stage other content => if other = path then some content else last) none

structure Captured (files : Files Path) (operations : List (Operation Path))
    (transaction : Transaction Path) : Prop where
  distinct : (transaction.staged.map Prod.fst).Nodup
  kept : ∀ path, (transaction.originals.lookup path).isSome = (transaction.staged.lookup path).isSome
  original : ∀ path original, transaction.originals.lookup path = some original →
    original = (files path).bind readText
  latest : ∀ path content, transaction.staged.lookup path = some content →
    lastStaged path operations = some content

/-- The text kept for a path not staged before is the text of its file. -/
theorem current_fresh {files : Files Path} {transaction : Transaction Path}
    (fresh : transaction.staged.lookup path = none)
    (read : transaction.current files path = some current) :
    current = (files path).bind readText := by
  unfold Transaction.current Transaction.read at read
  rw [fresh] at read
  cases file : files path with
  | none =>
    simp [file] at read
    simp [← read]
  | some bytes =>
    simp [file] at read
    obtain ⟨text, same, rfl⟩ := read
    exact same.symm

theorem current_staged {files : Files Path} {transaction : Transaction Path}
    (found : transaction.staged.lookup path = some old) :
    transaction.current files path = some (some old) := by
  simp [Transaction.current, Transaction.read, found]

/-- A `stage` call leaves the transaction alone when the content is the current one, and otherwise
stages it; the original it keeps for a new path is the text of the file. -/
theorem stage_cases {files : Files Path} {transaction : Transaction Path} {path : Path}
    {content : Text} {result : Bool × Transaction Path}
    (staged : transaction.stage files path content = some result) :
    result = (false, transaction) ∧
        (∀ old, transaction.staged.lookup path = some old → old = content) ∨
      ∃ current, result = (true, {
          staged := assign transaction.staged path content
          originals :=
            if (transaction.originals.lookup path).isSome then transaction.originals
            else assign transaction.originals path current }) ∧
        (transaction.staged.lookup path = none → current = (files path).bind readText) := by
  obtain ⟨current, read, rfl⟩ := Option.map_eq_some_iff.mp staged
  by_cases same : current = some content
  · left
    rw [if_pos same]
    refine ⟨rfl, fun old found => ?_⟩
    rw [current_staged found, same] at read
    exact Option.some.inj (Option.some.inj read)
  · right
    rw [if_neg same]
    exact ⟨current, rfl, fun fresh => current_fresh fresh read⟩

theorem captured_stage {files : Files Path} {transaction after : Transaction Path}
    (captured : Captured files operations transaction)
    (staged : transaction.stage files path content = some (changed, after)) :
    Captured files (operations ++ [.stage path content]) after := by
  have last (other : Path) : lastStaged other (operations ++ [.stage path content]) =
      if path = other then some content else lastStaged other operations := by
    simp [lastStaged]
  rcases stage_cases staged with ⟨same, current⟩ | ⟨current, same, fresh⟩
  · cases same
    refine { captured with latest := fun other old found => ?_ }
    rw [last]
    split
    · next here =>
      subst here
      rw [current old found]
    · exact captured.latest other old found
  · cases same
    have seen := captured.kept path
    constructor
    · rw [keys_assign]
      exact nodup_insertNew captured.distinct path
    · intro other
      dsimp only
      rw [lookup_assign]
      split
      · next known =>
        rw [captured.kept]
        split
        · next here =>
          rw [here, ← seen, known]
          rfl
        · rfl
      · rw [lookup_assign]
        split
        · rfl
        · exact captured.kept other
    · intro other original found
      dsimp only at found
      split at found
      · exact captured.original other original found
      · next unknown =>
        rw [lookup_assign] at found
        split at found
        · next here =>
          cases found
          rw [here]
          apply fresh
          simpa [unknown] using seen
        · exact captured.original other original found
    · intro other new found
      dsimp only at found
      rw [lookup_assign] at found
      rw [last]
      split at found
      · next here =>
        rw [if_pos here.symm]
        exact found
      · next elsewhere =>
        rw [if_neg (Ne.symm elsewhere)]
        exact captured.latest other new found

theorem captured_run (files : Files Path) (operations : List (Operation Path)) :
    Captured files operations (Transaction.run files operations) := by
  induction operations using List.reverseRecOn with
  | nil =>
    constructor
    · exact List.nodup_nil
    · exact fun _ => rfl
    · exact fun _ _ found => by cases found
    · exact fun _ _ found => by cases found
  | append_singleton operations operation ih =>
    have step : Transaction.run files (operations ++ [operation]) =
        (Transaction.run files operations).perform files operation := by
      simp [Transaction.run]
    rw [step]
    cases operation with
    | read path =>
      refine { ih with latest := fun other content found => ?_ }
      rw [← ih.latest other content found]
      simp [lastStaged]
    | stage path content =>
      rw [Transaction.perform]
      cases outcome : (Transaction.run files operations).stage files path content with
      | some result => exact captured_stage ih outcome
      | none =>
        -- A call that raises was for a path without a staged content.
        refine { ih with latest := fun other old found => ?_ }
        have elsewhere : path ≠ other := by
          rintro rfl
          have known : (Transaction.run files operations).staged.lookup path = some old := found
          simp [Transaction.stage, current_staged known] at outcome
        simpa [lastStaged, elsewhere] using ih.latest other old found

/-! The writes of `commit`, and the writes back. -/

/-- A write that neither the disk nor the encoder stops. -/
def smooth (faults : Path → Option (Option (List UInt8))) (entry : Path × Text) : Bool :=
  (faults entry.1).isNone && entry.2.encodable

def written (files : Files Path) (entries : List (Path × Text)) : Files Path :=
  entries.foldl (fun files entry => files.set entry.1 (some entry.2.utf8)) files

theorem written_other {entries : List (Path × Text)} (fresh : path ∉ entries.map Prod.fst)
    (files : Files Path) : written files entries path = files path := by
  induction entries generalizing files with
  | nil => rfl
  | cons entry entries ih =>
    rw [List.map_cons, List.mem_cons, not_or] at fresh
    rw [written, List.foldl_cons, ← written, ih fresh.2, Files.set, if_neg fresh.1]

theorem written_entry {entries : List (Path × Text)} (distinct : (entries.map Prod.fst).Nodup)
    (member : (path, content) ∈ entries) (files : Files Path) :
    written files entries path = some content.utf8 := by
  induction entries generalizing files with
  | nil => cases member
  | cons entry entries ih =>
    rw [List.map_cons, List.nodup_cons] at distinct
    rw [written, List.foldl_cons, ← written]
    rw [List.mem_cons] at member
    rcases member with rfl | member
    · rw [written_other distinct.1, Files.set, if_pos rfl]
    · exact ih distinct.2 member _

theorem writeText_smooth {entry : Path × Text} (easy : smooth faults entry = true)
    (files : Files Path) :
    writeText files entry.1 entry.2 (faults entry.1) =
      (files.set entry.1 (some entry.2.utf8), none) := by
  obtain ⟨reliable, encodable⟩ := Bool.and_eq_true_iff.mp easy
  rw [Option.isNone_iff_eq_none.mp reliable, writeText, if_pos encodable]

theorem writeAll_append {entries : List (Path × Text)}
    (easy : ∀ entry ∈ entries, smooth faults entry = true) (files : Files Path)
    (attempted : List Path) (rest : List (Path × Text)) :
    writeAll faults files attempted (entries ++ rest) =
      writeAll faults (written files entries) (attempted ++ entries.map Prod.fst) rest := by
  induction entries generalizing files attempted with
  | nil => simp [written]
  | cons entry entries ih =>
    rw [List.forall_mem_cons] at easy
    rw [List.cons_append, writeAll, writeText_smooth easy.1, written, List.foldl_cons, ← written]
    dsimp only
    rw [ih easy.2, List.map_cons, List.append_assoc, List.singleton_append]

/-- The writes back leave in each file they reach what was kept for it. -/
theorem rollback_restores {originals : List (Path × Option Text)} {attempted : List Path}
    (kept : ∀ path ∈ attempted, ∃ original, originals.lookup path = some original ∧
      ∀ text, original = some text → text.encodable = true) (files : Files Path) :
    rollback originals files attempted =
      (fun path => if path ∈ attempted then (originals.lookup path).join.map Text.utf8
        else files path, none) := by
  induction attempted generalizing files with
  | nil => rfl
  | cons path attempted ih =>
    rw [List.forall_mem_cons] at kept
    obtain ⟨original, found, encodable⟩ := kept.1
    have one (bytes : Option (List UInt8)) (same : bytes = original.map Text.utf8) :
        rollback originals (files.set path bytes) attempted =
          (fun other => if other ∈ path :: attempted then (originals.lookup other).join.map Text.utf8
            else files other, none) := by
      rw [ih kept.2, Prod.mk.injEq]
      refine ⟨funext fun other => ?_, rfl⟩
      by_cases here : other = path
      · rw [here]
        simp [Files.set, found, same]
      · simp [Files.set, here]
    rw [rollback, found]
    cases original with
    | none => exact one none rfl
    | some text =>
      dsimp only
      rw [writeText, if_pos (encodable text rfl)]
      exact one _ rfl

/-! All or nothing. -/

/-- After an exception the staged paths are as they were; on return they hold their last contents,
and every other file is as it was. -/
def AllOrNothing (operations : List (Operation Path)) (staged : List (Path × Text))
    (before : Files Path) : Files Path × Except Raised (List Path) → Prop
  | (after, .error _) => ∀ path ∈ staged.map Prod.fst, after path = before path
  | (after, .ok _) =>
      (∀ path ∈ staged.map Prod.fst, ∃ content, lastStaged path operations = some content ∧
        after path = some content.utf8) ∧
      ∀ path, path ∉ staged.map Prod.fst → after path = before path

/-- No file that a rollback rewrites has a carriage return, or the write that the encoder stopped,
which is not rolled back, found what it and the writes before it leave. -/
def Restorable (staged : List (Path × Text)) (files : Files Path)
    (faults : Path → Option (Option (List UInt8))) : Prop :=
  match staged.dropWhile (smooth faults) with
  | [] => True
  | (path, _) :: _ =>
      let earlier := staged.takeWhile (smooth faults)
      if (faults path).isSome then
        ∀ other ∈ earlier.map Prod.fst ++ [path], ∀ bytes, files other = some bytes → 13 ∉ bytes
      else
        files path = some [] ∧ ∀ entry ∈ earlier, files entry.1 = some entry.2.utf8

theorem Captured.originals_of_staged {files : Files Path} {transaction : Transaction Path}
    (captured : Captured files operations transaction)
    (staged : path ∈ transaction.staged.map Prod.fst) :
    ∃ original, transaction.originals.lookup path = some original := by
  rw [← Option.isSome_iff_exists, captured.kept, Option.isSome_iff_exists]
  obtain ⟨⟨_, content⟩, member, rfl⟩ := List.mem_map.mp staged
  exact ⟨content, (lookup_mem captured.distinct).mpr member⟩

theorem commit_returns {transaction : Transaction Path}
    (easy : ∀ entry ∈ transaction.staged, smooth faults entry = true) (files : Files Path) :
    transaction.commit faults files =
      (written files transaction.staged, .ok (transaction.staged.map Prod.fst)) := by
  have all := writeAll_append easy files [] []
  rw [List.append_nil] at all
  rw [Transaction.commit, all, writeAll]

/-- An `OSError` at one write: the files of the paths attempted get what was kept for them. -/
theorem commit_restores {transaction : Transaction Path} {earlier rest : List (Path × Text)}
    {files : Files Path} (captured : Captured files operations transaction)
    (parts : transaction.staged = earlier ++ (path, content) :: rest)
    (easy : ∀ entry ∈ earlier, smooth faults entry = true) (fault : faults path = some left) :
    ∃ error, transaction.commit faults files =
      (fun other => if other ∈ earlier.map Prod.fst ++ [path]
        then ((files other).bind readText).map Text.utf8
        else ((written files earlier).set path left) other, .error error) := by
  have kept : ∀ other ∈ (earlier.map Prod.fst ++ [path]).reverse, ∃ original,
      transaction.originals.lookup other = some original ∧
        ∀ text, original = some text → text.encodable = true := by
    intro other member
    have staged : other ∈ transaction.staged.map Prod.fst := by
      rw [parts, List.map_append, List.map_cons, List.append_cons]
      exact List.mem_append_left _ (List.mem_reverse.mp member)
    obtain ⟨original, found⟩ := captured.originals_of_staged staged
    refine ⟨original, found, fun text same => ?_⟩
    have read := captured.original other original found
    obtain ⟨bytes, -, read⟩ := Option.bind_eq_some_iff.mp (read.symm.trans same)
    exact readText_encodable read
  refine ⟨.osError, ?_⟩
  rw [Transaction.commit, parts, writeAll_append easy, writeAll]
  simp only [writeText, fault]
  rw [List.nil_append, rollback_restores kept]
  dsimp only
  rw [Prod.mk.injEq]
  refine ⟨funext fun other => ?_, rfl⟩
  by_cases member : other ∈ earlier.map Prod.fst ++ [path]
  · have reached := List.mem_reverse.mpr member
    obtain ⟨original, found, -⟩ := kept other reached
    rw [if_pos reached, if_pos member, found, ← captured.original other original found]
    rfl
  · rw [if_neg (fun reached => member (List.mem_reverse.mp reached)), if_neg member]

/-- A content that the encoder refuses: its file is left empty, and nothing is written back. -/
theorem commit_refused {transaction : Transaction Path} {earlier rest : List (Path × Text)}
    (parts : transaction.staged = earlier ++ (path, content) :: rest)
    (easy : ∀ entry ∈ earlier, smooth faults entry = true) (reliable : faults path = none)
    (refused : content.encodable = false) (files : Files Path) :
    transaction.commit faults files =
      ((written files earlier).set path (some []), .error .unicodeEncodeError) := by
  rw [Transaction.commit, parts, writeAll_append easy, writeAll]
  simp [writeText, reliable, refused]

omit [DecidableEq Path] in
/-- What a rollback leaves in a file that was read is its old content, but for carriage returns. -/
theorem restored_iff {files : Files Path} (valid : ∀ bytes, files path = some bytes →
      (readText bytes).isSome = true) :
    ((files path).bind readText).map Text.utf8 = files path ↔
      ∀ bytes, files path = some bytes → 13 ∉ bytes := by
  cases file : files path with
  | none => simp
  | some bytes =>
    obtain ⟨text, read⟩ := Option.isSome_iff_exists.mp (valid bytes file)
    simp [read, utf8_readText read]

/-- A write that fails, after others, leaves alone the files they are not about. -/
theorem stopped_other {files : Files Path} {earlier : List (Path × Text)}
    (unreached : other ∉ earlier.map Prod.fst ++ [path]) :
    ((written files earlier).set path bytes) other = files other := by
  rw [List.mem_append, List.mem_singleton, not_or] at unreached
  rw [Files.set, if_neg unreached.2, written_other unreached.1]

/-- What the writes leave is what they found exactly where they change nothing. -/
theorem refused_iff {files : Files Path} {earlier : List (Path × Text)}
    (distinct : (earlier.map Prod.fst ++ [path]).Nodup) :
    (∀ other ∈ earlier.map Prod.fst ++ [path],
      ((written files earlier).set path (some [])) other = files other) ↔
      files path = some [] ∧ ∀ entry ∈ earlier, files entry.1 = some entry.2.utf8 := by
  obtain ⟨early, -, apart⟩ := List.nodup_append.mp distinct
  have here (entry : Path × Text) (member : entry ∈ earlier) :
      ((written files earlier).set path (some [])) entry.1 = some entry.2.utf8 := by
    have other := apart _ (List.mem_map_of_mem member) path (List.mem_singleton_self path)
    rw [Files.set, if_neg other, written_entry early member]
  have last : ((written files earlier).set path (some [])) path = some [] := if_pos rfl
  constructor
  · intro unchanged
    constructor
    · rw [← unchanged path (List.mem_append_right _ (List.mem_singleton_self path)), last]
    · intro entry member
      rw [← unchanged _ (List.mem_append_left _ (List.mem_map_of_mem member)), here entry member]
  · rintro ⟨empty, same⟩ other member
    obtain member | member := List.mem_append.mp member
    · obtain ⟨entry, listed, rfl⟩ := List.mem_map.mp member
      rw [here entry listed, same entry listed]
    · rw [List.mem_singleton.mp member, last, empty]

omit [DecidableEq Path] in
/-- All or nothing is a matter of the writes attempted. -/
theorem all_unchanged {before after : Files Path} {reached unreached : List Path}
    (untouched : ∀ path ∈ unreached, after path = before path) :
    (∀ path ∈ reached ++ unreached, after path = before path) ↔
      ∀ path ∈ reached, after path = before path := by
  constructor
  · exact fun all path member => all path (List.mem_append_left _ member)
  · intro all path member
    obtain member | member := List.mem_append.mp member
    · exact all path member
    · exact untouched path member

/-- For files of valid UTF-8 a commit is all or nothing exactly under this condition. -/
theorem commit_atomic_iff (files : Files Path)
    (valid : ∀ path bytes, files path = some bytes → (readText bytes).isSome = true)
    (operations : List (Operation Path)) (faults : Path → Option (Option (List UInt8))) :
    AllOrNothing operations (Transaction.run files operations).staged files
        ((Transaction.run files operations).commit faults files) ↔
      Restorable (Transaction.run files operations).staged files faults := by
  have captured := captured_run files operations
  generalize Transaction.run files operations = transaction at captured
  have split := List.takeWhile_append_dropWhile (p := smooth faults) (l := transaction.staged)
  have easy : ∀ entry ∈ transaction.staged.takeWhile (smooth faults), smooth faults entry = true :=
    fun entry member => List.mem_takeWhile_imp member
  unfold Restorable
  cases tail : transaction.staged.dropWhile (smooth faults) with
  | nil =>
    rw [tail, List.append_nil] at split
    rw [split] at easy
    rw [commit_returns easy]
    refine iff_of_true ⟨fun path staged => ?_, fun path => (written_other · files)⟩ trivial
    obtain ⟨⟨_, content⟩, member, rfl⟩ := List.mem_map.mp staged
    refine ⟨content, ?_, written_entry captured.distinct member files⟩
    exact captured.latest _ content ((lookup_mem captured.distinct).mpr member)
  | cons entry rest =>
    obtain ⟨path, content⟩ := entry
    have parts : transaction.staged =
        transaction.staged.takeWhile (smooth faults) ++ (path, content) :: rest := by
      rw [← tail, split]
    generalize transaction.staged.takeWhile (smooth faults) = earlier at parts easy
    have hard : smooth faults (path, content) = false := by
      have first := List.head?_dropWhile_not (smooth faults) transaction.staged
      rw [tail] at first
      exact first
    have keys : transaction.staged.map Prod.fst = earlier.map Prod.fst ++ [path] ++ rest.map Prod.fst := by
      rw [parts, List.map_append, List.map_cons, List.append_cons]
    have distinct := captured.distinct
    rw [keys] at distinct
    have apart := (List.nodup_append.mp distinct).2.2
    have unreached {other : Path} (member : other ∈ rest.map Prod.fst) :
        other ∉ earlier.map Prod.fst ++ [path] := fun reached => apart other reached other member rfl
    dsimp only
    cases fault : faults path with
    | some left =>
      obtain ⟨error, outcome⟩ := commit_restores captured parts easy fault
      rw [outcome]
      dsimp only [AllOrNothing]
      rw [keys, all_unchanged, if_pos Option.isSome_some]
      · refine forall₂_congr fun other member => ?_
        rw [if_pos member]
        exact restored_iff (valid other)
      · intro other member
        rw [if_neg (unreached member), stopped_other (unreached member)]
    | none =>
      have refused : content.encodable = false := by simpa [smooth, fault] using hard
      rw [commit_refused parts easy fault refused files]
      dsimp only [AllOrNothing]
      rw [keys, all_unchanged, if_neg (by simp)]
      · exact refused_iff (List.nodup_append.mp distinct).1
      · intro other member
        exact stopped_other (unreached member)

end

/-- One plugin file with a line that ends in `\r\n`. -/
def crlfFile : Files Text := fun path => if path = "model.py" then some [120, 13, 10] else none

/-- The first write meets a full disk before it has opened the file. -/
def diskFull : Text → Option (Option (List UInt8)) := fun path => some (crlfFile path)

def replaceLine : List (Operation Text) := [.stage "model.py" "y"]

theorem crlfFile_valid (path : Text) (bytes : List UInt8) (file : crlfFile path = some bytes) :
    (readText bytes).isSome = true := by
  unfold crlfFile at file
  split at file
  · cases file
    decide
  · cases file

/-- The rollback leaves `"x\n"`. -/
theorem crlf_not_restored :
    (∀ path bytes, crlfFile path = some bytes → (readText bytes).isSome = true) ∧
      ¬ AllOrNothing replaceLine (Transaction.run crlfFile replaceLine).staged crlfFile
        ((Transaction.run crlfFile replaceLine).commit diskFull crlfFile) := by
  have after : ((Transaction.run crlfFile replaceLine).commit diskFull crlfFile).1 "model.py" =
      some [120, 10] := by decide
  have raised : ((Transaction.run crlfFile replaceLine).commit diskFull crlfFile).2 =
      .error .osError := by decide
  refine ⟨crlfFile_valid, fun restored => ?_⟩
  generalize (Transaction.run crlfFile replaceLine).commit diskFull crlfFile = result at *
  obtain ⟨files, _⟩ := result
  cases raised
  have same : files "model.py" = crlfFile "model.py" := restored "model.py" (by decide)
  exact absurd (same.symm.trans after) (by decide)

theorem commit_atomic_crlf :
    AllOrNothing replaceLine (Transaction.run crlfFile replaceLine).staged crlfFile
        ((Transaction.run crlfFile replaceLine).commit diskFull crlfFile) ↔
      Restorable (Transaction.run crlfFile replaceLine).staged crlfFile diskFull :=
  commit_atomic_iff crlfFile crlfFile_valid replaceLine diskFull

end InferForge.Patches

import InferForge.Shell.Semantics
import Mathlib.Order.Bounds.Defs

/-! The server log in a Pod: a launch truncates it, and a shell snippet archives it first. -/
namespace InferForge
open Py Shell

/-- A name in the series, as the snippets write it: the counter is inside the single quotes. -/
def quotedName (log series : Text) : Text := log ++ "." ++ series ++ "-$n"

/-- The text `archive_before_truncate` and `archive_crash_remote` share. -/
def archiveSnippet (log series : Text) : Text :=
  "n=1; while [ -e '" ++ quotedName log series ++ "' ]; do n=$((n+1)); done; cp '" ++ log ++ "' '" ++
    quotedName log series ++ "' 2>/dev/null || true; "

def archiveBeforeTruncate (remoteLog : Text) : Text := archiveSnippet remoteLog "prev"

def archiveCrashRemote (remoteLog : Text) : Text := archiveSnippet remoteLog "crash"

/-- The commands of a snippet. -/
def archiveCommand (log target : Text) : Command :=
  .sequence (.assign (Text.ofString "n").codes [.number 1])
    (.sequence
      (.loop true
        (.simple [[.plain (Text.ofString "[").codes], [.plain (Text.ofString "-e").codes],
          [.quoted target.codes], [.plain (Text.ofString "]").codes]])
        (.assign (Text.ofString "n").codes [.variable (Text.ofString "n").codes, .number 1]))
      (.orElse
        (.simple [[.plain (Text.ofString "cp").codes], [.quoted log.codes], [.quoted target.codes]])
        (.simple [[.plain (Text.ofString "true").codes]])))

/-- What the shell reads in a script around quoted names. -/
theorem parse_snippet {log target : Text} (plain : (39 : CodePoint) ∉ log.codes)
    (plain' : (39 : CodePoint) ∉ target.codes) :
    parse ("n=1; while [ -e '" ++ target ++ "' ]; do n=$((n+1)); done; cp '" ++ log ++ "' '" ++
      target ++ "' 2>/dev/null || true; ") = some (archiveCommand log target) := by
  have opening : Scan.start.run (Text.ofString "n=1; while [ -e '").codes =
    some ([.word [.plain (Text.ofString "n=1").codes], .semicolon, keyword "while", keyword "[",
      keyword "-e"], ⟨.quote [], none⟩) := rfl
  have body : Scan.run ⟨.quote target.codes, none⟩
      (Text.ofString "' ]; do n=$((n+1)); done; cp '").codes =
    some ([.word [.quoted target.codes], keyword "]", .semicolon, keyword "do",
      .word [.plain (Text.ofString "n=").codes,
        .arithmetic [.variable (Text.ofString "n").codes, .number 1]],
      .semicolon, keyword "done", .semicolon, keyword "cp"], ⟨.quote [], none⟩) := rfl
  have middle : Scan.run ⟨.quote log.codes, none⟩ (Text.ofString "' '").codes =
    some ([.word [.quoted log.codes]], ⟨.quote [], none⟩) := rfl
  have closing : Scan.run ⟨.quote target.codes, none⟩
      (Text.ofString "' 2>/dev/null || true; ").codes =
    some ([.word [.quoted target.codes], .redirect [50], keyword "/dev/null", .orIf, keyword "true",
      .semicolon], .start) := rfl
  have scanned := Scan.run_append (Scan.run_append (Scan.run_append (Scan.run_append
    (Scan.run_append (Scan.run_append opening (Scan.run_quoted plain' [] none)) body)
    (Scan.run_quoted plain [] none)) middle) (Scan.run_quoted plain' [] none)) closing
  unfold parse tokens
  change ((((Scan.start.run (_ ++ _ ++ _ ++ _ ++ _ ++ _ ++ _)).bind _).bind _)) = _
  rw [scanned]
  rfl

section Snippet
variable {α : Type} {log target : Text}

theorem expand_quoted (vars : Name → Nat) (t : Text) : expand vars [.quoted t.codes] = t := by
  apply Text.ext
  simp [expand, Part.expand]

theorem builtin_test {s : State α} (vars : Name → Nat) :
    builtin ([[.plain (Text.ofString "[").codes], [.plain (Text.ofString "-e").codes],
      [.quoted target.codes], [.plain (Text.ofString "]").codes]].map (expand vars)) s =
      ((s.files target).isSome, s) := by
  simp only [List.map_cons, List.map_nil, expand_quoted]
  rfl

theorem builtin_cp {s : State α} (vars : Name → Nat) (different : log ≠ target) :
    builtin ([[.plain (Text.ofString "cp").codes], [.quoted log.codes],
      [.quoted target.codes]].map (expand vars)) s =
      match s.files log with
      | some content => (true, { s with files := Function.update s.files target (some content) })
      | none => (false, s) := by
  simp only [List.map_cons, List.map_nil, expand_quoted]
  exact if_pos ⟨rfl, different⟩

/-- What the snippet leaves where the quoted name is free. -/
def parked (files : Text → Option α) (log target : Text) : Text → Option α :=
  match files log with
  | some content => Function.update files target (some content)
  | none => files

/-- With a file of the quoted name, the loop never ends: its test does not mention the counter. -/
theorem archive_diverges {s : State α} (taken : (s.files target).isSome) :
    ¬ Returns (archiveCommand log target) s r := by
  intro returns
  obtain ⟨r', first, returns⟩ := returns_sequence.mp returns
  obtain ⟨r'', loop, _⟩ := returns_sequence.mp returns
  have start : (r'.2.files target).isSome := by
    rw [returns_assign.mp first]
    exact taken
  refine loop_diverges (fun s => (s.files target).isSome) ?_ ?_ start loop
  · intro s r taken tested
    rw [returns_simple.mp tested, builtin_test]
    exact ⟨taken, taken⟩
  · intro s r taken counted
    rw [returns_assign.mp counted]
    exact taken

/-- Without one, the copy goes to the quoted name. -/
theorem archive_returns {s : State α} (different : log ≠ target) (free : s.files target = none) :
    ∃ vars, Returns (archiveCommand log target) s (true, ⟨vars, parked s.files log target⟩) := by
  let counted : State α := ⟨Function.update s.vars (Text.ofString "n").codes 1, s.files⟩
  have stopped : Returns (.loop true
      (.simple [[.plain (Text.ofString "[").codes], [.plain (Text.ofString "-e").codes],
        [.quoted target.codes], [.plain (Text.ofString "]").codes]])
      (.assign (Text.ofString "n").codes [.variable (Text.ofString "n").codes, .number 1]))
      counted (true, counted) := by
    refine returns_loop_done (returns_simple.mpr ?_)
    rw [builtin_test, free]
    rfl
  have copied : Returns (.orElse
      (.simple [[.plain (Text.ofString "cp").codes], [.quoted log.codes], [.quoted target.codes]])
      (.simple [[.plain (Text.ofString "true").codes]])) counted
      (true, ⟨counted.vars, parked s.files log target⟩) := by
    refine returns_orElse.mpr ⟨_, returns_simple.mpr rfl, ?_⟩
    rw [builtin_cp _ different]
    unfold parked
    change if (match s.files log with | some _ => _ | none => _ : Bool × State α).1 = true then _ else _
    cases s.files log with
    | some content => rfl
    | none => exact returns_simple.mpr rfl
  exact ⟨counted.vars, returns_sequence.mpr ⟨(true, counted), returns_assign.mpr rfl,
    returns_sequence.mpr ⟨(true, counted), stopped, copied⟩⟩⟩

end Snippet

/-! ## Generations of a log -/

/-- What happens to the log of a Pod. -/
inductive LogEvent (α : Type) where
  /-- `start_server`: archive, truncate, and what the new server writes. -/
  | launch (content : α)
  /-- `archive_server_crash`. -/
  | crash

namespace LogEvent
variable {α : Type}

def series : LogEvent α → Text
  | .launch _ => "prev"
  | .crash => "crash"

def snippet (log : Text) : LogEvent α → Text
  | .launch _ => archiveBeforeTruncate log
  | .crash => archiveCrashRemote log

/-- The files once the snippet has left `files`. -/
def finish (log : Text) (files : Text → Option α) : LogEvent α → Text → Option α
  | .launch content => Function.update files log (some content)
  | .crash => files

end LogEvent

/-- The script terminates, whatever the variables of its shell, and leaves these files. -/
def Leaves {α : Type} (script : Text) (files after : Text → Option α) : Prop :=
  ∃ command, parse script = some command ∧
    ∀ vars, ∃ ok vars', Returns command ⟨vars, files⟩ (ok, ⟨vars', after⟩)

/-- The file of one generation. -/
def numberedName (log series : Text) (n : Nat) : Text := log ++ "." ++ series ++ "-" ++ Text.ofNat n

/-- One new file holds the log, under the least free number, and nothing else changed. -/
structure Archived {α : Type} (log series : Text) (files after : Text → Option α) : Prop where
  kept : ∀ content, files log = some content →
    ∃ n, IsLeast { n | 1 ≤ n ∧ files (numberedName log series n) = none } n ∧
      after = Function.update files (numberedName log series n) (some content)
  quiet : files log = none → after = files

/-- Every snippet of a history terminates and archives the log. -/
def Preserved {α : Type} (log : Text) : (Text → Option α) → List (LogEvent α) → Prop
  | _, [] => True
  | files, event :: rest => ∃ after, Leaves (event.snippet log) files after ∧
      Archived log event.series files after ∧ Preserved log (event.finish log after) rest

/-- A history with nothing to archive: no log at its start, no file of a quoted name, and at most
the last call is a launch. -/
structure Fresh {α : Type} (log : Text) (files : Text → Option α) (events : List (LogEvent α)) :
    Prop where
  empty : events ≠ [] → files log = none
  free : ∀ event ∈ events, files (quotedName log event.series) = none
  last : ∀ event ∈ events.dropLast, ∀ content, event ≠ .launch content

section Histories
variable {α : Type} {log : Text}

/-- A counter in digits is no quoted counter. -/
theorem numberedName_ne (log series : Text) (n : Nat) :
    numberedName log series n ≠ quotedName log series := by
  intro same
  have codes := congrArg Text.codes same
  simp only [numberedName, quotedName, Text.codes_append, List.append_assoc] at codes
  have rest := List.append_cancel_left (List.append_cancel_left (List.append_cancel_left codes))
  have digits : (Text.ofNat n).codes = (Text.ofString "$n").codes :=
    (List.cons.inj rest).2
  have texts : toString n = "$n" := Text.ofString_inj.mp (Text.ext digits)
  have digit : ('$' : Char).isDigit = true := by
    apply Nat.isDigit_of_mem_toDigits (b := 10) (n := n) (by decide) (by decide)
    have listed : (toString n).toList = Nat.toDigits 10 n := by simp
    rw [← listed, texts]
    decide
  exact absurd digit (by decide)

theorem quotedName_ne (log series : Text) : log ≠ quotedName log series := by
  intro same
  have lengths := congrArg (fun t : Text => t.codes.length) same
  simp only [quotedName, Text.codes_append, List.length_append] at lengths
  have dot : (Text.ofString ".").codes.length = 1 := rfl
  omega

theorem quotedName_plain {series : Text} (plain : (39 : CodePoint) ∉ log.codes)
    (own : (39 : CodePoint) ∉ series.codes) : (39 : CodePoint) ∉ (quotedName log series).codes := by
  simp only [quotedName, Text.codes_append, List.mem_append, not_or]
  exact ⟨⟨⟨plain, by decide⟩, own⟩, by decide⟩

theorem parse_event (plain : (39 : CodePoint) ∉ log.codes) (event : LogEvent α) :
    parse (event.snippet log) = some (archiveCommand log (quotedName log event.series)) := by
  cases event with
  | launch content => exact parse_snippet plain (quotedName_plain plain (by decide))
  | crash => exact parse_snippet plain (quotedName_plain plain (by decide))

/-- What a snippet leaves, if it terminates. -/
theorem leaves_iff (plain : (39 : CodePoint) ∉ log.codes) (event : LogEvent α)
    {files after : Text → Option α} : Leaves (event.snippet log) files after ↔
      files (quotedName log event.series) = none ∧
        after = parked files log (quotedName log event.series) := by
  constructor
  · rintro ⟨command, parsed, returns⟩
    rw [parse_event plain] at parsed
    obtain rfl := Option.some.inj parsed
    obtain ⟨ok, vars', done⟩ := returns fun _ => 0
    cases free : files (quotedName log event.series) with
    | some content => exact absurd done (archive_diverges (Option.isSome_iff_exists.mpr ⟨content, free⟩))
    | none =>
      obtain ⟨vars'', there⟩ := archive_returns (s := ⟨fun _ => 0, files⟩)
        (quotedName_ne log event.series) free
      have same := done.unique there
      simp only [Prod.mk.injEq, State.mk.injEq] at same
      exact ⟨rfl, same.2.2⟩
  · rintro ⟨free, rfl⟩
    refine ⟨_, parse_event plain event, fun vars => ?_⟩
    obtain ⟨vars', done⟩ := archive_returns (s := ⟨vars, files⟩) (quotedName_ne log event.series) free
    exact ⟨true, vars', done⟩

/-- One call does its work exactly where there is none. -/
theorem archived_iff (plain : (39 : CodePoint) ∉ log.codes) (event : LogEvent α)
    {files after : Text → Option α} :
    Leaves (event.snippet log) files after ∧ Archived log event.series files after ↔
      files log = none ∧ files (quotedName log event.series) = none ∧ after = files := by
  rw [leaves_iff plain]
  constructor
  · rintro ⟨⟨free, rfl⟩, archived⟩
    cases content : files log with
    | none => exact ⟨rfl, free, archived.quiet content⟩
    | some content' =>
      -- the copy is under the quoted name, which no number gives
      obtain ⟨n, _, made⟩ := archived.kept content' content
      have there := congrFun made (quotedName log event.series)
      rw [Function.update_of_ne (numberedName_ne log event.series n).symm, free] at there
      simp [parked, content] at there
  · rintro ⟨absent, free, rfl⟩
    refine ⟨⟨free, by rw [parked, absent]⟩, ?_, fun _ => rfl⟩
    rw [absent]
    nofun

theorem finish_other (files : Text → Option α) (event : LogEvent α) (other : name ≠ log) :
    event.finish log files name = files name := by
  cases event with
  | launch content => exact Function.update_of_ne other _ _
  | crash => rfl

/-- No log is lost in a history exactly if the history has no log to archive. -/
theorem generations_preserved (log : Text) (plain : (39 : CodePoint) ∉ log.codes)
    (files : Text → Option α) (events : List (LogEvent α)) :
    Preserved log files events ↔ Fresh log files events := by
  induction events generalizing files with
  | nil => exact ⟨fun _ => ⟨nofun, nofun, nofun⟩, fun _ => trivial⟩
  | cons event rest ih =>
    constructor
    · rintro ⟨after, leaves, archived, later⟩
      obtain ⟨absent, free, rfl⟩ := (archived_iff plain event).mp ⟨leaves, archived⟩
      have fresh := (ih _).mp later
      refine ⟨fun _ => absent, ?_, ?_⟩
      · intro other member
        rcases List.mem_cons.mp member with rfl | member
        · exact free
        · rw [← finish_other after event (quotedName_ne log other.series).symm]
          exact fresh.free other member
      · intro other member content launched
        cases rest with
        | nil => cases member
        | cons next rest =>
          rcases List.mem_cons.mp member with rfl | member
          · -- the log of this launch would still be there
            have still := fresh.empty (List.cons_ne_nil next rest)
            rw [launched] at still
            simp [LogEvent.finish] at still
          · exact fresh.last other member content launched
    · intro fresh
      have absent := fresh.empty (List.cons_ne_nil event rest)
      obtain ⟨leaves, archived⟩ := (archived_iff plain event).mpr
        ⟨absent, fresh.free event List.mem_cons_self, rfl⟩
      refine ⟨files, leaves, archived, (ih _).mpr ?_⟩
      cases rest with
      | nil => exact ⟨nofun, nofun, nofun⟩
      | cons next rest =>
        cases event with
        | launch content => exact absurd rfl (fresh.last _ List.mem_cons_self content)
        | crash =>
          exact ⟨fun _ => absent, fun other member => fresh.free other (List.mem_cons_of_mem _ member),
            fun other member => fresh.last other (List.mem_cons_of_mem _ member)⟩

theorem generations_preserved_sample : Preserved (α := Nat) "/workspace/server.log" (fun _ => none)
    [.crash, .launch 0] :=
  (generations_preserved _ (by decide) _ _).mpr
    ⟨fun _ => rfl, fun _ _ => rfl, fun event member content launched => by simp_all⟩

def relaunched : Text → Option Nat :=
  Function.update (Function.update (fun _ => none) "/workspace/server.log.prev-$n" (some 0))
    "/workspace/server.log" (some 1)

/-- A relaunch parks the log under the quoted name, and the next one never gets past its loop. -/
theorem relaunch_lost :
    ¬ Preserved (α := Nat) "/workspace/server.log" (fun _ => none) [.launch 0, .launch 1, .launch 2] ∧
      ¬ ∃ after, Leaves (archiveBeforeTruncate "/workspace/server.log") relaunched after := by
  constructor
  · rintro ⟨after, leaves, archived, after', leaves', archived', _⟩
    have absent := ((archived_iff (by decide) (.launch 1)).mp ⟨leaves', archived'⟩).1
    simp [LogEvent.finish] at absent
  · rintro ⟨after, leaves⟩
    have free := ((leaves_iff (by decide) (.launch 2)).mp leaves).1
    have named : quotedName "/workspace/server.log" (LogEvent.launch 2).series =
      Text.ofString "/workspace/server.log.prev-$n" := by decide
    rw [named, relaunched, Function.update_of_ne (by decide), Function.update_self] at free
    cases free

end Histories
end InferForge

import InferForge.Host
import InferForge.Py.Split
import InferForge.Py.Template
import InferForge.Py.Equality

/-! Shim signals: what the probe found in the installed plugin, and the registry entries that declare
it. -/
namespace InferForge.Shims
open Py

section Matching
variable (host : Host)

/-- `str(entry.get("location") or "")`. -/
def locationOf (entry : Dict) : Text := host.str ((entry.getD "location" .null).or (.str ""))

/-- `str(signal.get("file") or "")`. -/
def fileOf (signal : Dict) : Text := host.str ((signal.getD "file" .null).or (.str ""))

/-- `location.split(":")[0]`. -/
def recordedPath (entry : Dict) : Text := ((locationOf host entry).partition 58).1

/-- `.rsplit("/", 1)[-1].replace(".py", "")` of the recorded path. -/
def fileTail (entry : Dict) : Text := ((recordedPath host entry).lastPart 47).replace ".py" ""

/-- `.rsplit(".", 1)[-1]` of the file of a signal. -/
def signalTail (signal : Dict) : Text := (fileOf host signal).lastPart 46

def sameSymbol (entry signal : Dict) : Bool :=
  (entry.getD "name" .null).eq (signal.getD "symbol" .null)

/-- An entry that the inner loop stops at. -/
def hits (entry signal : Dict) : Bool :=
  sameSymbol entry signal &&
    ((fileTail host entry).isEmpty || fileTail host entry == signalTail host signal)

/-- The unmapped signals, and the matched ones. -/
def matchSignalsToEntries (signals entries : List Dict) : List Dict × List Dict :=
  signals.foldl (fun found signal =>
    if entries.any (hits host · signal) then (found.1, found.2 ++ [signal])
    else (found.1 ++ [signal], found.2)) ([], [])

end Matching

/-! ## Files and modules -/

/-- A path without a `.py` at its end. -/
def stem (path : List CodePoint) : List CodePoint :=
  if [46, 112, 121].isSuffixOf path then path.take (path.length - 3) else path

/-- The module of a file of the plugin, as the probe names it. -/
def moduleOf (path : Text) : Text := ⟨(stem path.codes).map fun c => if c = 47 then 46 else c⟩

section Declarations
variable (host : Host)

/-- The entry records no file. -/
def Fileless (entry : Dict) : Prop := recordedPath host entry = ⟨[]⟩

/-- The entry records the file in which the signal was found. -/
def SameFile (entry signal : Dict) : Prop := moduleOf (recordedPath host entry) = fileOf host signal

/-- The entry declares the signal. -/
def Declares (entry signal : Dict) : Prop :=
  sameSymbol entry signal = true ∧ (Fileless host entry ∨ SameFile host entry signal)

instance (entry signal : Dict) : Decidable (Declares host entry signal) :=
  inferInstanceAs (Decidable (_ ∧ (recordedPath host entry = _ ∨ moduleOf _ = _)))

/-- Some entry declares the signal. -/
def explained (entries : List Dict) (signal : Dict) : Bool :=
  entries.any fun entry => Declares host entry signal

/-- The base name of the recorded file is that of the signal, or is empty. -/
def SameTail (entry signal : Dict) : Prop :=
  fileTail host entry = ⟨[]⟩ ∨ fileTail host entry = signalTail host signal

/-- The entry records another file under the same base name. -/
def Namesake (entry signal : Dict) : Prop :=
  sameSymbol entry signal = true ∧ ¬ Fileless host entry ∧ ¬ SameFile host entry signal ∧
    SameTail host entry signal

/-- The entry records the file of the signal, under a base name with a dot of its own that hides it. -/
def Dotted (entry signal : Dict) : Prop :=
  sameSymbol entry signal = true ∧ SameFile host entry signal ∧ ¬ SameTail host entry signal ∧
    46 ∈ stem ((recordedPath host entry).lastPart 47).codes

end Declarations

/-! ## Base names -/

theorem stem_suffixed (front : List CodePoint) : stem (front ++ [46, 112, 121]) = front := by
  rw [stem, if_pos (List.isSuffixOf_iff_suffix.mpr (List.suffix_append _ _))]
  simp

/-- Without a dot before its suffix, a base name reduces to its stem. -/
theorem replace_py {base : List CodePoint} (plain : 46 ∉ stem base) :
    (Text.replace ⟨base⟩ ".py" "").codes = stem base := by
  have suffixed (s : List CodePoint) (plain : 46 ∉ s) :
      Text.replaceFrom [46, 112, 121] [] 0 (s ++ [46, 112, 121]) = s := by
    induction s with
    | nil => rfl
    | cons c s ih =>
      obtain ⟨other, plain⟩ := List.ne_and_not_mem_of_not_mem_cons plain
      have different : ([46, 112, 121] : List CodePoint).isPrefixOf (c :: (s ++ [46, 112, 121])) = false := by
        rw [List.isPrefixOf_cons_cons, beq_eq_false_iff_ne.mpr other, Bool.false_and]
      rw [List.cons_append, Text.replaceFrom, different, if_neg Bool.false_ne_true, ih plain]
  change Text.replaceFrom [46, 112, 121] [] 0 base = _
  by_cases ends : [46, 112, 121].isSuffixOf base = true
  · obtain ⟨front, rfl⟩ := List.isSuffixOf_iff_suffix.mp ends
    rw [stem_suffixed] at plain ⊢
    exact suffixed front plain
  · rw [stem, if_neg ends] at plain ⊢
    exact Text.replaceFrom_plain rfl plain

/-- The characters after the last slash are those after the last dot of the module. -/
theorem takeWhile_moduleOf (back : List CodePoint) (plain : 46 ∉ back.takeWhile (· != 47)) :
    (back.map fun c => if c = 47 then 46 else c).takeWhile (· != 46) = back.takeWhile (· != 47) := by
  induction back with
  | nil => rfl
  | cons c back ih =>
    by_cases slash : c = 47
    · subst slash
      rfl
    · have solid : (c :: back).takeWhile (· != 47) = c :: back.takeWhile (· != 47) :=
        List.takeWhile_cons_of_pos (bne_iff_ne.mpr slash)
      rw [solid] at plain ⊢
      obtain ⟨other, plain⟩ := List.ne_and_not_mem_of_not_mem_cons plain
      have kept : (c != 46) = true := bne_iff_ne.mpr (Ne.symm other)
      rw [List.map_cons, if_neg slash, List.takeWhile_cons_of_pos (p := (· != 46)) kept, ih plain]

/-- The last part of a module is the stem of the base name of its file. -/
theorem lastPart_moduleOf {path : Text} (plain : 46 ∉ stem (path.lastPart 47).codes) :
    ((moduleOf path).lastPart 46).codes = stem (path.lastPart 47).codes := by
  obtain ⟨codes⟩ := path
  simp only [Text.lastPart, moduleOf] at plain ⊢
  by_cases ends : [46, 112, 121].isSuffixOf codes = true
  · obtain ⟨front, rfl⟩ := List.isSuffixOf_iff_suffix.mp ends
    have base : ((front ++ [46, 112, 121]).reverse.takeWhile (· != 47)).reverse =
        (front.reverse.takeWhile (· != 47)).reverse ++ [46, 112, 121] := by
      simp
    rw [base, stem_suffixed] at plain ⊢
    rw [stem_suffixed, ← List.map_reverse, takeWhile_moduleOf _ (by simpa using plain)]
  · have inner : ¬ [46, 112, 121].isSuffixOf (codes.reverse.takeWhile (· != 47)).reverse = true := by
      intro inside
      apply ends
      apply List.isSuffixOf_iff_suffix.mpr
      refine (List.isSuffixOf_iff_suffix.mp inside).trans ?_
      rw [← List.reverse_prefix, List.reverse_reverse]
      exact List.takeWhile_prefix _
    have base : stem (codes.reverse.takeWhile (· != 47)).reverse =
        (codes.reverse.takeWhile (· != 47)).reverse := if_neg inner
    have whole : stem codes = codes := if_neg ends
    rw [base] at plain ⊢
    rw [whole, ← List.map_reverse, takeWhile_moduleOf _ (by simpa using plain)]

/-! ## The two lists -/

section Lists
variable {host : Host} {entry signal : Dict} {entries signals : List Dict}

theorem hits_iff : hits host entry signal = true ↔
    sameSymbol entry signal = true ∧ SameTail host entry signal := by
  have empty (t : Text) : t.isEmpty = true ↔ t = ⟨[]⟩ := by
    rw [Text.isEmpty, List.isEmpty_iff, Text.ext_iff]
  rw [hits, Bool.and_eq_true, Bool.or_eq_true, empty, beq_iff_eq, SameTail]

theorem matchSignalsToEntries_eq : matchSignalsToEntries host signals entries =
    (signals.filter fun signal => !entries.any (hits host · signal),
      signals.filter fun signal => entries.any (hits host · signal)) := by
  have folded (unmapped matched : List Dict) : signals.foldl (fun found signal =>
      if entries.any (hits host · signal) then (found.1, found.2 ++ [signal])
      else (found.1 ++ [signal], found.2)) (unmapped, matched) =
        (unmapped ++ signals.filter fun signal => !entries.any (hits host · signal),
          matched ++ signals.filter fun signal => entries.any (hits host · signal)) := by
    induction signals generalizing unmapped matched with
    | nil => simp
    | cons signal rest ih =>
      rw [List.foldl_cons, List.filter_cons, List.filter_cons]
      cases found : entries.any (hits host · signal) with
      | true =>
        rw [if_pos rfl, ih, if_neg (by decide), if_pos rfl, List.append_assoc]
        rfl
      | false =>
        rw [if_neg Bool.false_ne_true, ih, Bool.not_false, if_pos rfl, if_neg Bool.false_ne_true,
          List.append_assoc]
        rfl
  exact folded [] []

/-- An entry that declares a signal is met, unless a dot hides its file. -/
theorem Declares.met (declares : Declares host entry signal) :
    hits host entry signal = true ∨ Dotted host entry signal := by
  obtain ⟨symbol, fileless | same⟩ := declares
  · left
    refine hits_iff.mpr ⟨symbol, Or.inl ?_⟩
    rw [fileTail, show recordedPath host entry = ⟨[]⟩ from fileless]
    rfl
  · by_cases tails : SameTail host entry signal
    · exact Or.inl (hits_iff.mpr ⟨symbol, tails⟩)
    · right
      refine ⟨symbol, same, tails, ?_⟩
      by_contra plain
      apply tails
      right
      apply Text.ext
      rw [signalTail, ← show moduleOf _ = _ from same, lastPart_moduleOf plain]
      exact replace_py plain

/-- An entry that is met declares the signal, or records another file of the same base name. -/
theorem declares_or_namesake (met : hits host entry signal = true) :
    Declares host entry signal ∨ Namesake host entry signal := by
  obtain ⟨symbol, tails⟩ := hits_iff.mp met
  by_cases declares : Fileless host entry ∨ SameFile host entry signal
  · exact Or.inl ⟨symbol, declares⟩
  · rw [not_or] at declares
    exact Or.inr ⟨symbol, declares.1, declares.2, tails⟩

/-- No entry misleads about the signal: where one records another file of the same base name, or its
file under a hidden name, another one settles it. -/
structure Clear (host : Host) (entries : List Dict) (signal : Dict) : Prop where
  namesake : ∀ entry ∈ entries, Namesake host entry signal →
    ∃ other ∈ entries, Declares host other signal
  dotted : ∀ entry ∈ entries, Dotted host entry signal →
    ∃ other ∈ entries, sameSymbol other signal = true ∧ SameTail host other signal

theorem clear_iff : Clear host entries signal ↔
    (entries.any (hits host · signal) = explained host entries signal) := by
  rw [Bool.eq_iff_iff, explained, List.any_eq_true, List.any_eq_true]
  simp only [decide_eq_true_eq]
  constructor
  · intro clear
    constructor
    · rintro ⟨entry, member, met⟩
      rcases declares_or_namesake met with declares | namesake
      · exact ⟨entry, member, declares⟩
      · exact clear.namesake entry member namesake
    · rintro ⟨entry, member, declares⟩
      rcases declares.met with met | dotted
      · exact ⟨entry, member, met⟩
      · obtain ⟨other, inside, met⟩ := clear.dotted entry member dotted
        exact ⟨other, inside, hits_iff.mpr met⟩
  · intro same
    constructor
    · intro entry member namesake
      exact same.mp ⟨entry, member, hits_iff.mpr ⟨namesake.1, namesake.2.2.2⟩⟩
    · intro entry member dotted
      obtain ⟨other, inside, met⟩ := same.mpr ⟨entry, member, dotted.1, Or.inr dotted.2.1⟩
      exact ⟨other, inside, hits_iff.mp met⟩

/-- The two lists are the undeclared and the declared signals exactly when no entry misleads about a
signal. -/
theorem matched_iff_declared (host : Host) (signals entries : List Dict) :
    matchSignalsToEntries host signals entries =
        (signals.filter fun signal => !explained host entries signal,
          signals.filter fun signal => explained host entries signal) ↔
      ∀ signal ∈ signals, Clear host entries signal := by
  rw [matchSignalsToEntries_eq, Prod.mk.injEq]
  simp only [clear_iff]
  constructor
  · rintro ⟨_, matched⟩ signal member
    rw [Bool.eq_iff_iff]
    constructor
    · intro met
      have listed : signal ∈ signals.filter fun signal => explained host entries signal := by
        rw [← matched]
        exact List.mem_filter.mpr ⟨member, met⟩
      exact (List.mem_filter.mp listed).2
    · intro declared
      have listed : signal ∈ signals.filter fun signal => entries.any (hits host · signal) := by
        rw [matched]
        exact List.mem_filter.mpr ⟨member, declared⟩
      exact (List.mem_filter.mp listed).2
  · intro same
    exact ⟨List.filter_congr fun signal member => by rw [same signal member],
      List.filter_congr fun signal member => same signal member⟩

end Lists

/-! A signal whose symbol is declared for another file. -/

def indexerSignal : Dict :=
  [("file", .str "v1.attention.backends.mla.indexer"), ("symbol", .str "kv_spans_from_batches")]

def otherIndexer : Dict :=
  [("name", .str "kv_spans_from_batches"), ("location", .str "models/indexer.py:18")]

/-- An entry for another file of the same base name hides an undeclared signal. -/
theorem namesake_matched :
    matchSignalsToEntries .sample [indexerSignal] [otherIndexer] = ([], [indexerSignal]) ∧
      explained .sample [otherIndexer] indexerSignal = false := by
  have met : [otherIndexer].any (hits .sample · indexerSignal) = true := by decide +kernel
  refine ⟨?_, by decide +kernel⟩
  rw [matchSignalsToEntries_eq, List.filter_cons, List.filter_cons, met]
  rfl

end InferForge.Shims

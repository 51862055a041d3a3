import InferForge.Patches.Separate
import InferForge.Py.LineCheck

/-! The lists of `main`: the lines of their texts by characters, and a check that they are separate. -/
namespace InferForge.Patches.Drift
open Py

/-! ## The characters of a text -/

inductive SpelledLines : List String → List (List Char) → Prop
  | nil : SpelledLines [] []
  | cons {line : List Char} (rest : SpelledLines text cs) :
      SpelledLines (String.ofList line :: text) (line :: cs)

inductive Spelled : Text → List (List Char) → Prop
  | lines (spelled : SpelledLines text cs) : Spelled (lines text) cs
  | empty : Spelled ⟨[]⟩ []

/-- The lines of the old and the new text of each repair. -/
inductive SpelledRepairs : List Repair → List (List (List Char) × List (List Char)) → Prop
  | nil : SpelledRepairs [] []
  | cons (old : Spelled o cs) (new : Spelled n ds) (rest : SpelledRepairs repairs texts) :
      SpelledRepairs (⟨o, n⟩ :: repairs) ((cs, ds) :: texts)

def natLines (text : List (List Char)) : List (List Nat) := text.map (·.map Char.toNat)

theorem SpelledLines.values (spelled : SpelledLines text cs) :
    (lines text).codes.map Fin.val = joined (natLines cs) := by
  induction spelled with
  | nil => rfl
  | @cons text cs line rest ih =>
    have first : (Text.ofString (String.ofList line)).codes.map Fin.val = line.map Char.toNat := by
      simp only [Text.ofString, String.toList_ofList, List.map_map]
      apply List.map_congr_left
      intro c _
      exact Nat.mod_eq_of_lt (Text.char_code_lt c)
    simp only [lines, natLines, joined, List.flatMap_cons, List.map_append, List.map_cons] at ih ⊢
    rw [ih, first]
    rfl

theorem Spelled.values (spelled : Spelled t cs) : t.codes.map Fin.val = joined (natLines cs) := by
  cases spelled with
  | lines spelled => exact spelled.values
  | empty => rfl

theorem Spelled.empty_iff (spelled : Spelled t cs) : t.codes = [] ↔ (natLines cs).isEmpty = true := by
  rw [← List.map_eq_nil_iff (f := Fin.val), spelled.values, joined_eq_nil, List.isEmpty_iff]

/-! ## The check -/

/-- No line has a line feed or a carriage return. -/
def plainText (text : List (List Char)) : Bool :=
  (natLines text).all fun line => !line.contains 10 && !line.contains 13

theorem plainText_spec (checked : plainText text = true) :
    ∀ line ∈ natLines text, 10 ∉ line ∧ 13 ∉ line := by
  intro line member
  have one := List.all_eq_true.mp checked line member
  simpa using one

theorem encodable_lines (text : List String) : (lines text).encodable = true := by
  rw [Text.encodable, List.all_eq_true]
  intro c member
  obtain ⟨line, -, member⟩ := List.mem_flatMap.mp member
  rw [List.mem_append, List.mem_singleton] at member
  obtain inside | rfl := member
  · exact List.all_eq_true.mp (encodable_ofString line) c inside
  · rfl

theorem Spelled.stable (spelled : Spelled t cs) (checked : plainText cs = true) : Stable t := by
  have encodable : t.encodable = true := by
    cases spelled with
    | lines => exact encodable_lines _
    | empty => rfl
  refine ⟨encodable, fun member => ?_⟩
  have value : (13 : CodePoint).val ∈ t.codes.map Fin.val := List.mem_map_of_mem member
  rw [spelled.values, joined, List.mem_flatMap] at value
  obtain ⟨line, listed, value⟩ := value
  rw [List.mem_append, List.mem_singleton] at value
  obtain inside | feed := value
  · exact (plainText_spec checked line listed).2 inside
  · cases feed

theorem Spelled.apart (left : Spelled s cs) (right : Spelled t ds) (plain : plainText cs = true)
    (plain' : plainText ds = true)
    (checked : clear (backLines (natLines cs)) (backLines (natLines ds)) = true) :
    Apart s.codes t.codes := by
  apply Apart.of_map (f := Fin.val)
  rw [left.values, right.values]
  apply apart_of_clear _ _ checked
  · exact fun line member => (plainText_spec plain line member).1
  · exact fun line member => (plainText_spec plain' line member).1

theorem Spelled.noCross (left : Spelled s cs) (right : Spelled t ds) (plain : plainText cs = true)
    (plain' : plainText ds = true)
    (checked : uncrossed (backLines (natLines cs)) (backLines (natLines ds)) = true) :
    NoCross s.codes t.codes := by
  apply NoCross.of_map (f := Fin.val)
  rw [left.values, right.values]
  apply noCross_of_uncrossed _ _ checked
  · exact fun line member => (plainText_spec plain line member).1
  · exact fun line member => (plainText_spec plain' line member).1

/-- `p` is part of `q`, for backward lines. -/
def partOf (p q : List (List Nat)) : Bool := (back q).tails.any (back p).isPrefixOf

theorem Spelled.contained (left : Spelled s cs) (right : Spelled t ds)
    (checked : partOf (backLines (natLines cs)) (backLines (natLines ds)) = true) :
    s.codes <:+: t.codes := by
  apply infix_of_map Fin.val_injective
  obtain ⟨rest, member, starts⟩ := List.any_eq_true.mp checked
  rw [List.mem_tails] at member
  rw [left.values, right.values, ← List.reverse_infix, reverse_joined, reverse_joined]
  exact (List.isPrefixOf_iff_prefix.mp starts).isInfix.trans member.isInfix

abbrev BackRepair := List (List Nat) × List (List Nat)

/-- `Independent`, for backward lines. -/
def independent (earlier later : BackRepair) : Bool :=
  (earlier.2.isEmpty || clear earlier.2 later.1 && clear later.1 earlier.1 &&
    clear later.1 earlier.2 && (later.2.isEmpty || clear later.2 earlier.2 &&
      (clear later.2 earlier.1 || partOf earlier.1 later.2 && clear earlier.1 earlier.2))) &&
  (later.2.isEmpty || clear earlier.1 later.2 || partOf earlier.1 later.2)

def separate : List BackRepair → Bool
  | [] => true
  | repair :: rest =>
      !repair.1.isEmpty && (repair.2.isEmpty || uncrossed repair.1 repair.2) &&
        rest.all (independent repair) && separate rest

def backRepair (text : List (List Char) × List (List Char)) : BackRepair :=
  (backLines (natLines text.1), backLines (natLines text.2))

def checkRepairs (texts : List (List (List Char) × List (List Char))) : Bool :=
  (texts.all fun text => plainText text.1 && plainText text.2) && separate (texts.map backRepair)

theorem isEmpty_backLines (text : List (List Nat)) : (backLines text).isEmpty = text.isEmpty := by
  cases text <;> simp [backLines]

/-- A repair, its lines, and that they are plain. -/
structure SpelledRepair (repair : Repair) (text : List (List Char) × List (List Char)) : Prop where
  old : Spelled repair.old text.1
  new : Spelled repair.new text.2
  plain : plainText text.1 = true
  plain' : plainText text.2 = true

theorem SpelledRepair.independent {earlier later : Repair} (left : SpelledRepair earlier text)
    (right : SpelledRepair later text')
    (checked : Drift.independent (backRepair text) (backRepair text') = true) :
    Independent earlier later := by
  simp only [Drift.independent, backRepair, isEmpty_backLines, Bool.and_eq_true, Bool.or_eq_true,
    ← left.new.empty_iff, ← right.new.empty_iff] at checked
  obtain ⟨fresh, created⟩ := checked
  constructor
  · exact fresh.imp_right fun all => left.new.apart right.old left.plain' right.plain all.1.1.1
  · exact fresh.imp_right fun all => right.old.apart left.old right.plain left.plain all.1.1.2
  · obtain (none | apart) | inside := created
    · exact .inl none
    · exact .inr (.inl (left.old.apart right.new left.plain right.plain' apart))
    · exact .inr (.inr (left.old.contained right.new inside))
  · refine fresh.imp_right fun all => ⟨?_, all.2.imp_right fun later => ⟨?_, ?_⟩⟩
    · exact right.old.apart left.new right.plain left.plain' all.1.2
    · exact right.new.apart left.new right.plain' left.plain' later.1
    · obtain apart | ⟨inside, apart⟩ := later.2
      · exact .inl (right.new.apart left.old right.plain' left.plain apart)
      · exact .inr ⟨left.old.contained right.new inside,
          left.old.apart left.new left.plain left.plain' apart⟩

theorem SpelledRepairs.find (spelled : SpelledRepairs repairs texts)
    (plain : ∀ text ∈ texts, (plainText text.1 && plainText text.2) = true) :
    ∀ repair ∈ repairs, ∃ text ∈ texts, SpelledRepair repair text := by
  induction spelled with
  | nil => exact fun _ none => nomatch none
  | cons old new rest ih =>
    rw [List.forall_mem_cons] at plain
    rw [List.forall_mem_cons]
    obtain ⟨first, second⟩ := Bool.and_eq_true_iff.mp plain.1
    constructor
    · exact ⟨_, List.mem_cons_self, old, new, first, second⟩
    · intro repair member
      obtain ⟨text, listed, found⟩ := ih plain.2 repair member
      exact ⟨text, List.mem_cons_of_mem _ listed, found⟩

theorem SpelledRepairs.separate (spelled : SpelledRepairs repairs texts)
    (all : checkRepairs texts = true) :
    Separate repairs ∧ ∀ repair ∈ repairs, Stable repair.old ∧ Stable repair.new := by
  obtain ⟨plain, checked⟩ := Bool.and_eq_true_iff.mp all
  clear all
  rw [List.all_eq_true] at plain
  constructor
  · induction spelled with
    | nil => exact ⟨.nil, (fun _ none => nomatch none), (fun _ none => nomatch none)⟩
    | cons old new rest ih =>
      rw [List.forall_mem_cons] at plain
      simp only [List.map_cons, Drift.separate, Bool.and_eq_true, List.all_eq_true, List.mem_map,
        Bool.or_eq_true, backRepair, isEmpty_backLines, ← new.empty_iff] at checked
      obtain ⟨⟨⟨some', noCross⟩, first⟩, others⟩ := checked
      obtain ⟨here, here'⟩ := Bool.and_eq_true_iff.mp plain.1
      have tail := ih plain.2 others
      constructor
      · refine .cons (fun later member => ?_) tail.independent
        obtain ⟨text, listed, found⟩ := rest.find plain.2 later member
        exact SpelledRepair.independent ⟨old, new, here, here'⟩ found
          (first _ ⟨text, listed, rfl⟩)
      · rw [List.forall_mem_cons]
        refine ⟨fun none => ?_, tail.some_old⟩
        rw [old.empty_iff.mp none] at some'
        cases some'
      · rw [List.forall_mem_cons]
        exact ⟨noCross.imp_right fun checked => old.noCross new here here' checked, tail.noCross⟩
  · intro repair member
    obtain ⟨text, -, found⟩ := spelled.find plain repair member
    exact ⟨found.old.stable found.plain, found.new.stable found.plain'⟩

theorem deepseekV2_separate :
    Separate deepseekV2 ∧ ∀ repair ∈ deepseekV2, Stable repair.old ∧ Stable repair.new := by
  apply SpelledRepairs.separate
  · repeat' constructor
  · decide +kernel

theorem indexer_separate :
    Separate indexer ∧ ∀ repair ∈ indexer, Stable repair.old ∧ Stable repair.new := by
  apply SpelledRepairs.separate
  · repeat' constructor
  · decide +kernel

theorem pluginInit_separate :
    Separate pluginInit ∧ ∀ repair ∈ pluginInit, Stable repair.old ∧ Stable repair.new := by
  apply SpelledRepairs.separate
  · repeat' constructor
  · decide +kernel

theorem kunlunPlatform_separate :
    Separate kunlunPlatform ∧ ∀ repair ∈ kunlunPlatform, Stable repair.old ∧ Stable repair.new := by
  apply SpelledRepairs.separate
  · repeat' constructor
  · decide +kernel

theorem opWrapper_holds : opFallback.old.codes <:+: opWrapper.new.codes := by
  apply Spelled.contained
  · repeat' constructor
  · repeat' constructor
  · decide +kernel

theorem opFallback_apart : Apart opFallback.old.codes opFallback.new.codes := by
  apply Spelled.apart
  · repeat' constructor
  · repeat' constructor
  · decide +kernel
  · decide +kernel
  · decide +kernel

theorem prefillStub_stable : Stable prefillStub := by
  apply Spelled.stable
  · repeat' constructor
  · decide +kernel

end InferForge.Patches.Drift

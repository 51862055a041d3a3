import InferForge.Patches.Drift

/-! Lists of repairs whose texts stay apart: what `patch` leaves, and that it finds nothing to do
afterwards. -/
namespace InferForge.Patches.Drift
open Py

/-- No later old text reaches into the new text. -/
def Repair.Keeps (earlier later : Repair) : Prop :=
  earlier.new.codes = [] ∨ Apart earlier.new.codes later.old.codes

theorem repairText_cons {repair : Repair}
    (ran : repairText (repair :: rest) changed text = some result) :
    (repair.new.codes <:+: text.codes ∧ repairText rest changed text = some result) ∨
      ¬ repair.new.codes <:+: text.codes ∧ repair.old.codes <:+: text.codes ∧
        repairText rest true (text.replaceAll repair.old repair.new) = some result := by
  rw [repairText] at ran
  split at ran
  · next found => exact .inl ⟨holds_iff.mp found, ran⟩
  · next missing =>
    rw [holds_iff] at missing
    split at ran
    · next found => exact .inr ⟨missing, holds_iff.mp found, ran⟩
    · cases ran

/-- A text with every new text is left alone. -/
theorem repairText_idle {repairs : List Repair} {text : Text}
    (present : ∀ repair ∈ repairs, repair.new.codes <:+: text.codes) (changed : Bool) :
    repairText repairs changed text = some (changed, text) := by
  induction repairs with
  | nil => rfl
  | cons repair rest ih =>
    rw [List.forall_mem_cons] at present
    rw [repairText, if_pos (holds_iff.mpr present.1)]
    exact ih present.2

/-- A part of the text that no old text reaches into is still there. -/
theorem repairText_keeps {repairs : List Repair} {part : List CodePoint}
    (apart : ∀ repair ∈ repairs, part = [] ∨ Apart part repair.old.codes)
    (found : part <:+: text.codes)
    (ran : repairText repairs changed text = some (changed', text')) : part <:+: text'.codes := by
  induction repairs generalizing changed text with
  | nil =>
    cases ran
    exact found
  | cons repair rest ih =>
    rw [List.forall_mem_cons] at apart
    obtain ⟨-, ran⟩ | ⟨-, -, ran⟩ := repairText_cons ran
    · exact ih apart.2 found ran
    · apply ih apart.2 _ ran
      obtain rfl | apart := apart.1
      · exact List.nil_infix
      · exact (replaceAll_replaced apart.some_right).keeps apart found

theorem repairText_present {repairs : List Repair} (keeps : repairs.Pairwise Repair.Keeps)
    (ran : repairText repairs changed text = some (changed', text')) :
    ∀ repair ∈ repairs, repair.new.codes <:+: text'.codes := by
  induction repairs generalizing changed text with
  | nil => exact fun _ none => nomatch none
  | cons repair rest ih =>
    obtain ⟨first, others⟩ := List.pairwise_cons.mp keeps
    rw [List.forall_mem_cons]
    obtain ⟨found, ran⟩ | ⟨-, found, ran⟩ := repairText_cons ran
    · exact ⟨repairText_keeps first found ran, ih others ran⟩
    · exact ⟨repairText_keeps first (replaceAll_present found) ran, ih others ran⟩

/-- The text that comes out has only code points of the text that went in and of the new texts. -/
theorem mem_repairText {repairs : List Repair}
    (ran : repairText repairs changed text = some (changed', text')) {c : CodePoint}
    (member : c ∈ text'.codes) : c ∈ text.codes ∨ ∃ repair ∈ repairs, c ∈ repair.new.codes := by
  induction repairs generalizing changed text with
  | nil =>
    cases ran
    exact .inl member
  | cons repair rest ih =>
    rw [List.exists_mem_cons_iff]
    obtain ⟨-, ran⟩ | ⟨-, -, ran⟩ := repairText_cons ran
    · obtain before | added := ih ran
      · exact .inl before
      · exact .inr (.inr added)
    · obtain before | added := ih ran
      · exact (mem_replaceAll before).imp_right .inl
      · exact .inr (.inr added)

theorem stable_repairText {repairs : List Repair} {text : Text} (stable : Stable text)
    (news : ∀ repair ∈ repairs, Stable repair.new)
    (ran : repairText repairs changed text = some (changed', text')) : Stable text' := by
  constructor
  · rw [Text.encodable, List.all_eq_true]
    intro c member
    obtain before | ⟨repair, listed, added⟩ := mem_repairText ran member
    · exact List.all_eq_true.mp stable.encodable c before
    · exact List.all_eq_true.mp (news repair listed).encodable c added
  · intro member
    obtain before | ⟨repair, listed, added⟩ := mem_repairText ran member
    · exact stable.plain before
    · exact (news repair listed).plain added

/-! ## Old texts -/

/-- What the texts of a repair and of a later one have to do with each other. -/
structure Independent (earlier later : Repair) : Prop where
  keeps : earlier.Keeps later
  anchor : earlier.new.codes = [] ∨ Apart later.old.codes earlier.old.codes
  created : later.new.codes = [] ∨ Apart earlier.old.codes later.new.codes ∨
    earlier.old.codes <:+: later.new.codes
  fresh : earlier.new.codes = [] ∨ Apart later.old.codes earlier.new.codes ∧
    (later.new.codes = [] ∨ Apart later.new.codes earlier.new.codes ∧
      (Apart later.new.codes earlier.old.codes ∨
        earlier.old.codes <:+: later.new.codes ∧ Apart earlier.old.codes earlier.new.codes))

structure Separate (repairs : List Repair) : Prop where
  independent : repairs.Pairwise Independent
  some_old : ∀ repair ∈ repairs, repair.old.codes ≠ []
  noCross : ∀ repair ∈ repairs,
    repair.new.codes = [] ∨ NoCross repair.old.codes repair.new.codes

theorem Separate.keeps (separate : Separate repairs) : repairs.Pairwise Repair.Keeps :=
  separate.independent.imp Independent.keeps

theorem Separate.tail (separate : Separate (repair :: rest)) : Separate rest where
  independent := (List.pairwise_cons.mp separate.independent).2
  some_old other member := separate.some_old other (List.mem_cons_of_mem _ member)
  noCross other member := separate.noCross other (List.mem_cons_of_mem _ member)

/-- A text with every old text gets through. -/
theorem repairText_available {repairs : List Repair} {text : Text} (separate : Separate repairs)
    (anchors : ∀ repair ∈ repairs, repair.old.codes <:+: text.codes) (changed : Bool) :
    ∃ result, repairText repairs changed text = some result := by
  induction repairs generalizing changed text with
  | nil => exact ⟨_, rfl⟩
  | cons repair rest ih =>
    rw [List.forall_mem_cons] at anchors
    rw [repairText]
    split
    · exact ih separate.tail anchors.2 changed
    · next missing =>
      rw [holds_iff] at missing
      rw [if_pos (holds_iff.mpr anchors.1)]
      apply ih separate.tail
      intro later member
      obtain none | apart := ((List.pairwise_cons.mp separate.independent).1 later member).anchor
      · exact absurd (none ▸ List.nil_infix) missing
      · exact (replaceAll_replaced apart.some_right).keeps apart (anchors.2 later member)

/-- Old texts within new ones stay so. -/
theorem repairText_keepsWithin {repairs : List Repair} {old new : List CodePoint} (some' : old ≠ [])
    (olds : ∀ repair ∈ repairs, repair.old.codes ≠ [])
    (reach : ∀ repair ∈ repairs, new = [] ∨ Apart new repair.old.codes)
    (created : ∀ repair ∈ repairs, repair.new.codes = [] ∨ Apart old repair.new.codes)
    (within : Within old new text.codes)
    (ran : repairText repairs changed text = some (changed', text')) :
    Within old new text'.codes := by
  induction repairs generalizing changed text with
  | nil =>
    cases ran
    exact within
  | cons repair rest ih =>
    rw [List.forall_mem_cons] at olds reach created
    obtain ⟨-, ran⟩ | ⟨missing, -, ran⟩ := repairText_cons ran
    · exact ih olds.2 reach.2 created.2 within ran
    · apply ih olds.2 reach.2 created.2 _ ran
      obtain none | created := created.1
      · exact absurd (none ▸ List.nil_infix) missing
      · exact (replaceAll_replaced olds.1).keepsWithin some' reach.1 created within

/-- A later repair is still to do or well done after an earlier one. -/
theorem Independent.unrepaired {earlier later : Repair} {text : Text} (independent : Independent earlier later)
    (some' : earlier.old.codes ≠ []) (some'' : later.old.codes ≠ [])
    (missing : ¬ earlier.new.codes <:+: text.codes)
    (unrepaired : later.new.codes <:+: text.codes → Within later.old.codes later.new.codes text.codes)
    (found : later.new.codes <:+: (text.replaceAll earlier.old earlier.new).codes) :
    Within later.old.codes later.new.codes (text.replaceAll earlier.old earlier.new).codes := by
  have replaced : Replaced earlier.old.codes earlier.new.codes text.codes
      (text.replaceAll earlier.old earlier.new).codes := replaceAll_replaced some'
  obtain none | ⟨created, fresh⟩ := independent.fresh
  · exact absurd (none ▸ List.nil_infix) missing
  obtain none | ⟨apart, reach | ⟨inside, gone⟩⟩ := fresh
  · have within := unrepaired (none ▸ List.nil_infix)
    exact replaced.keepsWithin some'' (.inl none) created within
  · have within := unrepaired (replaced.reflects apart found)
    exact replaced.keepsWithin some'' (.inr reach) created within
  · exact absurd (inside.trans found) (replaced.absent gone)

/-- No old text remains outside the new one of a repair whose old text no other repair brings in,
if there was none beside a new text before. -/
theorem repairText_within {before after : List Repair} {repair : Repair} {text : Text}
    (separate : Separate (before ++ repair :: after))
    (sole : ∀ other ∈ before ++ after, ¬ repair.old.codes <:+: other.new.codes)
    (unrepaired : repair.new.codes <:+: text.codes →
      Within repair.old.codes repair.new.codes text.codes)
    (ran : repairText (before ++ repair :: after) changed text = some (changed', text')) :
    Within repair.old.codes repair.new.codes text'.codes := by
  induction before generalizing changed text with
  | nil =>
    have rest := List.pairwise_cons.mp separate.independent
    have later : ∀ {text changed}, Within repair.old.codes repair.new.codes text.codes →
        repairText after changed text = some (changed', text') →
        Within repair.old.codes repair.new.codes text'.codes := by
      intro text changed within ran
      apply repairText_keepsWithin _ separate.tail.some_old (fun other member => ?_)
        (fun other member => ?_) within ran
      · exact separate.some_old repair List.mem_cons_self
      · exact (rest.1 other member).keeps
      · have created := (rest.1 other member).created
        rwa [or_iff_left (sole other member)] at created
    obtain ⟨found, ran⟩ | ⟨missing, -, ran⟩ := repairText_cons ran
    · exact later (unrepaired found) ran
    · apply later _ ran
      obtain none | noCross := separate.noCross repair List.mem_cons_self
      · exact absurd (none ▸ List.nil_infix) missing
      · exact (replaceAll_replaced (separate.some_old repair List.mem_cons_self)).within noCross
  | cons earlier before ih =>
    have listed : repair ∈ before ++ repair :: after := by simp
    rw [List.cons_append, List.forall_mem_cons] at sole
    obtain ⟨-, ran⟩ | ⟨missing, -, ran⟩ := repairText_cons ran
    · exact ih separate.tail sole.2 unrepaired ran
    · refine ih separate.tail sole.2 (fun found => ?_) ran
      apply ((List.pairwise_cons.mp separate.independent).1 repair listed).unrepaired _ _ missing
        unrepaired found
      · exact separate.some_old earlier List.mem_cons_self
      · exact separate.tail.some_old repair listed

end InferForge.Patches.Drift

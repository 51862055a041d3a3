import Mathlib.Data.List.Infix

/-! Where a list occurs in another one, and what replacing every occurrence of one list does to the
occurrences of a third. -/
namespace InferForge.Py
variable {α : Type} {p q s t rest old new : List α} {k : Nat}

/-- `p` stands at this place. -/
def OccursAt (p : List α) (k : Nat) (t : List α) : Prop := ∃ u v, t = u ++ (p ++ v) ∧ u.length = k

theorem infix_iff_occursAt : p <:+: t ↔ ∃ k, OccursAt p k t := by
  constructor
  · rintro ⟨u, v, rfl⟩
    exact ⟨u.length, u, v, List.append_assoc u p v, rfl⟩
  · rintro ⟨_, u, v, rfl, -⟩
    exact ⟨u, v, List.append_assoc u p v⟩

theorem OccursAt.append_right (occurs : OccursAt p k s) (t : List α) : OccursAt p k (s ++ t) := by
  obtain ⟨u, v, rfl, rfl⟩ := occurs
  exact ⟨u, v ++ t, by simp, rfl⟩

theorem OccursAt.append_left (occurs : OccursAt p k t) (s : List α) :
    OccursAt p (s.length + k) (s ++ t) := by
  obtain ⟨u, v, rfl, rfl⟩ := occurs
  exact ⟨s ++ u, v, by simp, by simp⟩

/-- An occurrence in two lists is in one of them, or across the border. -/
theorem OccursAt.split (occurs : OccursAt p k (s ++ t)) :
    OccursAt p k s ∨ (∃ j, k = s.length + j ∧ OccursAt p j t) ∨
      ∃ c d, p = c ++ d ∧ c ≠ [] ∧ d ≠ [] ∧ c <:+ s ∧ d <+: t := by
  obtain ⟨u, v, same, rfl⟩ := occurs
  obtain ⟨a, rfl, rfl⟩ | ⟨c, rfl, same'⟩ := List.append_eq_append_iff.mp same
  · exact .inr (.inl ⟨a.length, List.length_append, a, v, rfl, rfl⟩)
  · obtain ⟨d, rfl, rfl⟩ | ⟨a, rfl, rfl⟩ := List.append_eq_append_iff.mp same'.symm
    · by_cases none : c = []
      · subst none
        exact .inr (.inl ⟨0, by simp, [], v, by simp, rfl⟩)
      · by_cases none' : d = []
        · subst none'
          exact .inl ⟨u, [], by simp, rfl⟩
        · exact .inr (.inr ⟨c, d, rfl, none, none', ⟨u, rfl⟩, ⟨v, rfl⟩⟩)
    · exact .inl ⟨u, a, rfl, rfl⟩

/-- No occurrence of `p` crosses a border of an occurrence of `sep`. -/
structure NoCross (p sep : List α) : Prop where
  left : ∀ x, x ≠ [] → x <+: sep → x <:+ p → x = p
  right : ∀ y, y ≠ [] → y <+: p → y <:+ sep → y = p
  around : ¬ sep <:+: p

/-- An occurrence is before a separator, in it or behind it. -/
theorem NoCross.split (apart : NoCross p sep) (occurs : OccursAt p k (s ++ (sep ++ rest))) :
    OccursAt p k s ∨ (∃ j, k = s.length + j ∧ OccursAt p j sep) ∨
      ∃ j, k = s.length + sep.length + j ∧ OccursAt p j rest := by
  obtain before | ⟨j, rfl, behind⟩ | ⟨c, d, rfl, some', some'', -, starts⟩ := occurs.split
  · exact .inl before
  · obtain inside | ⟨i, rfl, after⟩ | ⟨c, d, rfl, some', some'', ends, -⟩ := behind.split
    · exact .inr (.inl ⟨j, rfl, inside⟩)
    · exact .inr (.inr ⟨i, by omega, after⟩)
    · have whole := apart.right c some' (List.prefix_append c d) ends
      simp [some''] at whole
  · obtain ⟨v, same⟩ := starts
    obtain ⟨a, rfl, -⟩ | ⟨e, rfl, -⟩ := List.append_eq_append_iff.mp same
    · have whole := apart.left d some'' (List.prefix_append d a) (List.suffix_append c d)
      simp [some'] at whole
    · exact absurd ⟨c, e, List.append_assoc c sep e⟩ apart.around

/-- No occurrence of the one shares a place with an occurrence of the other. -/
structure Apart (p q : List α) : Prop where
  some_left : p ≠ []
  some_right : q ≠ []
  left : ∀ x, x ≠ [] → x <+: q → ¬ x <:+ p
  right : ∀ y, y ≠ [] → y <+: p → ¬ y <:+ q
  inside : ¬ p <:+: q
  around : ¬ q <:+: p

theorem Apart.symm (apart : Apart p q) : Apart q p :=
  ⟨apart.some_right, apart.some_left, apart.right, apart.left, apart.around, apart.inside⟩

theorem Apart.noCross (apart : Apart p q) : NoCross p q where
  left x some' starts ends := absurd ends (apart.left x some' starts)
  right y some' starts ends := absurd ends (apart.right y some' starts)
  around := apart.around

theorem Apart.split (apart : Apart p sep) (occurs : OccursAt p k (s ++ (sep ++ rest))) :
    OccursAt p k s ∨ ∃ j, k = s.length + sep.length + j ∧ OccursAt p j rest := by
  obtain before | ⟨j, -, inside⟩ | behind := apart.noCross.split occurs
  · exact .inl before
  · exact absurd (infix_iff_occursAt.mpr ⟨j, inside⟩) apart.inside
  · exact .inr behind

section Map
variable {β : Type} {f : α → β}

theorem NoCross.of_map (apart : NoCross (p.map f) (q.map f)) : NoCross p q := by
  constructor
  · intro x some' starts ends
    have same := apart.left (x.map f) (by simpa using some') (starts.map f) (ends.map f)
    exact ends.eq_of_length (by simpa using congrArg List.length same)
  · intro y some' starts ends
    have same := apart.right (y.map f) (by simpa using some') (starts.map f) (ends.map f)
    exact starts.eq_of_length (by simpa using congrArg List.length same)
  · exact fun inside => apart.around (inside.map f)

theorem Apart.of_map (apart : Apart (p.map f) (q.map f)) : Apart p q := by
  constructor
  · exact fun none => apart.some_left (by rw [none, List.map_nil])
  · exact fun none => apart.some_right (by rw [none, List.map_nil])
  · exact fun x some' starts ends =>
      apart.left (x.map f) (by simpa using some') (starts.map f) (ends.map f)
  · exact fun y some' starts ends =>
      apart.right (y.map f) (by simpa using some') (starts.map f) (ends.map f)
  · exact fun inside => apart.inside (inside.map f)
  · exact fun inside => apart.around (inside.map f)

theorem infix_of_map (injective : Function.Injective f) (inside : p.map f <:+: q.map f) :
    p <:+: q := by
  obtain ⟨u, v, same⟩ := inside
  obtain ⟨front, v', rfl, same, -⟩ := List.map_eq_append_iff.mp same.symm
  obtain ⟨u', p', rfl, -, same⟩ := List.map_eq_append_iff.mp same
  rw [List.map_injective_iff.mpr injective same]
  exact ⟨u', v', rfl⟩

end Map

/-- Every occurrence of `p` is part of an occurrence of `q`. -/
def Within (p q t : List α) : Prop :=
  ∀ k, OccursAt p k t → ∃ m, OccursAt q m t ∧ m ≤ k ∧ k + p.length ≤ m + q.length

theorem within_of_absent (absent : ¬ p <:+: t) : Within p q t :=
  fun k occurs => absurd (infix_iff_occursAt.mpr ⟨k, occurs⟩) absent

theorem within_nil (some' : p ≠ []) : Within p [] t ↔ ¬ p <:+: t := by
  constructor
  · intro within found
    obtain ⟨k, occurs⟩ := infix_iff_occursAt.mp found
    obtain ⟨m, -, low, high⟩ := within k occurs
    have length := List.length_pos_iff.mpr some'
    simp only [List.length_nil] at high
    omega
  · exact within_of_absent

theorem Within.inside (within : Within p q t) (found : p <:+: t) : p <:+: q := by
  obtain ⟨k, occurs⟩ := infix_iff_occursAt.mp found
  obtain ⟨m, ⟨u', v', same', rfl⟩, low, high⟩ := within k occurs
  obtain ⟨u, v, same, rfl⟩ := occurs
  rw [same] at same'
  obtain ⟨a, rfl, parts⟩ | ⟨a, rfl, parts⟩ := List.append_eq_append_iff.mp same'
  · obtain rfl : a = [] := by
      apply List.eq_nil_of_length_eq_zero
      simp only [List.length_append] at low
      omega
    rw [List.nil_append] at parts
    exact (List.prefix_of_prefix_length_le (List.prefix_append p v) ⟨v', parts.symm⟩
      (by simpa using high)).isInfix
  · have starts : a ++ p <+: q ++ v' := ⟨v, by rw [parts, List.append_assoc]⟩
    have short : (a ++ p).length ≤ q.length := by
      simp only [List.length_append] at high ⊢
      omega
    obtain ⟨b, rfl⟩ := List.prefix_of_prefix_length_le starts (List.prefix_append q v') short
    exact ⟨a, b, rfl⟩

/-- Parts of a text that a separator divides. -/
theorem Within.parts (some' : p ≠ []) (apart : Apart q sep)
    (within : Within p q (s ++ (sep ++ rest))) : Within p q s ∧ Within p q rest := by
  have length := List.length_pos_iff.mpr some'
  constructor
  · intro k occurs
    have ⟨m, found, low, high⟩ := within k (occurs.append_right _)
    obtain before | ⟨j, rfl, behind⟩ := apart.split found
    · exact ⟨m, before, low, high⟩
    · obtain ⟨u, v, rfl, rfl⟩ := occurs
      simp only [List.length_append] at low
      omega
  · intro k occurs
    have ⟨m, found, low, high⟩ := within _ ((occurs.append_left sep).append_left s)
    obtain ⟨u, v, rfl, rfl⟩ | ⟨j, rfl, behind⟩ := apart.split found
    · simp only [List.length_append] at low high
      omega
    · exact ⟨j, behind, by omega, by omega⟩

/-! ## Replacing -/

/-- Every occurrence of `old`, taken from the left, gives way to `new`. -/
inductive Replaced (old new : List α) : List α → List α → Prop
  | done {t : List α} (absent : ¬ old <:+: t) : Replaced old new t t
  | next {s rest rest' : List α} (absent : ¬ old <:+: s) (tail : Replaced old new rest rest') :
      Replaced old new (s ++ (old ++ rest)) (s ++ (new ++ rest'))

namespace Replaced
variable {t' : List α}

/-- A list that stays apart from the old one is still there. -/
theorem keeps (replaced : Replaced old new t t') (apart : Apart p old) (found : p <:+: t) :
    p <:+: t' := by
  induction replaced with
  | done => exact found
  | @next s rest rest' _ _ ih =>
    obtain ⟨k, occurs⟩ := infix_iff_occursAt.mp found
    obtain before | ⟨j, -, behind⟩ := apart.split occurs
    · exact infix_iff_occursAt.mpr ⟨k, before.append_right _⟩
    · obtain ⟨i, occurs⟩ := infix_iff_occursAt.mp (ih (infix_iff_occursAt.mpr ⟨j, behind⟩))
      exact infix_iff_occursAt.mpr ⟨_, (occurs.append_left new).append_left s⟩

/-- A list that stays apart from the new one was there before. -/
theorem reflects (replaced : Replaced old new t t') (apart : Apart p new) (found : p <:+: t') :
    p <:+: t := by
  induction replaced with
  | done => exact found
  | @next s rest rest' _ _ ih =>
    obtain ⟨k, occurs⟩ := infix_iff_occursAt.mp found
    obtain before | ⟨j, -, behind⟩ := apart.split occurs
    · exact infix_iff_occursAt.mpr ⟨k, before.append_right _⟩
    · obtain ⟨i, occurs⟩ := infix_iff_occursAt.mp (ih (infix_iff_occursAt.mpr ⟨j, behind⟩))
      exact infix_iff_occursAt.mpr ⟨_, (occurs.append_left old).append_left s⟩

theorem present (replaced : Replaced old new t t') (found : old <:+: t) : new <:+: t' := by
  cases replaced with
  | done absent => exact absurd found absent
  | @next s _ rest' => exact ⟨s, rest', List.append_assoc s new rest'⟩

/-- The occurrences of `old` that are left are parts of `new`. -/
theorem within (replaced : Replaced old new t t') (apart : NoCross old new) :
    Within old new t' := by
  induction replaced with
  | done absent => exact within_of_absent absent
  | @next s rest rest' absent _ ih =>
    intro k occurs
    obtain before | ⟨j, rfl, u, v, same, rfl⟩ | ⟨j, rfl, behind⟩ := apart.split occurs
    · exact absurd (infix_iff_occursAt.mpr ⟨k, before⟩) absent
    · refine ⟨s.length, ⟨s, rest', rfl, rfl⟩, by omega, ?_⟩
      have length := congrArg List.length same
      simp only [List.length_append] at length
      omega
    · obtain ⟨m, found, low, high⟩ := ih j behind
      exact ⟨_, (found.append_left new).append_left s, by omega, by omega⟩

theorem absent (replaced : Replaced old new t t') (apart : Apart old new) : ¬ old <:+: t' := by
  induction replaced with
  | done absent => exact absent
  | @next s rest rest' absent _ ih =>
    intro found
    obtain ⟨k, occurs⟩ := infix_iff_occursAt.mp found
    obtain before | ⟨j, -, behind⟩ := apart.split occurs
    · exact absent (infix_iff_occursAt.mpr ⟨k, before⟩)
    · exact ih (infix_iff_occursAt.mpr ⟨j, behind⟩)

/-- Occurrences within another list stay so. -/
theorem keepsWithin (replaced : Replaced old new t t') (some' : p ≠ [])
    (reach : q = [] ∨ Apart q old) (created : Apart p new) (within : Within p q t) :
    Within p q t' := by
  obtain rfl | apart := reach
  · rw [within_nil some'] at within ⊢
    exact fun found => within (replaced.reflects created found)
  induction replaced with
  | done => exact within
  | @next s rest rest' _ _ ih =>
    obtain ⟨front, back⟩ := within.parts some' apart
    intro k occurs
    obtain before | ⟨j, rfl, behind⟩ := created.split occurs
    · obtain ⟨m, found, low, high⟩ := front k before
      exact ⟨m, found.append_right _, low, high⟩
    · obtain ⟨m, found, low, high⟩ := ih back j behind
      exact ⟨_, (found.append_left new).append_left s, by omega, by omega⟩

theorem mem {c : α} (replaced : Replaced old new t t') (member : c ∈ t') : c ∈ t ∨ c ∈ new := by
  induction replaced with
  | done => exact .inl member
  | next _ _ ih =>
    simp only [List.mem_append] at member ⊢
    tauto

end Replaced
end InferForge.Py

import InferForge.Py.Occurrence

/-! A check by lines that two texts stay apart. The lines are given backwards, the last one first, so
that two texts are mostly told apart by their last lines. -/
namespace InferForge.Py

/-- Lines with a line feed behind each. -/
def joined (text : List (List Nat)) : List Nat := text.flatMap (· ++ [10])

/-- The same backwards, from backward lines. -/
def back (text : List (List Nat)) : List Nat := text.flatMap (10 :: ·)

def backLines (text : List (List Nat)) : List (List Nat) := (text.map List.reverse).reverse

variable {text other : List (List Nat)}

theorem reverse_joined (text : List (List Nat)) : (joined text).reverse = back (backLines text) := by
  induction text with
  | nil => rfl
  | cons line rest ih =>
    simp only [joined, back, backLines, List.flatMap_cons, List.reverse_append, List.map_cons,
      List.reverse_cons, List.flatMap_append] at ih ⊢
    simp [ih]

theorem joined_ends (line : List Nat) (text : List (List Nat)) :
    ∃ front, joined (line :: text) = front ++ [10] := by
  induction text generalizing line with
  | nil => exact ⟨line, by simp [joined]⟩
  | cons next rest ih =>
    obtain ⟨front, same⟩ := ih next
    refine ⟨line ++ [10] ++ front, ?_⟩
    rw [joined, List.flatMap_cons, ← joined, same, List.append_assoc (line ++ [10])]

/-- A beginning of a text that ends with a line feed is some of its lines. -/
theorem prefix_joined {x : List Nat} (plain : ∀ line ∈ text, 10 ∉ line)
    (starts : x ++ [10] <+: joined text) :
    ∃ k, 0 < k ∧ k ≤ text.length ∧ x ++ [10] = joined (text.take k) := by
  induction text generalizing x with
  | nil =>
    have none := List.prefix_nil.mp starts
    simp at none
  | cons line rest ih =>
    rw [List.forall_mem_cons] at plain
    rw [joined, List.flatMap_cons, List.append_assoc] at starts
    obtain ⟨behind, same⟩ := starts
    rw [List.append_assoc] at same
    obtain ⟨a, rfl, same'⟩ | ⟨c, rfl, same'⟩ := List.append_eq_append_iff.mp same
    · cases a with
      | nil =>
        refine ⟨1, Nat.one_pos, by simp, ?_⟩
        simp [joined]
      | cons d a =>
        rw [List.singleton_append, List.cons_append, List.cons.injEq] at same'
        exact absurd (by simp [← same'.1]) plain.1
    · cases c with
      | nil =>
        refine ⟨1, Nat.one_pos, by simp, ?_⟩
        simp [joined]
      | cons d c =>
        rw [List.singleton_append, List.cons_append, List.cons.injEq] at same'
        obtain ⟨rfl, same'⟩ := same'
        have further : c ++ [10] <+: joined rest := ⟨behind, by rw [joined, same']; simp⟩
        obtain ⟨k, some', short, same⟩ := ih plain.2 further
        refine ⟨k + 1, Nat.succ_pos k, Nat.succ_le_succ short, ?_⟩
        rw [List.take_succ_cons, joined, List.flatMap_cons, ← joined, ← same]
        simp

/-- Such a beginning, backwards, is some of the backward lines. -/
theorem prefix_back {x : List Nat} (plain : ∀ line ∈ text, 10 ∉ line)
    (starts : x ++ [10] <+: joined text) :
    ∃ rest ∈ (backLines text).tails, rest ≠ [] ∧ (x ++ [10]).reverse = back rest := by
  obtain ⟨k, some', short, same⟩ := prefix_joined plain starts
  refine ⟨backLines (text.take k), ?_, ?_, ?_⟩
  · rw [List.mem_tails, backLines, backLines, List.reverse_suffix]
    exact (List.take_prefix k text).map _
  · rw [backLines, ne_eq, List.reverse_eq_nil_iff, List.map_eq_nil_iff, List.take_eq_nil_iff]
    rintro (rfl | rfl)
    · exact Nat.lt_irrefl _ some'
    · exact absurd (Nat.lt_of_lt_of_le some' short) (Nat.lt_irrefl _)
  · rw [same, reverse_joined]

/-- Neither is the beginning of the other. -/
def differ : List Nat → List Nat → Bool
  | a :: p, b :: q => bif Nat.beq a b then differ p q else true
  | _, _ => false

theorem differ_spec {p q : List Nat} (checked : differ p q = true) : ¬ p <+: q ∧ ¬ q <+: p := by
  induction p generalizing q with
  | nil => cases checked
  | cons a p ih =>
    cases q with
    | nil => cases checked
    | cons b q =>
      rw [differ, Bool.cond_eq_ite] at checked
      rw [List.cons_prefix_cons, List.cons_prefix_cons]
      split at checked
      · obtain ⟨one, two⟩ := ih checked
        exact ⟨fun starts => one starts.2, fun starts => two starts.2⟩
      · next other =>
        have apart : a ≠ b := fun same => other (Nat.beq_eq.mpr same)
        exact ⟨fun starts => apart starts.1, fun starts => apart starts.1.symm⟩

/-- The part of `clear` for the beginnings of the second text. -/
def clearOf (p q : List (List Nat)) : Bool :=
  q.tails.all fun rest => rest.isEmpty || differ (back rest) (back p)

/-- `Apart`, for two texts by their backward lines. -/
def clear (p q : List (List Nat)) : Bool := !p.isEmpty && !q.isEmpty && clearOf p q && clearOf q p

theorem ends_of_suffix {p x : List Nat} (some' : x ≠ []) (ends : x <:+ p ++ [10]) :
    ∃ front, x = front ++ [10] := by
  refine ⟨x.dropLast, ?_⟩
  have last := List.dropLast_append_getLast some'
  have same : x.getLast some' = 10 := by
    rw [ends.getLast some']
    simp
  rw [same] at last
  exact last.symm

theorem ends_of_longer {p x : List Nat} (ends : p ++ [10] <:+ x) : ∃ front, x = front ++ [10] := by
  obtain ⟨front, rfl⟩ := ends
  exact ⟨front ++ p, by rw [List.append_assoc]⟩

/-- What a check of the beginnings of a text that end with a line feed says of them. -/
theorem beginning (ok : List Nat → Bool) (plain : ∀ line ∈ text, 10 ∉ line)
    (checked : ((backLines text).tails.all fun rest => rest.isEmpty || ok (back rest)) = true)
    {x : List Nat} (starts : x <+: joined text) (ends : ∃ front, x = front ++ [10]) :
    ok x.reverse = true := by
  obtain ⟨front, rfl⟩ := ends
  obtain ⟨rest, member, nonempty, reversed⟩ := prefix_back plain starts
  have one := List.all_eq_true.mp checked rest member
  rwa [Bool.or_eq_true, List.isEmpty_iff, or_iff_right nonempty, ← reversed] at one

theorem ends_joined (some' : text ≠ []) : ∃ front, joined text = front ++ [10] := by
  cases text with
  | nil => exact absurd rfl some'
  | cons line rest => exact joined_ends line rest

theorem clearOf_spec (some' : text ≠ []) (plain : ∀ line ∈ other, 10 ∉ line)
    (checked : clearOf (backLines text) (backLines other) = true) {x : List Nat} (full : x ≠ [])
    (starts : x <+: joined other) : ¬ x <:+ joined text ∧ ¬ joined text <:+ x := by
  obtain ⟨front, same⟩ := ends_joined some'
  have apart (ends : ∃ front, x = front ++ [10]) :
      ¬ x <:+ joined text ∧ ¬ joined text <:+ x := by
    have one := differ_spec (beginning (differ · (back (backLines text))) plain checked starts ends)
    rwa [← reverse_joined, List.reverse_prefix, List.reverse_prefix] at one
  constructor
  · exact fun ends => (apart (ends_of_suffix full (same ▸ ends))).1 ends
  · exact fun ends => (apart (ends_of_longer (same ▸ ends))).2 ends

theorem joined_eq_nil : joined text = [] ↔ text = [] := by
  cases text <;> simp [joined]

theorem apart_of_clear (plain : ∀ line ∈ text, 10 ∉ line) (plain' : ∀ line ∈ other, 10 ∉ line)
    (checked : clear (backLines text) (backLines other) = true) :
    Apart (joined text) (joined other) := by
  simp only [clear, Bool.and_eq_true, Bool.not_eq_true', List.isEmpty_eq_false_iff, backLines, ne_eq,
    List.reverse_eq_nil_iff, List.map_eq_nil_iff] at checked
  obtain ⟨⟨⟨some', some''⟩, front⟩, back⟩ := checked
  have front {x : List Nat} (full : x ≠ []) (starts : x <+: joined other) :=
    clearOf_spec some' plain' front full starts
  have back {y : List Nat} (full : y ≠ []) (starts : y <+: joined text) :=
    clearOf_spec some'' plain back full starts
  have full : joined text ≠ [] := mt joined_eq_nil.mp some'
  have full' : joined other ≠ [] := mt joined_eq_nil.mp some''
  constructor
  · exact full
  · exact full'
  · exact fun x some' starts => (front some' starts).1
  · exact fun y some' starts => (back some' starts).1
  · rintro ⟨u, v, same⟩
    exact (front (by simp [full]) ⟨v, same⟩).2 (List.suffix_append u _)
  · rintro ⟨u, v, same⟩
    exact (back (by simp [full']) ⟨v, same⟩).2 (List.suffix_append u _)

/-- `NoCross`, for two texts by their backward lines. -/
def uncrossed (p sep : List (List Nat)) : Bool :=
  !p.isEmpty && !sep.isEmpty &&
  (sep.tails.all fun rest =>
    rest.isEmpty || !(back rest).isPrefixOf (back p) || back rest == back p) &&
  (p.tails.all fun rest =>
    rest.isEmpty || !(back rest).isPrefixOf (back sep) || back rest == back p) &&
  p.tails.all fun rest => rest.isEmpty || !(back sep).isPrefixOf (back rest)

theorem noCross_of_uncrossed (plain : ∀ line ∈ text, 10 ∉ line) (plain' : ∀ line ∈ other, 10 ∉ line)
    (checked : uncrossed (backLines text) (backLines other) = true) :
    NoCross (joined text) (joined other) := by
  simp only [uncrossed, Bool.and_eq_true, Bool.or_assoc] at checked
  obtain ⟨⟨⟨⟨some', some''⟩, left⟩, right⟩, around⟩ := checked
  have full : text ≠ [] := by
    rintro rfl
    cases some'
  have full' : other ≠ [] := by
    rintro rfl
    cases some''
  obtain ⟨front, same⟩ := ends_joined full
  obtain ⟨front', same'⟩ := ends_joined full'
  constructor
  · intro x full starts ends
    have one := beginning (fun rest => !rest.isPrefixOf (back (backLines text)) ||
      rest == back (backLines text)) plain' left starts (ends_of_suffix full (same ▸ ends))
    rw [Bool.or_eq_true, Bool.not_eq_true', Bool.eq_false_iff, ne_eq, List.isPrefixOf_iff_prefix,
      beq_iff_eq, ← reverse_joined, List.reverse_prefix, List.reverse_inj] at one
    exact one.resolve_left (not_not_intro ends)
  · intro y full starts ends
    have one := beginning (fun rest => !rest.isPrefixOf (back (backLines other)) ||
      rest == back (backLines text)) plain right starts (ends_of_suffix full (same' ▸ ends))
    rw [Bool.or_eq_true, Bool.not_eq_true', Bool.eq_false_iff, ne_eq, List.isPrefixOf_iff_prefix,
      beq_iff_eq, ← reverse_joined, ← reverse_joined, List.reverse_prefix, List.reverse_inj] at one
    exact one.resolve_left (not_not_intro ends)
  · rintro ⟨u, v, inside⟩
    have starts : u ++ joined other <+: joined text := ⟨v, inside⟩
    have one := beginning (fun rest => !(back (backLines other)).isPrefixOf rest) plain around starts
      ⟨u ++ front', by rw [same', List.append_assoc]⟩
    rw [Bool.not_eq_true', Bool.eq_false_iff, ne_eq, List.isPrefixOf_iff_prefix,
      ← reverse_joined, List.reverse_prefix] at one
    exact one (List.suffix_append u _)

end InferForge.Py

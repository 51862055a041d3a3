import InferForge.Py.Template
import InferForge.Py.Occurrence

/-! `str.replace` and `in` by occurrences. -/
namespace InferForge.Py

theorem holds_iff {t needle : Text} : t.holds needle = true ↔ needle.codes <:+: t.codes := by
  simp [Text.holds, List.infix_iff_prefix_suffix, and_comm]

/-! ## `str.replace` -/

section
variable {old new t t' : List CodePoint}

theorem replaceFrom_skip (front : List CodePoint) :
    Text.replaceFrom old new front.length (front ++ t) = Text.replaceFrom old new 0 t := by
  induction front with
  | nil => rfl
  | cons c front ih => exact ih

theorem replaced_cons (here : ¬ old <+: c :: t) (replaced : Replaced old new t t') :
    Replaced old new (c :: t) (c :: t') := by
  cases replaced with
  | done absent =>
    apply Replaced.done
    rw [List.infix_cons_iff]
    exact not_or_intro here absent
  | @next s rest rest' absent tail =>
    apply Replaced.next (s := c :: s)
    · rw [List.infix_cons_iff]
      refine not_or_intro (fun starts => here ?_) absent
      exact starts.trans (List.prefix_append (c :: s) (old ++ rest))
    · exact tail

theorem replaceFrom_replaced (some' : old ≠ []) (t : List CodePoint) :
    Replaced old new t (Text.replaceFrom old new 0 t) := by
  induction length : t.length using Nat.strong_induction_on generalizing t with
  | _ n ih =>
    cases t with
    | nil => exact .done (fun found => some' (List.infix_nil.mp found))
    | cons c rest =>
      rw [Text.replaceFrom]
      split
      · next found =>
        obtain ⟨behind, same⟩ := List.isPrefixOf_iff_prefix.mp found
        cases old with
        | nil => exact absurd rfl some'
        | cons d old =>
          rw [List.cons_append, List.cons.injEq] at same
          obtain ⟨rfl, rfl⟩ := same
          rw [List.length_cons, Nat.add_sub_cancel, replaceFrom_skip]
          apply Replaced.next (s := [])
          · exact fun found => some' (List.infix_nil.mp found)
          · apply ih behind.length _ behind rfl
            simp only [List.length_cons, List.length_append] at length
            omega
      · next other =>
        apply replaced_cons
        · exact fun found => other (List.isPrefixOf_iff_prefix.mpr found)
        · exact ih rest.length (by simp [← length]) rest rfl

end

/-- `text.replace(old, new)`; an empty `old` stands before each code point and at the end. -/
def Text.replaceAll (t old new : Text) : Text :=
  if old.codes = [] then ⟨new.codes ++ t.codes.flatMap fun c => c :: new.codes⟩
  else t.replace old new

theorem replaceAll_replaced {t old new : Text} (some' : old.codes ≠ []) :
    Replaced old.codes new.codes t.codes (t.replaceAll old new).codes := by
  rw [Text.replaceAll, if_neg some']
  exact replaceFrom_replaced some' t.codes

theorem replaceAll_present {t old new : Text} (found : old.codes <:+: t.codes) :
    new.codes <:+: (t.replaceAll old new).codes := by
  by_cases none : old.codes = []
  · rw [Text.replaceAll, if_pos none]
    exact (List.prefix_append _ _).isInfix
  · exact (replaceAll_replaced none).present found

theorem mem_replaceAll {t old new : Text} {c : CodePoint}
    (member : c ∈ (t.replaceAll old new).codes) : c ∈ t.codes ∨ c ∈ new.codes := by
  by_cases none : old.codes = []
  · rw [Text.replaceAll, if_pos none, List.mem_append, List.mem_flatMap] at member
    obtain first | ⟨d, inside, here⟩ := member
    · exact .inr first
    · obtain rfl | added := List.mem_cons.mp here
      · exact .inl inside
      · exact .inr added
  · exact (replaceAll_replaced none).mem member

/-! ## One replacement -/

def replaceOnceFrom (old new : List CodePoint) : List CodePoint → List CodePoint
  | [] => []
  | c :: rest =>
      if old.isPrefixOf (c :: rest) then new ++ (c :: rest).drop old.length
      else c :: replaceOnceFrom old new rest

/-- `text.replace(old, new, 1)`, for a nonempty `old`. -/
def Text.replaceOnce (t old new : Text) : Text := ⟨replaceOnceFrom old.codes new.codes t.codes⟩

theorem replaceOnceFrom_split {old t : List CodePoint} (new : List CodePoint) (some' : old ≠ []) (found : old <:+: t) :
    ∃ front behind, t = front ++ old ++ behind ∧ replaceOnceFrom old new t = front ++ new ++ behind := by
  induction t with
  | nil => exact absurd (List.infix_nil.mp found) some'
  | cons c rest ih =>
    by_cases here : old <+: c :: rest
    · obtain ⟨behind, same⟩ := here
      refine ⟨[], behind, same.symm, ?_⟩
      rw [replaceOnceFrom, if_pos (List.isPrefixOf_iff_prefix.mpr ⟨behind, same⟩), ← same, List.drop_left]
      rfl
    · obtain ⟨front, behind, same, replaced⟩ := ih ((List.infix_cons_iff.mp found).resolve_left here)
      refine ⟨c :: front, behind, congrArg (c :: ·) same, ?_⟩
      rw [replaceOnceFrom, if_neg (fun starts => here (List.isPrefixOf_iff_prefix.mp starts)), replaced]
      rfl

theorem replaceOnceFrom_absent {old new t : List CodePoint} (absent : ¬ old <:+: t) :
    replaceOnceFrom old new t = t := by
  induction t with
  | nil => rfl
  | cons c rest ih =>
    rw [List.infix_cons_iff] at absent
    rw [replaceOnceFrom, if_neg (fun starts => absent (.inl (List.isPrefixOf_iff_prefix.mp starts))),
      ih (fun found => absent (.inr found))]

theorem replaceOnce_present {t old new : Text} (some' : old.codes ≠ []) (found : t.holds old = true) :
    (t.replaceOnce old new).holds new = true := by
  obtain ⟨front, behind, -, replaced⟩ := replaceOnceFrom_split new.codes some' (holds_iff.mp found)
  exact holds_iff.mpr ⟨front, behind, replaced.symm⟩

theorem mem_replaceOnce {t old new : Text} {c : CodePoint} (some' : old.codes ≠ [])
    (member : c ∈ (t.replaceOnce old new).codes) : c ∈ t.codes ∨ c ∈ new.codes := by
  by_cases found : old.codes <:+: t.codes
  · obtain ⟨front, behind, same, replaced⟩ := replaceOnceFrom_split new.codes some' found
    rw [Text.replaceOnce, replaced] at member
    simp only [same, List.mem_append] at member ⊢
    tauto
  · rw [Text.replaceOnce, replaceOnceFrom_absent found] at member
    exact .inl member

theorem length_replaceOnce {t old : Text} (new : Text) (some' : old.codes ≠ []) (found : t.holds old = true) :
    (t.replaceOnce old new).codes.length + old.codes.length = t.codes.length + new.codes.length := by
  obtain ⟨front, behind, same, replaced⟩ := replaceOnceFrom_split new.codes some' (holds_iff.mp found)
  rw [Text.replaceOnce, replaced, same]
  simp only [List.length_append]
  omega

end InferForge.Py

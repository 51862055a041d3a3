import InferForge.Py.Lines

/-! `str.split`, `str.partition` and the slices of a string. -/
namespace InferForge.Py

/-- The words of `cs`; `word` is the one being read, backwards. -/
def wordsFrom (word : List CodePoint) : List CodePoint → List Text
  | [] => if word.isEmpty then [] else [⟨word.reverse⟩]
  | c :: rest =>
      if Text.isSpace c then
        if word.isEmpty then wordsFrom [] rest else ⟨word.reverse⟩ :: wordsFrom [] rest
      else wordsFrom (c :: word) rest

namespace Text

/-- `text.split()`. -/
def words (t : Text) : List Text := wordsFrom [] t.codes

/-- `text.split(separator)[-1]`. -/
def lastPart (t : Text) (separator : CodePoint) : Text :=
  ⟨(t.codes.reverse.takeWhile (· != separator)).reverse⟩

/-- `text.partition(separator)`: what stands before and after the first separator. -/
def partition (t : Text) (separator : CodePoint) : Text × Text :=
  let before := t.codes.takeWhile (· != separator)
  (⟨before⟩, ⟨t.codes.drop (before.length + 1)⟩)

/-- `text[:n]`. -/
def upTo (t : Text) (n : Nat) : Text := ⟨t.codes.take n⟩

/-- `text[-n:]`, for a positive `n`. -/
def lastOf (t : Text) (n : Nat) : Text := ⟨t.codes.drop (t.codes.length - n)⟩

/-- Leading characters that are no white space stand at the front of the stripped text. -/
theorem strip_front (front rest : List CodePoint) (some' : front ≠ [])
    (solid : ∀ c ∈ front, isSpace c = false) :
    ∃ kept, (strip ⟨front ++ rest⟩).codes = front ++ kept := by
  have unmoved (l : List CodePoint) (inside : ∀ c ∈ l, isSpace c = false) (tail : List CodePoint)
      (some' : l ≠ []) : (l ++ tail).dropWhile isSpace = l ++ tail := by
    cases l with
    | nil => exact absurd rfl some'
    | cons c l => exact List.dropWhile_cons_of_neg (by simp [inside c List.mem_cons_self])
  have back := unmoved front.reverse (fun c member => solid c (List.mem_reverse.mp member)) []
    (by simpa using some')
  rw [List.append_nil] at back
  simp only [strip, stripWhere, unmoved front solid rest some', List.reverse_append,
    List.dropWhile_append, back]
  split
  · exact ⟨[], by simp⟩
  · exact ⟨(rest.reverse.dropWhile isSpace).reverse, by simp⟩

end Text

/-- Universal newlines: a carriage return, with a line feed after it or not, is read as a line feed. -/
def universal : List CodePoint → List CodePoint
  | [] => []
  | [c] => [if c = 13 then 10 else c]
  | c :: d :: rest =>
      if c = 13 then
        if d = 10 then 10 :: universal rest else 10 :: universal (d :: rest)
      else c :: universal (d :: rest)

theorem universal_append {front : List CodePoint} (plain : 13 ∉ front) (rest : List CodePoint) :
    universal (front ++ rest) = front ++ universal rest := by
  induction front with
  | nil => rfl
  | cons c front ih =>
    simp only [List.mem_cons, not_or] at plain
    have ih := ih plain.2
    cases tail : front ++ rest with
    | nil =>
      obtain ⟨rfl, rfl⟩ := List.append_eq_nil_iff.mp tail
      simp [universal, Ne.symm plain.1]
    | cons d more =>
      rw [List.cons_append, tail, universal, if_neg (Ne.symm plain.1), ← tail, ih, List.cons_append]

theorem universal_plain (codes : List CodePoint) : 13 ∉ universal codes := by
  fun_induction universal codes with
  | case1 => exact List.not_mem_nil
  | case2 c => by_cases carriage : c = 13 <;> simp [carriage, eq_comm]
  | case3 rest ih | case4 d rest other ih => simpa using ih
  | case5 c d rest carriage ih => simpa [eq_comm, carriage] using ih

theorem universal_of_plain {codes : List CodePoint} (plain : 13 ∉ codes) : universal codes = codes := by
  simpa [universal] using universal_append plain []

theorem length_universal_le (codes : List CodePoint) : (universal codes).length ≤ codes.length := by
  fun_induction universal codes <;> simp_all
  omega

end InferForge.Py

import InferForge.Py.Text

/-! `str.replace` and `os.path.expandvars`. -/
namespace InferForge.Py
namespace Text

/-- `skip` code points still belong to the last match. -/
def replaceFrom (old new : List CodePoint) : Nat → List CodePoint → List CodePoint
  | _, [] => []
  | skip + 1, _ :: rest => replaceFrom old new skip rest
  | 0, c :: rest =>
      if old.isPrefixOf (c :: rest) then new ++ replaceFrom old new (old.length - 1) rest
      else c :: replaceFrom old new 0 rest

/-- `text.replace(old, new)`, for a nonempty `old`. -/
def replace (t old new : Text) : Text := ⟨replaceFrom old.codes new.codes 0 t.codes⟩

/-- `\w` of an ASCII pattern. -/
def isWord (c : CodePoint) : Bool :=
  (48 ≤ c.val && c.val ≤ 57) || (65 ≤ c.val && c.val ≤ 90) || (97 ≤ c.val && c.val ≤ 122) || c.val == 95

/-- What follows a dollar: the name of a variable, and how much of the text it takes. -/
def variableName : List CodePoint → Option (Text × Nat)
  | [] => none
  | c :: rest =>
      if c = 123 then
        let name := rest.takeWhile (· != 125)
        if (rest.drop name.length).isEmpty then none else some (⟨name⟩, name.length + 2)
      else
        let name := (c :: rest).takeWhile isWord
        if name.isEmpty then none else some (⟨name⟩, name.length)

def expandFrom (environ : Text → Option Text) : Nat → List CodePoint → List CodePoint
  | _, [] => []
  | skip + 1, _ :: rest => expandFrom environ skip rest
  | 0, c :: rest =>
      if c = 36 then
        match variableName rest with
        | some (name, length) =>
            match environ name with
            | some value => value.codes ++ expandFrom environ length rest
            | none => c :: (rest.take length ++ expandFrom environ length rest)
        | none => c :: expandFrom environ 0 rest
      else c :: expandFrom environ 0 rest

/-- `os.path.expandvars`: unknown variables stay, and values are not expanded again. -/
def expandvars (environ : Text → Option Text) (t : Text) : Text := ⟨expandFrom environ 0 t.codes⟩

/-- `needle in text`. -/
def holds (t needle : Text) : Bool := t.codes.tails.any fun rest => needle.codes.isPrefixOf rest

/-- `text.lower()`, for the letters of ASCII. -/
def lower (t : Text) : Text :=
  ⟨t.codes.map fun c => if 65 ≤ c.val ∧ c.val ≤ 90 then Fin.ofNat _ (c.val + 32) else c⟩

def startsWith (t start : Text) : Bool := start.codes.isPrefixOf t.codes

theorem startsWith_iff {t start : Text} : t.startsWith start = true ↔ start.codes <+: t.codes :=
  List.isPrefixOf_iff_prefix

theorem expandFrom_plain (plain : (36 : CodePoint) ∉ line) :
    expandFrom environ 0 line = line := by
  induction line with
  | nil => rfl
  | cons c rest ih =>
    obtain ⟨other, plain⟩ := List.ne_and_not_mem_of_not_mem_cons plain
    rw [expandFrom, if_neg (Ne.symm other), ih plain]

/-- A text without a dollar expands to itself. -/
theorem expandvars_plain {t : Text} (plain : (36 : CodePoint) ∉ t.codes) :
    t.expandvars environ = t := by
  rw [expandvars, expandFrom_plain plain]

theorem replaceFrom_plain {old : List CodePoint} (starts : old.head? = some d)
    (plain : d ∉ line) : replaceFrom old new 0 line = line := by
  induction line with
  | nil => rfl
  | cons c rest ih =>
    obtain ⟨other, plain⟩ := List.ne_and_not_mem_of_not_mem_cons plain
    have apart : old.isPrefixOf (c :: rest) = false := by
      cases old with
      | nil => cases starts
      | cons d' old =>
        cases starts
        simp [List.isPrefixOf, other]
    rw [replaceFrom, apart, ih plain]
    rfl

/-- A text without the first code point of `old` is left alone. -/
theorem replace_plain {t old new : Text} (starts : old.codes.head? = some d) (plain : d ∉ t.codes) :
    t.replace old new = t := by
  rw [replace, replaceFrom_plain starts plain]

theorem isPrefixOf_concat {old line : List CodePoint} (apart : d ∉ old) :
    old.isPrefixOf (line ++ [d]) = old.isPrefixOf line := by
  rw [Bool.eq_iff_iff, List.isPrefixOf_iff_prefix, List.isPrefixOf_iff_prefix,
    List.prefix_concat_iff]
  constructor
  · rintro (whole | within)
    · exact absurd (whole ▸ by simp) apart
    · exact within
  · exact .inr

theorem replaceFrom_concat {old : List CodePoint} (some' : old ≠ []) (apart : d ∉ old)
    (within : skip ≤ line.length) :
    replaceFrom old new skip (line ++ [d]) = replaceFrom old new skip line ++ [d] := by
  induction line generalizing skip with
  | nil =>
    obtain rfl := Nat.le_zero.mp within
    have apart : old.isPrefixOf [d] = false := by
      have none : old.isPrefixOf ([] ++ [d]) = _ := isPrefixOf_concat apart
      cases old with
      | nil => exact absurd rfl some'
      | cons c old => simpa using none
    simp [replaceFrom, apart]
  | cons c rest ih =>
    cases skip with
    | succ skip => exact ih (Nat.le_of_succ_le_succ within)
    | zero =>
      have same : old.isPrefixOf (c :: rest ++ [d]) = old.isPrefixOf (c :: rest) :=
        isPrefixOf_concat apart
      rw [List.cons_append] at same
      rw [List.cons_append, replaceFrom, replaceFrom, same]
      split
      · next found =>
        have fits := (List.isPrefixOf_iff_prefix.mp found).length_le
        rw [ih (by simp at fits; omega), List.append_assoc]
      · rw [ih (Nat.zero_le _), List.cons_append]

/-- A last code point that is not in `old` stays. -/
theorem replace_concat {t old new : Text} (some' : old.codes ≠ []) (apart : d ∉ old.codes) :
    (t ++ ⟨[d]⟩).replace old new = t.replace old new ++ ⟨[d]⟩ := by
  apply ext
  exact replaceFrom_concat some' apart (Nat.zero_le _)

end Text
end InferForge.Py

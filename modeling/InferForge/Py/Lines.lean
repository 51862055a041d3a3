import InferForge.Py.RoundTrip

/-! `str.splitlines`, and the line boundaries a dumped value can contain. -/
namespace InferForge.Py

/-- The boundaries of `splitlines`. -/
def isBreak (c : CodePoint) : Bool :=
  (10 ≤ c.val && c.val ≤ 13) || (28 ≤ c.val && c.val ≤ 30) || c.val == 0x85 || c.val == 0x2028 ||
    c.val == 0x2029

/-- `line` is what stands before on the same line; a line feed directly after a carriage
return belongs to the same boundary. -/
def splitFrom : Bool → List CodePoint → List CodePoint → List Text
  | _, line, [] => if line.isEmpty then [] else [⟨line⟩]
  | afterReturn, line, c :: rest =>
      if isBreak c then
        if afterReturn && c.val == 10 then splitFrom false [] rest
        else ⟨line⟩ :: splitFrom (c.val == 13) [] rest
      else splitFrom false (line ++ [c]) rest

def Text.splitlines (t : Text) : List Text := splitFrom false [] t.codes

/-- The lines that `if line.strip()` keeps. -/
def Text.fullLines (t : Text) : List Text := t.splitlines.filter fun line => !line.blank

theorem isSpace_of_isBreak (boundary : isBreak c = true) : Text.isSpace c = true := by
  simp only [isBreak, Text.isSpace, Bool.or_eq_true, Bool.and_eq_true, decide_eq_true_eq,
    beq_iff_eq] at boundary ⊢
  omega

theorem Text.blank_iff (t : Text) : t.blank = true ↔ ∀ c ∈ t.codes, isSpace c = true := by
  have all (l : List CodePoint) : l.dropWhile isSpace = [] ↔ ∀ c ∈ l, isSpace c = true := by
    rw [List.dropWhile_eq_nil_iff]
  simp only [blank, strip, stripWhere, isEmpty, List.isEmpty_iff, List.reverse_eq_nil_iff]
  rw [all]
  constructor
  · intro rest
    by_contra other
    push Not at other
    obtain ⟨c, member, ink⟩ := other
    have kept : t.codes.dropWhile isSpace ≠ [] := fun empty => ink ((all _).mp empty c member)
    obtain ⟨d, more, shape⟩ := List.exists_cons_of_ne_nil kept
    have first := List.head?_dropWhile_not isSpace t.codes
    rw [shape] at first
    simp only [List.head?_cons] at first
    rw [rest d (by simp [shape])] at first
    cases first
  · intro spaces c member
    rw [List.mem_reverse] at member
    exact spaces c ((List.dropWhile_suffix _).subset member)

/-- A boundary other than a carriage return ends what stands before it. -/
theorem splitFrom_append (boundary : isBreak c = true) (feed : c.val ≠ 13) (a rest : List CodePoint)
    (afterReturn : Bool) (line : List CodePoint) :
    splitFrom afterReturn line (a ++ c :: rest) =
      splitFrom afterReturn line (a ++ [c]) ++ splitFrom false [] rest := by
  induction a generalizing afterReturn line with
  | nil =>
    have plain : (c.val == 13) = false := beq_eq_false_iff_ne.mpr feed
    simp only [List.nil_append, splitFrom, boundary, if_true, plain]
    split <;> simp
  | cons d a ih =>
    simp only [List.cons_append, splitFrom]
    split
    · split
      · exact ih ..
      · rw [ih, List.cons_append]
    · exact ih ..

/-- A text without boundaries is one line. -/
theorem splitFrom_unbroken (whole : ∀ c ∈ a, isBreak c = false) (line rest : List CodePoint) :
    splitFrom false line (a ++ 10 :: rest) = ⟨line ++ a⟩ :: splitFrom false [] rest := by
  induction a generalizing line with
  | nil =>
    have feed : isBreak 10 = true := by decide
    simp only [List.nil_append, splitFrom, feed, if_true, Bool.false_and, Bool.false_eq_true,
      if_false, List.append_nil]
    rfl
  | cons d a ih =>
    have here := whole d (List.mem_cons_self ..)
    have later := ih (fun c member => whole c (List.mem_cons_of_mem _ member)) (line ++ [d])
    simp only [List.cons_append, splitFrom, here, Bool.false_eq_true, if_false, later,
      List.append_assoc, List.nil_append]

/-- How many lines of a piece of text are not blank. -/
def inked (lines : List Text) : Nat := (lines.filter fun line => !line.blank).length

theorem inked_append (a b : List Text) : inked (a ++ b) = inked a + inked b := by
  simp [inked]

/-- Text with a visible character has a line with one. -/
theorem inked_splitFrom (boundary : isBreak c = true) (visible : Text.isSpace x = false)
    (a line : List CodePoint) (afterReturn : Bool) (start : afterReturn = true → line = [])
    (member : x ∈ line ++ a) : 1 ≤ inked (splitFrom afterReturn line (a ++ [c])) := by
  have full (line : List CodePoint) (lines : List Text) (inside : x ∈ line) :
      1 ≤ inked (⟨line⟩ :: lines) := by
    have ink : Text.blank ⟨line⟩ = false := by
      rw [Bool.eq_false_iff, ne_eq, Text.blank_iff]
      intro spaces
      rw [spaces x inside] at visible
      cases visible
    simp [inked, ink]
  induction a generalizing line afterReturn with
  | nil =>
    rw [List.append_nil] at member
    have kept : (afterReturn && c.val == 10) = false := by
      cases afterReturn with
      | false => rfl
      | true =>
        rw [start rfl] at member
        cases member
    simp only [List.nil_append, splitFrom, boundary, if_true, kept, Bool.false_eq_true, if_false]
    exact full _ _ member
  | cons d a ih =>
    simp only [List.cons_append, splitFrom]
    have blank : isBreak d = true → x ≠ d := by
      rintro break_d rfl
      rw [isSpace_of_isBreak break_d] at visible
      cases visible
    have skip (break_d : isBreak d = true) (outside : x ∉ line) : x ∈ [] ++ a := by
      simp only [List.mem_append, List.mem_cons] at member
      obtain inside | same | inside := member
      · exact absurd inside outside
      · exact absurd same (blank break_d)
      · simpa using inside
    split
    · rename_i break_d
      split
      · rename_i feed
        simp only [Bool.and_eq_true] at feed
        exact ih _ _ (by simp) (skip break_d (by simp [start feed.1]))
      · by_cases inside : x ∈ line
        · exact full _ _ inside
        · have later := ih [] (d.val == 13) (fun _ => rfl) (skip break_d inside)
          simp only [inked, List.filter_cons] at later ⊢
          split
          · simp only [List.length_cons]
            omega
          · exact later
    · exact ih _ _ (by simp) (by simpa using member)

/-! ## The characters of a dumped value -/

theorem signed_chars (scanned : Loads.signed cs = some (ds, rest)) :
    ∀ c ∈ ds, Loads.continues c = true := by
  have digit {c : CodePoint} (h : Loads.isDigit c = true) : Loads.continues c = true := by
    simp [Loads.continues, h]
  have whole {cs ds rest : List CodePoint} (found : Loads.integer cs = some (ds, rest)) :
      ∀ c ∈ ds, Loads.continues c = true := by
    cases cs with
    | nil => simp [Loads.integer] at found
    | cons d cs =>
      simp only [Loads.integer] at found
      split at found
      · rename_i zero
        cases found
        simp [zero, Loads.continues, Loads.isDigit]
      · split at found
        · rename_i first
          cases found
          intro c member
          rw [List.mem_cons] at member
          obtain rfl | member := member
          · exact digit first
          · exact digit (List.mem_takeWhile_imp member)
        · cases found
  cases cs with
  | nil => simp [Loads.signed] at scanned
  | cons d cs =>
    simp only [Loads.signed] at scanned
    split at scanned
    · rename_i minus
      simp only [Option.map_eq_some_iff, Prod.mk.injEq, Prod.exists] at scanned
      obtain ⟨ds, _, found, rfl, rfl⟩ := scanned
      intro c member
      rw [List.mem_cons] at member
      obtain rfl | member := member
      · rw [minus]
        decide
      · exact whole found c member
    · exact whole scanned

theorem fraction_chars (cs : List CodePoint) :
    ∀ c ∈ (Loads.fraction cs).1, Loads.continues c = true := by
  cases cs with
  | nil => simp [Loads.fraction]
  | cons d cs =>
    simp only [Loads.fraction]
    split
    · rename_i point
      intro c member
      rw [List.mem_cons] at member
      obtain rfl | member := member
      · rw [point.1]
        decide
      · simp [Loads.continues, List.mem_takeWhile_imp member]
    · simp

theorem exponent_chars (cs : List CodePoint) :
    ∀ c ∈ (Loads.exponent cs).1, Loads.continues c = true := by
  cases cs with
  | nil => simp [Loads.exponent]
  | cons d cs =>
    simp only [Loads.exponent]
    split
    · rename_i mark
      intro c member
      rw [List.mem_cons, List.mem_append, List.mem_filter] at member
      obtain rfl | ⟨-, sign⟩ | member := member
      · obtain rfl | rfl := mark.1 <;> decide
      · simp only [Loads.continues, Bool.or_eq_true] at sign ⊢
        tauto
      · simp [Loads.continues, List.mem_takeWhile_imp member]
    · simp

theorem continues_range (part : Loads.continues c = true) : 32 ≤ c.val ∧ c.val < 127 := by
  simp only [Loads.continues, Loads.isDigit, Bool.or_eq_true, Bool.and_eq_true, decide_eq_true_eq,
    beq_iff_eq, Fin.ext_iff] at part
  grind

theorem write_range (literal : FloatText.Exact floats q) :
    ∀ c ∈ floats.write q, 32 ≤ c.val ∧ c.val < 127 := by
  obtain ⟨whole, tail, scanned, -, parts, -⟩ := literal
  simp only [Loads.scanNumber, Option.bind_eq_bind, Option.bind_eq_some_iff, Option.pure_def,
    Option.some.injEq, Prod.mk.injEq, Prod.exists] at scanned
  obtain ⟨ds, left, number, rfl, rfl, -⟩ := scanned
  intro c member
  rw [parts, List.mem_append, List.mem_append] at member
  obtain member | member | member := member
  · exact continues_range (signed_chars number c member)
  · exact continues_range (fraction_chars _ c member)
  · exact continues_range (exponent_chars _ c member)

theorem escapeChar_chars (member : c ∈ Dumps.escapeChar ascii d) :
    32 ≤ c.val ∧ (127 ≤ c.val → c = d) := by
  have letters (pair) (listed : pair ∈ Dumps.shortEscapes) : 32 ≤ pair.2.val ∧ pair.2.val < 127 := by
    have all : Dumps.shortEscapes.all (fun pair => 32 ≤ pair.2.val && pair.2.val < 127) = true := by
      decide
    simpa using List.all_eq_true.mp all pair listed
  have hex : ∀ n < 0x10000, ∀ c ∈ Dumps.unicodeEscape n, 32 ≤ c.val ∧ c.val < 127 := by
    have digit : ∀ k : Fin 16, 32 ≤ (Dumps.hexDigit k).val ∧ (Dumps.hexDigit k).val < 127 := by
      decide
    intro n small c member
    simp only [Dumps.unicodeEscape, Dumps.hex4, List.mem_cons, List.not_mem_nil, or_false] at member
    obtain rfl | rfl | rfl | rfl | rfl | rfl := member
    · decide
    · decide
    all_goals exact digit ⟨_, Nat.mod_lt _ (by decide)⟩
  have narrow (range : 32 ≤ c.val ∧ c.val < 127) : 32 ≤ c.val ∧ (127 ≤ c.val → c = d) :=
    ⟨range.1, fun wide => absurd wide (by omega)⟩
  unfold Dumps.escapeChar at member
  split at member
  · rename_i letter found
    simp only [List.mem_cons, List.not_mem_nil, or_false] at member
    obtain rfl | rfl := member
    · exact narrow (by decide)
    · exact narrow (letters _ (mem_of_lookup found))
  · have range := d.isLt
    split at member
    · rename_i shown
      rw [List.mem_singleton] at member
      subst member
      simp only [Dumps.plain, Bool.and_eq_true, decide_eq_true_eq] at shown
      exact ⟨shown.1, fun _ => rfl⟩
    · split at member
      · rename_i short
        exact narrow (hex _ short c member)
      · rw [List.mem_append] at member
        obtain member | member := member
        · exact narrow (hex _ (by omega) c member)
        · exact narrow (hex _ (by omega) c member)

theorem string_chars (member : c ∈ Dumps.string ascii t) :
    32 ≤ c.val ∧ (127 ≤ c.val → c ∈ t.codes) := by
  have quote : 32 ≤ (34 : CodePoint).val ∧ (34 : CodePoint).val < 127 := by decide
  simp only [Dumps.string, List.mem_cons, List.mem_append, List.mem_flatMap, List.not_mem_nil,
    or_false] at member
  obtain rfl | ⟨d, inside, member⟩ | rfl := member
  · exact ⟨quote.1, fun wide => absurd wide (by omega)⟩
  · obtain ⟨visible, wide⟩ := escapeChar_chars member
    exact ⟨visible, fun h => wide h ▸ inside⟩
  · exact ⟨quote.1, fun wide => absurd wide (by omega)⟩

theorem string_wide (wide : 127 ≤ c.val) (member : c ∈ t.codes) : c ∈ Dumps.string false t := by
  have own : Dumps.escapeChar false c = [c] := by
    have none : Dumps.shortEscapes.lookup c = none := by
      have short (pair) (listed : pair ∈ Dumps.shortEscapes) : pair.1.val < 127 := by
        have all : Dumps.shortEscapes.all (fun pair => pair.1.val < 127) = true := by decide
        simpa using List.all_eq_true.mp all pair listed
      cases found : Dumps.shortEscapes.lookup c with
      | none => rfl
      | some letter => exact absurd (short _ (mem_of_lookup found)) (by simpa using wide)
    have shown : Dumps.plain false c = true := by
      simp only [Dumps.plain, Bool.not_false, Bool.true_or, Bool.and_true, decide_eq_true_eq]
      omega
    simp only [Dumps.escapeChar, none, shown, if_true]
  simp only [Dumps.string, List.mem_cons, List.mem_append, List.mem_flatMap]
  exact Or.inr (Or.inl ⟨c, member, by simp [own]⟩)

variable {floats : FloatText} {style : Style}

/-- Visible ASCII, or a character of the value itself. -/
def Shown (texts : List Text) (c : CodePoint) : Prop :=
  32 ≤ c.val ∧ (127 ≤ c.val → ∃ t ∈ texts, c ∈ t.codes)

theorem Shown.narrow (range : 32 ≤ c.val ∧ c.val < 127) : Shown texts c :=
  ⟨range.1, fun wide => absurd wide (by omega)⟩

theorem Shown.mono (shown : Shown few c) (within : ∀ t ∈ few, t ∈ texts) : Shown texts c := by
  refine ⟨shown.1, fun wide => ?_⟩
  obtain ⟨t, member, inside⟩ := shown.2 wide
  exact ⟨t, within t member, inside⟩

theorem shown_string (inside : t ∈ texts) (member : c ∈ Dumps.string ascii t) : Shown texts c := by
  obtain ⟨visible, wide⟩ := string_chars member
  exact ⟨visible, fun h => ⟨t, inside, wide h⟩⟩

theorem shown_comma (member : c ∈ style.comma) : Shown texts c := by
  apply Shown.narrow
  cases spaced : style.spaced <;> simp only [Style.comma, Style.space, spaced, if_true,
    Bool.false_eq_true, if_false, List.mem_cons, List.not_mem_nil, or_false] at member
  · subst member
    decide
  · obtain rfl | rfl := member <;> decide

theorem shown_colon (member : c ∈ style.colon) : Shown texts c := by
  apply Shown.narrow
  cases spaced : style.spaced <;> simp only [Style.colon, Style.space, spaced, if_true,
    Bool.false_eq_true, if_false, List.mem_cons, List.not_mem_nil, or_false] at member
  · subst member
    decide
  · obtain rfl | rfl := member <;> decide

theorem shown_nat (member : c ∈ Dumps.nat n) : Shown texts c := by
  have digit := nat_digits n c member
  exact Shown.narrow (continues_range (by simp [Loads.continues, digit]))

mutual

/-- Every character of a dumped value is visible ASCII or stands in one of its strings. -/
theorem dumps_shown (value : Json) (doubles : ∀ q ∈ value.doubles, floats.Exact q) :
    ∀ c ∈ dumps floats style value, Shown value.texts c := by
  have word (w : String) (ascii : (lit w).all (fun c => 32 ≤ c.val && c.val < 127) = true)
      {texts : List Text} : ∀ c ∈ lit w, Shown texts c := by
    intro c member
    have range := List.all_eq_true.mp ascii c member
    simp only [Bool.and_eq_true, decide_eq_true_eq] at range
    exact Shown.narrow range
  match value with
  | .null => exact word "null" (by decide)
  | .bool true => exact word "true" (by decide)
  | .bool false => exact word "false" (by decide)
  | .int (.ofNat n) => exact fun c member => shown_nat member
  | .int (.negSucc n) =>
    intro c member
    rw [dumps, Dumps.int, List.mem_cons] at member
    obtain rfl | member := member
    · exact Shown.narrow (by decide)
    · exact shown_nat member
  | .float .nan => exact word "NaN" (by decide)
  | .float (.inf false) => exact word "Infinity" (by decide)
  | .float (.inf true) => exact word "-Infinity" (by decide)
  | .float (.fin q) =>
    exact fun c member => Shown.narrow (write_range (doubles q (by simp [Json.doubles])) c member)
  | .str t => exact fun c member => shown_string (by simp [Json.texts]) member
  | .arr items =>
    intro c member
    simp only [dumps, List.mem_cons, List.mem_append, List.not_mem_nil, or_false] at member
    obtain rfl | member | rfl := member
    · exact Shown.narrow (by decide)
    · exact dumpsItems_shown items doubles c member
    · exact Shown.narrow (by decide)
  | .obj fields =>
    intro c member
    simp only [dumps, List.mem_cons, List.mem_append, List.not_mem_nil, or_false] at member
    obtain rfl | member | rfl := member
    · exact Shown.narrow (by decide)
    · exact dumpsFields_shown fields doubles c member
    · exact Shown.narrow (by decide)

theorem dumpsItems_shown (items : List Json)
    (doubles : ∀ q ∈ Json.doublesItems items, floats.Exact q) :
    ∀ c ∈ dumpsItems floats style items, Shown (Json.textsItems items) c := by
  match items with
  | [] => exact fun c member => by simp [dumpsItems] at member
  | item :: rest =>
    intro c member
    simp only [Json.doublesItems, List.mem_append] at doubles
    have first := dumps_shown item (fun q h => doubles q (Or.inl h)) c
    have later := dumpsItems_shown rest (fun q h => doubles q (Or.inr h)) c
    rw [dumpsItems, List.mem_append] at member
    obtain member | member := member
    · exact (first member).mono (by simp +contextual [Json.textsItems])
    · split at member
      · cases member
      · rw [List.mem_append] at member
        obtain member | member := member
        · exact shown_comma member
        · exact (later member).mono (by simp +contextual [Json.textsItems])

theorem dumpsFields_shown (fields : List (Text × Json))
    (doubles : ∀ q ∈ Json.doublesFields fields, floats.Exact q) :
    ∀ c ∈ dumpsFields floats style fields, Shown (Json.textsFields fields) c := by
  match fields with
  | [] => exact fun c member => by simp [dumpsFields] at member
  | (key, value) :: rest =>
    intro c member
    simp only [Json.doublesFields, List.mem_append] at doubles
    have first := dumps_shown value (fun q h => doubles q (Or.inl h)) c
    have later := dumpsFields_shown rest (fun q h => doubles q (Or.inr h)) c
    rw [dumpsFields, List.mem_append, List.mem_append, List.mem_append] at member
    obtain ((member | member) | member) | member := member
    · exact shown_string (by simp [Json.textsFields]) member
    · exact shown_colon member
    · exact (first member).mono (by simp +contextual [Json.textsFields])
    · split at member
      · cases member
      · rw [List.mem_append] at member
        obtain member | member := member
        · exact shown_comma member
        · exact (later member).mono (by simp +contextual [Json.textsFields])

end

mutual

/-- Without `ensure_ascii`, characters outside ASCII are written as they are. -/
theorem mem_dumps (floats : FloatText) (loose : style.ascii = false) (wide : 127 ≤ c.val) (inside : c ∈ t.codes)
    (value : Json) (member : t ∈ value.texts) : c ∈ dumps floats style value := by
  match value with
  | .null | .bool _ | .int _ | .float _ => simp [Json.texts] at member
  | .str u =>
    rw [Json.texts, List.mem_singleton] at member
    rw [dumps, loose, ← member]
    exact string_wide wide inside
  | .arr items =>
    have within := mem_dumpsItems floats loose wide inside items member
    simp [dumps, within]
  | .obj fields =>
    have within := mem_dumpsFields floats loose wide inside fields member
    simp [dumps, within]

theorem mem_dumpsItems (floats : FloatText) (loose : style.ascii = false) (wide : 127 ≤ c.val) (inside : c ∈ t.codes)
    (items : List Json) (member : t ∈ Json.textsItems items) :
    c ∈ dumpsItems floats style items := by
  match items with
  | [] => simp [Json.textsItems] at member
  | item :: rest =>
    rw [Json.textsItems, List.mem_append] at member
    rw [dumpsItems, List.mem_append]
    obtain member | member := member
    · exact Or.inl (mem_dumps floats loose wide inside item member)
    · have within := mem_dumpsItems floats loose wide inside rest member
      have more : rest.isEmpty = false := by
        cases rest with
        | nil => simp [Json.textsItems] at member
        | cons => rfl
      simp [more, within]

theorem mem_dumpsFields (floats : FloatText) (loose : style.ascii = false) (wide : 127 ≤ c.val) (inside : c ∈ t.codes)
    (fields : List (Text × Json)) (member : t ∈ Json.textsFields fields) :
    c ∈ dumpsFields floats style fields := by
  match fields with
  | [] => simp [Json.textsFields] at member
  | (key, value) :: rest =>
    rw [Json.textsFields, List.mem_cons, List.mem_append] at member
    simp only [dumpsFields, List.mem_append]
    obtain rfl | member | member := member
    · rw [loose]
      exact Or.inl (Or.inl (Or.inl (string_wide wide inside)))
    · exact Or.inl (Or.inr (mem_dumps floats loose wide inside value member))
    · have within := mem_dumpsFields floats loose wide inside rest member
      have more : rest.isEmpty = false := by
        cases rest with
        | nil => simp [Json.textsFields] at member
        | cons => rfl
      simp [more, within]

end

end InferForge.Py

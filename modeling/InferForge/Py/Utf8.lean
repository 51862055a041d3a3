import InferForge.Py.Split

/-! Strict UTF-8: the decoder, and what it makes of an encoded text. -/
namespace InferForge.Py

/-- A code point, if these bytes are its encoding. -/
def codeOf (n : Nat) (bytes : List UInt8) : Option CodePoint :=
  if small : n < 0x110000 then
    let c : CodePoint := ⟨n, small⟩
    if Text.utf8 ⟨[c]⟩ = bytes ∧ Text.isSurrogate c = false then some c else none
  else none

/-- The bits of a byte that follows the first. -/
def tailBits (b : UInt8) : Nat := b.toNat % 64

/-- The code points of a byte string; `none` is a `UnicodeDecodeError`. -/
def decodeUtf8 : List UInt8 → Option (List CodePoint)
  | [] => some []
  | a :: rest =>
      if a.toNat < 0x80 then do
        return (← codeOf a.toNat [a]) :: (← decodeUtf8 rest)
      else
        match rest with
        | [] => none
        | b :: rest =>
            if a.toNat < 0xE0 then do
              return (← codeOf (a.toNat % 32 * 64 + tailBits b) [a, b]) :: (← decodeUtf8 rest)
            else
              match rest with
              | [] => none
              | c :: rest =>
                  if a.toNat < 0xF0 then do
                    return (← codeOf (a.toNat % 16 * 4096 + tailBits b * 64 + tailBits c) [a, b, c]) ::
                      (← decodeUtf8 rest)
                  else
                    match rest with
                    | [] => none
                    | d :: rest => do
                        return (← codeOf (a.toNat % 8 * 262144 + tailBits b * 4096 + tailBits c * 64 +
                          tailBits d) [a, b, c, d]) :: (← decodeUtf8 rest)

theorem codeOf_utf8 {c : CodePoint} (scalar : Text.isSurrogate c = false) (value : n = c.val)
    (bytes : encoded = Text.utf8 ⟨[c]⟩) : codeOf n encoded = some c := by
  subst value bytes
  simp [codeOf, scalar]

theorem utf8_cons (c : CodePoint) (codes : List CodePoint) :
    Text.utf8 ⟨c :: codes⟩ = Text.utf8 ⟨[c]⟩ ++ Text.utf8 ⟨codes⟩ := by
  simp [Text.utf8]

theorem utf8_singleton (c : CodePoint) :
    Text.utf8 ⟨[c]⟩ =
      if c.val < 0x80 then [c.val.toUInt8]
      else if c.val < 0x800 then [(0xC0 + c.val / 64).toUInt8, (0x80 + c.val % 64).toUInt8]
      else if c.val < 0x10000 then
        [(0xE0 + c.val / 4096).toUInt8, (0x80 + c.val / 64 % 64).toUInt8, (0x80 + c.val % 64).toUInt8]
      else
        [(0xF0 + c.val / 262144).toUInt8, (0x80 + c.val / 4096 % 64).toUInt8,
          (0x80 + c.val / 64 % 64).toUInt8, (0x80 + c.val % 64).toUInt8] := by
  simp [Text.utf8]

/-- The byte of a number that fits. -/
theorem toUInt8_toNat (small : n < 256) : n.toUInt8.toNat = n := by
  simp [Nat.toUInt8, Nat.mod_eq_of_lt small]

theorem decodeUtf8_cons {c : CodePoint} (scalar : Text.isSurrogate c = false) (bytes : List UInt8) :
    decodeUtf8 (Text.utf8 ⟨[c]⟩ ++ bytes) = (decodeUtf8 bytes).map (c :: ·) := by
  have bound := c.isLt
  have one := utf8_singleton c
  by_cases ascii : c.val < 0x80
  · rw [if_pos ascii] at one
    have first := toUInt8_toNat (n := c.val) (by omega)
    rw [one, List.cons_append, List.nil_append]
    rw [decodeUtf8.eq_def]
    dsimp only
    rw [if_pos (by omega),
      codeOf_utf8 scalar first one.symm]
    cases decodeUtf8 bytes <;> rfl
  rw [if_neg ascii] at one
  have tail := toUInt8_toNat (n := 0x80 + c.val % 64) (by omega)
  by_cases two : c.val < 0x800
  · rw [if_pos two] at one
    have first := toUInt8_toNat (n := 0xC0 + c.val / 64) (by omega)
    rw [one, List.cons_append, List.cons_append, List.nil_append]
    rw [decodeUtf8.eq_def]
    dsimp only
    rw [if_neg (by omega), if_pos (by omega),
      codeOf_utf8 scalar (by rw [tailBits, first, tail]; omega) one.symm]
    cases decodeUtf8 bytes <;> rfl
  rw [if_neg two] at one
  have second := toUInt8_toNat (n := 0x80 + c.val / 64 % 64) (by omega)
  by_cases three : c.val < 0x10000
  · rw [if_pos three] at one
    have first := toUInt8_toNat (n := 0xE0 + c.val / 4096) (by omega)
    rw [one, List.cons_append, List.cons_append, List.cons_append, List.nil_append]
    rw [decodeUtf8.eq_def]
    dsimp only
    rw [if_neg (by omega), if_neg (by omega), if_pos (by omega),
      codeOf_utf8 scalar (by rw [tailBits, tailBits, first, second, tail]; omega) one.symm]
    cases decodeUtf8 bytes <;> rfl
  · rw [if_neg three] at one
    have first := toUInt8_toNat (n := 0xF0 + c.val / 262144) (by omega)
    have third := toUInt8_toNat (n := 0x80 + c.val / 4096 % 64) (by omega)
    rw [one, List.cons_append, List.cons_append, List.cons_append, List.cons_append, List.nil_append]
    rw [decodeUtf8.eq_def]
    dsimp only
    rw [if_neg (by omega), if_neg (by omega), if_neg (by omega),
      codeOf_utf8 scalar (by rw [tailBits, tailBits, tailBits, first, second, third, tail]; omega)
        one.symm]
    cases decodeUtf8 bytes <;> rfl

/-- Encoded text decodes to itself. -/
theorem decodeUtf8_utf8 {t : Text} (encodable : t.encodable = true) :
    decodeUtf8 t.utf8 = some t.codes := by
  obtain ⟨codes⟩ := t
  induction codes with
  | nil => rfl
  | cons c codes ih =>
    have parts : Text.isSurrogate c = false ∧ Text.encodable ⟨codes⟩ = true := by
      simpa [Text.encodable] using encodable
    rw [utf8_cons, decodeUtf8_cons parts.1, ih parts.2]
    rfl

theorem codeOf_eq {c : CodePoint} (found : codeOf n bytes = some c) :
    Text.utf8 ⟨[c]⟩ = bytes ∧ Text.isSurrogate c = false := by
  unfold codeOf at found
  split at found
  · dsimp only at found
    split at found
    · next same =>
      cases found
      exact same
    · cases found
  · cases found

/-- Decoded bytes are the encoding of their text. -/
theorem utf8_decodeUtf8 (decoded : decodeUtf8 bytes = some codes) :
    Text.utf8 ⟨codes⟩ = bytes ∧ Text.encodable ⟨codes⟩ = true := by
  have step {n : Nat} {front rest : List UInt8} {codes : List CodePoint}
      (decoded : (do return (← codeOf n front) :: (← decodeUtf8 rest)) = some codes)
      (ih : ∀ {codes}, decodeUtf8 rest = some codes →
        Text.utf8 ⟨codes⟩ = rest ∧ Text.encodable ⟨codes⟩ = true) :
      Text.utf8 ⟨codes⟩ = front ++ rest ∧ Text.encodable ⟨codes⟩ = true := by
    cases first : codeOf n front with
    | none =>
      rw [first] at decoded
      cases decoded
    | some c =>
      cases others : decodeUtf8 rest with
      | none =>
        rw [first, others] at decoded
        cases decoded
      | some more =>
        rw [first, others] at decoded
        cases decoded
        obtain ⟨bytes, scalar⟩ := codeOf_eq first
        obtain ⟨tail, scalars⟩ := ih others
        rw [utf8_cons, bytes, tail]
        exact ⟨rfl, by simpa [Text.encodable, scalar] using scalars⟩
  fun_induction decodeUtf8 bytes generalizing codes with
  | case1 =>
    cases decoded
    exact ⟨rfl, rfl⟩
  | case2 a rest ascii ih => exact step decoded ih
  | case3 => cases decoded
  | case4 a _ b rest two ih => exact step decoded ih
  | case5 => cases decoded
  | case6 a _ b _ c rest three ih => exact step decoded ih
  | case7 => cases decoded
  | case8 a _ b _ c _ d rest ih => exact step decoded ih

/-- A byte below the multi-byte range stands only for itself. -/
theorem mem_utf8 {t : Text} {c : CodePoint} (ascii : c.val < 0x80) :
    c.val.toUInt8 ∈ t.utf8 ↔ c ∈ t.codes := by
  have here := toUInt8_toNat (n := c.val) (by omega)
  have apart {n : Nat} (low : c.val < n) (high : n < 256) : c.val.toUInt8 ≠ n.toUInt8 := by
    intro same
    have there := toUInt8_toNat high
    rw [← same, here] at there
    omega
  have single (d : CodePoint) : c.val.toUInt8 ∈ Text.utf8 ⟨[d]⟩ ↔ c = d := by
    have bound := d.isLt
    rw [utf8_singleton, Fin.ext_iff]
    split
    · rw [List.mem_singleton]
      constructor
      · intro same
        rw [← here, same, toUInt8_toNat (by omega)]
      · exact congrArg Nat.toUInt8
    · have other : c.val ≠ d.val := by omega
      have tail := apart (n := 0x80 + d.val % 64) (by omega) (by omega)
      have second := apart (n := 0x80 + d.val / 64 % 64) (by omega) (by omega)
      split
      · have first := apart (n := 0xC0 + d.val / 64) (by omega) (by omega)
        simp only [List.mem_cons, List.not_mem_nil, first, tail, other, or_self]
      · split
        · have first := apart (n := 0xE0 + d.val / 4096) (by omega) (by omega)
          simp only [List.mem_cons, List.not_mem_nil, first, second, tail, other, or_self]
        · have first := apart (n := 0xF0 + d.val / 262144) (by omega) (by omega)
          have third := apart (n := 0x80 + d.val / 4096 % 64) (by omega) (by omega)
          simp only [List.mem_cons, List.not_mem_nil, first, third, second, tail, other, or_self]
  have all (codes : List CodePoint) : c.val.toUInt8 ∈ Text.utf8 ⟨codes⟩ ↔ c ∈ codes := by
    induction codes with
    | nil => simp [Text.utf8]
    | cons d codes ih => rw [utf8_cons, List.mem_append, single, ih, List.mem_cons]
  exact all t.codes

theorem mem_universal {c : CodePoint} (member : c ∈ universal codes) :
    c ≠ 13 ∧ (c = 10 ∨ c ∈ codes) := by
  fun_induction universal codes <;> grind

theorem universal_eq_self : universal codes = codes ↔ 13 ∉ codes := by
  constructor
  · intro same member
    rw [← same] at member
    exact (mem_universal member).1 rfl
  · intro plain
    have front := universal_append plain []
    rwa [List.append_nil, universal, List.append_nil] at front

/-- `Path.read_text` of these bytes; `none` is a `UnicodeDecodeError`. -/
def readText (bytes : List UInt8) : Option Text :=
  (decodeUtf8 bytes).map fun codes => ⟨universal codes⟩

theorem readText_encodable (read : readText bytes = some t) : t.encodable = true := by
  obtain ⟨codes, decoded, rfl⟩ := Option.map_eq_some_iff.mp read
  have scalars := (utf8_decodeUtf8 decoded).2
  rw [Text.encodable, List.all_eq_true] at scalars ⊢
  intro c member
  obtain rfl | old := (mem_universal member).2
  · rfl
  · exact scalars c old

/-- Text written back is the file it was read from, unless a newline was translated. -/
theorem utf8_readText (read : readText bytes = some t) : t.utf8 = bytes ↔ 13 ∉ bytes := by
  obtain ⟨codes, decoded, rfl⟩ := Option.map_eq_some_iff.mp read
  have original := (utf8_decodeUtf8 decoded).1
  have returns : (13 : UInt8) ∈ bytes ↔ (13 : CodePoint) ∈ codes := by
    rw [← original]
    exact mem_utf8 (t := ⟨codes⟩) (c := 13) (by decide)
  rw [returns, ← universal_eq_self]
  constructor
  · intro same
    have again := decodeUtf8_utf8 (readText_encodable read)
    rw [same, decoded] at again
    exact (Option.some.inj again).symm
  · intro same
    rw [same, original]

/-- A text that comes back from a file as it was written. -/
structure Stable (t : Text) : Prop where
  encodable : t.encodable = true
  plain : 13 ∉ t.codes

theorem Stable.readText {t : Text} (stable : Stable t) : readText t.utf8 = some t := by
  rw [Py.readText, decodeUtf8_utf8 stable.encodable, Option.map_some,
    universal_eq_self.mpr stable.plain]

theorem stable_of_readText (read : readText bytes = some t) : Stable t := by
  refine ⟨readText_encodable read, fun member => ?_⟩
  obtain ⟨codes, -, rfl⟩ := Option.map_eq_some_iff.mp read
  exact (mem_universal member).1 rfl

theorem encodable_ofString (s : String) : (Text.ofString s).encodable = true := by
  rw [Text.encodable, List.all_eq_true]
  intro c member
  obtain ⟨char, -, rfl⟩ := List.mem_map.mp member
  have valid := char.valid
  simp only [UInt32.isValidChar, Nat.isValidChar] at valid
  have value : char.toNat % 0x110000 = char.val.toNat := Nat.mod_eq_of_lt (Text.char_code_lt char)
  simp only [Text.isSurrogate, value, Bool.not_eq_true', Bool.and_eq_false_iff, decide_eq_false_iff_not]
  omega

end InferForge.Py

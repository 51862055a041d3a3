import InferForge.Py.Loads
import InferForge.Py.Ordered
import Mathlib.Data.List.TakeWhile

/-! Reading back what `dumps` wrote. -/
namespace InferForge.Py
open Dumps Loads

/-! ## Strings -/

theorem hexValue_hexDigit (small : n < 16) : hexValue (hexDigit n) = some n := by
  have all : ∀ n : Fin 16, hexValue (hexDigit n) = some n.val := by decide
  exact all ⟨n, small⟩

theorem readHex4_hex4 (small : n < 0x10000) (rest : List CodePoint) :
    readHex4 (hex4 n ++ rest) = some (n, rest) := by
  simp only [hex4, List.cons_append, List.nil_append, readHex4]
  rw [hexValue_hexDigit (Nat.mod_lt _ (by decide)), hexValue_hexDigit (Nat.mod_lt _ (by decide)),
    hexValue_hexDigit (Nat.mod_lt _ (by decide)), hexValue_hexDigit (Nat.mod_lt _ (by decide))]
  simp only [Option.pure_def, Option.bind_eq_bind, Option.bind_some, Option.some.injEq,
    Prod.mk.injEq, and_true]
  omega

/-- The first half of a pair of surrogates. -/
def Text.isHigh (c : CodePoint) : Bool := 0xD800 ≤ c.val && c.val ≤ 0xDBFF

/-- No character that a reader of ASCII could join with the next one. -/
def Text.lone (t : Text) : Bool := t.codes.all fun c => !isHigh c

/-- A `\u` escape of a character that is no high surrogate stands alone. -/
theorem readUnicode_hex4 (small : n < 0x10000) (scalar : n < 0xD800 ∨ 0xDBFF < n)
    (rest : List CodePoint) : readUnicode (hex4 n ++ rest) = some (Fin.ofNat _ n, rest) := by
  simp only [readUnicode, readHex4_hex4 small, Option.bind_eq_bind, Option.bind_some]
  split
  · rw [if_neg (by omega)]
    rfl
  · rfl

theorem readUnicode_pair (high : 0xD800 ≤ n ∧ n ≤ 0xDBFF) (low : 0xDC00 ≤ m ∧ m ≤ 0xDFFF)
    (rest : List CodePoint) :
    readUnicode (hex4 n ++ (unicodeEscape m ++ rest)) =
      some (Fin.ofNat _ (0x10000 + (n - 0xD800) * 1024 + (m - 0xDC00)), rest) := by
  simp only [readUnicode, readHex4_hex4 (show n < 0x10000 by omega), Option.bind_eq_bind,
    Option.bind_some, unicodeEscape, List.cons_append]
  rw [if_pos (by simpa using high), readHex4_hex4 (by omega)]
  simp only [Option.bind_some]
  rw [if_pos low]
  rfl

theorem readString_quote (rest : List CodePoint) :
    readString (fuel + 1) (34 :: rest) = some ([], rest) := by
  simp [readString]

theorem readString_plain (shows : 32 ≤ c.val) (quote : c ≠ 34) (slash : c ≠ 92)
    (rest : List CodePoint) :
    readString (fuel + 1) (c :: rest) =
      (readString fuel rest).map fun (ds, rest) => (c :: ds, rest) := by
  simp only [readString, if_neg quote, if_neg slash, if_neg (Nat.not_lt.mpr shows)]
  cases readString fuel rest <;> rfl

theorem readString_short (escape : shortEscape letter = some c) (letter_u : letter ≠ 117)
    (rest : List CodePoint) :
    readString (fuel + 1) (92 :: letter :: rest) =
      (readString fuel rest).map fun (ds, rest) => (c :: ds, rest) := by
  have quote : (92 : CodePoint) ≠ 34 := by decide
  simp only [readString, if_neg quote, if_true, if_neg letter_u, escape, Option.map_some,
    Option.bind_eq_bind, Option.bind_some]
  cases readString fuel rest <;> rfl

theorem readString_unicode (escape : readUnicode cs = some (c, rest)) :
    readString (fuel + 1) (92 :: 117 :: cs) =
      (readString fuel rest).map fun (ds, rest) => (c :: ds, rest) := by
  have quote : (92 : CodePoint) ≠ 34 := by decide
  simp only [readString, if_neg quote, if_true, escape, Option.bind_eq_bind, Option.bind_some]
  cases readString fuel rest <;> rfl

theorem shortEscapes_read (pair : CodePoint × CodePoint) (listed : pair ∈ shortEscapes) :
    shortEscape pair.2 = some pair.1 ∧ pair.2 ≠ 117 := by
  have all : shortEscapes.all (fun pair => shortEscape pair.2 == some pair.1 && pair.2 != 117) = true := by
    decide
  simpa using List.all_eq_true.mp all pair listed

theorem not_short (missing : shortEscapes.lookup c = none) : c ≠ 34 ∧ c ≠ 92 := by
  constructor
  · rintro rfl
    exact absurd missing (by decide)
  · rintro rfl
    exact absurd missing (by decide)

/-- One escaped character is read as that character. Only surrogates written in ASCII can
be read differently: a high and a low one would be joined. -/
theorem readString_escapeChar (scalar : ascii = true → Text.isHigh c = false)
    (rest : List CodePoint) :
    readString (fuel + 1) (escapeChar ascii c ++ rest) =
      (readString fuel rest).map fun (ds, rest) => (c :: ds, rest) := by
  unfold escapeChar
  split
  · rename_i letter found
    obtain ⟨escape, letter_u⟩ := shortEscapes_read _ (mem_of_lookup found)
    exact readString_short escape letter_u rest
  · rename_i missing
    obtain ⟨quote, slash⟩ := not_short missing
    split
    · rename_i shown
      simp only [plain, Bool.and_eq_true, decide_eq_true_eq] at shown
      exact readString_plain shown.1 quote slash rest
    · rename_i hidden
      have range := c.isLt
      have value : c.val < 0xD800 ∨ 0xDBFF < c.val := by
        simp only [plain, Bool.and_eq_true, Bool.or_eq_true, decide_eq_true_eq, not_and,
          not_or] at hidden
        by_cases shown : 32 ≤ c.val
        · have inAscii := (hidden shown).1
          have surrogate := scalar (by simpa using inAscii)
          simp only [Text.isHigh, Bool.and_eq_false_iff, decide_eq_false_iff_not] at surrogate
          omega
        · omega
      split
      · rename_i short
        apply readString_unicode
        apply (readUnicode_hex4 short value rest).trans
        simp only [Option.some.injEq, Prod.mk.injEq, and_true]
        exact Fin.ext (Nat.mod_eq_of_lt range)
      · rename_i long
        rw [unicodeEscape, List.append_assoc, List.cons_append, List.cons_append]
        apply readString_unicode
        apply (readUnicode_pair (by omega) (by omega) rest).trans
        simp only [Option.some.injEq, Prod.mk.injEq, and_true]
        apply Fin.ext
        simp only [Fin.ofNat]
        omega

theorem escapeChar_length (ascii : Bool) (c : CodePoint) : 1 ≤ (escapeChar ascii c).length := by
  unfold escapeChar
  split
  · simp
  · split
    · simp
    · split <;> simp [unicodeEscape]

theorem readString_string (scalar : ascii = true → cs.all (fun c => !Text.isHigh c) = true)
    (rest : List CodePoint) (enough : cs.length < fuel) :
    readString fuel (cs.flatMap (escapeChar ascii) ++ 34 :: rest) = some (cs, rest) := by
  induction cs generalizing fuel with
  | nil =>
    obtain _ | fuel := fuel
    · simp at enough
    · exact readString_quote rest
  | cons c cs ih =>
    obtain _ | fuel := fuel
    · simp at enough
    · have here : ascii = true → Text.isHigh c = false := by
        intro h
        have all := scalar h
        simp only [List.all_cons, Bool.and_eq_true] at all
        simpa using all.1
      have later : ascii = true → cs.all (fun c => !Text.isHigh c) = true := by
        intro h
        have all := scalar h
        simp only [List.all_cons, Bool.and_eq_true] at all
        exact all.2
      rw [List.flatMap_cons, List.append_assoc, readString_escapeChar here,
        ih later (by simpa using enough)]
      rfl

theorem flatMap_escape_length (ascii : Bool) (cs : List CodePoint) :
    cs.length ≤ (cs.flatMap (escapeChar ascii)).length := by
  induction cs with
  | nil => simp
  | cons c cs ih =>
    have := escapeChar_length ascii c
    simp only [List.length_cons, List.flatMap_cons, List.length_append]
    omega

/-- The text of a string, after its opening quote, is read to its end. -/
theorem readString_dumped (t : Text) (scalar : ascii = true → t.lone = true)
    (rest : List CodePoint) :
    readString ((t.codes.flatMap (escapeChar ascii) ++ 34 :: rest).length + 1)
      (t.codes.flatMap (escapeChar ascii) ++ 34 :: rest) = some (t.codes, rest) := by
  apply readString_string scalar
  have := flatMap_escape_length ascii t.codes
  simp only [List.length_append, List.length_cons]
  omega

/-! ## Numbers -/

/-- A character that can continue a number. -/
def Loads.continues (c : CodePoint) : Bool :=
  isDigit c || c == 46 || c == 69 || c == 101 || c == 43 || c == 45

/-- A number ends where this text begins. -/
def Loads.Ends (rest : List CodePoint) : Prop := ∀ c, rest.head? = some c → continues c = false

theorem Loads.Ends.head (ends : Ends (c :: rest)) : continues c = false := ends c rfl

theorem takeWhile_append_stop {p : α → Bool} (cs : List α) {rest : List α}
    (stop : ∀ c, rest.head? = some c → p c = false) :
    (cs ++ rest).takeWhile p = cs.takeWhile p ∧ (cs ++ rest).dropWhile p = cs.dropWhile p ++ rest := by
  induction cs with
  | nil =>
    cases rest with
    | nil => simp
    | cons c rest => simp [stop c rfl]
  | cons c cs ih =>
    cases digit : p c with
    | true => simp [digit, ih]
    | false => simp [digit]

theorem Loads.Ends.digits (ends : Ends rest) (c : CodePoint) (first : rest.head? = some c) :
    isDigit c = false := by
  have := ends c first
  simp only [continues, Bool.or_eq_false_iff] at this
  exact this.1.1.1.1.1

theorem integer_append (ends : Ends rest) (scanned : integer cs = some (ds, after)) :
    integer (cs ++ rest) = some (ds, after ++ rest) := by
  cases cs with
  | nil => simp [integer] at scanned
  | cons c cs =>
    obtain ⟨taken, dropped⟩ := takeWhile_append_stop cs ends.digits
    simp only [integer, List.cons_append, taken, dropped] at scanned ⊢
    split at scanned
    · rename_i zero
      simp only [Option.some.injEq, Prod.mk.injEq] at scanned
      simp [zero, ← scanned.1, ← scanned.2]
    · rename_i zero
      split at scanned
      · rename_i digit
        simp only [Option.some.injEq, Prod.mk.injEq] at scanned
        simp [zero, digit, ← scanned.1, ← scanned.2]
      · cases scanned

theorem signed_append (ends : Ends rest) (scanned : signed cs = some (ds, after)) :
    signed (cs ++ rest) = some (ds, after ++ rest) := by
  cases cs with
  | nil => simp [signed] at scanned
  | cons c cs =>
    simp only [signed, List.cons_append] at scanned ⊢
    split at scanned
    · rename_i minus
      simp only [Option.map_eq_some_iff, Prod.mk.injEq, Prod.exists] at scanned
      obtain ⟨digits, left, whole, rfl, rfl⟩ := scanned
      rw [if_pos minus, integer_append ends whole]
      rfl
    · rename_i minus
      rw [if_neg minus]
      exact integer_append ends scanned

theorem fraction_append (ends : Ends rest) (cs : List CodePoint) :
    fraction (cs ++ rest) = ((fraction cs).1, (fraction cs).2 ++ rest) := by
  cases cs with
  | nil =>
    cases rest with
    | nil => rfl
    | cons c rest =>
      have stops := ends.head
      simp only [continues, Bool.or_eq_false_iff, beq_eq_false_iff_ne] at stops
      simp [fraction, stops]
  | cons c cs =>
    obtain ⟨taken, dropped⟩ := takeWhile_append_stop cs ends.digits
    simp only [fraction, List.cons_append, taken, dropped]
    split <;> rfl

theorem exponent_append (ends : Ends rest) (cs : List CodePoint) :
    exponent (cs ++ rest) = ((exponent cs).1, (exponent cs).2 ++ rest) := by
  cases cs with
  | nil =>
    cases rest with
    | nil => rfl
    | cons c rest =>
      have stops := ends.head
      simp only [continues, Bool.or_eq_false_iff, beq_eq_false_iff_ne] at stops
      simp [exponent, stops]
  | cons e cs =>
    cases cs with
    | nil =>
      have none : rest.takeWhile isDigit = [] := by
        cases rest with
        | nil => rfl
        | cons c rest => simp [ends.digits c rfl]
      have sign : (rest.take 1).filter (fun c => c == 43 || c == 45) = [] := by
        cases rest with
        | nil => rfl
        | cons c rest =>
          have stops := ends.head
          simp only [continues, Bool.or_eq_false_iff] at stops
          simp [stops]
      simp [exponent, sign, none]
    | cons c cs =>
      have sign : ((c :: cs ++ rest).take 1) = (c :: cs).take 1 := rfl
      have drop : (c :: cs ++ rest).drop (((c :: cs).take 1).filter fun c => c == 43 || c == 45).length =
          (c :: cs).drop (((c :: cs).take 1).filter fun c => c == 43 || c == 45).length ++ rest := by
        rw [List.drop_append_of_le_length]
        exact (List.length_filter_le _ _).trans (by simp)
      obtain ⟨taken, dropped⟩ := takeWhile_append_stop
        ((c :: cs).drop (((c :: cs).take 1).filter fun c => c == 43 || c == 45).length) ends.digits
      have shape : e :: c :: cs ++ rest = e :: (c :: cs ++ rest) := rfl
      simp only [shape, exponent, sign, drop, taken, dropped]
      split <;> rfl

/-- Scanning stops before any text that does not continue the number. -/
theorem scanNumber_append (ends : Ends rest) (scanned : scanNumber cs = some (whole, tail, after)) :
    scanNumber (cs ++ rest) = some (whole, tail, after ++ rest) := by
  simp only [scanNumber, Option.bind_eq_bind, Option.bind_eq_some_iff, Option.pure_def,
    Option.some.injEq, Prod.mk.injEq, Prod.exists] at scanned ⊢
  obtain ⟨first, left, part, rfl, rfl, rfl⟩ := scanned
  refine ⟨first, left ++ rest, signed_append ends part, ?_⟩
  simp [fraction_append ends, exponent_append ends]

/-! The digits of an integer. -/

theorem ofNat_codes (n : Nat) : (Text.ofNat n).codes = Dumps.nat n := by
  have listed : (toString n).toList = Nat.toDigits 10 n := by simp
  rw [Text.ofNat, Text.ofString, listed]
  rfl

theorem nat_small (small : n < 10) : Dumps.nat n = [Fin.ofNat _ (48 + n)] := by
  rw [Dumps.nat, Nat.toDigits_of_lt_base small]
  have all : ∀ n : Fin 10, [n.val.digitChar].map (fun c => (Fin.ofNat 0x110000 c.toNat)) =
      [Fin.ofNat _ (48 + n.val)] := by decide
  exact all ⟨n, small⟩

theorem nat_step (large : 10 ≤ n) :
    Dumps.nat n = Dumps.nat (n / 10) ++ [Fin.ofNat _ (48 + n % 10)] := by
  have last := nat_small (Nat.mod_lt n (show 0 < 10 by decide))
  rw [Dumps.nat, Nat.toDigits_of_lt_base (Nat.mod_lt _ (by decide))] at last
  rw [Dumps.nat, Nat.toDigits_of_base_le (by decide) large, List.map_append, last]
  rfl

theorem isDigit_digit (small : n < 10) : isDigit (Fin.ofNat _ (48 + n)) = true := by
  have all : ∀ n : Fin 10, isDigit (Fin.ofNat _ (48 + n.val)) = true := by decide
  exact all ⟨n, small⟩

theorem nat_digits (n : Nat) : ∀ c ∈ Dumps.nat n, isDigit c = true := by
  induction n using Nat.strongRecOn with
  | ind n ih =>
    by_cases small : n < 10
    · rw [nat_small small]
      simpa using isDigit_digit small
    · rw [nat_step (by omega)]
      intro c member
      rw [List.mem_append, List.mem_singleton] at member
      obtain member | rfl := member
      · exact ih (n / 10) (by omega) c member
      · exact isDigit_digit (Nat.mod_lt _ (by decide))

/-- Only zero begins with the digit zero. -/
theorem nat_head (n : Nat) : ∃ c ds, Dumps.nat n = c :: ds ∧ (c = 48 → n = 0) := by
  induction n using Nat.strongRecOn with
  | ind n ih =>
    by_cases small : n < 10
    · have all : ∀ n : Fin 10, Fin.ofNat 0x110000 (48 + n.val) = 48 → n.val = 0 := by decide
      exact ⟨_, [], nat_small small, all ⟨n, small⟩⟩
    · obtain ⟨c, ds, shape, zero⟩ := ih (n / 10) (by omega)
      refine ⟨c, ds ++ [Fin.ofNat _ (48 + n % 10)], ?_, ?_⟩
      · rw [nat_step (by omega), shape]
        rfl
      · intro first
        have := zero first
        omega

theorem integer_nat (n : Nat) : integer (Dumps.nat n) = some (Dumps.nat n, []) := by
  obtain ⟨c, ds, shape, zero⟩ := nat_head n
  have digits := nat_digits n
  rw [shape] at digits ⊢
  by_cases first : c = 48
  · have single := nat_small (n := n) (by have := zero first; omega)
    rw [shape, List.cons.injEq] at single
    rw [single.2, first]
    rfl
  · have kept : ds.takeWhile isDigit = ds := by
      rw [List.takeWhile_eq_self_iff]
      exact fun c member => digits c (List.mem_cons_of_mem _ member)
    have dropped : ds.dropWhile isDigit = [] := by
      rw [List.dropWhile_eq_nil_iff]
      exact fun c member => digits c (List.mem_cons_of_mem _ member)
    simp [integer, first, digits c (List.mem_cons_self ..), kept, dropped]

theorem natOf_append (ds : List CodePoint) (c : CodePoint) :
    natOf (ds ++ [c]) = 10 * natOf ds + (c.val - 48) := by
  simp [natOf, List.foldl_append]

theorem natOf_nat (n : Nat) : natOf (Dumps.nat n) = n := by
  have value : ∀ k : Fin 10, (Fin.ofNat 0x110000 (48 + k.val)).val - 48 = k.val := by decide
  induction n using Nat.strongRecOn with
  | ind n ih =>
    by_cases small : n < 10
    · rw [nat_small small]
      have := value ⟨n, small⟩
      simpa [natOf] using this
    · have last : (Fin.ofNat 0x110000 (48 + n % 10)).val - 48 = n % 10 :=
        value ⟨n % 10, Nat.mod_lt _ (by decide)⟩
      rw [nat_step (by omega), natOf_append, ih _ (by omega), last]
      omega

theorem nat_not_minus (n : Nat) : ∃ c ds, Dumps.nat n = c :: ds ∧ c ≠ 45 ∧ isDigit c = true := by
  obtain ⟨c, ds, shape, -⟩ := nat_head n
  have digit := nat_digits n c (by simp [shape])
  refine ⟨c, ds, shape, ?_, digit⟩
  rintro rfl
  exact absurd digit (by decide)

theorem signed_int (n : Int) : signed (Dumps.int n) = some (Dumps.int n, []) := by
  cases n with
  | ofNat n =>
    obtain ⟨c, ds, shape, minus, -⟩ := nat_not_minus n
    have whole := integer_nat n
    rw [shape] at whole
    simp [Dumps.int, shape, signed, minus, whole]
  | negSucc n => simp [Dumps.int, signed, integer_nat]

theorem intOf_int (n : Int) : intOf (Dumps.int n) = n := by
  cases n with
  | ofNat n =>
    obtain ⟨c, ds, shape, minus, -⟩ := nat_not_minus n
    have value := natOf_nat n
    rw [shape] at value
    simp [Dumps.int, shape, intOf, minus, value]
  | negSucc n =>
    simp only [Dumps.int, intOf, if_true, natOf_nat]
    rfl

theorem readNumber_int (floats : FloatText) (n : Int) (ends : Ends rest) :
    readNumber floats (Dumps.int n ++ rest) = some (.int n, rest) := by
  have scanned : scanNumber (Dumps.int n) = some (Dumps.int n, [], []) := by
    simp [scanNumber, signed_int, fraction, exponent]
  simp [readNumber, scanNumber_append ends scanned, intOf_int]

/-- What `repr` promises of a float: a literal with a fraction or an exponent that reads
back as the same double. -/
def FloatText.Exact (floats : FloatText) (q : Rat) : Prop :=
  ∃ whole tail, scanNumber (floats.write q) = some (whole, tail, []) ∧ tail ≠ [] ∧
    floats.write q = whole ++ tail ∧ floats.read (floats.write q) = some (.fin q)

theorem readNumber_float (exact : FloatText.Exact floats q) (ends : Ends rest) :
    readNumber floats (floats.write q ++ rest) = some (.float (.fin q), rest) := by
  obtain ⟨whole, tail, scanned, fractional, parts, back⟩ := exact
  have read := scanNumber_append ends scanned
  rw [parts] at back
  simp [readNumber, read, fractional, back]

/-! ## Values -/

/-- A value that its text determines: each object binds a key once, the floats are doubles,
and no surrogate is written in ASCII. -/
structure Json.Portable (floats : FloatText) (style : Style) (value : Json) : Prop where
  scalar : style.ascii = true → value.encodable = true
  doubles : ∀ q ∈ value.doubles, floats.Exact q
  distinct : value.distinct = true

/-- The first character of a value is no white space or byte order mark, and closes nothing. -/
def Loads.opens (c : CodePoint) : Bool := !isSpace c && c != 93 && c != 125 && c != 0xFEFF

theorem signed_head (scanned : signed cs = some parts) :
    ∃ c rest, cs = c :: rest ∧ (isDigit c = true ∨
      c = 45 ∧ ∃ d more, rest = d :: more ∧ isDigit d = true) := by
  have whole {cs : List CodePoint} {parts} (found : integer cs = some parts) :
      ∃ c rest, cs = c :: rest ∧ isDigit c = true := by
    cases cs with
    | nil => simp [integer] at found
    | cons c rest =>
      refine ⟨c, rest, rfl, ?_⟩
      by_contra other
      have zero : c ≠ 48 := by
        rintro rfl
        exact other (by decide)
      simp [integer, zero, other] at found
  cases cs with
  | nil => simp [signed] at scanned
  | cons c rest =>
    by_cases minus : c = 45
    · simp only [signed, if_pos minus, Option.map_eq_some_iff] at scanned
      obtain ⟨_, digits, -⟩ := scanned
      obtain ⟨d, more, shape, digit⟩ := whole digits
      exact ⟨c, rest, rfl, Or.inr ⟨minus, d, more, shape, digit⟩⟩
    · simp only [signed, if_neg minus] at scanned
      obtain ⟨d, more, shape, digit⟩ := whole scanned
      cases shape
      exact ⟨c, rest, rfl, Or.inl digit⟩

theorem digit_opens (digit : isDigit c = true) :
    opens c = true ∧ c ≠ 34 ∧ c ≠ 91 ∧ c ≠ 123 := by
  simp only [isDigit, Bool.and_eq_true, decide_eq_true_eq] at digit
  refine ⟨?_, ?_, ?_, ?_⟩
  · simp only [opens, isSpace, Bool.and_eq_true, Bool.not_eq_true', bne_iff_ne, ne_eq,
      Bool.or_eq_false_iff, beq_eq_false_iff_ne, Fin.ext_iff]
    refine ⟨⟨⟨⟨⟨⟨?_, ?_⟩, ?_⟩, ?_⟩, ?_⟩, ?_⟩, ?_⟩ <;> grind
  all_goals
    rintro rfl
    revert digit
    decide

/-- A text that begins with no number: neither a digit nor a minus sign before one. -/
def Loads.wordy : List CodePoint → Bool
  | k :: d :: _ => !isDigit k && (k != 45 || !isDigit d)
  | _ => false

theorem constants_wordy : ∀ pair ∈ constants, wordy pair.1 = true := by decide

theorem constants_none (numeric : ∀ c d more, cs = c :: d :: more → wordy cs = false) :
    constants.find? (·.1.isPrefixOf cs) = none := by
  rw [List.find?_eq_none]
  intro pair member isPrefix
  have word := constants_wordy pair member
  obtain ⟨last, rfl⟩ := List.isPrefixOf_iff_prefix.mp isPrefix
  match shape : pair.1 with
  | [] => simp [shape, wordy] at word
  | [_] => simp [shape, wordy] at word
  | c :: d :: more =>
    have := numeric c d (more ++ last) (by simp [shape])
    rw [shape] at word this
    exact absurd (word.symm.trans this) (by decide)

/-- The text of a number begins with a digit or a minus sign, and is no constant. -/
theorem number_head (scanned : signed cs = some parts) (rest : List CodePoint) :
    ∃ c more, cs = c :: more ∧ opens c = true ∧ c ≠ 34 ∧ c ≠ 91 ∧ c ≠ 123 ∧
      constants.find? (·.1.isPrefixOf (cs ++ rest)) = none := by
  obtain ⟨c, more, rfl, digit | ⟨rfl, d, last, rfl, digit⟩⟩ := signed_head scanned
  · obtain ⟨first, quote, bracket, brace⟩ := digit_opens digit
    refine ⟨c, more, rfl, first, quote, bracket, brace, ?_⟩
    apply constants_none
    intro c' d tail shape
    rw [List.cons_append, List.cons.injEq] at shape
    simp [shape.2, wordy, digit]
  · refine ⟨45, d :: last, rfl, by decide, by decide, by decide, by decide, ?_⟩
    apply constants_none
    intro _ _ _ _
    simp [wordy, digit]

theorem readScalar_number (scanned : signed cs = some parts) (rest : List CodePoint) :
    readScalar floats (cs ++ rest) = readNumber floats (cs ++ rest) := by
  obtain ⟨c, more, -, -, -, -, -, none⟩ := number_head scanned rest
  simp only [readScalar, none]

theorem scanNumber_signed (scanned : scanNumber cs = some whole) : ∃ parts, signed cs = some parts := by
  simp only [scanNumber, Option.bind_eq_bind, Option.bind_eq_some_iff] at scanned
  obtain ⟨parts, found, -⟩ := scanned
  exact ⟨parts, found⟩

theorem readScalar_constant (floats : FloatText) (rest : List CodePoint) :
    readScalar floats (lit "null" ++ rest) = some (.null, rest) ∧
    readScalar floats (lit "true" ++ rest) = some (.bool true, rest) ∧
    readScalar floats (lit "false" ++ rest) = some (.bool false, rest) ∧
    readScalar floats (lit "NaN" ++ rest) = some (.float .nan, rest) ∧
    readScalar floats (lit "Infinity" ++ rest) = some (.float (.inf false), rest) ∧
    readScalar floats (lit "-Infinity" ++ rest) = some (.float (.inf true), rest) :=
  ⟨rfl, rfl, rfl, rfl, rfl, rfl⟩

variable {floats : FloatText} {style : Style}

theorem dumps_head (style : Style) (value : Json) (doubles : ∀ q ∈ value.doubles, floats.Exact q) :
    ∃ c more, dumps floats style value = c :: more ∧ opens c = true := by
  cases value with
  | null => exact ⟨_, _, rfl, by decide⟩
  | bool b => cases b <;> exact ⟨_, _, rfl, by decide⟩
  | int n =>
    obtain ⟨c, more, shape, opened, -⟩ := number_head (signed_int n) []
    exact ⟨c, more, shape, opened⟩
  | float x =>
    match x with
    | .nan => exact ⟨_, _, rfl, by decide⟩
    | .inf false => exact ⟨_, _, rfl, by decide⟩
    | .inf true => exact ⟨_, _, rfl, by decide⟩
    | .fin q =>
      obtain ⟨_, _, scanned, -⟩ := doubles q (by simp [Json.doubles])
      obtain ⟨parts, found⟩ := scanNumber_signed scanned
      obtain ⟨c, more, shape, opened, -⟩ := number_head found []
      exact ⟨c, more, shape, opened⟩
  | str t => exact ⟨_, _, rfl, by decide⟩
  | arr items => exact ⟨_, _, rfl, by decide⟩
  | obj fields => exact ⟨_, _, rfl, by decide⟩

theorem skip_opens (opened : opens c = true) : skip (c :: rest) = c :: rest := by
  simp only [opens, Bool.and_eq_true, Bool.not_eq_true'] at opened
  simp [skip, opened.1.1.1]

/-- The separators leave at most one space, and the next character stops the skip. -/
theorem skip_space (style : Style) (opened : opens c = true) :
    skip (style.space ++ c :: rest) = c :: rest := by
  have blank : isSpace 32 = true := by decide
  cases spaced : style.spaced with
  | true =>
    simp only [Style.space, spaced, if_true, List.cons_append, List.nil_append, skip,
      List.dropWhile_cons_of_pos blank]
    exact skip_opens opened
  | false =>
    simp only [Style.space, spaced, Bool.false_eq_true, if_false, List.nil_append]
    exact skip_opens opened

theorem Dict.set_new (d : Dict) (key : Text) (value : Json) (fresh : key ∉ d.keys) :
    d.set key value = d ++ [(key, value)] := by
  induction d with
  | nil => rfl
  | cons field rest ih =>
    obtain ⟨k, v⟩ := field
    simp only [Dict.keys, List.map_cons, List.mem_cons, not_or] at fresh
    simp only [Dict.set, if_neg (Ne.symm fresh.1), List.cons_append]
    rw [ih fresh.2]

/-- Scalars are read where they stand. -/
theorem readValue_scalar
    (plain : c ≠ 34 ∧ c ≠ 91 ∧ c ≠ 123) :
    readValue floats (fuel + 1) (c :: cs) = readScalar floats (c :: cs) := by
  simp only [readValue, if_neg plain.1, if_neg plain.2.1, if_neg plain.2.2]

theorem readValue_number (scanned : signed cs = some parts) :
    readValue floats (fuel + 1) (cs ++ rest) = readNumber floats (cs ++ rest) := by
  obtain ⟨c, more, rfl, -, quote, bracket, brace, -⟩ := number_head scanned rest
  rw [List.cons_append, readValue_scalar ⟨quote, bracket, brace⟩, ← List.cons_append,
    readScalar_number scanned]

theorem readValue_arr (opened : opens d = true) :
    readValue floats (fuel + 1) (91 :: d :: cs) = readItems floats fuel [] (d :: cs) := by
  have close : d ≠ 93 := by
    rintro rfl
    exact absurd opened (by decide)
  have quote : (91 : CodePoint) ≠ 34 := by decide
  simp only [readValue, if_neg quote, if_true, skip_opens opened, if_neg close]

theorem readValue_obj :
    readValue floats (fuel + 1) (123 :: 34 :: cs) = readFields floats fuel [] (34 :: cs) := by
  have opened : opens 34 = true := by decide
  have close : (34 : CodePoint) ≠ 125 := by decide
  have quote : (123 : CodePoint) ≠ 34 := by decide
  have bracket : (123 : CodePoint) ≠ 91 := by decide
  simp only [readValue, if_neg quote, if_neg bracket, if_true, skip_opens opened, if_neg close]

theorem skip_mark {c : CodePoint} (mark : isSpace c = false) : skip (c :: cs) = c :: cs := by
  simp [skip, mark]

theorem readItems_next (item : readValue floats fuel cs = some (value, 44 :: rest)) :
    readItems floats (fuel + 1) before cs =
      readItems floats fuel (before ++ [value]) (skip rest) := by
  simp only [readItems, item, Option.bind_eq_bind, Option.bind_some,
    skip_mark (show isSpace 44 = false by decide), if_true]

theorem readItems_last (item : readValue floats fuel cs = some (value, 93 :: rest)) :
    readItems floats (fuel + 1) before cs = some (.arr (before ++ [value]), rest) := by
  have comma : (93 : CodePoint) ≠ 44 := by decide
  simp only [readItems, item, Option.bind_eq_bind, Option.bind_some,
    skip_mark (show isSpace 93 = false by decide), if_neg comma, if_true]

/-- A key with its colon and value, up to what follows the value. -/
theorem readFields_key (before : Dict) (key : Text) (scalar : style.ascii = true → key.lone = true)
    (opened : opens d = true) (field : readValue floats fuel (d :: cs) = some (value, e :: rest))
    (mark : isSpace e = false) :
    readFields floats (fuel + 1) before
        (Dumps.string style.ascii key ++ style.colon ++ d :: cs) =
      if e = 44 then readFields floats fuel (Dict.set before key value) (skip rest)
      else if e = 125 then some (.obj (Dict.set before key value), rest) else none := by
  have read := readString_dumped key scalar (style.colon ++ d :: cs)
  simp only [Style.colon, List.cons_append] at read
  simp only [Dumps.string, Style.colon, List.cons_append, List.append_assoc, List.nil_append,
    readFields, if_true, read, Option.bind_eq_bind, Option.bind_some,
    skip_mark (show isSpace 58 = false by decide), skip_space style opened, field, skip_mark mark]

theorem dumpsItems_cons (item next : Json) (others : List Json) :
    dumpsItems floats style (item :: next :: others) =
      dumps floats style item ++ 44 :: (style.space ++ dumpsItems floats style (next :: others)) := by
  simp [dumpsItems, Style.comma]

theorem dumpsItems_one (item : Json) : dumpsItems floats style [item] = dumps floats style item := by
  simp [dumpsItems]

theorem dumpsItems_head (style : Style) (item : Json) (others : List Json)
    (doubles : ∀ q ∈ item.doubles, floats.Exact q) :
    ∃ c more, dumpsItems floats style (item :: others) = c :: more ∧ opens c = true := by
  obtain ⟨c, more, shape, opened⟩ := dumps_head style item doubles
  rw [dumpsItems, shape, List.cons_append]
  exact ⟨_, _, rfl, opened⟩

theorem dumpsFields_cons (field next : Text × Json) (others : List (Text × Json)) :
    dumpsFields floats style (field :: next :: others) =
      Dumps.string style.ascii field.1 ++ style.colon ++ dumps floats style field.2 ++
        44 :: (style.space ++ dumpsFields floats style (next :: others)) := by
  simp [dumpsFields, Style.comma]

theorem dumpsFields_one (field : Text × Json) :
    dumpsFields floats style [field] =
      Dumps.string style.ascii field.1 ++ style.colon ++ dumps floats style field.2 := by
  simp [dumpsFields]

theorem dumpsFields_head (floats : FloatText) (style : Style) (field : Text × Json) (others : List (Text × Json)) :
    ∃ more, dumpsFields floats style (field :: others) = 34 :: more := by
  simp [dumpsFields, Dumps.string]

theorem ends_of {c : CodePoint} (stop : continues c = false) : Ends (c :: rest) := by
  intro d first
  cases first
  exact stop

mutual

theorem readValue_dumps (value : Json) (scalar : style.ascii = true → ∀ t ∈ value.texts, t.lone = true)
    (doubles : ∀ q ∈ value.doubles, floats.Exact q) (distinct : value.distinct = true)
    (fuel : Nat) (enough : (dumps floats style value).length ≤ fuel) (rest : List CodePoint)
    (ends : Ends rest) :
    readValue floats fuel (dumps floats style value ++ rest) = some (value, rest) := by
  obtain ⟨c, more, shape, opened⟩ := dumps_head style value doubles
  obtain _ | fuel := fuel
  · simp [shape] at enough
  · obtain ⟨null, yes, no, nan, inf, ninf⟩ := readScalar_constant floats rest
    match value with
    | .null => exact null
    | .bool true => exact yes
    | .bool false => exact no
    | .int n =>
      exact (readValue_number (signed_int n)).trans (readNumber_int floats n ends)
    | .float .nan => exact nan
    | .float (.inf false) => exact inf
    | .float (.inf true) => exact ninf
    | .float (.fin q) =>
      have literal := doubles q (by simp [Json.doubles])
      have ⟨_, _, scanned, _⟩ := literal
      obtain ⟨parts, found⟩ := scanNumber_signed scanned
      exact (readValue_number found).trans (readNumber_float literal ends)
    | .str t =>
      have read := readString_dumped t (fun h => scalar h t (by simp [Json.texts])) rest
      simp only [dumps, Dumps.string, List.cons_append, List.append_assoc, List.nil_append,
        readValue, if_true, read, Option.bind_eq_bind, Option.bind_some, Option.pure_def]
    | .arr [] => simp [dumps, dumpsItems, readValue, skip, isSpace]
    | .arr (item :: others) =>
      simp only [dumps, List.length_cons, List.length_append] at enough
      have read := readItems_dumps (item :: others) (by simp) scalar doubles distinct fuel []
        (by omega) rest
      obtain ⟨d, last, first, opened⟩ := dumpsItems_head style item others
        fun q member => doubles q (List.mem_append_left _ member)
      rw [first, List.cons_append] at read
      rw [dumps, first, List.cons_append, List.cons_append, List.cons_append, List.append_assoc,
        readValue_arr opened]
      exact read
    | .obj [] => simp [dumps, dumpsFields, readValue, skip, isSpace]
    | .obj (field :: others) =>
      simp only [dumps, List.length_cons, List.length_append] at enough
      have read := readFields_dumps (field :: others) (by simp) scalar doubles distinct fuel []
        (by simp [Dict.keys]) (by omega) rest
      obtain ⟨last, first⟩ := dumpsFields_head floats style field others
      rw [first, List.cons_append] at read
      rw [dumps, first, List.cons_append, List.cons_append, List.cons_append, List.append_assoc,
        readValue_obj]
      exact read

theorem readItems_dumps (items : List Json) (some_item : items ≠ [])
    (scalar : style.ascii = true → ∀ t ∈ Json.textsItems items, t.lone = true)
    (doubles : ∀ q ∈ Json.doublesItems items, floats.Exact q)
    (distinct : Json.distinctItems items = true) (fuel : Nat) (before : List Json)
    (enough : (dumpsItems floats style items).length + 1 ≤ fuel) (rest : List CodePoint) :
    readItems floats fuel before (dumpsItems floats style items ++ 93 :: rest) =
      some (.arr (before ++ items), rest) := by
  obtain _ | fuel := fuel
  · simp at enough
  match items with
  | [] => exact absurd rfl some_item
  | item :: others =>
    simp only [Json.textsItems, List.forall_mem_append] at scalar
    simp only [Json.distinctItems, Bool.and_eq_true] at distinct
    simp only [Json.doublesItems, List.mem_append] at doubles
    have read := readValue_dumps item (fun h => (scalar h).1) (fun q h => doubles q (Or.inl h))
      distinct.1 fuel
    match others with
    | [] =>
      rw [dumpsItems_one] at enough ⊢
      exact readItems_last (read (by omega) _ (ends_of (by decide)))
    | next :: others =>
      rw [dumpsItems_cons] at enough ⊢
      simp only [List.length_append, List.length_cons] at enough
      obtain ⟨c, more, shape, opened⟩ := dumps_head style item
        fun q h => doubles q (Or.inl h)
      have long : 1 ≤ (dumps floats style item).length := by simp [shape]
      obtain ⟨d, last, first, starts⟩ := dumpsItems_head style next others
        fun q h => doubles q (Or.inr (by simp [Json.doublesItems, h]))
      have later := readItems_dumps (next :: others) (by simp) (fun h => (scalar h).2)
        (fun q h => doubles q (Or.inr h)) distinct.2 fuel (before ++ [item]) (by omega) rest
      rw [first] at later ⊢
      simp only [List.append_assoc, List.cons_append] at later ⊢
      rw [readItems_next (read (by omega) _ (ends_of (by decide))), skip_space style starts, later]
      rfl

theorem readFields_dumps (fields : List (Text × Json)) (some_field : fields ≠ [])
    (scalar : style.ascii = true → ∀ t ∈ Json.textsFields fields, t.lone = true)
    (doubles : ∀ q ∈ Json.doublesFields fields, floats.Exact q)
    (distinct : Json.distinctFields fields = true) (fuel : Nat) (before : Dict)
    (fresh : ∀ key ∈ Dict.keys fields, key ∉ before.keys)
    (enough : (dumpsFields floats style fields).length + 1 ≤ fuel) (rest : List CodePoint) :
    readFields floats fuel before (dumpsFields floats style fields ++ 125 :: rest) =
      some (.obj (before ++ fields), rest) := by
  obtain _ | fuel := fuel
  · simp at enough
  match fields with
  | [] => exact absurd rfl some_field
  | (key, value) :: others =>
    simp only [Json.textsFields, List.forall_mem_cons, List.forall_mem_append] at scalar
    simp only [Json.distinctFields, Bool.and_eq_true, Bool.not_eq_true', List.contains_eq_mem,
      decide_eq_false_iff_not] at distinct
    simp only [Json.doublesFields, List.mem_append] at doubles
    have read := readValue_dumps value (fun h => (scalar h).2.1) (fun q h => doubles q (Or.inl h))
      distinct.1.2 fuel
    obtain ⟨c, more, shape, opened⟩ := dumps_head style value
      fun q h => doubles q (Or.inl h)
    have new := fresh key (by simp [Dict.keys])
    match others with
    | [] =>
      rw [dumpsFields_one] at enough ⊢
      simp only [List.length_append] at enough
      have value_read := read (by omega) (125 :: rest) (ends_of (by decide))
      rw [shape, List.cons_append] at value_read
      rw [shape, List.append_assoc, List.cons_append,
        readFields_key before key (fun h => (scalar h).1) opened value_read (by decide),
        if_neg (by decide), if_pos rfl, Dict.set_new _ _ _ new]
    | next :: others =>
      rw [dumpsFields_cons] at enough ⊢
      simp only [List.length_append, List.length_cons] at enough
      have value_read := read (by omega)
        (44 :: (style.space ++ dumpsFields floats style (next :: others) ++ 125 :: rest))
        (ends_of (by decide))
      obtain ⟨last, first⟩ := dumpsFields_head floats style next others
      have later := readFields_dumps (next :: others) (by simp) (fun h => (scalar h).2.2)
        (fun q h => doubles q (Or.inr h)) distinct.2 fuel (before ++ [(key, value)])
        (by
          intro other member
          simp only [Dict.keys, List.map_append, List.mem_append, List.map_cons, List.map_nil,
            List.mem_singleton, not_or]
          refine ⟨fresh other (by simp [Dict.keys] at member ⊢; tauto), ?_⟩
          rintro rfl
          exact distinct.1.1 member)
        (by simp [shape] at enough; omega) rest
      rw [first] at later value_read ⊢
      rw [shape, List.cons_append] at value_read
      simp only [List.append_assoc, List.cons_append] at later value_read ⊢
      rw [shape]
      have step := readFields_key before key (fun h => (scalar h).1) opened value_read
        (by decide)
      simp only [List.append_assoc, List.cons_append] at step ⊢
      rw [step, if_pos trivial, skip_space style (by decide), Dict.set_new _ _ _ new, later]
      rfl

end

mutual

theorem lone_of_encodable : (value : Json) → value.encodable = true →
    ∀ t ∈ value.texts, t.lone = true
  | .str t, encodable => by
      simp only [Json.texts, List.forall_mem_singleton]
      simp only [Json.encodable, Text.encodable, List.all_eq_true, Bool.not_eq_true',
        Text.isSurrogate, Bool.and_eq_false_iff, decide_eq_false_iff_not] at encodable
      simp only [Text.lone, List.all_eq_true, Bool.not_eq_true', Text.isHigh, Bool.and_eq_false_iff,
        decide_eq_false_iff_not]
      intro c member
      have := encodable c member
      omega
  | .arr items, encodable => loneItems_of_encodable items encodable
  | .obj fields, encodable => loneFields_of_encodable fields encodable
  | .null, _ | .bool _, _ | .int _, _ | .float _, _ => nofun

theorem loneItems_of_encodable : (items : List Json) → Json.encodableItems items = true →
    ∀ t ∈ Json.textsItems items, t.lone = true
  | [], _ => nofun
  | item :: rest, encodable => by
      simp only [Json.encodableItems, Bool.and_eq_true] at encodable
      exact List.forall_mem_append.mpr ⟨lone_of_encodable item encodable.1,
        loneItems_of_encodable rest encodable.2⟩

theorem loneFields_of_encodable : (fields : List (Text × Json)) →
    Json.encodableFields fields = true → ∀ t ∈ Json.textsFields fields, t.lone = true
  | [], _ => nofun
  | (key, value) :: rest, encodable => by
      simp only [Json.encodableFields, Bool.and_eq_true] at encodable
      have name := lone_of_encodable (.str key) encodable.1.1
      simp only [Json.texts, List.forall_mem_singleton] at name
      exact List.forall_mem_cons.mpr ⟨name, List.forall_mem_append.mpr
        ⟨lone_of_encodable value encodable.1.2, loneFields_of_encodable rest encodable.2⟩⟩

end

/-- `json.loads` reads a value back from its text. -/
theorem loads_dumps_lone (value : Json)
    (scalar : style.ascii = true → ∀ t ∈ value.texts, t.lone = true)
    (doubles : ∀ q ∈ value.doubles, floats.Exact q) (distinct : value.distinct = true) :
    loads floats (dumps floats style value) = some value := by
  obtain ⟨c, more, shape, opened⟩ := dumps_head style value doubles
  have read := readValue_dumps value scalar doubles distinct
    ((dumps floats style value).length + 1) (by omega) [] (by simp [Ends])
  have mark : (dumps floats style value).head? ≠ some 0xFEFF := by
    rw [shape, List.head?_cons, ne_eq, Option.some.injEq]
    rintro rfl
    exact absurd opened (by decide)
  rw [List.append_nil] at read
  rw [loads, if_neg mark]
  rw [show skip (dumps floats style value) = dumps floats style value by
    rw [shape, skip_opens opened], read]
  rfl

/-- `json.loads` reads every portable value back from its text. -/
theorem loads_dumps (value : Json) (portable : value.Portable floats style) :
    loads floats (dumps floats style value) = some value :=
  loads_dumps_lone value (fun ascii => lone_of_encodable value (portable.scalar ascii))
    portable.doubles portable.distinct

end InferForge.Py

import Mathlib.Data.List.Infix

/-! Python strings: finite sequences of code points, lone surrogates included.
A JSON document can produce every such string, and not every one of them has a
UTF-8 encoding, so Lean's `String` (Unicode scalar values only) is too small. -/
namespace InferForge.Py

abbrev CodePoint := Fin 0x110000

theorem codePoints_ne_zero : (0x110000 : Nat) ≠ 0 := by decide

instance codePoints_neZero : @NeZero Nat Zero.ofOfNat0 0x110000 := ⟨codePoints_ne_zero⟩

structure Text where
  codes : List CodePoint
deriving DecidableEq, Repr

namespace Text

def ofString (s : String) : Text := ⟨s.toList.map fun c => ⟨c.toNat % 0x110000, Nat.mod_lt _ (by decide)⟩⟩

instance : Coe String Text := ⟨ofString⟩
instance : Append Text := ⟨fun a b => ⟨a.codes ++ b.codes⟩⟩
instance : Inhabited Text := ⟨⟨[]⟩⟩

@[simp] theorem codes_append (a b : Text) : (a ++ b).codes = a.codes ++ b.codes := rfl

@[ext] theorem ext {a b : Text} (h : a.codes = b.codes) : a = b := by
  cases a; cases b; exact congrArg Text.mk h

theorem char_code_lt (c : Char) : c.toNat < 0x110000 := by
  have valid := c.valid
  simp only [UInt32.isValidChar, Nat.isValidChar] at valid
  change c.val.toNat < _
  omega

theorem ofString_injective : Function.Injective ofString := by
  intro a b same
  have codes := congrArg Text.codes same
  simp only [ofString] at codes
  have inj : Function.Injective fun c : Char =>
      (⟨c.toNat % 0x110000, Nat.mod_lt _ (by decide)⟩ : CodePoint) := by
    intro c d h
    have values := congrArg Fin.val h
    simp only [Nat.mod_eq_of_lt (char_code_lt c), Nat.mod_eq_of_lt (char_code_lt d)] at values
    exact Char.toNat_inj.mp values
  exact String.toList_inj.mp (List.map_injective_iff.mpr inj codes)

@[simp] theorem ofString_inj {a b : String} : ofString a = ofString b ↔ a = b :=
  ofString_injective.eq_iff

@[simp] theorem ofString_beq (a b : String) : (ofString a == ofString b) = (a == b) := by
  rw [Bool.eq_iff_iff]
  simp

/-- `not text`. -/
def isEmpty (t : Text) : Bool := t.codes.isEmpty

/-- The white space `str.strip` and `str.isspace` recognise. -/
def isSpace (c : CodePoint) : Bool :=
  (9 ≤ c.val && c.val ≤ 13) || (28 ≤ c.val && c.val ≤ 32) || c.val == 0x85 || c.val == 0xA0 ||
    c.val == 0x1680 || (0x2000 ≤ c.val && c.val ≤ 0x200A) || c.val == 0x2028 || c.val == 0x2029 ||
    c.val == 0x202F || c.val == 0x205F || c.val == 0x3000

def stripWhere (drop : CodePoint → Bool) (t : Text) : Text :=
  ⟨((t.codes.dropWhile drop).reverse.dropWhile drop).reverse⟩

def strip (t : Text) : Text := t.stripWhere isSpace

/-- A text that neither begins nor ends with white space is its own `strip`. -/
theorem strip_of_bounds {t : Text} (first : ∀ c, t.codes.head? = some c → isSpace c = false)
    (last : ∀ c, t.codes.getLast? = some c → isSpace c = false) : t.strip = t := by
  have kept (l : List CodePoint) (starts : ∀ c, l.head? = some c → isSpace c = false) :
      l.dropWhile isSpace = l := by
    cases l with
    | nil => rfl
    | cons c rest => rw [List.dropWhile_cons_of_neg (by simp [starts c rfl])]
  apply ext
  simp only [strip, stripWhere]
  rw [kept _ first, kept, List.reverse_reverse]
  intro c ends
  rw [List.head?_reverse] at ends
  exact last c ends

/-- `not text.strip()`. -/
def blank (t : Text) : Bool := t.strip.isEmpty

def isSurrogate (c : CodePoint) : Bool := 0xD800 ≤ c.val && c.val ≤ 0xDFFF

/-- A strict UTF-8 encoder accepts exactly the texts without surrogates. -/
def encodable (t : Text) : Bool := t.codes.all fun c => !isSurrogate c

/-- `os.fsencode`: the low surrogates U+DC80..U+DCFF stand for undecodable bytes. -/
def fsEncodable (t : Text) : Bool :=
  t.codes.all fun c => !isSurrogate c || (0xDC80 ≤ c.val && c.val ≤ 0xDCFF)

/-- Strict UTF-8; only applied to encodable texts. -/
def utf8 (t : Text) : List UInt8 :=
  t.codes.flatMap fun c =>
    let n := c.val
    if n < 0x80 then [n.toUInt8]
    else if n < 0x800 then [(0xC0 + n / 64).toUInt8, (0x80 + n % 64).toUInt8]
    else if n < 0x10000 then
      [(0xE0 + n / 4096).toUInt8, (0x80 + n / 64 % 64).toUInt8, (0x80 + n % 64).toUInt8]
    else
      [(0xF0 + n / 262144).toUInt8, (0x80 + n / 4096 % 64).toUInt8,
        (0x80 + n / 64 % 64).toUInt8, (0x80 + n % 64).toUInt8]

def join (separator : Text) : List Text → Text
  | [] => ⟨[]⟩
  | [t] => t
  | t :: rest => t ++ separator ++ join separator rest

/-- Decimal digits, as `str` writes a natural number. -/
def ofNat (n : Nat) : Text := ofString (toString n)

def ofInt (n : Int) : Text := ofString (toString n)

end Text
end InferForge.Py

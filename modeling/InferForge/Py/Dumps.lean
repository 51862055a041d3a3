import InferForge.Py.Json
import Mathlib.Data.List.Sort

/-! `json.dumps`: the text of a value. Its callers differ in the separators, in the
escaping of characters outside ASCII and in the order of the keys. -/
namespace InferForge.Py

def lit (s : String) : List CodePoint := (Text.ofString s).codes

/-- `float.__repr__` of a finite double, and `float` of a literal. -/
structure FloatText where
  write : Rat → List CodePoint
  read : List CodePoint → Option Double

structure Style where
  /-- `ensure_ascii`. -/
  ascii : Bool
  /-- A space after every comma and colon, as without `separators`. -/
  spaced : Bool

namespace Style

def space (style : Style) : List CodePoint := if style.spaced then [32] else []
def comma (style : Style) : List CodePoint := 44 :: style.space
def colon (style : Style) : List CodePoint := 58 :: style.space

/-- `separators=(",", ":")` and ASCII only. -/
def canonical : Style := ⟨true, false⟩

/-- `ensure_ascii=False` and nothing else. -/
def line : Style := ⟨false, true⟩

end Style

namespace Dumps

def hexDigit (n : Nat) : CodePoint := Fin.ofNat _ (if n < 10 then 48 + n else 87 + n)

def hex4 (n : Nat) : List CodePoint :=
  [hexDigit (n / 4096 % 16), hexDigit (n / 256 % 16), hexDigit (n / 16 % 16), hexDigit (n % 16)]

def unicodeEscape (n : Nat) : List CodePoint := 92 :: 117 :: hex4 n

/-- The characters with an escape of two characters, and its second one. -/
def shortEscapes : List (CodePoint × CodePoint) :=
  [(34, 34), (92, 92), (10, 110), (13, 114), (9, 116), (12, 102), (8, 98)]

/-- A character written as it is. -/
def plain (ascii : Bool) (c : CodePoint) : Bool := 32 ≤ c.val && (!ascii || c.val ≤ 126)

def escapeChar (ascii : Bool) (c : CodePoint) : List CodePoint :=
  match shortEscapes.lookup c with
  | some letter => [92, letter]
  | none =>
      if plain ascii c then [c]
      else if c.val < 0x10000 then unicodeEscape c.val
      else unicodeEscape (0xD800 + (c.val - 0x10000) / 1024) ++
        unicodeEscape (0xDC00 + (c.val - 0x10000) % 1024)

def string (ascii : Bool) (t : Text) : List CodePoint :=
  34 :: (t.codes.flatMap (escapeChar ascii) ++ [34])

def nat (n : Nat) : List CodePoint := (Nat.toDigits 10 n).map fun c => Fin.ofNat _ c.toNat

def int : Int → List CodePoint
  | .ofNat n => nat n
  | .negSucc n => 45 :: nat (n + 1)

def double (floats : FloatText) : Double → List CodePoint
  | .nan => lit "NaN"
  | .inf false => lit "Infinity"
  | .inf true => lit "-Infinity"
  | .fin q => floats.write q

end Dumps

mutual

def dumps (floats : FloatText) (style : Style) : Json → List CodePoint
  | .null => lit "null"
  | .bool true => lit "true"
  | .bool false => lit "false"
  | .int n => Dumps.int n
  | .float x => Dumps.double floats x
  | .str t => Dumps.string style.ascii t
  | .arr items => 91 :: (dumpsItems floats style items ++ [93])
  | .obj fields => 123 :: (dumpsFields floats style fields ++ [125])

def dumpsItems (floats : FloatText) (style : Style) : List Json → List CodePoint
  | [] => []
  | item :: rest =>
      dumps floats style item ++
        (if rest.isEmpty then [] else style.comma ++ dumpsItems floats style rest)

def dumpsFields (floats : FloatText) (style : Style) : List (Text × Json) → List CodePoint
  | [] => []
  | (key, value) :: rest =>
      Dumps.string style.ascii key ++ style.colon ++ dumps floats style value ++
        (if rest.isEmpty then [] else style.comma ++ dumpsFields floats style rest)

end

namespace Json

/-- Strings compare by code points. -/
def codesLe : List CodePoint → List CodePoint → Bool
  | [], _ => true
  | _ :: _, [] => false
  | a :: as, b :: bs => a.val < b.val || a.val == b.val && codesLe as bs

def keyLe (a b : Text × Json) : Bool := codesLe a.1.codes b.1.codes

mutual

/-- `sort_keys=True`, at every level. -/
def sorted : Json → Json
  | .arr items => .arr (sortedItems items)
  | .obj fields => .obj ((sortedFields fields).insertionSort (keyLe · ·))
  | value => value

def sortedItems : List Json → List Json
  | [] => []
  | item :: rest => sorted item :: sortedItems rest

def sortedFields : List (Text × Json) → List (Text × Json)
  | [] => []
  | (key, value) :: rest => (key, sorted value) :: sortedFields rest

end

mutual

/-- Every key and every string of a value. -/
def texts : Json → List Text
  | .str t => [t]
  | .arr items => textsItems items
  | .obj fields => textsFields fields
  | _ => []

def textsItems : List Json → List Text
  | [] => []
  | item :: rest => texts item ++ textsItems rest

def textsFields : List (Text × Json) → List Text
  | [] => []
  | (key, value) :: rest => key :: (texts value ++ textsFields rest)

end

mutual

/-- The finite doubles of a value. -/
def doubles : Json → List Rat
  | .float (.fin q) => [q]
  | .arr items => doublesItems items
  | .obj fields => doublesFields fields
  | _ => []

def doublesItems : List Json → List Rat
  | [] => []
  | item :: rest => doubles item ++ doublesItems rest

def doublesFields : List (Text × Json) → List Rat
  | [] => []
  | (_, value) :: rest => doubles value ++ doublesFields rest

end

mutual

/-- Every object binds a key once, as a Python dict does. -/
def distinct : Json → Bool
  | .arr items => distinctItems items
  | .obj fields => distinctFields fields
  | _ => true

def distinctItems : List Json → Bool
  | [] => true
  | item :: rest => distinct item && distinctItems rest

def distinctFields : List (Text × Json) → Bool
  | [] => true
  | (key, value) :: rest => !(rest.map Prod.fst).contains key && distinct value && distinctFields rest

end

theorem codesLe_total (a b : List CodePoint) : codesLe a b = true ∨ codesLe b a = true := by
  induction a generalizing b with
  | nil => exact Or.inl rfl
  | cons x a ih =>
    cases b with
    | nil => exact Or.inr rfl
    | cons y b =>
      simp only [codesLe, Bool.or_eq_true, Bool.and_eq_true, decide_eq_true_eq, beq_iff_eq]
      rcases Nat.lt_trichotomy x.val y.val with less | same | more
      · exact Or.inl (Or.inl less)
      · exact (ih b).imp (fun below => Or.inr ⟨same, below⟩) fun above => Or.inr ⟨same.symm, above⟩
      · exact Or.inr (Or.inl more)

theorem codesLe_trans {a b c : List CodePoint} (first : codesLe a b = true)
    (second : codesLe b c = true) : codesLe a c = true := by
  induction a generalizing b c with
  | nil => rfl
  | cons x a ih =>
    cases b with
    | nil => cases first
    | cons y b =>
      cases c with
      | nil => cases second
      | cons z c =>
        simp only [codesLe, Bool.or_eq_true, Bool.and_eq_true, decide_eq_true_eq,
          beq_iff_eq] at first second ⊢
        obtain less | ⟨same, below⟩ := first <;> obtain less' | ⟨same', below'⟩ := second
        · exact Or.inl (by omega)
        · exact Or.inl (by omega)
        · exact Or.inl (by omega)
        · exact Or.inr ⟨by omega, ih below below'⟩

theorem codesLe_antisymm {a b : List CodePoint} (first : codesLe a b = true)
    (second : codesLe b a = true) : a = b := by
  induction a generalizing b with
  | nil =>
    cases b with
    | nil => rfl
    | cons => cases second
  | cons x a ih =>
    cases b with
    | nil => cases first
    | cons y b =>
      simp only [codesLe, Bool.or_eq_true, Bool.and_eq_true, decide_eq_true_eq,
        beq_iff_eq] at first second
      obtain less | ⟨same, below⟩ := first <;> obtain less' | ⟨same', above⟩ := second
      · omega
      · omega
      · omega
      · rw [Fin.ext same, ih below above]

end Json
end InferForge.Py

import InferForge.Py.Dumps

/-! `json.loads` of a text. `none` is a `JSONDecodeError`. -/
namespace InferForge.Py
namespace Loads

def isSpace (c : CodePoint) : Bool := c.val == 32 || c.val == 9 || c.val == 10 || c.val == 13

def skip (cs : List CodePoint) : List CodePoint := cs.dropWhile isSpace

def isDigit (c : CodePoint) : Bool := 48 ≤ c.val && c.val ≤ 57

def hexValue (c : CodePoint) : Option Nat :=
  if isDigit c then some (c.val - 48)
  else if 97 ≤ c.val ∧ c.val ≤ 102 then some (c.val - 87)
  else if 65 ≤ c.val ∧ c.val ≤ 70 then some (c.val - 55)
  else none

def readHex4 : List CodePoint → Option (Nat × List CodePoint)
  | a :: b :: c :: d :: rest => do
      let a ← hexValue a
      let b ← hexValue b
      let c ← hexValue c
      let d ← hexValue d
      return (a * 4096 + b * 256 + c * 16 + d, rest)
  | _ => none

/-- The character of a `\u` escape; a pair of surrogates is one character. -/
def readUnicode (cs : List CodePoint) : Option (CodePoint × List CodePoint) := do
  let (n, rest) ← readHex4 cs
  match rest with
  | a :: b :: after =>
      if 0xD800 ≤ n ∧ n ≤ 0xDBFF ∧ a = 92 ∧ b = 117 then
        let (m, last) ← readHex4 after
        if 0xDC00 ≤ m ∧ m ≤ 0xDFFF then
          return (Fin.ofNat _ (0x10000 + (n - 0xD800) * 1024 + (m - 0xDC00)), last)
        else return (Fin.ofNat _ n, rest)
      else return (Fin.ofNat _ n, rest)
  | _ => return (Fin.ofNat _ n, rest)

/-- The characters after a backslash other than `u`. -/
def shortEscape (c : CodePoint) : Option CodePoint :=
  if c = 47 then some 47 else (Dumps.shortEscapes.find? (·.2 == c)).map Prod.fst

/-- The rest of a string, after its opening quote. -/
def readString : Nat → List CodePoint → Option (List CodePoint × List CodePoint)
  | fuel + 1, c :: rest =>
      if c = 34 then some ([], rest)
      else if c = 92 then do
        let (d, rest) ← match rest with
          | e :: after => if e = 117 then readUnicode after else (shortEscape e).map (·, after)
          | [] => none
        let (ds, rest) ← readString fuel rest
        return (d :: ds, rest)
      else if c.val < 32 then none
      else do
        let (ds, rest) ← readString fuel rest
        return (c :: ds, rest)
  | _, _ => none

/-- `-?(0|[1-9]\d*)`. -/
def integer (cs : List CodePoint) : Option (List CodePoint × List CodePoint) :=
  match cs with
  | [] => none
  | c :: rest =>
      if c = 48 then some ([c], rest)
      else if isDigit c then some (c :: rest.takeWhile isDigit, rest.dropWhile isDigit)
      else none

def signed (cs : List CodePoint) : Option (List CodePoint × List CodePoint) :=
  match cs with
  | [] => none
  | c :: rest => if c = 45 then (integer rest).map fun (ds, rest) => (c :: ds, rest) else integer cs

/-- `(\.\d+)?`. -/
def fraction (cs : List CodePoint) : List CodePoint × List CodePoint :=
  match cs with
  | [] => ([], [])
  | c :: rest =>
      if c = 46 ∧ rest.takeWhile isDigit ≠ [] then
        (c :: rest.takeWhile isDigit, rest.dropWhile isDigit)
      else ([], cs)

/-- `([eE][-+]?\d+)?`. -/
def exponent (cs : List CodePoint) : List CodePoint × List CodePoint :=
  match cs with
  | [] => ([], [])
  | e :: rest =>
      let sign := rest.take 1 |>.filter fun c => c == 43 || c == 45
      let digits := rest.drop sign.length
      if (e = 69 ∨ e = 101) ∧ digits.takeWhile isDigit ≠ [] then
        (e :: (sign ++ digits.takeWhile isDigit), digits.dropWhile isDigit)
      else ([], cs)

/-- The integer part of a number, its fraction with its exponent, and what follows. -/
def scanNumber (cs : List CodePoint) :
    Option (List CodePoint × List CodePoint × List CodePoint) := do
  let (whole, rest) ← signed cs
  let (fraction, rest) := fraction rest
  let (exponent, rest) := exponent rest
  return (whole, fraction ++ exponent, rest)

/-- `int` of a sequence of digits. -/
def natOf (ds : List CodePoint) : Nat := ds.foldl (fun n c => 10 * n + (c.val - 48)) 0

def intOf : List CodePoint → Int
  | [] => 0
  | c :: ds => if c = 45 then -(natOf ds : Int) else natOf (c :: ds)

def readNumber (floats : FloatText) (cs : List CodePoint) : Option (Json × List CodePoint) := do
  let (whole, tail, rest) ← scanNumber cs
  if tail = [] then return (.int (intOf whole), rest)
  else return (.float (← floats.read (whole ++ tail)), rest)

def constants : List (List CodePoint × Json) :=
  [(lit "null", .null), (lit "true", .bool true), (lit "false", .bool false),
    (lit "NaN", .float .nan), (lit "Infinity", .float (.inf false)),
    (lit "-Infinity", .float (.inf true))]

def readScalar (floats : FloatText) (cs : List CodePoint) : Option (Json × List CodePoint) :=
  match constants.find? (·.1.isPrefixOf cs) with
  | some (word, value) => some (value, cs.drop word.length)
  | none => readNumber floats cs

mutual

/-- `scan_once`. The fuel bounds the nesting, and a text nests less deep than it is long. -/
def readValue (floats : FloatText) : Nat → List CodePoint → Option (Json × List CodePoint)
  | fuel + 1, c :: rest =>
      if c = 34 then do
        let (t, rest) ← readString (rest.length + 1) rest
        return (.str ⟨t⟩, rest)
      else if c = 91 then
        match skip rest with
        | [] => none
        | d :: after => if d = 93 then some (.arr [], after) else readItems floats fuel [] (d :: after)
      else if c = 123 then
        match skip rest with
        | [] => none
        | d :: after => if d = 125 then some (.obj [], after) else readFields floats fuel [] (d :: after)
      else readScalar floats (c :: rest)
  | _, _ => none

def readItems (floats : FloatText) : Nat → List Json → List CodePoint →
    Option (Json × List CodePoint)
  | fuel + 1, items, cs => do
      let (item, rest) ← readValue floats fuel cs
      match skip rest with
      | [] => none
      | c :: after =>
          if c = 44 then readItems floats fuel (items ++ [item]) (skip after)
          else if c = 93 then some (.arr (items ++ [item]), after)
          else none
  | 0, _, _ => none

def readFields (floats : FloatText) : Nat → Dict → List CodePoint →
    Option (Json × List CodePoint)
  | fuel + 1, fields, c :: rest =>
      if c = 34 then do
        let (key, rest) ← readString (rest.length + 1) rest
        match skip rest with
        | [] => none
        | d :: rest =>
            if d = 58 then do
              let (value, rest) ← readValue floats fuel (skip rest)
              match skip rest with
              | [] => none
              | e :: after =>
                  if e = 44 then readFields floats fuel (fields.set ⟨key⟩ value) (skip after)
                  else if e = 125 then some (.obj (fields.set ⟨key⟩ value), after)
                  else none
            else none
      else none
  | _, _, _ => none

end

end Loads

/-- `json.loads(text)`: a byte order mark and trailing characters are refused. -/
def loads (floats : FloatText) (cs : List CodePoint) : Option Json :=
  if cs.head? = some 0xFEFF then none
  else match Loads.readValue floats (cs.length + 1) (Loads.skip cs) with
    | some (value, rest) => if Loads.skip rest = [] then some value else none
    | none => none

end InferForge.Py

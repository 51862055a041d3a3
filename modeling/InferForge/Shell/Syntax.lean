import InferForge.Py.Loads

/-! A part of the POSIX shell grammar, from text to commands: words with single quotes, assignments
of numbers, simple commands, lists and `while`. Text outside of this part has no parse. -/
namespace InferForge.Shell
open Py Py.Loads

abbrev Name := List CodePoint

/-- A summand of an arithmetic expansion. -/
inductive Term where
  | number (n : Nat)
  | variable (name : Name)
deriving DecidableEq

/-- A piece of a word. Inside single quotes every character stands for itself. -/
inductive Part where
  | plain (text : List CodePoint)
  | quoted (text : List CodePoint)
  | arithmetic (terms : List Term)
deriving DecidableEq

abbrev Word := List Part

inductive Token where
  | word (w : Word)
  | semicolon
  | orIf
  | andIf
  /-- `>` behind a number. -/
  | redirect (number : List CodePoint)
deriving DecidableEq

/-! ## Tokens -/

def isNameStart (c : CodePoint) : Bool :=
  (65 ≤ c.val && c.val ≤ 90) || (97 ≤ c.val && c.val ≤ 122) || c.val == 95

def isName (name : List CodePoint) : Bool :=
  name.head?.any isNameStart && name.all fun c => isNameStart c || isDigit c

/-- Characters that need more of the grammar than this part has. -/
def isSpecial (c : CodePoint) : Bool :=
  c ∈ ("\"\\`()<*?#~!&\x7b\x7d\n" : String).toList.map fun s => Fin.ofNat 0x110000 s.toNat

inductive Mode where
  | between
  /-- Inside single quotes. -/
  | quote (text : List CodePoint)
  | dollar
  | parenthesis
  | arithmetic (text : List CodePoint)
  | closing (text : List CodePoint)
  | bar
  | ampersand
deriving DecidableEq

/-- Where a scanner stands: its mode, and the word it is in. -/
structure Scan where
  mode : Mode
  word : Option Word
deriving DecidableEq

def Scan.start : Scan := ⟨.between, none⟩

def Scan.pending (scan : Scan) : List Token := (scan.word.map Token.word).toList

def termOf (text : List CodePoint) : Option Term :=
  if text ≠ [] ∧ text.all isDigit then some (.number (natOf text))
  else if isName text then some (.variable text)
  else none

def termsOf (text : List CodePoint) : Option (List Term) := (text.splitOn 43).mapM termOf

/-- A word with one more unquoted character. -/
def addPlain (word : Option Word) (c : CodePoint) : Word :=
  match word.getD [] |>.reverse with
  | .plain text :: rest => rest.reverse ++ [.plain (text ++ [c])]
  | _ => word.getD [] ++ [.plain [c]]

def addPart (word : Option Word) (part : Part) : Option Word := some (word.getD [] ++ [part])

/-- `>` takes the number it follows directly. -/
def greater (word : Option Word) : Option (List Token) :=
  match word with
  | some [.plain text] => if text.all isDigit then some [.redirect text] else none
  | _ => none

def Scan.between (scan : Scan) (c : CodePoint) : Option (List Token × Scan) :=
  if c = 32 then some (scan.pending, .start)
  else if c = 59 then some (scan.pending ++ [.semicolon], .start)
  else if c = 124 then some (scan.pending, ⟨.bar, none⟩)
  else if c = 38 then some (scan.pending, ⟨.ampersand, none⟩)
  else if c = 39 then some ([], ⟨.quote [], scan.word⟩)
  else if c = 36 then some ([], ⟨.dollar, scan.word⟩)
  else if c = 62 then (greater scan.word).map fun tokens => (tokens, .start)
  else if isSpecial c then none
  else some ([], ⟨.between, addPlain scan.word c⟩)

/-- One character: the tokens it completes. -/
def Scan.step (scan : Scan) (c : CodePoint) : Option (List Token × Scan) :=
  match scan.mode with
  | .between => scan.between c
  | .quote text =>
      if c = 39 then some ([], ⟨.between, addPart scan.word (.quoted text)⟩)
      else some ([], ⟨.quote (text ++ [c]), scan.word⟩)
  | .dollar => if c = 40 then some ([], ⟨.parenthesis, scan.word⟩) else none
  | .parenthesis => if c = 40 then some ([], ⟨.arithmetic [], scan.word⟩) else none
  | .arithmetic text =>
      if c = 41 then some ([], ⟨.closing text, scan.word⟩)
      else some ([], ⟨.arithmetic (text ++ [c]), scan.word⟩)
  | .closing text =>
      if c = 41 then (termsOf text).map fun terms =>
        ([], ⟨.between, addPart scan.word (.arithmetic terms)⟩)
      else none
  | .bar => if c = 124 then some ([.orIf], .start) else none
  | .ampersand => if c = 38 then some ([.andIf], .start) else none

def Scan.run (scan : Scan) : List CodePoint → Option (List Token × Scan)
  | [] => some ([], scan)
  | c :: rest => do
      let (tokens, next) ← scan.step c
      let (more, last) ← next.run rest
      return (tokens ++ more, last)

def tokens (script : Text) : Option (List Token) := do
  let (found, last) ← Scan.start.run script.codes
  if last.mode = .between then return found ++ last.pending else none

/-! ## Commands -/

inductive Command where
  | assign (name : Name) (terms : List Term)
  | simple (words : List Word)
  | sequence (first second : Command)
  | orElse (first second : Command)
  | andThen (first second : Command)
  /-- `while condition; do body; done`, where `last` is the status of the last round. -/
  | loop (last : Bool) (condition body : Command)
deriving DecidableEq

def keyword (text : String) : Token := .word [.plain (Text.ofString text).codes]

/-- `name=value` with a number for a value. -/
def assignment (word : Word) : Option (Name × List Term) :=
  match word with
  | .plain text :: rest =>
      let name := text.takeWhile (· != 61)
      if !isName name then none
      else match text.drop name.length, rest with
        | _ :: value, [] =>
            if value ≠ [] ∧ value.all isDigit then some (name, [.number (natOf value)]) else none
        | [_], [.arithmetic terms] => some (name, terms)
        | _, _ => none
  | _ => none

/-- The words of a simple command. Diagnostics may be thrown away, which no state shows. -/
def arguments : List Token → List Word × List Token
  | .word w :: rest => let (words, rest) := arguments rest; (w :: words, rest)
  | .redirect number :: .word file :: rest =>
      if number = [50] ∧ file = [.plain (Text.ofString "/dev/null").codes] then arguments rest
      else ([], .redirect number :: .word file :: rest)
  | rest => ([], rest)

mutual

def parseList : Nat → List Token → Option (Command × List Token)
  | 0, _ => none
  | fuel + 1, input => do
      let (first, rest) ← parseAndOr fuel input
      match rest with
      | .semicolon :: rest =>
          if rest = [] ∨ rest.head? = some (keyword "do") ∨ rest.head? = some (keyword "done") then
            return (first, rest)
          else do
            let (second, rest) ← parseList fuel rest
            return (.sequence first second, rest)
      | rest => return (first, rest)

def parseAndOr : Nat → List Token → Option (Command × List Token)
  | 0, _ => none
  | fuel + 1, input => do
      let (first, rest) ← parseCommand fuel input
      parseMore fuel first rest

/-- `&&` and `||` associate to the left. -/
def parseMore : Nat → Command → List Token → Option (Command × List Token)
  | 0, _, _ => none
  | fuel + 1, first, .orIf :: rest => do
      let (second, rest) ← parseCommand fuel rest
      parseMore fuel (.orElse first second) rest
  | fuel + 1, first, .andIf :: rest => do
      let (second, rest) ← parseCommand fuel rest
      parseMore fuel (.andThen first second) rest
  | _ + 1, first, rest => some (first, rest)

def parseCommand : Nat → List Token → Option (Command × List Token)
  | 0, _ => none
  | fuel + 1, input =>
      if input.head? = some (keyword "while") then do
        let (condition, rest) ← parseList fuel input.tail
        if rest.head? ≠ some (keyword "do") then none
        else do
          let (body, rest) ← parseList fuel rest.tail
          if rest.head? ≠ some (keyword "done") then none
          else return (.loop true condition body, rest.tail)
      else match arguments input with
        | ([], _) => none
        | (word :: words, rest) =>
            match assignment word, words with
            | some (name, terms), [] => some (.assign name terms, rest)
            | some _, _ :: _ => none
            | none, _ => some (.simple (word :: words), rest)

end

/-- The commands of a script. -/
def parse (script : Text) : Option Command := do
  let tokens ← tokens script
  let (command, rest) ← parseList (4 * tokens.length + 4) tokens
  if rest = [] then return command else none

/-! ## Scanning piece by piece -/

theorem Scan.run_append {scan middle last : Scan} {a b : List CodePoint} {these more : List Token}
    (first : scan.run a = some (these, middle)) (second : middle.run b = some (more, last)) :
    scan.run (a ++ b) = some (these ++ more, last) := by
  induction a generalizing scan these with
  | nil =>
    cases first
    exact second
  | cons c rest ih =>
    obtain ⟨⟨found, next⟩, step, first⟩ := Option.bind_eq_some_iff.mp first
    obtain ⟨⟨others, reached⟩, there, first⟩ := Option.bind_eq_some_iff.mp first
    cases first
    have tail := ih there
    simp only [List.cons_append, run, step, tail, Option.bind_eq_bind, Option.bind_some,
      List.append_assoc]
    rfl

/-- Quoted text is taken as it is. -/
theorem Scan.run_quoted {text : List CodePoint} (plain : (39 : CodePoint) ∉ text)
    (before : List CodePoint) (word : Option Word) :
    Scan.run ⟨.quote before, word⟩ text = some ([], ⟨.quote (before ++ text), word⟩) := by
  induction text generalizing before with
  | nil => simp [run]
  | cons c rest ih =>
    obtain ⟨other, plain⟩ := List.ne_and_not_mem_of_not_mem_cons plain
    have taken : Scan.step ⟨.quote before, word⟩ c = some ([], ⟨.quote (before ++ [c]), word⟩) :=
      if_neg (Ne.symm other)
    simp only [run, taken, Option.bind_eq_bind, Option.bind_some, ih plain, List.append_assoc,
      List.singleton_append, List.nil_append]
    rfl

end InferForge.Shell

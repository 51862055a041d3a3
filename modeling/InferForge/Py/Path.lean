import InferForge.Py.Text
import Mathlib.Data.List.Basic

/-! `PurePosixPath`: lexical paths, before any file system is consulted. -/
namespace InferForge.Py

structure Path where
  /-- Leading slashes kept by POSIX: none, one, or exactly two. -/
  slashes : Nat
  parts : List Text
deriving DecidableEq, Repr

namespace Path

def slash : CodePoint := 47

/-- `Path(text)`: empty and `.` components disappear, `..` stays. -/
def ofText (t : Text) : Path where
  slashes :=
    let leading := (t.codes.takeWhile (· == slash)).length
    if leading = 0 then 0 else if leading = 2 then 2 else 1
  parts := ((t.codes.splitOn slash).map Text.mk).filter fun part =>
    !part.isEmpty && part != Text.ofString "."

def toText (p : Path) : Text :=
  if p.slashes = 0 ∧ p.parts = [] then "."
  else ⟨List.replicate p.slashes slash⟩ ++ Text.join "/" p.parts

/-- `base / relative`: an absolute right operand replaces the left one. -/
def join (base relative : Path) : Path :=
  if relative.slashes = 0 then ⟨base.slashes, base.parts ++ relative.parts⟩ else relative

/-- `base / "name"`. -/
def child (base : Path) (name : Text) : Path := base.join (ofText name)

def isAbsolute (p : Path) : Bool := p.slashes != 0

def isRelativeTo (p base : Path) : Bool :=
  p.slashes == base.slashes && base.parts.isPrefixOf p.parts

def parent (p : Path) : Path := ⟨p.slashes, p.parts.dropLast⟩

/-- `path.parents`, nearest first. -/
def parents (p : Path) : List Path :=
  (List.range p.parts.length).reverse.map fun n => ⟨p.slashes, p.parts.take n⟩

def name (p : Path) : Text := p.parts.getLast?.getD ⟨[]⟩

def anchor (p : Path) : Path := ⟨p.slashes, []⟩

end Path
end InferForge.Py

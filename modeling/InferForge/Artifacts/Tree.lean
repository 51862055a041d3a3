import InferForge.Host
import InferForge.Py.Ordered

/-! Directory trees: what a walk finds below a directory, and the names it passes. -/
namespace InferForge
open Py

/-- A name that a directory can list. -/
def ValidName (name : Text) : Prop :=
  name.codes ≠ [] ∧ Path.slash ∉ name.codes ∧ name ≠ "." ∧ name ≠ ".."

namespace Py.Path

/-- A relative path from its names. -/
abbrev relative (names : List Text) : Path := ⟨0, names⟩

theorem eq_relative {path : Path} (zero : path.slashes = 0) : path = relative path.parts := by
  cases path
  cases zero
  rfl

theorem join_codes (names : List Text) :
    (Text.join "/" names).codes = [slash].intercalate (names.map Text.codes) := by
  fun_induction Text.join "/" names with
  | case1 => rfl
  | case2 t => simp
  | case3 t rest some' ih =>
    cases rest with
    | nil => exact absurd rfl some'
    | cons u rest =>
      simp only [Text.codes_append, ih, List.map_cons, List.intercalate_cons_cons]
      rfl

/-- Valid names are read back from the text of their path. -/
theorem ofText_toText {names : List Text} (valid : ∀ name ∈ names, ValidName name) :
    ofText (relative names).toText = relative names := by
  have clean : ∀ part ∈ names.map Text.codes, slash ∉ part := by
    intro part member
    obtain ⟨name, listed, rfl⟩ := List.mem_map.mp member
    exact (valid name listed).2.1
  cases names with
  | nil => rfl
  | cons first rest =>
    have text : (relative (first :: rest)).toText = Text.join "/" (first :: rest) := by
      rw [toText, if_neg (by simp)]
      rfl
    have same : ((first :: rest).map Text.codes).map Text.mk = first :: rest := by
      rw [List.map_map]
      exact List.map_id _
    have kept : ((first :: rest).filter fun part => !part.isEmpty && part != Text.ofString ".") =
        first :: rest := by
      rw [List.filter_eq_self]
      intro name listed
      obtain ⟨nonempty, -, other, -⟩ := valid name listed
      simp [Text.isEmpty, nonempty, other]
    have none : ([slash].intercalate ((first :: rest).map Text.codes)).takeWhile (· == slash) = [] := by
      obtain ⟨nonempty, plain, -⟩ := valid first List.mem_cons_self
      cases codes : first.codes with
      | nil => exact absurd codes nonempty
      | cons c more =>
        rw [codes, List.mem_cons, not_or] at plain
        cases rest with
        | nil => simp [codes, Ne.symm plain.1]
        | cons second rest =>
          simp [codes, List.intercalate_cons_cons, Ne.symm plain.1]
    rw [text, ofText, join_codes, List.splitOn_intercalate _ clean (by simp), same, kept, none]
    rfl

theorem toText_injective {a b : List Text} (validA : ∀ name ∈ a, ValidName name)
    (validB : ∀ name ∈ b, ValidName name) (same : (relative a).toText = (relative b).toText) :
    a = b := by
  have paths := congrArg ofText same
  rw [ofText_toText validA, ofText_toText validB] at paths
  exact congrArg parts paths

/-- No piece of a split holds the separator. -/
theorem splitOn_clean {separator : CodePoint} (codes : List CodePoint) :
    ∀ part ∈ codes.splitOn separator, separator ∉ part := by
  by_cases member : separator ∈ codes
  · obtain ⟨front, rest, same, clean⟩ := List.eq_append_cons_of_mem member
    have shorter : rest.length < codes.length := by
      rw [same, List.length_append, List.length_cons]
      omega
    rw [same, List.splitOn_append_cons_self_of_not_mem clean, List.forall_mem_cons]
    exact ⟨clean, splitOn_clean rest⟩
  · rw [List.splitOn_eq_singleton member, List.forall_mem_singleton]
    exact member
termination_by codes.length

/-- The components of a path that goes nowhere up are names. -/
theorem ofText_valid {t : Text} (ascending : (".." : Text) ∉ (ofText t).parts) :
    ∀ name ∈ (ofText t).parts, ValidName name := by
  intro name member
  have listed := member
  rw [ofText, List.mem_filter, Bool.and_eq_true, Bool.not_eq_true', bne_iff_ne] at listed
  obtain ⟨piece, nonempty, other⟩ := listed
  obtain ⟨codes, split, rfl⟩ := List.mem_map.mp piece
  refine ⟨by simpa [Text.isEmpty] using nonempty, splitOn_clean _ codes split, other, ?_⟩
  rintro same
  exact ascending (same ▸ member)

end Py.Path

/-- What stands under a name: a regular file with what reading it gives, a directory with what
listing it raises, a link that leads to a directory or not, or something else. -/
inductive Node where
  | file (content : Except Exn Bytes)
  | dir (refused : Option Exn) (entries : List (Text × Node))
  | symlink (toDirectory : Bool)
  | special

namespace Node

def isSymlink : Node → Bool
  | symlink _ => true
  | _ => false

/-- `entry.is_dir()`, which follows links. -/
def isDirectory : Node → Bool
  | dir _ _ | symlink true => true
  | _ => false

/-- What stands at the end of these names, without passing a link. -/
def at? : Node → List Text → Option Node
  | node, [] => some node
  | dir _ entries, name :: rest =>
      match entries.lookup name with
      | some child => child.at? rest
      | none => none
  | _, _ :: _ => none

/-- Each directory lists distinct valid names. -/
inductive WellNamed : Node → Prop
  | file (content) : WellNamed (file content)
  | symlink (toDirectory) : WellNamed (symlink toDirectory)
  | special : WellNamed special
  | dir (refused) {entries} (distinct : (entries.map Prod.fst).Nodup)
      (valid : ∀ entry ∈ entries, ValidName entry.1) (below : ∀ entry ∈ entries, WellNamed entry.2) :
      WellNamed (dir refused entries)

/-- Induction over a tree: a directory after all that it lists. -/
theorem induct {P : Node → Prop} (file : ∀ content, P (file content))
    (symlink : ∀ toDirectory, P (symlink toDirectory)) (special : P special)
    (dir : ∀ refused entries, (∀ entry ∈ entries, P entry.2) → P (dir refused entries)) :
    ∀ node, P node
  | .file content => file content
  | .symlink toDirectory => symlink toDirectory
  | .special => special
  | .dir refused entries => dir refused entries fun entry member =>
      have := List.sizeOf_lt_of_mem member
      induct file symlink special dir entry.2
termination_by node => sizeOf node
decreasing_by
  have : sizeOf entry.2 < sizeOf entry := by
    obtain ⟨name, node⟩ := entry
    simp only [Prod.mk.sizeOf_spec]
    omega
  simp only [Node.dir.sizeOf_spec]
  omega

@[simp] theorem at?_nil (node : Node) : node.at? [] = some node := by
  cases node <;> rfl

theorem at?_dir {refused : Option Exn} {entries : List (Text × Node)} {name : Text}
    {rest : List Text} :
    (dir refused entries).at? (name :: rest) = some found ↔
      ∃ child, entries.lookup name = some child ∧ child.at? rest = some found := by
  rw [at?]
  cases entries.lookup name <;> simp

/-- Only a directory has anything below it. -/
theorem at?_cons {node : Node} (found : node.at? (name :: rest) = some below) :
    ∃ refused entries, node = dir refused entries := by
  cases node with
  | dir refused entries => exact ⟨refused, entries, rfl⟩
  | _ => cases found

/-- The names that lead anywhere are valid. -/
theorem WellNamed.passed {node : Node} (named : WellNamed node) (found : node.at? path = some deep) :
    ∀ name ∈ path, ValidName name := by
  induction path generalizing node with
  | nil => simp
  | cons name rest ih =>
    obtain ⟨refused, entries, rfl⟩ := at?_cons found
    obtain ⟨child, listed, found⟩ := at?_dir.mp found
    cases named with
    | dir _ distinct valid under =>
      have member := mem_of_lookup listed
      rw [List.forall_mem_cons]
      exact ⟨valid _ member, ih (under _ member) found⟩

end Node
end InferForge

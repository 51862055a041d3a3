import InferForge.Contracts

/-! External run paths and strict JSON artifacts. -/
namespace InferForge
open Py

/-- `ensure_external`: a runtime path must not overlap the repository, be the home
directory or be a file system root. -/
def ensureExternal (disk : Disk) (path : Path) : Except Exn Path := do
  let candidate ← disk.resolve (← disk.expanduser path)
  let source ← disk.resolve disk.repoRoot
  if candidate = source ∨ source ∈ candidate.parents ∨ candidate ∈ source.parents then
    throw (.policy ("runtime path overlaps the source repository: " ++ candidate.toText))
  else if candidate = (← disk.resolve disk.home) ∨ candidate = candidate.anchor then
    throw (.policy ("runtime path must be a dedicated directory: " ++ candidate.toText))
  else return candidate

/-- `Path(value)`: only strings name a path. -/
def pathOf : Json → Except Exn Path
  | .str t => .ok (Path.ofText t)
  | _ => .error (.type "argument should be a str or an os.PathLike object")

theorem pathOf_ok : pathOf value = .ok path ↔ ∃ t, value = .str t ∧ Path.ofText t = path := by
  cases value <;> simp [pathOf]

def isComponentChar (c : CodePoint) : Bool :=
  (48 ≤ c.val && c.val ≤ 57) || (65 ≤ c.val && c.val ≤ 90) || (97 ≤ c.val && c.val ≤ 122) ||
    c.val == 95 || c.val == 46 || c.val == 45

def isAlphanumeric (c : CodePoint) : Bool :=
  (48 ≤ c.val && c.val ≤ 57) || (65 ≤ c.val && c.val ≤ 90) || (97 ≤ c.val && c.val ≤ 122)

/-- `re.sub("[^a-zA-Z0-9_.-]+", "-", value)`: each maximal run of other characters. -/
def collapse : Bool → List CodePoint → List CodePoint
  | _, [] => []
  | inRun, c :: rest =>
      if isComponentChar c then c :: collapse false rest
      else if inRun then collapse true rest
      else 45 :: collapse true rest

/-- `safe_component`: a plain identity is its own directory name, any other one gets a
cleaned stem and a digest. -/
def safeComponent (host : Host) (value : Text) : Except Exn Text :=
  if value.blank then .error (.policy "run and task identities must be nonempty strings")
  else match value.codes with
    | first :: rest =>
        if isAlphanumeric first && rest.all isComponentChar && rest.length ≤ 95 then .ok value
        else if value.encodable then
          let stem : Text :=
            ⟨((Text.stripWhere (fun c => c.val == 46 || c.val == 45)
              ⟨collapse false value.codes⟩).codes).take 64⟩
          let stem : Text := if stem.isEmpty then "id" else stem
          .ok (stem ++ "-" ++ ⟨(host.sha256 value.utf8).codes.take 12⟩)
        else .error (.unicode "surrogates not allowed")
    | [] => .error (.policy "run and task identities must be nonempty strings")

/-- `ArtifactStore(root)`. -/
def ArtifactStore (disk : Disk) (root : Path) : Except Exn Path := ensureExternal disk root

namespace ArtifactStore

/-- The components of `root / relative` below `root`, deepest first. -/
def ownComponents (root relative : Path) : List Path :=
  let lexical := root.join relative
  (lexical :: lexical.parents).takeWhile fun component => component != root

def rejectSymlink (disk : Disk) (component : Path) : Except Exn Unit := do
  if ← disk.isSymlink component then
    throw (.policy ("artifact paths cannot contain symlinks: " ++ component.toText))

def path (disk : Disk) (root relative : Path) : Except Exn Path := do
  if relative.isAbsolute ∨ (".." : Text) ∈ relative.parts then
    throw (.policy ("artifact must be relative to its owner: " ++ relative.toText))
  else
    (ownComponents root relative).forM (rejectSymlink disk)
    let path ← ensureExternal disk (root.join relative)
    if root ∈ path.parents then return path
    else throw (.policy ("artifact escapes its owner: " ++ relative.toText))

/-- `_atomic_text`: the pending file is opened before its content is encoded. -/
def atomicText (disk : Disk) (path : Path) (content : Json) : Except Exn Unit := do
  disk.openPending path
  if content.encodable then disk.publish path
  else throw (.unicode "surrogates not allowed")

/-- `ArtifactStore.write_json`. `dump` is the payload as `json.dumps` sees it, and `keys`
tells whether keys that are not strings are finite. -/
def writeJson (disk : Disk) (root relative : Path) (dump : Except Exn Json) (keys : Bool) :
    Except Exn Path := do
  let content ← dump
  if content.finite && keys then
    let path ← path disk root relative
    disk.mkdirs path.parent
    atomicText disk path content
    return path
  else throw (.value "Out of range float values are not JSON compliant")

end ArtifactStore
end InferForge

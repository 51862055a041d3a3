import InferForge.Artifacts.Tree
import InferForge.Storage

/-! The inventory that `ArtifactStore.register` takes of the files below its root. -/
namespace InferForge.Artifacts
open Py Effect

/-- An artifact store whose root exists, with what stands below it. `disk` answers for everything
else: paths outside the root or through links, and the writes. -/
structure Store where
  disk : Disk
  root : Path
  absolute : root.isAbsolute = true
  refused : Option Exn
  entries : List (Text × Node)
  named : (Node.dir refused entries).WellNamed

namespace Store
variable (store : Store)

def tree : Node := .dir store.refused store.entries

/-- The names of a path below the root. -/
def below? (path : Path) : Option (List Text) :=
  if path.isRelativeTo store.root then some (path.parts.drop store.root.parts.length) else none

def linkAt (names : List Text) : Bool := ((store.tree.at? names).map Node.isSymlink).getD false

/-- No link on the way, and no `..`. -/
def plain (names : List Text) : Bool :=
  names.inits.all (fun front => !store.linkAt front) && !names.contains ".."

/-- The disk as the checks of the store see it: below the root, the tree. An absolute path is its
own `expanduser`, and below a resolved root a plain path is its own `resolve`. -/
def view : Disk := { store.disk with
  expanduser := fun path => if path.isAbsolute then .ok path else store.disk.expanduser path
  isSymlink := fun path =>
    match store.below? path with
    | none => store.disk.isSymlink path
    | some names =>
        match store.tree.at? names with
        | some node => .ok node.isSymlink
        | none => if store.plain names then .ok false else store.disk.isSymlink path
  resolve := fun path =>
    match store.below? path with
    | none => store.disk.resolve path
    | some names => if store.plain names then .ok path else store.disk.resolve path }

def path (relative : Path) : Except Exn Path := ArtifactStore.path store.view store.root relative

end Store

/-- One entry of `artifacts`. -/
structure Artifact where
  path : Path
  sizeBytes : Nat
  sha256 : Text
  kind : Text

def Artifact.toJson (artifact : Artifact) : Json :=
  .obj [("path", .str artifact.path.toText), ("size_bytes", .int artifact.sizeBytes),
    ("sha256", .str artifact.sha256), ("kind", .str artifact.kind)]

/-- `path.suffix`: from the last dot, unless it is the first or the last character. -/
def suffix (name : Text) : Text :=
  let tail := name.codes.reverse.takeWhile (· != 46)
  if tail.length + 1 < name.codes.length ∧ tail ≠ [] then ⟨46 :: tail.reverse⟩ else ""

def kind (name : Text) : Text :=
  if suffix name = ".log" then "log" else if suffix name = ".json" then "json" else "file"

/-- The entry of a file with this content. -/
def artifactOf (host : Host) (names : List Text) (content : Bytes) : Artifact where
  path := .relative names
  sizeBytes := content.length
  sha256 := host.sha256 content
  kind := kind (names.getLast?.getD ⟨[]⟩)

section Walk
variable (host : Host) (store : Store) (selected : Option (List Text)) (manifest : Path)

/-- A directory that `include` does not prune: a parent of a selected item. -/
def keeps (names : List Text) : Bool :=
  match selected with
  | none => true
  | some items => items.any fun item => (Path.ofText item).parents.contains (.relative names)

def selects (names : List Text) : Bool :=
  match selected with
  | none => true
  | some items => items.contains (Path.relative names).toText

/-- Entries in the order of their names. -/
def byName (entries : List (Text × α)) : List (Text × α) :=
  entries.insertionSort fun a b => Json.codesLe a.1.codes b.1.codes = true

def rejectLink (base : List Text) (entry : Text × Node) : Except Exn Unit :=
  refuse entry.2.isSymlink (.policy ("artifact directories cannot be symlinks: " ++
    (store.root.join (.relative (base ++ [entry.1]))).toText))

/-- What the loop does with one file name. -/
def inventoryFile (base : List Text) (entry : Text × Node) : Except Exn (Option Artifact) :=
  let names := base ++ [entry.1]
  let file := store.root.join (.relative names)
  if file = manifest ∨ entry.1 = ".attempt.json" then .ok none
  else if selects selected names then
    match entry.2 with
    | .symlink _ => .error (.policy ("artifact files cannot be symlinks: " ++ file.toText))
    | .file content => do
        let _ ← store.path (.relative names)
        let bytes ← content
        return some (artifactOf host names bytes)
    | _ => .error (.policy ("artifact must be a regular file: " ++ file.toText))
  else .ok none

/-- `dirs`, without what `include` prunes. -/
def directories (base : List Text) (entries : List (Text × Node)) : List (Text × Node) :=
  entries.filter fun entry => entry.2.isDirectory && keeps selected (base ++ [entry.1])

/-- The names of `dirs` that the walk enters. -/
def entered (base : List Text) (entries : List (Text × Node)) : List Text :=
  ((directories selected base entries).filter fun entry => entry.1 != ("scratch" : Text)).map Prod.fst

/-- One round of the walk, with what the walk finds in each directory below. -/
def inventory (base : List Text) (entries : List (Text × Node))
    (below : List (Text × Except Exn (List Artifact))) : Except Exn (List Artifact) :=
  if base.contains "scratch" then .ok []
  else do
    (directories selected base entries).forM (rejectLink store base)
    let files := entries.filter fun entry => !entry.2.isDirectory
    let own ← (byName files).mapM (inventoryFile host store selected manifest base)
    let deeper ← (byName (below.filter fun result =>
      (entered selected base entries).contains result.1)).mapM Prod.snd
    return own.reduceOption ++ deeper.flatten

mutual

/-- The walk below one directory. -/
def walk (base : List Text) : Node → Except Exn (List Artifact)
  | .dir (some e) _ => .error e
  | .dir none entries => inventory host store selected manifest base entries (walkAll base entries)
  | _ => .ok []

def walkAll (base : List Text) : List (Text × Node) → List (Text × Except Exn (List Artifact))
  | [] => []
  | (name, node) :: rest => (name, walk (base ++ [name]) node) :: walkAll base rest

end

end Walk

/-- The JSON files that the store has published. -/
abbrev Published := Path → Option Json

/-- `_atomic_json`: nothing is published unless the pending file takes the place of the target. -/
def atomicJson (disk : Disk) (published : Published) (path : Path) (payload : Json) :
    Except Exn Unit × Published :=
  if payload.finite then
    match disk.openPending path with
    | .error e => (.error e, published)
    | .ok () =>
        if payload.encodable then
          match disk.publish path with
          | .error e => (.error e, published)
          | .ok () => (.ok (), fun other => if other = path then some payload else published other)
        else (.error (.unicode "surrogates not allowed"), published)
  else (.error (.value "Out of range float values are not JSON compliant"), published)

section Register
variable (host : Host) (store : Store)

/-- `self.path(item).relative_to(self.root).as_posix()` for each item. -/
def selection (include' : List Text) : Except Exn (List Text) :=
  include'.mapM fun item => do
    let path ← store.path (.ofText item)
    return (Path.relative (path.parts.drop store.root.parts.length)).toText

/-- What `register` does before it writes: the path of the manifest and its artifacts. -/
def collect (required : List Text) (include' : Option (List Text)) (manifestName : Text) :
    Except Exn (Path × List Artifact) := do
  let _ ← ensureExternal store.view store.root
  store.disk.mkdirs store.root
  let manifest ← store.path (.ofText manifestName)
  let selected ← include'.mapM (selection store)
  let artifacts ← walk host store selected manifest [] store.tree
  let available := artifacts.map fun artifact => artifact.path.toText
  let missing := sortedSet ((required ++ selected.getD []).filter fun text => !available.contains text)
  if missing = [] then return (manifest, artifacts)
  else throw (.policy ("missing required artifacts: " ++ Text.join ", " missing))

def manifestDocument (identity : Dict) (outcome : Text) (artifacts : List Artifact) : Json :=
  .obj [("schema_version", .int 1), ("identity", .obj identity), ("outcome", .str outcome),
    ("artifacts", .arr (artifacts.map Artifact.toJson))]

def register (published : Published) (identity : Dict) (outcome : Text) (required : List Text)
    (include' : Option (List Text)) (manifestName : Text) : Except Exn Path × Published :=
  match collect host store required include' manifestName with
  | .error e => (.error e, published)
  | .ok (manifest, artifacts) =>
      match atomicJson store.disk published manifest (manifestDocument identity outcome artifacts) with
      | (.error e, after) => (.error e, after)
      | (.ok (), after) => (.ok manifest, after)

end Register
end InferForge.Artifacts

import InferForge.Artifacts.Register
import Mathlib.Data.List.ReduceOption

/-! A registered manifest lists the regular files below the root, and no others. -/
namespace InferForge.Artifacts
open Py Effect

/-! ## Paths below the root -/

theorem parents_concat (slashes : Nat) (names : List Text) (name : Text) :
    (Py.Path.mk slashes (names ++ [name])).parents = ⟨slashes, names⟩ :: (Py.Path.mk slashes names).parents := by
  unfold Path.parents
  rw [List.length_append, List.length_singleton, List.range_succ, List.reverse_append,
    List.reverse_singleton, List.singleton_append, List.map_cons, List.take_left]
  congr 1
  refine List.map_congr_left fun n member => ?_
  have short : n < names.length := by simpa using member
  simp [List.take_append_of_le_length short.le]

theorem mem_parents {slashes : Nat} {names : List Text} {path : Path} :
    path ∈ (Py.Path.mk slashes names).parents ↔
      ∃ front rest, names = front ++ rest ∧ rest ≠ [] ∧ path = ⟨slashes, front⟩ := by
  induction names using List.reverseRecOn with
  | nil => simp [Path.parents]
  | append_singleton names name ih =>
    rw [parents_concat, List.mem_cons, ih]
    constructor
    · rintro (rfl | ⟨front, rest, rfl, -, rfl⟩)
      · exact ⟨names, [name], rfl, by simp, rfl⟩
      · exact ⟨front, rest ++ [name], by simp, by simp, rfl⟩
    · rintro ⟨front, rest, same, some', rfl⟩
      obtain rfl | ⟨rest, last, rfl⟩ := List.eq_nil_or_concat rest
      · exact absurd rfl some'
      · rw [List.concat_eq_append, ← List.append_assoc] at same
        obtain ⟨same, -⟩ := List.append_inj' same rfl
        rcases eq_or_ne rest [] with rfl | some'
        · left
          rw [same, List.append_nil]
        · right
          exact ⟨front, rest, same, some', rfl⟩

theorem join_relative (root : Path) (names : List Text) :
    root.join (.relative names) = ⟨root.slashes, root.parts ++ names⟩ := rfl

theorem ownComponents_concat (root : Path) (names : List Text) (name : Text) :
    ArtifactStore.ownComponents root (.relative (names ++ [name])) =
      root.join (.relative (names ++ [name])) :: ArtifactStore.ownComponents root (.relative names) := by
  have other : (root.join (.relative (names ++ [name])) != root) = true := by
    rw [bne_iff_ne, join_relative]
    intro same
    have lengths := congrArg (fun path => path.parts.length) same
    simp at lengths
  unfold ArtifactStore.ownComponents
  dsimp only
  rw [List.takeWhile_cons_of_pos (p := fun component => component != root) other, join_relative,
    ← List.append_assoc, parents_concat]
  rfl

/-- The components that `path` checks for links are the paths of all names up to some. -/
theorem mem_ownComponents (root : Path) {front rest : List Text} (some' : front ≠ []) :
    root.join (.relative front) ∈ ArtifactStore.ownComponents root (.relative (front ++ rest)) := by
  induction rest using List.reverseRecOn with
  | nil =>
    obtain rfl | ⟨names, name, rfl⟩ := List.eq_nil_or_concat front
    · exact absurd rfl some'
    · rw [List.append_nil, List.concat_eq_append, ownComponents_concat]
      exact List.mem_cons_self
  | append_singleton rest name ih =>
    rw [← List.append_assoc, ownComponents_concat]
    exact List.mem_cons_of_mem _ ih

section Paths
variable {store : Store}

theorem below?_join (names : List Text) :
    store.below? (store.root.join (.relative names)) = some names := by
  simp [Store.below?, join_relative, Path.isRelativeTo]

theorem view_isSymlink {names : List Text} (found : store.tree.at? names = some node) :
    store.view.isSymlink (store.root.join (.relative names)) = .ok node.isSymlink := by
  simp [Store.view, below?_join, found]

theorem plain_of_linkless {names : List Text}
    (linkless : (ArtifactStore.ownComponents store.root (.relative names)).forM
      (ArtifactStore.rejectSymlink store.view) = .ok ()) (ascending : (".." : Text) ∉ names) :
    store.plain names = true := by
  rw [Store.plain, Bool.and_eq_true, List.all_eq_true, Bool.not_eq_true', List.contains_eq_mem]
  refine ⟨fun front member => ?_, by simpa using ascending⟩
  obtain ⟨rest, rfl⟩ := (List.mem_inits _ _).mp member
  rw [Bool.not_eq_true', Store.linkAt]
  cases found : store.tree.at? front with
  | none => rfl
  | some node =>
    rcases eq_or_ne front [] with rfl | some'
    · rw [Node.at?_nil] at found
      cases found
      rfl
    · have checked := forM_member linkless (mem_ownComponents store.root some')
      rw [ArtifactStore.rejectSymlink, view_isSymlink found, ok_bind] at checked
      split at checked
      · cases checked
      · next real => simpa using real

/-- Below a resolved root a plain path is its own resolution. -/
theorem ensureExternal_plain {names : List Text} (plain : store.plain names = true)
    (external : ensureExternal store.view (store.root.join (.relative names)) = .ok candidate) :
    candidate = store.root.join (.relative names) := by
  have expanded : store.view.expanduser (store.root.join (.relative names)) =
      .ok (store.root.join (.relative names)) := if_pos store.absolute
  have resolved : store.view.resolve (store.root.join (.relative names)) =
      .ok (store.root.join (.relative names)) := by
    simp [Store.view, below?_join, plain]
  rw [ensureExternal, expanded, ok_bind, resolved, ok_bind] at external
  obtain ⟨source, -, external⟩ := bind_ok.mp external
  split at external
  · cases external
  · obtain ⟨home, -, external⟩ := bind_ok.mp external
    split at external
    · cases external
    · exact (pure_ok.mp external).symm

/-- A path that the store gives out is the one asked for, below the root and free of links. -/
theorem path_ok {relative path : Path} (found : store.path relative = .ok path) :
    relative.slashes = 0 ∧ relative.parts ≠ [] ∧ store.plain relative.parts = true ∧
      path = store.root.join relative := by
  unfold Store.path ArtifactStore.path at found
  split at found
  · cases found
  · next inside =>
    rw [not_or, Path.isAbsolute] at inside
    obtain ⟨lexical, ascending⟩ := inside
    obtain ⟨slashes, names⟩ := relative
    obtain rfl : slashes = 0 := by simpa using lexical
    simp only [bind_ok] at found
    obtain ⟨_, linkless, candidate, external, inside⟩ := found
    have free := plain_of_linkless linkless ascending
    obtain rfl := ensureExternal_plain free external
    split at inside
    · next below =>
      cases inside
      refine ⟨rfl, ?_, free, rfl⟩
      rintro rfl
      obtain ⟨front, rest, longer, some', same⟩ := mem_parents.mp below
      have parts : store.root.parts = front := congrArg Path.parts same
      simp [← parts] at longer
      exact some' longer
    · cases inside

theorem join_drop {root relative : Path} (zero : relative.slashes = 0) :
    Path.relative ((root.join relative).parts.drop root.parts.length) = relative := by
  obtain ⟨slashes, names⟩ := relative
  obtain rfl : slashes = 0 := zero
  rw [join_relative, List.drop_left]

/-- The texts that the walk compares with are those of the items of `include`. -/
theorem selection_ok {items texts : List Text} (found : selection store items = .ok texts) :
    texts = items.map fun item => (Path.ofText item).toText := by
  have pairs := mapM_forall₂.mp found
  clear found
  induction pairs with
  | nil => rfl
  | cons here _ ih =>
    obtain ⟨path, found, text⟩ := bind_ok.mp here
    obtain ⟨zero, -, -, rfl⟩ := path_ok found
    rw [ih, List.map_cons, ← pure_ok.mp text, join_drop zero]

end Paths

/-! ## What the walk lists -/

section Walk
variable (host : Host) (store : Store) (selected : Option (List Text)) (manifest : Path)

/-- A regular file that the manifest is about. -/
def Listed (names : List Text) : Prop :=
  store.root.join (.relative names) ≠ manifest ∧ names.getLast? ≠ some ".attempt.json" ∧
    ("scratch" : Text) ∉ names.dropLast ∧ selects selected names = true

/-- What the walk looks at and does not enter. -/
def Reached (names : List Text) : Node → Prop
  | .dir _ _ => False
  | .symlink true => ("scratch" : Text) ∉ names.dropLast ∧ keeps selected names = true
  | _ => Listed store selected manifest names

variable {host store selected manifest}

theorem walkAll_eq (base : List Text) (entries : List (Text × Node)) :
    walkAll host store selected manifest base entries =
      entries.map fun entry => (entry.1, walk host store selected manifest (base ++ [entry.1]) entry.2) := by
  induction entries with
  | nil => rfl
  | cons entry rest ih =>
    obtain ⟨name, node⟩ := entry
    rw [walkAll, ih, List.map_cons]

theorem perm_byName {α : Type} (entries : List (Text × α)) : (byName entries).Perm entries :=
  List.perm_insertionSort _ _

theorem inventoryFile_some {entry : Text × Node} (found :
      inventoryFile host store selected manifest base entry = .ok (some artifact)) :
    ∃ bytes, entry.2 = .file (.ok bytes) ∧ store.root.join (.relative (base ++ [entry.1])) ≠ manifest ∧
      entry.1 ≠ ".attempt.json" ∧ selects selected (base ++ [entry.1]) = true ∧
      artifact = artifactOf host (base ++ [entry.1]) bytes := by
  obtain ⟨name, node⟩ := entry
  unfold inventoryFile at found
  dsimp only at found
  split at found
  · cases found
  · next apart =>
    rw [not_or] at apart
    split at found
    · next chosen =>
      cases node with
      | file content =>
        obtain ⟨_, -, found⟩ := bind_ok.mp found
        obtain ⟨bytes, read, found⟩ := bind_ok.mp found
        cases found
        exact ⟨bytes, by rw [read], apart.1, apart.2, chosen, rfl⟩
      | _ => cases found
    · cases found

theorem inventoryFile_listed {entry : Text × Node} {result : Option Artifact}
    (found : inventoryFile host store selected manifest base entry = .ok result)
    (listed : Listed store selected manifest (base ++ [entry.1])) :
    ∃ bytes, entry.2 = .file (.ok bytes) ∧ result = some (artifactOf host (base ++ [entry.1]) bytes) := by
  obtain ⟨name, node⟩ := entry
  obtain ⟨other, marker, -, chosen⟩ := listed
  have apart : ¬ (store.root.join (.relative (base ++ [name])) = manifest ∨ name = ".attempt.json") := by
    rintro (same | rfl)
    · exact other same
    · exact marker (by simp)
  unfold inventoryFile at found
  dsimp only at found
  rw [if_neg apart, if_pos chosen] at found
  cases node with
  | file content =>
    obtain ⟨_, -, found⟩ := bind_ok.mp found
    obtain ⟨bytes, read, found⟩ := bind_ok.mp found
    exact ⟨bytes, by rw [read], (pure_ok.mp found).symm⟩
  | _ => cases found

/-- What one round of the walk establishes, outside directories named `scratch`. -/
theorem inventory_ok {entries : List (Text × Node)} {below : List (Text × Except Exn (List Artifact))}
    (found : inventory host store selected manifest base entries below = .ok artifacts)
    (outside : ("scratch" : Text) ∉ base) :
    ∃ own deeper,
      (∀ entry ∈ entries, entry.2.isDirectory = true → keeps selected (base ++ [entry.1]) = true →
        entry.2.isSymlink = false) ∧
      List.Forall₂ (fun entry result => inventoryFile host store selected manifest base entry = .ok result)
        (byName (entries.filter fun entry => !entry.2.isDirectory)) own ∧
      List.Forall₂ (fun result block => result.2 = .ok block)
        (byName (below.filter fun result => (entered selected base entries).contains result.1)) deeper ∧
      artifacts = own.reduceOption ++ deeper.flatten := by
  rw [inventory, if_neg (by simpa using outside)] at found
  obtain ⟨_, linkless, found⟩ := bind_ok.mp found
  obtain ⟨own, files, found⟩ := bind_ok.mp found
  obtain ⟨deeper, blocks, found⟩ := bind_ok.mp found
  refine ⟨own, deeper, fun entry member directory kept => ?_, mapM_forall₂.mp files,
    mapM_forall₂.mp blocks, (pure_ok.mp found).symm⟩
  have listed : entry ∈ directories selected base entries :=
    List.mem_filter.mpr ⟨member, by simp [directory, kept]⟩
  have checked := forM_member linkless listed
  exact refuse_ok.mp checked

theorem keeps_iff {names : List Text} : keeps selected names = true ↔
    ∀ items, selected = some items → ∃ item ∈ items, Path.relative names ∈ (Path.ofText item).parents := by
  cases selected with
  | none => simp [keeps]
  | some items => simp [keeps]

/-- Pruning leaves the directories above what it leaves, and above what is selected. -/
theorem keeps_front {front rest : List Text} (kept : keeps selected (front ++ rest) = true) :
    keeps selected front = true := by
  rw [keeps_iff] at kept ⊢
  intro items given
  obtain ⟨item, member, above⟩ := kept items given
  refine ⟨item, member, ?_⟩
  generalize Path.ofText item = path at above ⊢
  obtain ⟨slashes, names⟩ := path
  obtain ⟨upper, lower, rfl, some', same⟩ := mem_parents.mp above
  cases same
  exact mem_parents.mpr ⟨front, rest ++ lower, by simp, by simp [some'], rfl⟩

theorem keeps_selects {front rest : List Text} (valid : ∀ name ∈ front ++ rest, ValidName name)
    (below : rest ≠ []) (chosen : selects selected (front ++ rest) = true) :
    keeps selected front = true := by
  rw [keeps_iff]
  rintro items rfl
  refine ⟨(Path.relative (front ++ rest)).toText, by simpa [selects] using chosen, ?_⟩
  rw [Path.ofText_toText valid]
  exact mem_parents.mpr ⟨front, rest, rfl, below, rfl⟩

theorem mem_entered {entries : List (Text × Node)} {name : Text} :
    name ∈ entered selected base entries ↔ name ≠ "scratch" ∧ ∃ node, (name, node) ∈ entries ∧
      node.isDirectory = true ∧ keeps selected (base ++ [name]) = true := by
  simp only [entered, directories, List.mem_map, List.mem_filter, Bool.and_eq_true, bne_iff_ne]
  constructor
  · rintro ⟨⟨_, node⟩, ⟨⟨member, directory, kept⟩, other⟩, rfl⟩
    exact ⟨other, node, member, directory, kept⟩
  · rintro ⟨other, node, member, directory, kept⟩
    exact ⟨(name, node), ⟨⟨member, directory, kept⟩, other⟩, rfl⟩

/-- The walk enters the directories above everything that it looks at. -/
theorem reached_above {front rest : List Text} {node : Node}
    (valid : ∀ name ∈ front ++ rest, ValidName name) (below : rest ≠ [])
    (looked : Reached store selected manifest (front ++ rest) node) :
    ("scratch" : Text) ∉ front ∧ keeps selected front = true := by
  have above : front ⊆ (front ++ rest).dropLast := by
    rw [List.dropLast_append_of_ne_nil below]
    exact List.subset_append_left _ _
  have listed (looked : Listed store selected manifest (front ++ rest)) :
      ("scratch" : Text) ∉ front ∧ keeps selected front = true :=
    ⟨fun member => looked.2.2.1 (above member), keeps_selects valid below looked.2.2.2⟩
  cases node with
  | dir => exact looked.elim
  | file | special => exact listed looked
  | symlink toDirectory =>
    cases toDirectory with
    | true => exact ⟨fun member => looked.1 (above member), keeps_front looked.2⟩
    | false => exact listed looked

/-- Everything that the walk looks at is a regular file, and is in its result. -/
theorem walk_complete {node : Node} (named : node.WellNamed) :
    ∀ {base artifacts}, (∀ name ∈ base, ValidName name) → ("scratch" : Text) ∉ base →
      walk host store selected manifest base node = .ok artifacts →
      ∀ {rest found}, rest ≠ [] → node.at? rest = some found →
        Reached store selected manifest (base ++ rest) found →
        ∃ bytes, found = .file (.ok bytes) ∧ artifactOf host (base ++ rest) bytes ∈ artifacts := by
  induction node using Node.induct with
  | file | symlink | special =>
    intro base artifacts _ _ _ rest found some' reached
    obtain ⟨name, rest, rfl⟩ := List.exists_cons_of_ne_nil some'
    obtain ⟨_, _, same⟩ := Node.at?_cons reached
    cases same
  | dir refused entries ih =>
    intro base artifacts valid outside walked rest found some' reached looked
    cases refused with
    | some e => cases walked
    | none =>
      obtain ⟨own, deeper, linkless, files, blocks, rfl⟩ := inventory_ok walked outside
      obtain ⟨name, rest, rfl⟩ := List.exists_cons_of_ne_nil some'
      obtain ⟨child, listed, reached⟩ := Node.at?_dir.mp reached
      have member := mem_of_lookup listed
      cases named with
      | dir _ distinct names under =>
        by_cases last : rest = []
        · subst last
          rw [Node.at?_nil] at reached
          obtain rfl := Option.some.inj reached
          have file (other : child.isDirectory = false)
              (looked : Listed store selected manifest (base ++ [name])) :
              ∃ bytes, child = .file (.ok bytes) ∧
                artifactOf host (base ++ [name]) bytes ∈ own.reduceOption ++ deeper.flatten := by
            have among : (name, child) ∈ byName (entries.filter fun entry => !entry.2.isDirectory) :=
              (perm_byName _).mem_iff.mpr (List.mem_filter.mpr ⟨member, by simp [other]⟩)
            obtain ⟨result, inside, done⟩ := forall₂_member files among
            obtain ⟨bytes, same, rfl⟩ := inventoryFile_listed done looked
            exact ⟨bytes, same, List.mem_append_left _ (List.reduceOption_mem_iff.mpr inside)⟩
          cases child with
          | dir => exact looked.elim
          | file | special => exact file rfl looked
          | symlink toDirectory =>
            cases toDirectory with
            | true => cases linkless _ member rfl looked.2
            | false => exact file rfl looked
        · have path : ∀ n ∈ name :: rest, ValidName n :=
            (Node.WellNamed.dir none distinct names under).passed (Node.at?_dir.mpr ⟨child, listed, reached⟩)
          rw [List.append_cons] at looked ⊢
          have valid' : ∀ n ∈ base ++ [name], ValidName n := by
            intro n inside
            rcases List.mem_append.mp inside with old | new
            · exact valid n old
            · exact path n (List.mem_cons.mpr (Or.inl (List.mem_singleton.mp new)))
          have all : ∀ n ∈ base ++ [name] ++ rest, ValidName n := by
            intro n inside
            rcases List.mem_append.mp inside with old | new
            · exact valid' n old
            · exact path n (List.mem_cons_of_mem _ new)
          obtain ⟨outside', kept⟩ := reached_above all last looked
          have directory : child.isDirectory = true := by
            obtain ⟨r, rest, rfl⟩ := List.exists_cons_of_ne_nil last
            obtain ⟨_, _, rfl⟩ := Node.at?_cons reached
            rfl
          have among : (name, walk host store selected manifest (base ++ [name]) child) ∈
              byName ((walkAll host store selected manifest base entries).filter fun result =>
                (entered selected base entries).contains result.1) := by
            apply (perm_byName _).mem_iff.mpr
            rw [List.mem_filter, walkAll_eq, List.contains_iff_mem, mem_entered]
            refine ⟨List.mem_map.mpr ⟨(name, child), member, rfl⟩, ?_, child, member, directory, kept⟩
            rintro rfl
            exact outside' (by simp)
          obtain ⟨block, inside, done⟩ := forall₂_member blocks among
          obtain ⟨bytes, same, found⟩ := ih _ member (under _ member) valid' outside' done last reached looked
          exact ⟨bytes, same, List.mem_append_right _ (List.mem_flatten_of_mem inside found)⟩

theorem right_member {α β : Type} {R : α → β → Prop} {xs : List α} {ys : List β} {y : β}
    (pairs : List.Forall₂ R xs ys) (member : y ∈ ys) : ∃ x ∈ xs, R x y :=
  forall₂_member pairs.flip member

/-- Everything in the result of the walk is a regular file that the manifest is about. -/
theorem walk_sound {node : Node} (named : node.WellNamed) :
    ∀ {base artifacts}, ("scratch" : Text) ∉ base →
      walk host store selected manifest base node = .ok artifacts →
      ∀ {artifact}, artifact ∈ artifacts → ∃ rest bytes, rest ≠ [] ∧
        node.at? rest = some (.file (.ok bytes)) ∧
        Listed store selected manifest (base ++ rest) ∧
        artifact = artifactOf host (base ++ rest) bytes := by
  induction node using Node.induct with
  | file | symlink | special =>
    intro base artifacts _ walked artifact member
    cases walked
    cases member
  | dir refused entries ih =>
    intro base artifacts outside walked artifact member
    cases refused with
    | some e => cases walked
    | none =>
      obtain ⟨own, deeper, -, files, blocks, rfl⟩ := inventory_ok walked outside
      cases named with
      | dir _ distinct names under =>
        rcases List.mem_append.mp member with here | below
        · obtain ⟨⟨name, node⟩, inside, done⟩ := right_member files (List.reduceOption_mem_iff.mp here)
          have entry := List.mem_of_mem_filter ((perm_byName _).mem_iff.mp inside)
          obtain ⟨bytes, rfl, other, marker, chosen, rfl⟩ := inventoryFile_some done
          refine ⟨[name], bytes, by simp, ?_, ⟨other, by simpa using marker, by simpa using outside, chosen⟩,
            rfl⟩
          exact Node.at?_dir.mpr ⟨_, (lookup_mem distinct).mpr entry, Node.at?_nil _⟩
        · obtain ⟨block, inside, found⟩ := List.mem_flatten.mp below
          obtain ⟨result, among, done⟩ := right_member blocks inside
          obtain ⟨listed, chosen⟩ := List.mem_filter.mp ((perm_byName _).mem_iff.mp among)
          rw [walkAll_eq, List.mem_map] at listed
          obtain ⟨⟨name, child⟩, entry, rfl⟩ := listed
          rw [List.contains_iff_mem, mem_entered] at chosen
          have outside' : ("scratch" : Text) ∉ base ++ [name] := by
            simp [outside, Ne.symm chosen.1]
          obtain ⟨rest, bytes, some', reached, listed, rfl⟩ :=
            ih _ entry (under _ entry) outside' done found
          rw [← List.append_cons] at listed ⊢
          exact ⟨name :: rest, bytes, by simp,
            Node.at?_dir.mpr ⟨child, (lookup_mem distinct).mpr entry, reached⟩, listed, rfl⟩

/-- The paths of the files of one directory are among its names. -/
theorem own_paths {entries : List (Text × Node)} {own : List (Option Artifact)}
    (files : List.Forall₂ (fun entry result =>
      inventoryFile host store selected manifest base entry = .ok result) entries own) :
    (own.reduceOption.map Artifact.path).Sublist
      (entries.map fun entry => Path.relative (base ++ [entry.1])) := by
  induction files with
  | nil => exact List.Sublist.slnil
  | @cons entry result entries own here _ ih =>
    cases result with
    | none => exact ih.cons _
    | some artifact =>
      obtain ⟨bytes, -, -, -, -, rfl⟩ := inventoryFile_some here
      exact ih.cons_cons _

/-- Blocks under distinct names list distinct paths. -/
theorem blocks_distinct (base : List Text) {results : List (Text × Except Exn (List Artifact))}
    {blocks : List (List Artifact)}
    (pairs : List.Forall₂ (fun result block => result.2 = .ok block) results blocks)
    (distinct : (results.map Prod.fst).Nodup)
    (each : ∀ result ∈ results, ∀ block, result.2 = .ok block → (block.map Artifact.path).Nodup ∧
      ∀ artifact ∈ block, ∃ rest, artifact.path = .relative (base ++ result.1 :: rest)) :
    (blocks.flatten.map Artifact.path).Nodup := by
  induction pairs with
  | nil => exact List.nodup_nil
  | @cons result block results blocks here others ih =>
    rw [List.map_cons, List.nodup_cons] at distinct
    rw [List.forall_mem_cons] at each
    obtain ⟨own, inside⟩ := each.1 block here
    rw [List.flatten_cons, List.map_append, List.nodup_append]
    refine ⟨own, ih distinct.2 each.2, ?_⟩
    rintro _ first _ second rfl
    obtain ⟨artifact, member, same⟩ := List.mem_map.mp first
    obtain ⟨other, member', same'⟩ := List.mem_map.mp second
    obtain ⟨later, among, late⟩ := List.mem_flatten.mp member'
    obtain ⟨result', listed, done⟩ := right_member others among
    obtain ⟨rest, path⟩ := inside artifact member
    obtain ⟨rest', path'⟩ := (each.2 result' listed later done).2 other late
    have names := congrArg Path.parts (path.symm.trans (same.trans (same'.symm.trans path')))
    obtain ⟨name, -⟩ := List.cons.inj (List.append_cancel_left names)
    exact distinct.1 (List.mem_map.mpr ⟨result', listed, name.symm⟩)

/-- The entries that the walk goes through have distinct names. -/
theorem names_distinct {α : Type} {entries : List (Text × α)} (distinct : (entries.map Prod.fst).Nodup)
    (keep : Text × α → Bool) : ((byName (entries.filter keep)).map Prod.fst).Nodup := by
  rw [((perm_byName _).map Prod.fst).nodup_iff]
  exact distinct.sublist (List.filter_sublist.map _)

theorem walk_distinct {node : Node} (named : node.WellNamed) :
    ∀ {base artifacts}, ("scratch" : Text) ∉ base →
      walk host store selected manifest base node = .ok artifacts →
      (artifacts.map Artifact.path).Nodup := by
  induction node using Node.induct with
  | file | symlink | special =>
    intro base artifacts _ walked
    cases walked
    exact List.nodup_nil
  | dir refused entries ih =>
    intro base artifacts outside walked
    cases refused with
    | some e => cases walked
    | none =>
      obtain ⟨own, deeper, -, files, blocks, rfl⟩ := inventory_ok walked outside
      cases named with
      | dir _ distinct names under =>
        have block {result block} (among : result ∈ byName ((walkAll host store selected manifest
              base entries).filter fun result => (entered selected base entries).contains result.1))
            (done : result.2 = .ok block) : (block.map Artifact.path).Nodup ∧ ∀ artifact ∈ block,
              ∃ rest, rest ≠ [] ∧ artifact.path = .relative (base ++ result.1 :: rest) := by
          obtain ⟨listed, chosen⟩ := List.mem_filter.mp ((perm_byName _).mem_iff.mp among)
          rw [walkAll_eq, List.mem_map] at listed
          obtain ⟨⟨name, child⟩, entry, rfl⟩ := listed
          rw [List.contains_iff_mem, mem_entered] at chosen
          have outside' : ("scratch" : Text) ∉ base ++ [name] := by
            simp [outside, Ne.symm chosen.1]
          refine ⟨ih _ entry (under _ entry) outside' done, fun artifact member => ?_⟩
          obtain ⟨rest, bytes, some', -, -, rfl⟩ := walk_sound (under _ entry) outside' done member
          exact ⟨rest, some', congrArg Path.relative (List.append_cons _ _ _).symm⟩
        rw [List.map_append, List.nodup_append]
        refine ⟨?_, ?_, ?_⟩
        · apply (own_paths files).nodup
          have single := names_distinct distinct fun entry => !entry.2.isDirectory
          have paths := single.map (f := fun name => Path.relative (base ++ [name])) fun a b same => by
            simpa using congrArg Path.parts same
          rwa [List.map_map] at paths
        · have results : ((walkAll host store selected manifest base entries).map Prod.fst).Nodup := by
            rw [walkAll_eq, List.map_map]
            exact distinct
          refine blocks_distinct base blocks (names_distinct results _) fun result among block' done => ?_
          obtain ⟨once, deep⟩ := block among done
          refine ⟨once, fun artifact member => ?_⟩
          obtain ⟨rest, -, path⟩ := deep artifact member
          exact ⟨rest, path⟩
        · rintro path first _ second rfl
          obtain ⟨entry, -, shallow⟩ := List.mem_map.mp ((own_paths files).subset first)
          obtain ⟨artifact, member, deep⟩ := List.mem_map.mp second
          obtain ⟨block', inside, member⟩ := List.mem_flatten.mp member
          obtain ⟨result, among, done⟩ := right_member blocks inside
          obtain ⟨rest, some', path⟩ := (block among done).2 artifact member
          have names := congrArg Path.parts (shallow.trans (deep.symm.trans path))
          obtain ⟨-, rest'⟩ := List.cons.inj (List.append_cancel_left names)
          exact some' rest'.symm

end Walk
/-! ## The manifest -/

section Register
variable {host : Host} {store : Store} {required : List Text} {include' : Option (List Text)}
  {manifestName : Text}

/-- The items of `include`, as the walk compares them. -/
def selectionOf (include' : Option (List Text)) : Option (List Text) :=
  include'.map fun items => items.map fun item => (Path.ofText item).toText

/-- A file that the manifest is about: not the manifest, not an attempt marker, not below a directory
named `scratch`, and an item of `include` when that is given. -/
structure Wanted (store : Store) (include' : Option (List Text)) (manifest : Path)
    (names : List Text) : Prop where
  other : store.root.join (.relative names) ≠ manifest
  marker : names.getLast? ≠ some ".attempt.json"
  outside : ("scratch" : Text) ∉ names.dropLast
  included : ∀ items, include' = some items → ∃ item ∈ items, Path.ofText item = .relative names

/-- A link that the walk looks at: one to a directory where a directory would be entered, one to
anything else where a file would be listed. -/
def TraversedLink (store : Store) (include' : Option (List Text)) (manifest : Path)
    (names : List Text) : Prop :=
  (store.tree.at? names = some (.symlink true) ∧ ("scratch" : Text) ∉ names.dropLast ∧
    ∀ items, include' = some items → ∃ item ∈ items, Path.relative names ∈ (Path.ofText item).parents) ∨
  (store.tree.at? names = some (.symlink false) ∧ Wanted store include' manifest names)

structure Complete (host : Host) (store : Store) (required : List Text)
    (include' : Option (List Text)) (manifest : Path) (artifacts : List Artifact) : Prop where
  distinct : (artifacts.map Artifact.path).Nodup
  exact' : ∀ artifact, artifact ∈ artifacts ↔ ∃ names bytes,
    store.tree.at? names = some (.file (.ok bytes)) ∧ Wanted store include' manifest names ∧
      artifact = artifactOf host names bytes
  readable : ∀ names content, store.tree.at? names = some (.file content) →
    Wanted store include' manifest names → ∃ bytes, content = .ok bytes
  required' : ∀ text ∈ required, ∃ artifact ∈ artifacts, artifact.path.toText = text
  included : ∀ items, include' = some items → ∀ item ∈ items,
    ∃ artifact ∈ artifacts, artifact.path = Path.ofText item
  linkless : ∀ names, ¬ TraversedLink store include' manifest names
  inside : ∀ artifact ∈ artifacts, (".." : Text) ∉ artifact.path.parts ∧
    store.root ∈ (store.root.join artifact.path).parents

/-- The items of an accepted `include` are relative paths of valid names. -/
def Named (include' : Option (List Text)) : Prop :=
  ∀ items, include' = some items → ∀ item ∈ items, ∃ names,
    (∀ name ∈ names, ValidName name) ∧ Path.ofText item = .relative names

theorem selection_found {selected : Option (List Text)}
    (found : include'.mapM (selection store) = .ok selected) :
    selected = selectionOf include' ∧ Named include' := by
  cases include' with
  | none =>
    cases found
    exact ⟨rfl, nofun⟩
  | some items =>
    cases texts : selection store items with
    | error e =>
      simp [texts] at found
    | ok texts' =>
      simp [texts] at found
      subst found
      refine ⟨congrArg some (selection_ok texts), fun _ given item member => ?_⟩
      cases given
      obtain ⟨text, -, here⟩ := forall₂_member (mapM_forall₂.mp texts) member
      obtain ⟨path, known, -⟩ := bind_ok.mp here
      obtain ⟨zero, -, plain, -⟩ := path_ok known
      have ascending : (".." : Text) ∉ (Path.ofText item).parts := by
        rw [Store.plain, Bool.and_eq_true] at plain
        simpa using plain.2
      exact ⟨(Path.ofText item).parts, Path.ofText_valid ascending, Path.eq_relative zero⟩

theorem selects_iff {names : List Text} (accepted : Named include')
    (valid : ∀ name ∈ names, ValidName name) : selects (selectionOf include') names = true ↔
      ∀ items, include' = some items → ∃ item ∈ items, Path.ofText item = .relative names := by
  cases include' with
  | none => simp [selectionOf, selects]
  | some items =>
    simp only [selectionOf, selects, Option.map_some, List.contains_iff_mem, List.mem_map,
      Option.some.injEq, forall_eq']
    refine exists_congr fun item => and_congr_right fun member => ?_
    obtain ⟨own, validOwn, same⟩ := accepted items rfl item member
    rw [same]
    constructor
    · intro text
      rw [Path.toText_injective validOwn valid text]
    · intro paths
      rw [paths]

theorem keepsOf_iff {names : List Text} (accepted : Named include') :
    keeps (selectionOf include') names = true ↔ ∀ items, include' = some items →
      ∃ item ∈ items, Path.relative names ∈ (Path.ofText item).parents := by
  cases include' with
  | none => simp [selectionOf, keeps]
  | some items =>
    simp only [selectionOf, keeps, Option.map_some, List.any_map, List.any_eq_true,
      Option.some.injEq, forall_eq', Function.comp_apply, List.contains_iff_mem]
    refine exists_congr fun item => and_congr_right fun member => ?_
    obtain ⟨own, validOwn, same⟩ := accepted items rfl item member
    rw [same, Path.ofText_toText validOwn]

theorem listed_iff {names : List Text} (accepted : Named include')
    (valid : ∀ name ∈ names, ValidName name) :
    Listed store (selectionOf include') manifest names ↔ Wanted store include' manifest names := by
  rw [Listed, selects_iff accepted valid]
  exact ⟨fun ⟨other, marker, outside, included⟩ => ⟨other, marker, outside, included⟩,
    fun ⟨other, marker, outside, included⟩ => ⟨other, marker, outside, included⟩⟩

/-- The walk of the whole tree. -/
theorem walk_exact {artifacts : List Artifact} (accepted : Named include')
    (walked : walk host store (selectionOf include') manifest [] store.tree = .ok artifacts)
    (artifact : Artifact) :
    artifact ∈ artifacts ↔ ∃ names bytes, store.tree.at? names = some (.file (.ok bytes)) ∧
      Wanted store include' manifest names ∧ artifact = artifactOf host names bytes := by
  constructor
  · intro member
    obtain ⟨names, bytes, -, found, listed, same⟩ := walk_sound store.named (by simp) walked member
    exact ⟨names, bytes, found, (listed_iff accepted (store.named.passed found)).mp listed, same⟩
  · rintro ⟨names, bytes, found, wanted, rfl⟩
    have some' : names ≠ [] := by
      rintro rfl
      cases found
    have listed := (listed_iff accepted (store.named.passed found)).mpr wanted
    obtain ⟨_, same, member⟩ := walk_complete store.named (by simp) (by simp) walked some' found listed
    cases same
    exact member

/-- A wanted file that cannot be read leaves no manifest. -/
theorem walk_readable {artifacts : List Artifact} {names : List Text} {content : Except Exn Bytes}
    (accepted : Named include')
    (walked : walk host store (selectionOf include') manifest [] store.tree = .ok artifacts)
    (found : store.tree.at? names = some (.file content)) (wanted : Wanted store include' manifest names) :
    ∃ bytes, content = .ok bytes := by
  have some' : names ≠ [] := by
    rintro rfl
    cases found
  have listed := (listed_iff accepted (store.named.passed found)).mpr wanted
  obtain ⟨bytes, same, -⟩ := walk_complete store.named (by simp) (by simp) walked some' found listed
  cases same
  exact ⟨bytes, rfl⟩

theorem walk_linkless {artifacts : List Artifact} (accepted : Named include')
    (walked : walk host store (selectionOf include') manifest [] store.tree = .ok artifacts)
    (names : List Text) : ¬ TraversedLink store include' manifest names := by
  have some' {toDirectory : Bool} (found : store.tree.at? names = some (.symlink toDirectory)) :
      names ≠ [] := by
    rintro rfl
    cases found
  rintro (⟨found, outside, kept⟩ | ⟨found, wanted⟩)
  · obtain ⟨_, same, -⟩ := walk_complete store.named (by simp) (by simp) walked (some' found) found
      ⟨outside, (keepsOf_iff accepted).mpr kept⟩
    cases same
  · have listed := (listed_iff accepted (store.named.passed found)).mpr wanted
    obtain ⟨_, same, -⟩ := walk_complete store.named (by simp) (by simp) walked (some' found) found listed
    cases same

theorem collect_complete
    (found : collect host store required include' manifestName = .ok (manifest, artifacts)) :
    Complete host store required include' manifest artifacts := by
  unfold collect at found
  obtain ⟨_, -, found⟩ := bind_ok.mp found
  obtain ⟨_, -, found⟩ := bind_ok.mp found
  obtain ⟨manifest', -, found⟩ := bind_ok.mp found
  obtain ⟨selected, chosen, found⟩ := bind_ok.mp found
  obtain ⟨artifacts', walked, found⟩ := bind_ok.mp found
  obtain ⟨rfl, accepted⟩ := selection_found chosen
  dsimp only at found
  split at found
  · next complete =>
    cases found
    have available {text : Text} (wanted : text ∈ required ++ (selectionOf include').getD []) :
        ∃ artifact ∈ artifacts, artifact.path.toText = text := by
      by_contra absent
      have listed : text ∈ sortedSet ((required ++ (selectionOf include').getD []).filter fun text =>
          !(artifacts.map fun artifact => artifact.path.toText).contains text) := by
        rw [mem_sortedSet, List.mem_filter]
        refine ⟨wanted, ?_⟩
        rw [Bool.not_eq_true', List.contains_eq_mem, decide_eq_false_iff_not, List.mem_map]
        exact absent
      rw [complete] at listed
      cases listed
    have exact' := walk_exact accepted walked
    constructor
    · exact walk_distinct store.named (by simp) walked
    · exact exact'
    · exact fun names content => walk_readable accepted walked
    · exact fun text member => available (List.mem_append_left _ member)
    · rintro items rfl item member
      obtain ⟨own, valid, same⟩ := accepted items rfl item member
      have selected : (Path.ofText item).toText ∈ (selectionOf (some items)).getD [] :=
        List.mem_map.mpr ⟨item, member, rfl⟩
      obtain ⟨artifact, inside, text⟩ := available (List.mem_append_right _ selected)
      obtain ⟨names, bytes, found, -, rfl⟩ := (exact' artifact).mp inside
      rw [same] at text ⊢
      have names' := Path.toText_injective (store.named.passed found) valid text
      exact ⟨_, inside, congrArg Path.relative names'⟩
    · exact walk_linkless accepted walked
    · intro artifact member
      obtain ⟨names, bytes, found, -, rfl⟩ := (exact' artifact).mp member
      have valid := store.named.passed found
      constructor
      · exact fun up => (valid _ up).2.2.2 rfl
      · apply mem_parents.mpr
        refine ⟨store.root.parts, names, rfl, ?_, rfl⟩
        rintro rfl
        cases found
  · cases found

theorem atomicJson_cases (disk : Disk) (published : Published) (path : Path) (payload : Json) :
    (∃ e, atomicJson disk published path payload = (.error e, published)) ∨
      atomicJson disk published path payload =
        (.ok (), fun other => if other = path then some payload else published other) := by
  unfold atomicJson
  split
  · split
    · exact Or.inl ⟨_, rfl⟩
    · split
      · split
        · exact Or.inl ⟨_, rfl⟩
        · exact Or.inr rfl
      · exact Or.inl ⟨_, rfl⟩
  · exact Or.inl ⟨_, rfl⟩

/-- `register` raises and publishes nothing, or it publishes a complete manifest and nothing else. -/
theorem register_complete (host : Host) (store : Store) (published : Published) (identity : Dict)
    (outcome : Text) (required : List Text) (include' : Option (List Text)) (manifestName : Text) :
    match register host store published identity outcome required include' manifestName with
    | (.error _, after) => after = published
    | (.ok manifest, after) => ∃ artifacts,
        Complete host store required include' manifest artifacts ∧
        after = fun path => if path = manifest then some (manifestDocument identity outcome artifacts)
          else published path := by
  unfold register
  cases found : collect host store required include' manifestName with
  | error e => rfl
  | ok result =>
    obtain ⟨manifest, artifacts⟩ := result
    rcases atomicJson_cases store.disk published manifest (manifestDocument identity outcome artifacts)
      with ⟨e, failed⟩ | written
    · simp only [failed]
    · simp only [written]
      exact ⟨artifacts, collect_complete found, rfl⟩

end Register
end InferForge.Artifacts

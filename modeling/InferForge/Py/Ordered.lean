import InferForge.Py.Dumps
import Mathlib.Data.List.Perm.Basic
import Mathlib.Data.List.Nodup

/-! Collections that keep the order of insertion: the keys of a dict, and dicts over any type of
keys. -/
namespace InferForge.Py

section Keys
variable {κ : Type} [DecidableEq κ] {key other : κ} {seen : List κ}

/-- One more key, unless it is there. -/
def insertNew (seen : List κ) (key : κ) : List κ := if key ∈ seen then seen else seen ++ [key]

/-- `list(dict.fromkeys(keys))`. -/
def fromKeys (keys : List κ) : List κ := keys.foldl insertNew []

theorem mem_insertNew : key ∈ insertNew seen other ↔ key ∈ seen ∨ key = other := by
  unfold insertNew
  split
  · next old =>
    constructor
    · exact Or.inl
    · rintro (member | rfl)
      · exact member
      · exact old
  · rw [List.mem_append, List.mem_singleton]

theorem nodup_insertNew (distinct : seen.Nodup) (key : κ) : (insertNew seen key).Nodup := by
  unfold insertNew
  split
  · exact distinct
  · next fresh =>
    apply List.nodup_append.mpr
    refine ⟨distinct, List.nodup_singleton key, fun a old b new same => fresh ?_⟩
    rw [← List.mem_singleton.mp new, ← same]
    exact old

theorem mem_foldl_insertNew (keys seen : List κ) :
    key ∈ keys.foldl insertNew seen ↔ key ∈ seen ∨ key ∈ keys := by
  induction keys generalizing seen with
  | nil => simp
  | cons first keys ih => rw [List.foldl_cons, ih, mem_insertNew, List.mem_cons, or_assoc]

@[simp] theorem mem_fromKeys {keys : List κ} : key ∈ fromKeys keys ↔ key ∈ keys := by
  rw [fromKeys, mem_foldl_insertNew]
  simp

theorem nodup_fromKeys (keys : List κ) : (fromKeys keys).Nodup := by
  have grown (keys : List κ) : ∀ seen : List κ, seen.Nodup → (keys.foldl insertNew seen).Nodup := by
    induction keys with
    | nil => exact fun _ => id
    | cons key keys ih => exact fun seen distinct => ih _ (nodup_insertNew distinct key)
  exact grown keys [] List.nodup_nil

/-- Lists with the same members have the same keys, up to their order. -/
theorem fromKeys_perm {keys other : List κ} (same : ∀ key, key ∈ keys ↔ key ∈ other) :
    (fromKeys keys).Perm (fromKeys other) := by
  rw [List.perm_ext_iff_of_nodup (nodup_fromKeys keys) (nodup_fromKeys other)]
  intro key
  rw [mem_fromKeys, mem_fromKeys, same]

end Keys

section Lookup
variable {α β : Type} {a : α} {b : β}

theorem mem_of_lookup [BEq α] [LawfulBEq α] {l : List (α × β)} (found : l.lookup a = some b) :
    (a, b) ∈ l := by
  induction l with
  | nil => simp at found
  | cons pair rest ih =>
    obtain ⟨k, v⟩ := pair
    rw [List.lookup_cons] at found
    by_cases same : a = k
    · subst same
      simp only [beq_self_eq_true] at found
      cases found
      exact List.mem_cons_self ..
    · simp only [beq_eq_false_iff_ne.mpr same] at found
      exact List.mem_cons_of_mem _ (ih found)

theorem lookup_mem [BEq α] [LawfulBEq α] {l : List (α × β)} (distinct : (l.map Prod.fst).Nodup) :
    l.lookup a = some b ↔ (a, b) ∈ l := by
  constructor
  · exact mem_of_lookup
  · intro member
    induction l with
    | nil => cases member
    | cons pair rest ih =>
      obtain ⟨k, v⟩ := pair
      rw [List.map_cons, List.nodup_cons] at distinct
      rw [List.mem_cons, Prod.mk.injEq] at member
      rw [List.lookup_cons]
      obtain ⟨rfl, rfl⟩ | member := member
      · simp
      · have other : a ≠ k := by
          rintro rfl
          exact distinct.1 (List.mem_map.mpr ⟨_, member, rfl⟩)
        simp only [beq_eq_false_iff_ne.mpr other]
        exact ih distinct.2 member

end Lookup

section Entries
variable {κ ν : Type} [DecidableEq κ]

/-- `d[key] = value`. -/
def assign : List (κ × ν) → κ → ν → List (κ × ν)
  | [], key, value => [(key, value)]
  | (k, v) :: rest, key, value =>
      if k = key then (k, value) :: rest else (k, v) :: assign rest key value

theorem lookup_cons_if [BEq κ] [LawfulBEq κ] (entry : κ × ν) (rest : List (κ × ν)) (key : κ) :
    (entry :: rest).lookup key = if key = entry.1 then some entry.2 else rest.lookup key := by
  rw [List.lookup_cons]
  by_cases same : key = entry.1
  · rw [if_pos same, beq_iff_eq.mpr same]
  · rw [if_neg same, beq_eq_false_iff_ne.mpr same]

theorem lookup_assign [BEq κ] [LawfulBEq κ] (entries : List (κ × ν)) (key other : κ) (value : ν) :
    (assign entries key value).lookup other =
      if other = key then some value else entries.lookup other := by
  induction entries with
  | nil => rw [assign, lookup_cons_if]
  | cons entry rest ih =>
    obtain ⟨k, v⟩ := entry
    by_cases here : k = key
    · subst here
      rw [assign, if_pos rfl, lookup_cons_if, lookup_cons_if]
      split <;> rfl
    · rw [assign, if_neg here, lookup_cons_if, lookup_cons_if, ih]
      by_cases same : other = k
      · rw [if_pos same, if_pos same, if_neg (same ▸ here)]
      · rw [if_neg same, if_neg same]

theorem keys_assign (entries : List (κ × ν)) (key : κ) (value : ν) :
    (assign entries key value).map Prod.fst = insertNew (entries.map Prod.fst) key := by
  induction entries with
  | nil => rfl
  | cons entry rest ih =>
    obtain ⟨k, v⟩ := entry
    by_cases here : k = key
    · simp [assign, insertNew, here]
    · have other : key ≠ k := Ne.symm here
      simp only [assign, if_neg here, List.map_cons, ih, insertNew, List.mem_cons, other, false_or]
      split <;> rfl

end Entries

/-- `sorted(set(texts))`. -/
def sortedSet (texts : List Text) : List Text :=
  (texts.foldl (fun seen t => if t ∈ seen then seen else seen ++ [t]) []).insertionSort
    fun a b => Json.codesLe a.codes b.codes = true

theorem perm_sortedSet (texts : List Text) : (sortedSet texts).Perm (fromKeys texts) :=
  List.perm_insertionSort _ _

theorem mem_sortedSet : t ∈ sortedSet texts ↔ t ∈ texts := by
  rw [(perm_sortedSet texts).mem_iff, mem_fromKeys]

theorem nodup_sortedSet (texts : List Text) : (sortedSet texts).Nodup :=
  (perm_sortedSet texts).nodup_iff.mpr (nodup_fromKeys texts)

theorem sorted_sortedSet (texts : List Text) :
    (sortedSet texts).Pairwise fun a b => Json.codesLe a.codes b.codes = true := by
  have : Std.Total fun a b : Text => Json.codesLe a.codes b.codes = true :=
    ⟨fun a b => Json.codesLe_total a.codes b.codes⟩
  have : IsTrans Text fun a b => Json.codesLe a.codes b.codes = true :=
    ⟨fun _ _ _ => Json.codesLe_trans⟩
  exact List.pairwise_insertionSort _ _

/-- The sorted set shows nothing but the members. -/
theorem sortedSet_congr {a b : List Text} (same : ∀ t, t ∈ a ↔ t ∈ b) : sortedSet a = sortedSet b := by
  refine List.Perm.eq_of_pairwise (fun x y _ _ first second => ?_) (sorted_sortedSet a) (sorted_sortedSet b)
    (((perm_sortedSet a).trans (fromKeys_perm same)).trans (perm_sortedSet b).symm)
  exact Text.ext (Json.codesLe_antisymm first second)

section StableSort
variable {α : Type} {r : α → α → Prop} [DecidableRel r]

theorem filter_orderedInsert [IsTrans α r] (p : α → Bool) (a : α) {items : List α}
    (sorted : items.Pairwise r) : (items.orderedInsert r a).filter p =
      if p a then (items.filter p).orderedInsert r a else items.filter p := by
  induction items with
  | nil => by_cases kept : p a <;> simp [kept]
  | cons b rest ih =>
    obtain ⟨before, sorted⟩ := List.pairwise_cons.mp sorted
    rw [List.orderedInsert_cons]
    split
    · next first =>
      have first : ∀ c ∈ (b :: rest).filter p, r a c := fun c member => by
        obtain rfl | later := List.mem_cons.mp (List.mem_of_mem_filter member)
        · exact first
        · exact IsTrans.trans (r := r) _ _ _ first (before c later)
      by_cases kept : p a
      · rw [List.filter_cons_of_pos kept, if_pos kept]
        cases left : (b :: rest).filter p with
        | nil => rfl
        | cons c others => rw [List.orderedInsert_cons, if_pos (first c (left ▸ List.mem_cons_self))]
      · rw [List.filter_cons_of_neg kept, if_neg kept]
    · next later =>
      by_cases front : p b
      · rw [List.filter_cons_of_pos front, List.filter_cons_of_pos front, ih sorted]
        split
        · rw [List.orderedInsert_cons, if_neg later]
        · rfl
      · rw [List.filter_cons_of_neg front, List.filter_cons_of_neg front, ih sorted]

/-- A stable sort of the items that are kept is the sort of all, those kept. -/
theorem filter_insertionSort [Std.Total r] [IsTrans α r] (p : α → Bool) (items : List α) :
    (items.insertionSort r).filter p = (items.filter p).insertionSort r := by
  induction items with
  | nil => rfl
  | cons a rest ih =>
    rw [List.insertionSort_cons, filter_orderedInsert p a (List.pairwise_insertionSort r rest), ih]
    split
    · next kept => rw [List.filter_cons_of_pos kept, List.insertionSort_cons]
    · next dropped => rw [List.filter_cons_of_neg dropped]
end StableSort

end InferForge.Py

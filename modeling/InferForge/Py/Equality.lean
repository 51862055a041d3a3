import InferForge.Py.RoundTrip
import Mathlib.Data.List.Perm.Subperm

/-! Python's `==` on parsed documents: two values that a third one equals are equal. -/
namespace InferForge.Py

theorem Double.eq_of_common {v a b : Double} (left : v.eq a = true) (right : v.eq b = true) :
    a.eq b = true := by
  cases v <;> cases a <;> cases b <;> simp_all [Double.eq]

namespace Json

theorem eq_number {v a : Json} (number : v.num? = some x) :
    v.eq a = true ↔ ∃ y, a.num? = some y ∧ x.eq y = true := by
  cases v <;> cases a <;> simp_all [num?, eq]

theorem eq_null (a : Json) : Json.null.eq a = true ↔ a = .null := by
  cases a <;> simp [eq, num?]

theorem eqFields_iff {xs ys : List (Text × Json)} : eqFields xs ys = true ↔
    ∀ field ∈ xs, ∃ w, ys.lookup field.1 = some w ∧ field.2.eq w = true := by
  induction xs with
  | nil => simp [eqFields]
  | cons field rest ih =>
    obtain ⟨k, v⟩ := field
    rw [eqFields, Bool.and_eq_true, ih, List.forall_mem_cons]
    cases ys.lookup k with
    | none => simp
    | some w => simp

theorem distinctFields_iff {fields : List (Text × Json)} : distinctFields fields = true ↔
    (fields.map Prod.fst).Nodup ∧ ∀ field ∈ fields, field.2.distinct = true := by
  induction fields with
  | nil => simp [distinctFields]
  | cons field rest ih =>
    obtain ⟨key, value⟩ := field
    simp only [distinctFields, Bool.and_eq_true, Bool.not_eq_true', List.contains_eq_mem,
      decide_eq_false_iff_not, ih, List.map_cons, List.nodup_cons, List.forall_mem_cons]
    constructor
    · rintro ⟨⟨fresh, here⟩, nodup, there⟩
      exact ⟨⟨fresh, nodup⟩, here, there⟩
    · rintro ⟨⟨fresh, nodup⟩, here, there⟩
      exact ⟨⟨fresh, here⟩, nodup, there⟩

/-- Equal dicts have the same keys, up to their order. -/
theorem keys_perm {xs ys : List (Text × Json)} (nodup : (xs.map Prod.fst).Nodup)
    (same : (Json.obj xs).eq (.obj ys) = true) :
    (xs.map Prod.fst).Perm (ys.map Prod.fst) := by
  rw [eq, Bool.and_eq_true, beq_iff_eq, eqFields_iff] at same
  obtain ⟨size, found⟩ := same
  apply (List.subperm_of_subset nodup ?_).perm_of_length_le
  · rw [List.length_map, List.length_map, size]
  · intro key known
    obtain ⟨field, member, rfl⟩ := List.mem_map.mp known
    obtain ⟨w, bound, -⟩ := found field member
    exact List.mem_map.mpr ⟨_, mem_of_lookup bound, rfl⟩

/-- Equal dicts bind the same keys, to equal values. -/
theorem eq_lookup {xs ys : List (Text × Json)} (nodup : (xs.map Prod.fst).Nodup)
    (same : (Json.obj xs).eq (.obj ys) = true) (key : Text) :
    Option.Rel (fun x y => x.eq y = true) (xs.lookup key) (ys.lookup key) := by
  have keys := keys_perm nodup same
  rw [eq, Bool.and_eq_true] at same
  cases here : xs.lookup key with
  | some x =>
    obtain ⟨y, there, equal⟩ := eqFields_lookup same.2 here
    rw [there]
    exact .some equal
  | none =>
    cases there : ys.lookup key with
    | none => exact .none
    | some y =>
      obtain ⟨field, member, rfl⟩ := List.mem_map.mp
        (keys.mem_iff.mpr (List.mem_map.mpr ⟨_, mem_of_lookup there, rfl⟩))
      rw [(lookup_mem nodup).mpr member] at here
      cases here

/-- Whatever two values `v` equals, they equal each other. -/
def Joins (v : Json) : Prop :=
  v.distinct = true → ∀ a b, v.eq a = true → v.eq b = true → a.eq b = true

theorem joins_number {v : Json} (number : v.num? = some x) : Joins v := by
  intro _ a b left right
  obtain ⟨y, here, left⟩ := (eq_number number).mp left
  obtain ⟨z, there, right⟩ := (eq_number number).mp right
  exact (eq_number here).mpr ⟨z, there, Double.eq_of_common left right⟩

theorem joins_items {items : List Json} (each : ∀ item ∈ items, Joins item)
    (distinct : distinctItems items = true) {xs ys : List Json}
    (left : eqItems items xs = true) (right : eqItems items ys = true) : eqItems xs ys = true := by
  induction items generalizing xs ys with
  | nil =>
    cases xs with
    | nil => exact right
    | cons => cases left
  | cons item rest ih =>
    cases xs with
    | nil => cases left
    | cons x xs =>
      cases ys with
      | nil => cases right
      | cons y ys =>
        simp only [eqItems, distinctItems, Bool.and_eq_true] at left right distinct ⊢
        rw [List.forall_mem_cons] at each
        exact ⟨each.1 distinct.1 x y left.1 right.1, ih each.2 distinct.2 left.2 right.2⟩

theorem joins_fields {fields : List (Text × Json)} (each : ∀ field ∈ fields, Joins field.2) :
    Joins (.obj fields) := by
  intro distinct a b left right
  obtain ⟨nodup, inner⟩ := distinctFields_iff.mp distinct
  cases a with
  | obj xs =>
    cases b with
    | obj ys =>
      have keys := keys_perm nodup left
      simp only [eq, Bool.and_eq_true, beq_iff_eq, eqFields_iff] at left right ⊢
      refine ⟨left.1.symm.trans right.1, fun field member => ?_⟩
      obtain ⟨origin, known, same⟩ :=
        List.mem_map.mp (keys.mem_iff.mpr (List.mem_map_of_mem member))
      obtain ⟨w, bound, equal⟩ := left.2 origin known
      obtain ⟨u, there, other⟩ := right.2 origin known
      rw [same] at bound there
      obtain rfl : field.2 = w := by
        rw [(lookup_mem (keys.nodup_iff.mp nodup)).mpr member] at bound
        exact Option.some.inj bound
      exact ⟨u, there, each origin known (inner origin known) _ _ equal other⟩
    | null | bool | int | float | str | arr => simp [eq, num?] at right
  | null | bool | int | float | str | arr => simp [eq, num?] at left

mutual

theorem joins : (v : Json) → Joins v
  | .null => by
      intro _ a b left right
      rw [eq_null] at left right
      rw [left, right]
      rfl
  | .str t => by
      intro _ a b left right
      rw [eq_str_left] at left right
      rw [left, right, eq_str_left]
  | .bool _ => joins_number rfl
  | .int _ => joins_number rfl
  | .float _ => joins_number rfl
  | .arr items => by
      intro distinct a b left right
      cases a with
      | arr xs =>
        cases b with
        | arr ys => exact joins_items (joinsItems items) distinct left right
        | null | bool | int | float | str | obj => simp [eq, num?] at right
      | null | bool | int | float | str | obj => simp [eq, num?] at left
  | .obj fields => joins_fields (joinsFields fields)

theorem joinsItems : (items : List Json) → ∀ item ∈ items, Joins item
  | [] => nofun
  | item :: rest => List.forall_mem_cons.mpr ⟨joins item, joinsItems rest⟩

theorem joinsFields : (fields : List (Text × Json)) → ∀ field ∈ fields, Joins field.2
  | [] => nofun
  | (_, value) :: rest => List.forall_mem_cons.mpr ⟨joins value, joinsFields rest⟩

end

theorem eq_of_common {v a b : Json} (distinct : v.distinct = true) (left : v.eq a = true)
    (right : v.eq b = true) : a.eq b = true := joins v distinct a b left right

end Json
end InferForge.Py

import InferForge.Host
import InferForge.Py.Ordered
import InferForge.Effect

/-! Operator requests for the shims of a registry. -/
namespace InferForge.Shims
open Py Effect

/-! ## Requests -/

/-- A request of `operator_lifecycle.dispatch`. -/
structure Request where
  requestId : Text
  subject : Text
  operator : Json
  gap : Dict
  baselineId : Json

/-- What a request file holds. -/
def Request.toDict (request : Request) : Dict :=
  [("request_id", .str request.requestId), ("subject", .str request.subject),
    ("operator", request.operator), ("gap", .obj request.gap), ("baseline_id", request.baselineId),
    ("status", .str "PENDING"),
    ("required_inputs", .arr [.str "op_contract.json", .str "reference_provenance.json",
      .str "captured_arguments.jsonl", .str "environment_fingerprint.json"]),
    ("completion_requires", .arr [.str "generation_manifest.json", .str "build_report.json",
      .str "kernel_grade.json", .str "dispatch_report.json"])]

/-- `f"{n:03d}"`. -/
def threeDigits (n : Nat) : Text :=
  let digits := Nat.toDigits 10 n
  Text.ofString (String.ofList (List.replicate (3 - digits.length) '0' ++ digits))

def requestId (subject : Text) (index : Nat) : Text := subject ++ "-op-" ++ threeDigits index

/-- `gap.get("operator") or gap.get("symbol") or gap.get("name")`, and the axis of a missing
capability. -/
def operatorOf (gap : Dict) : Json :=
  let operator := ((gap.getD "operator" .null).or (gap.getD "symbol" .null)).or (gap.getD "name" .null)
  if !operator.truthy && (gap.getD "class" .null).eq (.str "CAPABILITY_MISSING") then
    gap.getD "axis" .null
  else operator

/-- The body of the loop: a gap without an operator makes no request. -/
def requestOf (subject : Text) (baselineId : Json) (gap : Json) (index : Nat) : Option Request :=
  match gap with
  | .obj gap =>
      let operator := operatorOf gap
      if operator.truthy then some ⟨requestId subject index, subject, operator, gap, baselineId⟩
      else none
  | _ => none

/-- The gaps of a source document. -/
def gapsOf (source : Json) : List Json :=
  let gaps := match source with
    | .obj fields => Dict.getD fields "gaps" (Dict.getD fields "findings" (.arr []))
    | other => other
  match gaps with
  | .arr items => items
  | _ => []

/-- The requests that `dispatch` makes, in their order. -/
def dispatch (source : Json) (subject : Text) (baselineId : Json) : List Request :=
  ((gapsOf source).zipIdx 1).filterMap fun gap => requestOf subject baselineId gap.1 gap.2

/-- The files under `requests`, by the id they are written under. -/
def requestFiles (requests : List Request) : List (Text × Request) :=
  requests.foldl (fun files request => assign files request.requestId request) []

/-! ## The registry -/

def waived (entry : Dict) : Bool := (entry.getD "status" .null).eq (.str "WAIVED")

def hasRequest (entry : Dict) : Bool := (entry.getD "request_id" .null).truthy

def dispatchable (entry : Dict) : Bool := !waived entry && !hasRequest entry

/-- The gap of an entry. -/
def shimGap (entry : Dict) : Except Exn Json := do
  let name ← (Json.obj entry).item "name"
  let location ← (Json.obj entry).item "location"
  let replacedKernel ← (Json.obj entry).item "replaced_kernel"
  let callFrequency ← (Json.obj entry).item "call_frequency"
  let semanticsBasis ← (Json.obj entry).item "semantics_basis"
  return .obj [("name", name), ("class", .str "TORCH_SHIM"), ("location", location),
    ("replaced_kernel", replacedKernel), ("call_frequency", callFrequency),
    ("semantics_basis", semanticsBasis), ("source", .str "torch_shim_registry")]

/-- What an entry becomes when it is paired with a request. -/
def dispatched (entry : Dict) (id : Text) : Dict :=
  ((entry.set "request_id" (.str id)).set "status" (.str "DISPATCHED")).set "dispatched_this_run"
    (.bool true)

/-- `zip(dispatchable, requests)`: the dispatchable entries take the ids in turn. -/
def assignIds : List Dict → List Text → List Dict
  | [], _ => []
  | entry :: rest, ids =>
      if dispatchable entry then
        match ids with
        | [] => entry :: assignIds rest []
        | id :: ids => dispatched entry id :: assignIds rest ids
      else entry :: assignIds rest ids

/-- The dispatch step of `execute`: the entries after it, and the requests it made. The gaps are read
back from the file they are written to. -/
def dispatchStep (subject : Text) (entries : List Dict) : Except Exn (List Dict × List Request) := do
  let gaps ← (entries.filter dispatchable).mapM shimGap
  let requests := if gaps.isEmpty then [] else dispatch (.obj [("gaps", .arr gaps)]) subject .null
  return (assignIds entries (requests.map Request.requestId), requests)

/-! ## Ids -/

theorem threeDigits_injective (same : threeDigits m = threeDigits n) : m = n := by
  have digits := congrArg String.toList (Text.ofString_injective same)
  simp only [String.toList_ofList] at digits
  have values := congrArg (Nat.ofDigitChars 10 · 0) digits
  simpa [Nat.ofDigitChars_append, Nat.ofDigitChars_replicate_zero] using values

theorem requestId_injective (same : requestId subject m = requestId subject n) : m = n := by
  apply threeDigits_injective
  apply Text.ext
  have codes := congrArg Text.codes same
  simpa [requestId] using codes

/-- Two ids that Python holds for equal. -/
def sharesId (a b : Json) : Bool := a.eq b || b.eq a

@[simp] theorem sharesId_str (a : Json) (t : Text) : sharesId a (.str t) = true ↔ a = .str t := by
  rw [sharesId, Bool.or_eq_true, Json.eq_str_right]
  constructor
  · rintro (same | same)
    · exact same
    · cases a <;> simp_all [Json.eq, Json.num?]
  · exact Or.inl

/-! ## The dispatch -/

/-- `entry.get("request_id")`. -/
def requestIdOf (entry : Dict) : Json := Dict.getD entry "request_id" .null

def nameOf (entry : Dict) : Json := Dict.getD entry "name" .null

section Step
variable {subject : Text} {entries after : List Dict} {requests : List Request}

/-- The gap of an entry has its name for an operator. -/
theorem shimGap_operator (made : shimGap entry = .ok gap) :
    ∃ fields, gap = .obj fields ∧ operatorOf fields = nameOf entry := by
  unfold shimGap at made
  obtain ⟨name, named, made⟩ := bind_ok.mp made
  obtain ⟨location, _, made⟩ := bind_ok.mp made
  obtain ⟨kernel, _, made⟩ := bind_ok.mp made
  obtain ⟨frequency, _, made⟩ := bind_ok.mp made
  obtain ⟨basis, _, made⟩ := bind_ok.mp made
  refine ⟨_, (pure_ok.mp made).symm, ?_⟩
  have found : nameOf entry = name := by
    unfold Json.item at named
    unfold nameOf Dict.getD
    dsimp only at named
    split at named
    · next value here => rw [here, Option.getD_some, Except.ok.inj named]
    · cases named
  have other : (Json.str "TORCH_SHIM").eq (.str "CAPABILITY_MISSING") = false := by decide
  simp [operatorOf, Dict.getD, Json.or, Json.truthy, found, other]

variable (subject) in
theorem requestOf_gap (made : shimGap entry = .ok gap) (index : Nat) :
    (requestOf subject .null gap index).map (fun request => (request.requestId, request.operator)) =
      if (nameOf entry).truthy then some (requestId subject index, nameOf entry) else none := by
  obtain ⟨fields, rfl, operator⟩ := shimGap_operator made
  simp only [requestOf, operator]
  split <;> rfl

/-- The requests for the gaps from one index on. -/
theorem requests_named (made : List.Forall₂ (fun entry gap => shimGap entry = .ok gap) entries gaps)
    (named : ∀ entry ∈ entries, (nameOf entry).truthy = true) (start : Nat) :
    ((gaps.zipIdx start).filterMap fun gap => requestOf subject .null gap.1 gap.2).map
        (fun request => (request.requestId, request.operator)) =
      (entries.zipIdx start).map fun entry => (requestId subject entry.2, nameOf entry.1) := by
  induction made generalizing start with
  | nil => rfl
  | @cons entry gap entries gaps here _ ih =>
    rw [List.forall_mem_cons] at named
    have one : (requestOf subject .null gap start).map (fun request =>
        (request.requestId, request.operator)) = some (requestId subject start, nameOf entry) := by
      rw [requestOf_gap subject here, if_pos named.1]
    obtain ⟨request, requested, shown⟩ := Option.map_eq_some_iff.mp one
    simp only [List.zipIdx_cons, List.filterMap_cons, requested, List.map_cons, shown, ih named.2]

variable (subject) in
theorem requests_short (made : List.Forall₂ (fun entry gap => shimGap entry = .ok gap) entries gaps)
    (start : Nat) :
    ((gaps.zipIdx start).filterMap fun gap => requestOf subject .null gap.1 gap.2).length ≤
        entries.length ∧
      (((gaps.zipIdx start).filterMap fun gap => requestOf subject .null gap.1 gap.2).length =
        entries.length → ∀ entry ∈ entries, (nameOf entry).truthy = true) := by
  induction made generalizing start with
  | nil => simp
  | @cons entry gap entries gaps here _ ih =>
    obtain ⟨most, all⟩ := ih (start + 1)
    have one := requestOf_gap subject here start
    rw [List.zipIdx_cons, List.length_cons]
    by_cases named : (nameOf entry).truthy = true
    · rw [if_pos named] at one
      obtain ⟨request, requested, _⟩ := Option.map_eq_some_iff.mp one
      simp only [List.filterMap_cons, requested, List.length_cons]
      refine ⟨by omega, fun full => ?_⟩
      rw [List.forall_mem_cons]
      exact ⟨named, all (by omega)⟩
    · rw [if_neg named] at one
      simp only [List.filterMap_cons, Option.map_eq_none_iff.mp one]
      exact ⟨by omega, fun full => by omega⟩

/-! ## The pairing -/

theorem dispatched_facts (entry : Dict) (id : Text) :
    waived (dispatched entry id) = false ∧ requestIdOf (dispatched entry id) = .str id := by
  have status : Dict.get? (dispatched entry id) "status" = some (.str "DISPATCHED") := by
    rw [dispatched, Dict.get?_set_other _ _ (by decide), Dict.get?_set_same]
  have request : Dict.get? (dispatched entry id) "request_id" = some (.str id) := by
    rw [dispatched, Dict.get?_set_other _ _ (by decide), Dict.get?_set_other _ _ (by decide),
      Dict.get?_set_same]
  have other : (Json.str "DISPATCHED").eq (.str "WAIVED") = false := by decide
  exact ⟨by rw [waived, Dict.getD, status, Option.getD_some, other],
    by rw [requestIdOf, Dict.getD, request, Option.getD_some]⟩

theorem hasRequest_iff (entry : Dict) : hasRequest entry = (requestIdOf entry).truthy := rfl

/-- Too few ids leave an entry without one. -/
theorem assignIds_short {ids : List Text} (short : ids.length < (entries.filter dispatchable).length) :
    ∃ entry ∈ assignIds entries ids, waived entry = false ∧ hasRequest entry = false := by
  induction entries generalizing ids with
  | nil => simp at short
  | cons entry rest ih =>
    unfold assignIds
    by_cases open' : dispatchable entry = true
    · rw [List.filter_cons_of_pos open', List.length_cons] at short
      rw [if_pos open']
      cases ids with
      | nil =>
        refine ⟨entry, List.mem_cons_self, ?_⟩
        simpa [dispatchable] using open'
      | cons id ids =>
        have short' : ids.length < (rest.filter dispatchable).length := by
          rw [List.length_cons] at short
          omega
        obtain ⟨other, member, facts⟩ := ih short'
        exact ⟨other, List.mem_cons_of_mem _ member, facts⟩
    · rw [List.filter_cons_of_neg open'] at short
      rw [if_neg open']
      obtain ⟨other, member, facts⟩ := ih short
      exact ⟨other, List.mem_cons_of_mem _ member, facts⟩

/-- The ids that the registry holds already. -/
def heldIds (entries : List Dict) : List Json :=
  (entries.filter fun entry => !waived entry && hasRequest entry).map requestIdOf

/-- The ids of the entries that are not waived. -/
def openIds (entries : List Dict) : List Json := (entries.filter fun entry => !waived entry).map requestIdOf

/-- With an id for each, the ids are those held and those issued. -/
theorem assignIds_perm {ids : List Text} (enough : ids.length = (entries.filter dispatchable).length) :
    (openIds (assignIds entries ids)).Perm (heldIds entries ++ ids.map Json.str) := by
  induction entries generalizing ids with
  | nil =>
    obtain rfl := List.length_eq_zero_iff.mp enough
    exact List.Perm.refl _
  | cons entry rest ih =>
    unfold assignIds
    by_cases open' : dispatchable entry = true
    · rw [List.filter_cons_of_pos open', List.length_cons] at enough
      rw [if_pos open']
      cases ids with
      | nil => cases enough
      | cons id ids =>
        have enough' : ids.length = (rest.filter dispatchable).length := by
          rw [List.length_cons] at enough
          omega
        have ih := ih enough'
        obtain ⟨kept, given⟩ := dispatched_facts entry id
        have free : hasRequest entry = false := by
          have parts := open'
          simp only [dispatchable, Bool.and_eq_true, Bool.not_eq_true'] at parts
          exact parts.2
        simp only [openIds, heldIds, List.filter_cons, kept, free, Bool.not_false, Bool.and_false, if_true,
          Bool.false_eq_true, if_false, List.map_cons, given] at ih ⊢
        exact (ih.cons _).trans List.perm_middle.symm
    · rw [List.filter_cons_of_neg open'] at enough
      rw [if_neg open']
      have ih := ih enough
      cases closed : waived entry with
      | true => simpa [openIds, heldIds, closed] using ih
      | false =>
        have held : hasRequest entry = true := by simpa [dispatchable, closed] using open'
        simpa [openIds, heldIds, closed, held] using ih.cons (requestIdOf entry)

/-- The dispatchable entries beside what they become. -/
theorem assignIds_pairs {ids : List Text} (enough : ids.length = (entries.filter dispatchable).length) :
    (entries.zip (assignIds entries ids)).filter (fun pair => dispatchable pair.1) =
      ((entries.filter dispatchable).zip ids).map fun pair => (pair.1, dispatched pair.1 pair.2) := by
  induction entries generalizing ids with
  | nil => rfl
  | cons entry rest ih =>
    unfold assignIds
    by_cases open' : dispatchable entry = true
    · rw [List.filter_cons_of_pos open', List.length_cons] at enough
      rw [if_pos open', List.filter_cons_of_pos open']
      cases ids with
      | nil => cases enough
      | cons id ids =>
        have enough' : ids.length = (rest.filter dispatchable).length := by
          rw [List.length_cons] at enough
          omega
        have ih := ih enough'
        simp only [List.zip_cons_cons, List.filter_cons, open', if_true, List.map_cons, ih]
    · rw [List.filter_cons_of_neg open'] at enough ⊢
      rw [if_neg open', List.zip_cons_cons, List.filter_cons, if_neg open', ih enough]

/-! ## Identity -/

/-- What the step is for: an id for each entry that is not waived, each its own, and under it the
request of that entry's operator. -/
structure Identified (entries after : List Dict) (files : List (Text × Request)) : Prop where
  requested : ∀ entry ∈ after, waived entry = false → hasRequest entry = true
  distinct : (openIds after).Pairwise fun a b => sharesId a b = false
  filed : ∀ pair ∈ entries.zip after, dispatchable pair.1 = true → ∃ id request,
    requestIdOf pair.2 = .str id ∧ files.lookup id = some request ∧ request.operator = nameOf pair.1

/-- Every entry to dispatch has a name, and the ids that the registry holds are different, from each
other and from those to be issued. -/
structure Issuable (subject : Text) (entries : List Dict) : Prop where
  named : ∀ entry ∈ entries.filter dispatchable, (nameOf entry).truthy = true
  held : (heldIds entries).Pairwise fun a b => sharesId a b = false
  fresh : ∀ id ∈ heldIds entries, ∀ k, 1 ≤ k → k ≤ (entries.filter dispatchable).length →
    id ≠ .str (requestId subject k)

theorem issued_ids {shown : List (Text × Json)} (named : shown =
    (entries.zipIdx start).map fun entry => (requestId subject entry.2, nameOf entry.1)) :
    shown.map Prod.fst = (List.range' start entries.length).map (requestId subject) := by
  rw [named, List.map_map, ← List.zipIdx_map_snd start entries, List.map_map]
  rfl

/-- The request that an entry was paired with. -/
theorem paired_request {entry : Dict} {id : Text}
    (named : requests.map (fun request => (request.requestId, request.operator)) =
      (entries.zipIdx start).map fun entry => (requestId subject entry.2, nameOf entry.1))
    (member : (entry, id) ∈ entries.zip (requests.map Request.requestId)) :
    ∃ request ∈ requests, request.requestId = id ∧ request.operator = nameOf entry := by
  induction entries generalizing requests start with
  | nil => cases member
  | cons first rest ih =>
    cases requests with
    | nil => cases member
    | cons request requests =>
      rw [List.zipIdx_cons, List.map_cons, List.map_cons, List.cons.injEq, Prod.mk.injEq] at named
      rw [List.map_cons, List.zip_cons_cons, List.mem_cons, Prod.mk.injEq] at member
      rcases member with ⟨rfl, rfl⟩ | member
      · exact ⟨request, List.mem_cons_self, rfl, named.1.2⟩
      · obtain ⟨other, inside, facts⟩ := ih named.2 member
        exact ⟨other, List.mem_cons_of_mem _ inside, facts⟩

/-- A request is found under its id, which no other request has. -/
theorem requestFiles_lookup (distinct : (requests.map Request.requestId).Nodup)
    (member : request ∈ requests) : (requestFiles requests).lookup request.requestId = some request := by
  have kept (requests : List Request) (id : Text) : ∀ files : List (Text × Request),
      id ∉ requests.map Request.requestId →
        (requests.foldl (fun files request => assign files request.requestId request) files).lookup id =
          files.lookup id := by
    induction requests with
    | nil => exact fun _ _ => rfl
    | cons first rest ih =>
      intro files absent
      obtain ⟨other, absent⟩ := List.ne_and_not_mem_of_not_mem_cons absent
      rw [List.foldl_cons, ih _ absent, lookup_assign, if_neg other]
  have found (requests : List Request) : ∀ files : List (Text × Request), request ∈ requests →
      (requests.map Request.requestId).Nodup →
        (requests.foldl (fun files request => assign files request.requestId request) files).lookup
          request.requestId = some request := by
    induction requests with
    | nil => exact fun _ member => nomatch member
    | cons first rest ih =>
      intro files member distinct
      rw [List.map_cons, List.nodup_cons] at distinct
      rw [List.foldl_cons]
      rcases List.mem_cons.mp member with rfl | member
      · rw [kept rest _ _ distinct.1, lookup_assign, if_pos rfl]
      · exact ih _ member distinct.2
  exact found requests [] member distinct

theorem sharesId_symm (a b : Json) (apart : sharesId a b = false) : sharesId b a = false := by
  rw [sharesId, Bool.or_comm]
  exact apart

/-- The ids of the registry after a step that dispatched every entry. -/
theorem distinct_iff {ids : List Text} (enough : ids.length = (entries.filter dispatchable).length)
    (issued : ids = (List.range' 1 (entries.filter dispatchable).length).map (requestId subject)) :
    (openIds (assignIds entries ids)).Pairwise (fun a b => sharesId a b = false) ↔
      (heldIds entries).Pairwise (fun a b => sharesId a b = false) ∧
        ∀ id ∈ heldIds entries, ∀ k, 1 ≤ k → k ≤ (entries.filter dispatchable).length →
          id ≠ .str (requestId subject k) := by
  have own : (ids.map Json.str).Pairwise fun a b => sharesId a b = false := by
    rw [issued, List.map_map, List.pairwise_map]
    refine List.Pairwise.imp_of_mem (fun _ _ other => ?_) (List.nodup_range' 1)
    rw [Bool.eq_false_iff, ne_eq, Function.comp, Function.comp, sharesId_str, Json.str.injEq]
    exact fun same => other (requestId_injective same)
  rw [(assignIds_perm enough).pairwise_iff (fun {a b} => sharesId_symm a b), List.pairwise_append]
  constructor
  · rintro ⟨held, _, cross⟩
    refine ⟨held, fun id member k low high same => ?_⟩
    have listed : Json.str (requestId subject k) ∈ ids.map Json.str := by
      rw [issued]
      apply List.mem_map_of_mem
      exact List.mem_map_of_mem (List.mem_range'_1.mpr ⟨low, by omega⟩)
    have apart := cross id member _ listed
    rw [(sharesId_str _ _).mpr same] at apart
    cases apart
  · rintro ⟨held, fresh⟩
    refine ⟨held, own, fun id member other listed => ?_⟩
    obtain ⟨t, there, rfl⟩ := List.mem_map.mp listed
    rw [issued] at there
    obtain ⟨k, inside, rfl⟩ := List.mem_map.mp there
    have bounds := List.mem_range'_1.mp inside
    rw [Bool.eq_false_iff, ne_eq, sharesId_str]
    exact fresh id member k bounds.1 (by omega)

/-- After the dispatch step the requests are identified exactly when the entries to dispatch have
names and no id is there before it is issued. -/
theorem identified_iff (subject : Text) (entries : List Dict) (after : List Dict)
    (requests : List Request) (ran : dispatchStep subject entries = .ok (after, requests)) :
    Identified entries after (requestFiles requests) ↔ Issuable subject entries := by
  unfold dispatchStep at ran
  obtain ⟨gaps, made, ran⟩ := bind_ok.mp ran
  obtain ⟨rfl, same⟩ := Prod.mk.inj (pure_ok.mp ran)
  have made := mapM_forall₂.mp made
  have all : requests = (gaps.zipIdx 1).filterMap fun gap => requestOf subject .null gap.1 gap.2 := by
    rw [← same]
    cases gaps with
    | nil => rfl
    | cons => rfl
  rw [same]
  -- With a name for every entry, the ids are the first of the subject.
  have shown (named : ∀ entry ∈ entries.filter dispatchable, (nameOf entry).truthy = true) :
      requests.map (fun request => (request.requestId, request.operator)) =
        ((entries.filter dispatchable).zipIdx 1).map fun entry =>
          (requestId subject entry.2, nameOf entry.1) := by
    rw [all]
    exact requests_named made named 1
  have issued (named : ∀ entry ∈ entries.filter dispatchable, (nameOf entry).truthy = true) :
      requests.map Request.requestId =
        (List.range' 1 (entries.filter dispatchable).length).map (requestId subject) := by
    rw [← issued_ids (shown named), List.map_map]
    rfl
  have enough (named : ∀ entry ∈ entries.filter dispatchable, (nameOf entry).truthy = true) :
      (requests.map Request.requestId).length = (entries.filter dispatchable).length := by
    rw [issued named, List.length_map, List.length_range']
  constructor
  · intro identified
    have named : ∀ entry ∈ entries.filter dispatchable, (nameOf entry).truthy = true := by
      obtain ⟨most, full⟩ := requests_short subject made 1
      apply full
      by_contra less
      have short : (requests.map Request.requestId).length < (entries.filter dispatchable).length := by
        rw [List.length_map, all]
        exact lt_of_le_of_ne most less
      obtain ⟨entry, member, kept, none⟩ := assignIds_short short
      rw [identified.requested entry member kept] at none
      cases none
    obtain ⟨held, fresh⟩ := (distinct_iff (enough named) (issued named)).mp identified.distinct
    exact ⟨named, held, fresh⟩
  · intro issuable
    have enough := enough issuable.named
    have issued := issued issuable.named
    constructor
    · intro entry member kept
      have listed : requestIdOf entry ∈ openIds (assignIds entries (requests.map Request.requestId)) :=
        List.mem_map_of_mem (List.mem_filter.mpr ⟨member, by simpa using kept⟩)
      rw [(assignIds_perm enough).mem_iff, List.mem_append] at listed
      rcases listed with held | given
      · obtain ⟨other, inside, same⟩ := List.mem_map.mp held
        have facts := (List.mem_filter.mp inside).2
        rw [hasRequest_iff, ← same]
        exact (Bool.and_eq_true_iff.mp facts).2
      · obtain ⟨t, there, same⟩ := List.mem_map.mp given
        rw [issued] at there
        obtain ⟨k, _, rfl⟩ := List.mem_map.mp there
        rw [hasRequest_iff, ← same]
        simp [Json.truthy, requestId, Text.isEmpty, Text.ofString]
    · exact (distinct_iff enough issued).mpr ⟨issuable.held, issuable.fresh⟩
    · intro pair member open'
      have paired : pair ∈ (entries.zip (assignIds entries (requests.map Request.requestId))).filter
          fun pair => dispatchable pair.1 := List.mem_filter.mpr ⟨member, open'⟩
      rw [assignIds_pairs enough] at paired
      obtain ⟨⟨entry, id⟩, inside, rfl⟩ := List.mem_map.mp paired
      obtain ⟨request, requested, rfl, operator⟩ := paired_request (shown issuable.named) inside
      refine ⟨_, request, (dispatched_facts _ _).2, requestFiles_lookup ?_ requested, operator⟩
      rw [issued]
      exact (List.nodup_range' 1).map fun _ _ => requestId_injective

end Step

/-! A registry with an entry of an earlier run. -/

def shimEntry (name : Text) : Dict :=
  [("name", .str name), ("location", .str "mla/indexer.py:18"), ("replaced_kernel", .str "kernel"),
    ("call_frequency", .str "every decode"), ("semantics_basis", .str "tests"), ("status", .str "REGISTERED")]

def earlierEntry : Dict := dispatched (shimEntry "kv_spans_from_batches") (requestId "vllm_kunlun" 1)

/-- An entry that another subject has dispatched, and two new ones. -/
def mixedEntries : List Dict :=
  [dispatched (shimEntry "kv_spans_from_batches") (requestId "sglang_kunlun" 1), shimEntry "kunlun_concat",
    shimEntry "kunlun_rope"]

theorem identified_iff_new : ∃ after requests, dispatchStep "vllm_kunlun" mixedEntries = .ok (after, requests) ∧
    requests.length = 2 ∧ Identified mixedEntries after (requestFiles requests) := by
  obtain ⟨⟨after, requests⟩, ran⟩ : ∃ issued, dispatchStep "vllm_kunlun" mixedEntries = .ok issued := ⟨_, rfl⟩
  refine ⟨after, requests, ran, ?_, (identified_iff "vllm_kunlun" mixedEntries after requests ran).mpr ?_⟩
  · cases ran
    rfl
  · have held : heldIds mixedEntries = [.str (requestId "sglang_kunlun" 1)] := by rfl
    refine ⟨by decide +kernel, by rw [held]; exact List.pairwise_singleton _ _, fun id member k low high => ?_⟩
    rw [held, List.mem_singleton] at member
    subst member
    have few : (mixedEntries.filter dispatchable).length = 2 := by rfl
    have apart : requestId "sglang_kunlun" 1 ≠ requestId "vllm_kunlun" 1 ∧
        requestId "sglang_kunlun" 1 ≠ requestId "vllm_kunlun" 2 := by decide +kernel
    obtain rfl | rfl : k = 1 ∨ k = 2 := by omega
    · exact fun same => apart.1 (Json.str.inj same)
    · exact fun same => apart.2 (Json.str.inj same)

/-- A new entry takes the id that an entry of an earlier run holds. -/
theorem earlier_id_reused : ∃ after requests,
    dispatchStep "vllm_kunlun" [earlierEntry, shimEntry "kunlun_concat"] = .ok (after, requests) ∧
      ¬ Identified [earlierEntry, shimEntry "kunlun_concat"] after (requestFiles requests) := by
  refine ⟨_, _, rfl, fun identified => ?_⟩
  have apart := identified.distinct
  revert apart
  decide +kernel

end InferForge.Shims

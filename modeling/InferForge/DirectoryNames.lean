import InferForge.Storage
import Mathlib.Data.List.DropRight

/-! The directory names that runs and tasks get for their identities. -/
namespace InferForge
open Py

namespace DirectoryNames

/-- `re.fullmatch("[a-zA-Z0-9][a-zA-Z0-9_.-]{0,95}", value)`. -/
def plain (value : Text) : Bool :=
  match value.codes with
  | first :: rest => isAlphanumeric first && rest.all isComponentChar && rest.length ≤ 95
  | [] => false

def isPunctuation (c : CodePoint) : Bool := c.val == 46 || c.val == 45

/-- The cleaned identity, before its length is cut. -/
def cleaned (value : Text) : Text := Text.stripWhere isPunctuation ⟨collapse false value.codes⟩

def stem (value : Text) : Text :=
  let cut : Text := ⟨(cleaned value).codes.take 64⟩
  if cut.isEmpty then "id" else cut

section Names
variable (host : Host)

/-- The first half of a half digest. -/
def suffix (value : Text) : Text := ⟨(host.sha256 value.utf8).codes.take 12⟩

/-- The name of an identity that is not a plain one. -/
def hashed (value : Text) : Text := stem value ++ "-" ++ suffix host value

theorem safeComponent_eq (value : Text) : safeComponent host value =
    if value.blank then .error (.policy "run and task identities must be nonempty strings")
    else if plain value then .ok value
    else if value.encodable then .ok (hashed host value)
    else .error (.unicode "surrogates not allowed") := by
  unfold safeComponent plain
  cases codes : value.codes with
  | nil =>
    have empty : value = ⟨[]⟩ := Text.ext codes
    subst empty
    rfl
  | cons first rest =>
    simp only [hashed, stem, cleaned, suffix, codes]
    rfl

theorem safeComponent_ok {value name : Text} : safeComponent host value = .ok name ↔
    value.blank = false ∧ (plain value = true ∧ name = value ∨
      plain value = false ∧ value.encodable = true ∧ name = hashed host value) := by
  rw [safeComponent_eq]
  cases value.blank <;> cases plain value <;> cases value.encodable <;> simp [eq_comm]

end Names

/-! ## Stems -/

/-- A character of a stem that stays at its start. -/
def isWord (c : CodePoint) : Bool := isAlphanumeric c || c.val == 95

theorem isComponentChar_iff (c : CodePoint) :
    isComponentChar c = true ↔ isWord c = true ∨ isPunctuation c = true := by
  simp only [isComponentChar, isWord, isAlphanumeric, isPunctuation, Bool.or_eq_true]
  tauto

theorem collapse_component (codes : List CodePoint) (inRun : Bool) :
    ∀ c ∈ collapse inRun codes, isComponentChar c = true := by
  induction codes generalizing inRun with
  | nil => nofun
  | cons first rest ih =>
    rw [collapse]
    split
    · next kept => exact List.forall_mem_cons.mpr ⟨kept, ih false⟩
    · split
      · exact ih true
      · exact List.forall_mem_cons.mpr ⟨by decide, ih true⟩

/-- The punctuation before the first word character goes. -/
theorem collapse_head (codes : List CodePoint) (inRun : Bool) :
    ((collapse inRun codes).dropWhile isPunctuation).head? = codes.find? isWord := by
  induction codes generalizing inRun with
  | nil => rfl
  | cons first rest ih =>
    have dash : isPunctuation 45 = true := by decide
    rw [collapse]
    cases word : isWord first with
    | true =>
      have kept := (isComponentChar_iff first).mpr (.inl word)
      have apart : isPunctuation first = false := by
        revert word
        simp only [isWord, isAlphanumeric, isPunctuation, Bool.or_eq_true, Bool.and_eq_true, decide_eq_true_eq,
          beq_iff_eq, Bool.or_eq_false_iff, beq_eq_false_iff_ne]
        omega
      simp [kept, apart, word]
    | false =>
      rw [List.find?_cons_of_neg (by simp [word])]
      split
      · next kept =>
        have dropped := ((isComponentChar_iff first).mp kept).resolve_left (by simp [word])
        rw [List.dropWhile_cons_of_pos dropped, ih]
      · split
        · exact ih true
        · rw [List.dropWhile_cons_of_pos dash, ih]

/-- A list whose first element stays keeps it when the end is stripped. -/
theorem head_rdropWhile {p : α → Bool} (l : List α) (first : ∀ a, l.head? = some a → p a = false) :
    (l.rdropWhile p).head? = l.head? := by
  cases l with
  | nil => rfl
  | cons a rest =>
    obtain ⟨dropped, whole⟩ := List.rdropWhile_prefix p (l := a :: rest)
    cases kept : (a :: rest).rdropWhile p with
    | nil =>
      have all := List.rdropWhile_eq_nil_iff.mp kept a List.mem_cons_self
      rw [first a rfl] at all
      cases all
    | cons b others =>
      rw [kept, List.cons_append] at whole
      rw [List.head?_cons, List.head?_cons, (List.cons.inj whole).1]

theorem dropWhile_head {p : α → Bool} (l : List α) : ∀ a, (l.dropWhile p).head? = some a → p a = false := by
  intro a first
  have stays := List.head?_dropWhile_not p l
  rw [first] at stays
  simpa using stays

theorem cleaned_head (value : Text) : (cleaned value).codes.head? = value.codes.find? isWord := by
  have same : (cleaned value).codes = ((collapse false value.codes).dropWhile isPunctuation).rdropWhile isPunctuation :=
    rfl
  rw [same, head_rdropWhile _ (dropWhile_head _), collapse_head]

theorem stripWhere_subset (drop : CodePoint → Bool) (t : Text) : (t.stripWhere drop).codes ⊆ t.codes := by
  intro c member
  have same : (t.stripWhere drop).codes = (t.codes.dropWhile drop).rdropWhile drop := rfl
  rw [same] at member
  exact (List.dropWhile_suffix drop).subset ((List.rdropWhile_prefix drop _).subset member)

theorem stem_component (value : Text) : ∀ c ∈ (stem value).codes, isComponentChar c = true := by
  intro c member
  simp only [stem] at member
  split at member
  · have letters : ("id" : Text).codes.all isComponentChar = true := rfl
    exact List.all_eq_true.mp letters c member
  · exact collapse_component value.codes false c (stripWhere_subset _ _ (List.mem_of_mem_take member))

theorem stem_length (value : Text) : (stem value).codes.length ≤ 64 := by
  simp only [stem]
  split
  · decide
  · exact List.length_take_le 64 _

/-- A stem starts with the first word character. -/
theorem stem_head (value : Text) : (stem value).codes.head? = some ((value.codes.find? isWord).getD 105) := by
  have first := cleaned_head value
  unfold stem
  cases codes : (cleaned value).codes with
  | nil =>
    rw [codes, List.head?_nil] at first
    rw [← first]
    rfl
  | cons c rest =>
    rw [codes, List.head?_cons] at first
    rw [← first]
    rfl

/-! ## Components -/

theorem isComponentChar_safe {c : CodePoint} (component : isComponentChar c = true) :
    c ≠ Path.slash ∧ Text.isSpace c = false ∧ Text.isSurrogate c = false := by
  simp only [isComponentChar, Bool.or_eq_true, Bool.and_eq_true, decide_eq_true_eq, beq_iff_eq] at component
  refine ⟨?_, ?_, ?_⟩
  · rintro rfl
    revert component
    decide
  · simp only [Text.isSpace, Bool.or_eq_false_iff, Bool.and_eq_false_iff, decide_eq_false_iff_not, beq_eq_false_iff_ne]
    omega
  · simp only [Text.isSurrogate, Bool.and_eq_false_iff, decide_eq_false_iff_not]
    omega

theorem isHex_component {c : CodePoint} (hex : isHex c = true) : isComponentChar c = true := by
  simp only [isHex, isComponentChar, Bool.or_eq_true, Bool.and_eq_true, decide_eq_true_eq, beq_iff_eq] at hex ⊢
  omega

theorem isAlphanumeric_component {c : CodePoint} (letter : isAlphanumeric c = true) : isComponentChar c = true :=
  (isComponentChar_iff c).mpr (.inl (by simp [isWord, letter]))

theorem plain_iff {value : Text} : plain value = true ↔
    (∃ first, value.codes.head? = some first ∧ isAlphanumeric first = true) ∧
      (∀ c ∈ value.codes, isComponentChar c = true) ∧ value.codes.length ≤ 96 := by
  unfold plain
  cases value.codes with
  | nil => simp
  | cons first rest =>
    simp only [Bool.and_eq_true, List.all_eq_true, decide_eq_true_eq, List.head?_cons, Option.some.injEq,
      exists_eq_left', List.forall_mem_cons, List.length_cons]
    constructor
    · rintro ⟨⟨letter, others⟩, short⟩
      exact ⟨letter, ⟨isAlphanumeric_component letter, others⟩, by omega⟩
    · rintro ⟨letter, ⟨_, others⟩, short⟩
      exact ⟨⟨letter, others⟩, by omega⟩

/-- A single component of a path. -/
structure Component (name : Text) : Prop where
  nonempty : name.isEmpty = false
  short : name.codes.length ≤ 96
  noSeparator : Path.slash ∉ name.codes
  ordinary : name ≠ "." ∧ name ≠ ".."

theorem component_of {name : Text} (chars : ∀ c ∈ name.codes, isComponentChar c = true)
    (short : name.codes.length ≤ 96) (listed : c ∈ name.codes) (other : c ≠ 46) : Component name where
  nonempty := by
    unfold Text.isEmpty
    cases codes : name.codes with
    | nil =>
      rw [codes] at listed
      cases listed
    | cons => rfl
  short := short
  noSeparator := fun member => (isComponentChar_safe (chars _ member)).1 rfl
  ordinary := by
    constructor
    · rintro rfl
      exact other (List.mem_singleton.mp listed)
    · rintro rfl
      have dots : (Text.ofString "..").codes = List.replicate 2 46 := rfl
      rw [dots] at listed
      exact other (List.eq_of_mem_replicate listed)

section Hashed
variable (host : Host) (value : Text)

theorem suffix_length : (suffix host value).codes.length = 12 := by
  rw [suffix, List.length_take, host.sha256_length]
  rfl

theorem hashed_codes : (hashed host value).codes = (stem value).codes ++ (45 :: (suffix host value).codes) := by
  simp [hashed]
  rfl

theorem hashed_component : ∀ c ∈ (hashed host value).codes, isComponentChar c = true := by
  intro c member
  rw [hashed_codes, List.mem_append, List.mem_cons] at member
  rcases member with member | rfl | member
  · exact stem_component value c member
  · decide
  · have hex := List.all_eq_true.mp (host.sha256_hex value.utf8) c (List.mem_of_mem_take member)
    exact isHex_component hex

theorem hashed_length : (hashed host value).codes.length ≤ 77 := by
  have short := stem_length value
  rw [hashed_codes, List.length_append, List.length_cons, suffix_length]
  omega

/-- A hashed name is a plain one unless it starts with an underscore. -/
theorem plain_hashed : plain (hashed host value) = true ↔ value.codes.find? isWord ≠ some 95 := by
  have head : (hashed host value).codes.head? = some ((value.codes.find? isWord).getD 105) := by
    rw [hashed_codes, List.head?_append, stem_head]
    rfl
  have long := hashed_length host value
  rw [plain_iff, head]
  have rest : (∀ c ∈ (hashed host value).codes, isComponentChar c = true) ∧ (hashed host value).codes.length ≤ 96 :=
    ⟨hashed_component host value, by omega⟩
  cases found : value.codes.find? isWord with
  | none => exact ⟨fun _ => nofun, fun _ => ⟨⟨105, rfl, by decide⟩, rest⟩⟩
  | some c =>
    have word := List.find?_some found
    constructor
    · rintro ⟨⟨first, same, letter⟩, _⟩ underscore
      obtain rfl := Option.some.inj underscore
      obtain rfl := Option.some.inj same
      revert letter
      decide
    · intro other
      refine ⟨⟨c, rfl, ?_⟩, rest⟩
      rw [isWord, Bool.or_eq_true, beq_iff_eq] at word
      exact word.resolve_right fun underscore => other (congrArg some (Fin.ext underscore))

theorem component_nonblank {name : Text} (chars : ∀ c ∈ name.codes, isComponentChar c = true)
    (some' : name.isEmpty = false) : name.blank = false := by
  have bounds : name.strip = name :=
    Text.strip_of_bounds
      (fun c first => (isComponentChar_safe (chars c (List.mem_of_mem_head? first))).2.1)
      (fun c last => (isComponentChar_safe (chars c (List.mem_of_getLast? last))).2.1)
  rw [Text.blank, bounds]
  exact some'

theorem component_encodable {name : Text} (chars : ∀ c ∈ name.codes, isComponentChar c = true) :
    name.encodable = true := by
  rw [Text.encodable, List.all_eq_true]
  intro c member
  rw [(isComponentChar_safe (chars c member)).2.2]
  rfl

theorem component_hashed : Component (hashed host value) := by
  have long := hashed_length host value
  refine component_of (hashed_component host value) (by omega) (c := 45) ?_ (by decide)
  rw [hashed_codes]
  simp

/-- What hashed names share. -/
theorem suffix_of_hashed (same : hashed host a = hashed host b) : suffix host a = suffix host b := by
  have codes := congrArg Text.codes same
  rw [hashed_codes, hashed_codes] at codes
  have ends := List.append_inj_right' codes (by simp [suffix_length])
  exact Text.ext (List.cons.inj ends).2

end Hashed

/-! ## What the names identify -/

section Identify
variable {host : Host} {a b left right : Text}

theorem component_of_ok (accepted : safeComponent host a = .ok left) : Component left := by
  obtain ⟨_, ⟨clean, rfl⟩ | ⟨_, _, rfl⟩⟩ := (safeComponent_ok host).mp accepted
  · obtain ⟨⟨first, head, letter⟩, chars, short⟩ := plain_iff.mp clean
    refine component_of chars short (List.mem_of_mem_head? head) ?_
    rintro rfl
    revert letter
    decide
  · exact component_hashed host a

/-- The first letter, digit or underscore of an identity is an underscore. -/
def Underscored (value : Text) : Prop := value.codes.find? isWord = some 95

instance (value : Text) : Decidable (Underscored value) := inferInstanceAs (Decidable (_ = _))

/-- A name is its own name, unless it starts with an underscore. -/
theorem fixed_iff (accepted : safeComponent host a = .ok left)
    (apart : suffix host a = suffix host left → a = left) :
    safeComponent host left = .ok left ↔ (Underscored a → a = hashed host a) := by
  obtain ⟨filled, ⟨clean, rfl⟩ | ⟨lossy, _, rfl⟩⟩ := (safeComponent_ok host).mp accepted
  · refine ⟨fun _ underscored => ?_, fun _ => accepted⟩
    obtain ⟨⟨first, head, letter⟩, _⟩ := plain_iff.mp clean
    have found : left.codes.find? isWord = some first := by
      cases codes : left.codes with
      | nil =>
        rw [codes] at head
        cases head
      | cons c rest =>
        rw [codes] at head
        obtain rfl := Option.some.inj head
        exact List.find?_cons_of_pos (by simp [isWord, letter])
    rw [Underscored, found] at underscored
    obtain rfl := Option.some.inj underscored
    cases letter
  · have chars := hashed_component host a
    have nonblank := component_nonblank chars (component_hashed host a).nonempty
    rw [safeComponent_ok]
    by_cases underscored : Underscored a
    · have shown : plain (hashed host a) = false := by
        rw [← Bool.not_eq_true, plain_hashed]
        exact not_not_intro underscored
      simp only [nonblank, shown, component_encodable chars, true_and, Bool.false_eq_true, false_and, false_or]
      constructor
      · exact fun same _ => apart (suffix_of_hashed host same)
      · intro own
        rw [← own underscored]
        exact own underscored
    · have shown := (plain_hashed host a).mpr underscored
      exact ⟨fun _ here => absurd here underscored, fun _ => ⟨nonblank, .inl ⟨shown, rfl⟩⟩⟩

/-- A plain identity that is the hashed name of another one. -/
def Taken (host : Host) (a b : Text) : Prop := plain a = true ∧ plain b = false ∧ a = hashed host b

theorem names_apart (first : safeComponent host a = .ok left) (second : safeComponent host b = .ok right)
    (apart : suffix host a = suffix host b → a = b) :
    (a ≠ b → left ≠ right) ↔ ¬ Taken host a b ∧ ¬ Taken host b a := by
  obtain ⟨_, ⟨clean, rfl⟩ | ⟨lossy, _, rfl⟩⟩ := (safeComponent_ok host).mp first
  · obtain ⟨_, ⟨clean', rfl⟩ | ⟨lossy', _, rfl⟩⟩ := (safeComponent_ok host).mp second
    · simp [Taken, clean, clean']
    · have other : left ≠ b := by
        rintro rfl
        rw [clean] at lossy'
        cases lossy'
      simp [Taken, clean, lossy', other]
  · obtain ⟨_, ⟨clean', rfl⟩ | ⟨lossy', _, rfl⟩⟩ := (safeComponent_ok host).mp second
    · have other : a ≠ right := by
        rintro rfl
        rw [clean'] at lossy
        cases lossy
      simp [Taken, clean', lossy, other, eq_comm]
    · have distinct : a ≠ b → hashed host a ≠ hashed host b := fun other same =>
        other (apart (suffix_of_hashed host same))
      simp only [Taken, lossy, lossy', Bool.false_eq_true, false_and, not_false_eq_true, and_self, iff_true]
      exact distinct

/-- Two accepted identities have single components that are their own names, and different ones if
they differ. -/
structure Identified (host : Host) (a b left right : Text) : Prop where
  component : Component left ∧ Component right
  fixed : safeComponent host left = .ok left ∧ safeComponent host right = .ok right
  distinct : a ≠ b → left ≠ right

/-- The digests of these texts tell them apart. -/
def Distinguished (host : Host) (values : List Text) : Prop :=
  ∀ x ∈ values, ∀ y ∈ values, suffix host x = suffix host y → x = y

instance (host : Host) (values : List Text) : Decidable (Distinguished host values) :=
  inferInstanceAs (Decidable (∀ x ∈ values, _))

theorem components_identify (host : Host) (a b left right : Text) (first : safeComponent host a = .ok left)
    (second : safeComponent host b = .ok right) (apart : Distinguished host [a, b, left, right]) :
    Identified host a b left right ↔
      (Underscored a → a = hashed host a) ∧ (Underscored b → b = hashed host b) ∧
        ¬ Taken host a b ∧ ¬ Taken host b a := by
  rw [← fixed_iff first (apart a (by simp) left (by simp)), ← fixed_iff second (apart b (by simp) right (by simp)),
    ← names_apart first second (apart a (by simp) b (by simp))]
  constructor
  · intro identified
    exact ⟨identified.fixed.1, identified.fixed.2, identified.distinct⟩
  · rintro ⟨left', right', distinct⟩
    exact ⟨⟨component_of_ok first, component_of_ok second⟩, ⟨left', right'⟩, distinct⟩

end Identify

/-! A host whose digests show the length. -/

def lengthHost : Host := { Host.sample with
  sha256 := fun content => ⟨List.replicate 64 ⟨48 + content.length % 10, digitCode_lt content.length⟩⟩
  sha256_length := fun _ => by simp
  sha256_hex := fun content => by simp [isHex_digitCode] }

theorem components_identify_paths :
    Identified lengthHost "a/b" "c:de" "a-b-333333333333" "c-de-444444444444" :=
  (components_identify lengthHost "a/b" "c:de" "a-b-333333333333" "c-de-444444444444" (by decide +kernel)
    (by decide +kernel) (by decide +kernel)).mpr
      ⟨fun underscored => absurd underscored (by decide), fun underscored => absurd underscored (by decide),
        fun taken => absurd taken.1 (by decide), fun taken => absurd taken.1 (by decide)⟩

/-- A task may be called what another task's directory is called. -/
theorem component_taken : safeComponent lengthHost "a/b" = .ok "a-b-333333333333" ∧
    safeComponent lengthHost "a-b-333333333333" = .ok "a-b-333333333333" ∧
    Distinguished lengthHost ["a/b", "a-b-333333333333"] ∧
    ¬ Identified lengthHost "a/b" "a-b-333333333333" "a-b-333333333333" "a-b-333333333333" := by
  refine ⟨by decide +kernel, by decide +kernel, by decide +kernel, fun identified => ?_⟩
  have other : ("a/b" : Text) ≠ "a-b-333333333333" := by decide
  exact identified.distinct other rfl

end DirectoryNames
end InferForge

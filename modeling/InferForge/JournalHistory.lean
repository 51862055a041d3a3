import InferForge.Journal

/-! What is read back from a journal after any sequence of `record` calls. -/
namespace InferForge.Journal
open Py

/-! ## Entries -/

/-- Every string a call hands in. -/
def Fact.texts (fact : Fact) : List Text :=
  [fact.kind, fact.subject, fact.state, fact.artifacts.toText] ++
    ((fact.environment.fields.flatMap fun field => [field.1, field.2]) ++
      Json.textsFields fact.extras)

/-- The line boundaries that `json.dumps(..., ensure_ascii=False)` leaves in a string. -/
def separates (c : CodePoint) : Bool := c.val == 0x85 || c.val == 0x2028 || c.val == 0x2029

/-- No string of the fact contains such a boundary. -/
def Fact.Unbroken (fact : Fact) : Prop := ∀ t ∈ fact.texts, ∀ c ∈ t.codes, separates c = false

/-- Every float of the fact is a double, which its literal determines. -/
def Fact.Exact (host : Host) (fact : Fact) : Prop :=
  ∀ q ∈ Json.doublesFields fact.extras, host.floats.Exact q

theorem extras_distinct (fact : Fact) : Json.distinctFields fact.extras = true := by
  unfold Fact.extras
  split
  · rename_i detail _
    exact detail.distinct
  · rfl

theorem environment_distinct (fields : List (Text × Text)) (distinct : (fields.map Prod.fst).Nodup) :
    Json.distinctFields (fields.map fun field => (field.1, Json.str field.2)) = true := by
  induction fields with
  | nil => rfl
  | cons field rest ih =>
    rw [List.map_cons, List.nodup_cons] at distinct
    simp only [List.map_cons, Json.distinctFields, Json.distinct, ih distinct.2, List.map_map,
      Function.comp_def, Bool.and_true, Bool.not_eq_true', List.contains_eq_mem,
      decide_eq_false_iff_not]
    exact distinct.1

theorem entry_distinct (host : Host) (fact : Fact) :
    (Json.obj (fact.entry host)).distinct = true := by
  have inner := environment_distinct fact.environment.fields fact.environment.distinct
  have extras := extras_distinct fact
  simp only [Fact.entry, Fact.detail]
  split <;> simp [Json.distinct, Json.distinctFields, Environment.json, inner, extras]

theorem environment_doubles (fields : List (Text × Text)) :
    Json.doublesFields (fields.map fun field => (field.1, Json.str field.2)) = [] := by
  induction fields with
  | nil => rfl
  | cons field rest ih => simpa [Json.doublesFields, Json.doubles] using ih

theorem entry_doubles (host : Host) (fact : Fact) :
    (Json.obj (fact.entry host)).doubles = Json.doublesFields fact.extras := by
  have inner := environment_doubles fact.environment.fields
  simp only [Fact.entry, Fact.detail]
  split
  · rename_i none
    rw [List.isEmpty_iff] at none
    simp [Json.doubles, Json.doublesFields, Environment.json, inner, none]
  · simp [Json.doubles, Json.doublesFields, Environment.json, inner]

theorem environment_texts (fields : List (Text × Text)) :
    Json.textsFields (fields.map fun field => (field.1, Json.str field.2)) =
      fields.flatMap fun field => [field.1, field.2] := by
  induction fields with
  | nil => rfl
  | cons field rest ih => simp [Json.textsFields, Json.texts, ih]

theorem entry_texts (host : Host) (fact : Fact) :
    (Json.obj (fact.entry host)).texts =
      ([("kind" : Text), fact.kind, "subject", fact.subject, "state", fact.state, "artifacts",
        fact.artifacts.toText, "environment"] : List Text) ++
        ((fact.environment.fields.flatMap fun field => [field.1, field.2]) ++
          ([("fingerprint" : Text), fingerprint host fact.environment] ++
            if fact.extras.isEmpty then [] else ("detail" : Text) :: Json.textsFields fact.extras)) := by
  have inner := environment_texts fact.environment.fields
  simp only [Fact.entry, Fact.detail]
  split <;> simp [Json.texts, Json.textsFields, Environment.json, inner]

/-- A string of an entry is one of the call, the fingerprint or the name of a field. -/
theorem mem_entry_texts (host : Host) (fact : Fact)
    (member : t ∈ (Json.obj (fact.entry host)).texts) :
    t ∈ fact.texts ∨ t = fingerprint host fact.environment ∨
      t ∈ (["kind", "subject", "state", "artifacts", "environment", "fingerprint", "detail"] :
        List String).map Text.ofString := by
  rw [entry_texts] at member
  simp only [List.mem_append, List.mem_cons, List.not_mem_nil, or_false] at member
  simp only [Fact.texts, List.mem_append, List.mem_cons, List.not_mem_nil, or_false, List.map_cons,
    List.map_nil]
  split at member <;> grind

theorem texts_mem_entry (host : Host) (fact : Fact) (member : t ∈ fact.texts) :
    t ∈ (Json.obj (fact.entry host)).texts := by
  simp only [Fact.texts, List.mem_append, List.mem_cons, List.not_mem_nil, or_false] at member
  rw [entry_texts]
  simp only [List.mem_append, List.mem_cons, List.not_mem_nil, or_false]
  split
  · rename_i none
    rw [List.isEmpty_iff] at none
    simp only [none, Json.textsFields, List.not_mem_nil, or_false] at member
    grind
  · grind

theorem fingerprint_hex (host : Host) (environment : Environment) (member : c ∈ (fingerprint host environment).codes) :
    isHex c = true :=
  List.all_eq_true.mp (host.sha256_hex _) c (List.mem_of_mem_take member)

variable {host : Host} {fact : Fact} {facts : List Fact}

theorem separates_isBreak (wide : separates c = true) : isBreak c = true ∧ 127 ≤ c.val := by
  simp only [separates, isBreak, Bool.or_eq_true, Bool.and_eq_true, decide_eq_true_eq,
    beq_iff_eq] at wide ⊢
  omega

/-- The only line boundaries in a line are those of the strings handed in. -/
theorem line_unbroken (exact : fact.Exact host) (unbroken : fact.Unbroken) :
    ∀ c ∈ fact.line host, isBreak c = false := by
  intro c member
  rw [Bool.eq_false_iff]
  intro boundary
  obtain ⟨visible, wide⟩ := dumps_shown _ (by rwa [entry_doubles]) c member
  have sep : separates c = true ∧ 127 ≤ c.val := by
    simp only [separates, isBreak, Bool.or_eq_true, Bool.and_eq_true, decide_eq_true_eq,
      beq_iff_eq] at boundary ⊢
    omega
  obtain ⟨t, inside, char⟩ := wide sep.2
  obtain own | rfl | name := mem_entry_texts host fact inside
  · rw [unbroken t own c char] at sep
    cases sep.1
  · have hex := fingerprint_hex host fact.environment char
    simp only [isHex, Bool.or_eq_true, Bool.and_eq_true, decide_eq_true_eq] at hex
    omega
  · have ascii : (["kind", "subject", "state", "artifacts", "environment", "fingerprint",
        "detail"] : List String).all (fun name => (Text.ofString name).codes.all
          fun c => c.val < 127) = true := by decide
    obtain ⟨word, listed, rfl⟩ := List.mem_map.mp name
    have short := List.all_eq_true.mp (List.all_eq_true.mp ascii word listed) c char
    rw [decide_eq_true_eq] at short
    omega

theorem line_shape (host : Host) (fact : Fact) :
    ∃ inner, fact.line host = 123 :: (inner ++ [125]) := ⟨_, rfl⟩

/-- A broken line is read as two lines or more. -/
theorem inked_broken (member : c ∈ fact.line host) (wide : separates c = true) :
    2 ≤ inked (splitFrom false [] (fact.line host ++ [10])) := by
  obtain ⟨inner, shape⟩ := line_shape host fact
  obtain ⟨boundary, large⟩ := separates_isBreak wide
  have inside : c ∈ inner := by
    rw [shape, List.mem_cons, List.mem_append, List.mem_singleton] at member
    obtain rfl | inside | rfl := member
    · exact absurd wide (by decide)
    · exact inside
    · exact absurd wide (by decide)
  obtain ⟨a, b, rfl⟩ := List.append_of_mem inside
  have first := inked_splitFrom boundary (x := 123) (by decide) (123 :: a) [] false (by simp)
    (by simp)
  have second := inked_splitFrom (c := 10) (by decide) (x := 125) (by decide) (b ++ [125]) [] false
    (by simp) (by simp)
  have parts : fact.line host ++ [10] = (123 :: a) ++ c :: (b ++ [125] ++ [10]) := by
    simp [shape]
  rw [parts, splitFrom_append boundary (by omega), inked_append]
  omega

theorem inked_line (host : Host) (fact : Fact) :
    1 ≤ inked (splitFrom false [] (fact.line host ++ [10])) := by
  obtain ⟨inner, shape⟩ := line_shape host fact
  exact inked_splitFrom (by decide) (x := 123) (by decide) _ [] false (by simp) (by simp [shape])

/-- What a journal holds after some facts. -/
def content (host : Host) (facts : List Fact) : List CodePoint :=
  facts.flatMap fun fact => fact.line host ++ [10]

/-- Broken lines only add lines. -/
theorem inked_content (host : Host) (facts : List Fact) :
    facts.length ≤ (Text.fullLines ⟨content host facts⟩).length ∧
      ((Text.fullLines ⟨content host facts⟩).length = facts.length → ∀ fact ∈ facts, fact.Unbroken) := by
  induction facts with
  | nil => simp
  | cons fact rest ih =>
    have lines : (Text.fullLines ⟨content host (fact :: rest)⟩).length =
        inked (splitFrom false [] (fact.line host ++ [10])) +
          (Text.fullLines ⟨content host rest⟩).length := by
      have split := splitFrom_append (c := 10) (by decide) (by decide) (fact.line host)
        (content host rest) false []
      rw [Text.fullLines, Text.splitlines, content, List.flatMap_cons, List.append_assoc,
        List.cons_append, List.nil_append]
      exact (congrArg inked split).trans (inked_append _ _)
    have here := inked_line host fact
    rw [lines, List.length_cons]
    refine ⟨by omega, fun same => ?_⟩
    rw [List.forall_mem_cons]
    constructor
    · intro t member c inside
      rw [Bool.eq_false_iff]
      intro wide
      have broken := mem_dumps host.floats (rfl : Style.line.ascii = false)
        (separates_isBreak wide).2 inside _ (texts_mem_entry host fact member)
      have twice := inked_broken broken wide
      omega
    · exact ih.2 (by omega)

theorem fullLines_content (exact : ∀ fact ∈ facts, fact.Exact host)
    (unbroken : ∀ fact ∈ facts, fact.Unbroken) :
    Text.fullLines ⟨content host facts⟩ = facts.map fun fact => ⟨fact.line host⟩ := by
  induction facts with
  | nil => rfl
  | cons fact rest ih =>
    rw [List.forall_mem_cons] at exact unbroken
    have visible : Text.blank ⟨fact.line host⟩ = false := by
      obtain ⟨inner, shape⟩ := line_shape host fact
      rw [Bool.eq_false_iff, ne_eq, Text.blank_iff]
      intro spaces
      exact absurd (spaces 123 (by simp [shape])) (by decide)
    have split := splitFrom_unbroken (line_unbroken exact.1 unbroken.1) [] (content host rest)
    have later := ih exact.2 unbroken.2
    simp only [Text.fullLines, Text.splitlines, content, List.flatMap_cons, List.append_assoc,
      List.cons_append, List.nil_append] at split later ⊢
    rw [split, List.filter_cons_of_pos (by simpa using visible), later, List.map_cons]

theorem decode_line (exact : fact.Exact host) :
    decode host ⟨fact.line host⟩ = .ok (.obj (fact.entry host)) := by
  have portable : (Json.obj (fact.entry host)).Portable host.floats .line := by
    constructor
    · intro ascii
      cases ascii
    · rwa [entry_doubles]
    · exact entry_distinct host fact
  simp only [decode, Fact.line, loads_dumps _ portable]

/-! ## The file -/

theorem load_content (host : Host) (file : Option Text) :
    load host file = (Text.fullLines (file.getD ⟨[]⟩)).mapM (decode host) := by
  cases file <;> rfl

theorem record_content (host : Host) (journal : Path) (file : Option Text) (call : Call) :
    ((record host journal file call).2.getD ⟨[]⟩).codes =
      (file.getD ⟨[]⟩).codes ++ content host
        (match (record host journal file call).1 with | .ok _ => [call.fact] | .error _ => []) := by
  simp only [record]
  split
  · simp [content]
  · split <;> simp [content]

/-- The journal holds the lines of the calls that returned, and of no others. -/
theorem recordAll_content (host : Host) (journal : Path) (file : Option Text) (calls : List Call) :
    ((recordAll host journal file calls).1.getD ⟨[]⟩).codes =
      (file.getD ⟨[]⟩).codes ++ content host (recordAll host journal file calls).2 := by
  induction calls generalizing file with
  | nil => simp [recordAll, content]
  | cons call rest ih =>
    have step := record_content host journal file call
    have later := ih (record host journal file call).2
    rw [step] at later
    simp only [recordAll]
    cases outcome : (record host journal file call).1 with
    | ok entry => simpa [outcome, content] using later
    | error e => simpa [outcome, content] using later

theorem recordAll_facts (host : Host) (journal : Path) (file : Option Text) (calls : List Call) :
    ∀ fact ∈ (recordAll host journal file calls).2, ∃ call ∈ calls, call.fact = fact := by
  induction calls generalizing file with
  | nil => simp [recordAll]
  | cons call rest ih =>
    intro fact member
    have later := ih (record host journal file call).2
    simp only [recordAll] at member
    cases outcome : (record host journal file call).1 with
    | ok entry =>
      simp only [outcome, List.mem_cons] at member
      obtain rfl | member := member
      · exact ⟨call, List.mem_cons_self .., rfl⟩
      · obtain ⟨other, listed, same⟩ := later fact member
        exact ⟨other, List.mem_cons_of_mem _ listed, same⟩
    | error e =>
      simp only [outcome] at member
      obtain ⟨other, listed, same⟩ := later fact member
      exact ⟨other, List.mem_cons_of_mem _ listed, same⟩

/-! ## Queries -/

/-- The fact a query for a kind, a subject and an environment asks for. -/
def About (kind subject : Text) (environment : Environment) (fact : Fact) : Prop :=
  fact.kind = kind ∧ fact.subject = subject ∧ fact.environment.fields.Perm environment.fields

instance : Decidable (About kind subject environment fact) :=
  inferInstanceAs (Decidable (_ ∧ _ ∧ _))

theorem item_eq (a b : Text) : (Json.str a).eq (.str b) = decide (a = b) := by
  rw [Bool.eq_iff_iff, Json.eq_str_right, Json.str.injEq, decide_eq_true_eq]

theorem hit_entry (host : Host) (kind subject : Text) (environment : Environment) (fact : Fact) :
    hit host kind (some subject) (some environment) [] (.obj (fact.entry host)) =
      .ok (decide (About kind subject environment fact)) := by
  have kinds : itemIs (.obj (fact.entry host)) "kind" kind = .ok (decide (fact.kind = kind)) := by
    rw [← item_eq]
    rfl
  have subjects : itemIs (.obj (fact.entry host)) "subject" subject =
      .ok (decide (fact.subject = subject)) := by
    have found : Dict.get? (fact.entry host) "subject" = some (.str fact.subject) := by
      simp [Fact.entry]
    simp only [itemIs, Json.item, found, Effect.ok_bind, item_eq]
    rfl
  have environments : getIs (.obj (fact.entry host)) "environment" environment.json =
      .ok (decide (fact.environment.fields.Perm environment.fields)) := by
    have found : Dict.get? (fact.entry host) "environment" = some fact.environment.json := by
      simp [Fact.entry]
    have same : fact.environment.json.eq environment.json =
        decide (fact.environment.fields.Perm environment.fields) := by
      rw [Bool.eq_iff_iff, Environment.eq_iff, decide_eq_true_eq]
    simp only [getIs, Json.get, found, Effect.ok_bind, Json.eqOpt, Option.getD_some, same]
    rfl
  have digests : getIs (.obj (fact.entry host)) "fingerprint" (.str (fingerprint host environment)) =
      .ok (decide (fingerprint host fact.environment = fingerprint host environment)) := by
    have found : Dict.get? (fact.entry host) "fingerprint" =
        some (.str (fingerprint host fact.environment)) := by
      simp [Fact.entry]
    simp only [getIs, Json.get, found, Effect.ok_bind, Json.eqOpt, Option.getD_some, item_eq]
    rfl
  simp only [hit, kinds, subjects, environments, digests, andThen_ok, List.isEmpty_nil, if_true,
    Except.ok.injEq]
  rw [Bool.eq_iff_iff]
  simp only [Bool.and_eq_true, decide_eq_true_eq, and_true]
  constructor
  · rintro ⟨kind, subject, same, -⟩
    exact ⟨kind, subject, same⟩
  · rintro ⟨kind, subject, same⟩
    exact ⟨kind, subject, same, fingerprint_perm host same⟩

theorem keep_ok {q : α → Bool} {f : α → Json} {condition : Json → Except Exn Bool} (l : List α)
    (decides : ∀ a, condition (f a) = .ok (q a)) :
    keep condition (l.map f) = .ok ((l.filter q).map f) := by
  induction l with
  | nil => rfl
  | cons a rest ih =>
    rw [List.map_cons, keep, decides, Effect.ok_bind, ih, List.filter_cons]
    cases q a <;> rfl

/-- Over readable entries, `latest` finds the last fact asked for. -/
theorem latest_loaded (loaded : load host file = .ok (facts.map fun fact => .obj (fact.entry host)))
    (kind subject : Text) (environment : Environment) (known : environment.fields ≠ []) :
    latest host file kind (some subject) (some environment) [] =
      .ok ((facts.reverse.find? fun fact => decide (About kind subject environment fact)).map
        fun fact => .obj (fact.entry host)) := by
  have keyed : ((some environment).any fun e => e.fields.isEmpty) = false := by
    simpa using known
  have hits := keep_ok facts fun fact => hit_entry host kind subject environment fact
  have asked : query host file kind (some subject) (some environment) [] =
      .ok ((facts.filter fun fact => decide (About kind subject environment fact)).map
        fun fact => Json.obj (fact.entry host)).reverse := by
    simp only [query, keyed, Bool.false_eq_true, if_false, loaded, Effect.ok_bind, hits]
    rfl
  rw [latest, asked, Effect.ok_bind, ← List.map_reverse, List.head?_map, ← List.filter_reverse,
    List.head?_filter]
  rfl

/-! ## The round trip -/

/-- The journal reads back what was recorded, in order, exactly when every string of the
recorded facts stays on one line. -/
theorem load_iff (host : Host) (journal : Path) (calls : List Call)
    (exact : ∀ call ∈ calls, call.fact.Exact host) :
    load host (recordAll host journal none calls).1 =
        .ok ((recordAll host journal none calls).2.map fun fact => .obj (fact.entry host)) ↔
      ∀ fact ∈ (recordAll host journal none calls).2, fact.Unbroken := by
  have doubles : ∀ fact ∈ (recordAll host journal none calls).2, fact.Exact host := by
    intro fact member
    obtain ⟨call, listed, rfl⟩ := recordAll_facts host journal none calls fact member
    exact exact call listed
  have holds : (recordAll host journal none calls).1.getD ⟨[]⟩ =
      ⟨content host (recordAll host journal none calls).2⟩ :=
    Text.ext (recordAll_content host journal none calls)
  rw [load_content, holds]
  constructor
  · intro read
    have lines := (Effect.mapM_forall₂.mp read).length_eq
    rw [List.length_map] at lines
    exact (inked_content host _).2 lines
  · intro unbroken
    rw [fullLines_content doubles unbroken]
    rw [List.mapM_map]
    exact Effect.mapM_ok fun fact member => decode_line (doubles fact member)

/-- After any sequence of calls on one journal, `load` gives the recorded entries in order and
`latest` the last one asked for, exactly when no string of a recorded fact contains one of the
line boundaries U+0085, U+2028 and U+2029. -/
theorem journal_round_trip (host : Host) (journal : Path) (calls : List Call)
    (exact : ∀ call ∈ calls, call.fact.Exact host) :
    (load host (recordAll host journal none calls).1 =
        .ok ((recordAll host journal none calls).2.map fun fact => .obj (fact.entry host)) ∧
      ∀ (kind subject : Text) (environment : Environment), environment.fields ≠ [] →
        latest host (recordAll host journal none calls).1 kind (some subject) (some environment) [] =
          .ok (((recordAll host journal none calls).2.reverse.find? fun fact =>
            decide (About kind subject environment fact)).map fun fact => .obj (fact.entry host))) ↔
      ∀ fact ∈ (recordAll host journal none calls).2, fact.Unbroken := by
  rw [← load_iff host journal calls exact]
  constructor
  · exact And.left
  · intro loaded
    exact ⟨loaded, latest_loaded loaded⟩

/-! Two facts on a host that knows one double. -/

def Host.half : Host :=
  { Host.sample with
    repr := fun value => match value with
      | .float (.fin q) => if q = 1 / 2 then "0.5" else "0.25"
      | _ => ""
    floatOfText := fun t => if t = "0.5" then some (.fin (1 / 2)) else some (.fin (1 / 4)) }

def Fact.sample (subject : Text) : Fact where
  kind := "ModelRequest"
  subject := subject
  state := "ACCEPTED"
  artifacts := .ofText "/runs/a"
  environment := ⟨[("pod", "p"), ("commit", "c")], by decide⟩
  extra := some ⟨[("score", .float (.fin (1 / 2)))], rfl⟩

def Call.sample (subject : Text) : Call := ⟨.sample, .ok (), .sample subject⟩

theorem Fact.sample_exact (subject : Text) : (Fact.sample subject).Exact Host.half := by
  intro q member
  obtain rfl : q = 1 / 2 := List.mem_singleton.mp member
  exact ⟨(Text.ofString "0").codes, (Text.ofString ".5").codes, by decide +kernel, by decide,
    by decide +kernel, by decide +kernel⟩

theorem journal_round_trip_sample :
    (load Host.half (recordAll Host.half (.ofText "/j") none [.sample "Qwen3-8B"]).1 =
        .ok ((recordAll Host.half (.ofText "/j") none [.sample "Qwen3-8B"]).2.map
          fun fact => .obj (fact.entry Host.half)) ∧
      ∀ (kind subject : Text) (environment : Environment), environment.fields ≠ [] →
        latest Host.half (recordAll Host.half (.ofText "/j") none [.sample "Qwen3-8B"]).1 kind
            (some subject) (some environment) [] =
          .ok (((recordAll Host.half (.ofText "/j") none [.sample "Qwen3-8B"]).2.reverse.find?
            fun fact => decide (About kind subject environment fact)).map
              fun fact => .obj (fact.entry Host.half))) ↔
      ∀ fact ∈ (recordAll Host.half (.ofText "/j") none [.sample "Qwen3-8B"]).2, fact.Unbroken :=
  journal_round_trip Host.half (.ofText "/j") [.sample "Qwen3-8B"] (by
    intro call member
    obtain rfl := List.mem_singleton.mp member
    exact Fact.sample_exact _)

/-- One recorded subject with a line separator makes the journal unreadable. -/
theorem separator_unreadable :
    (recordAll Host.half (.ofText "/j") none [.sample "Qwen\u20283-8B"]).2 =
        [.sample "Qwen\u20283-8B"] ∧
      load Host.half (recordAll Host.half (.ofText "/j") none [.sample "Qwen\u20283-8B"]).1 ≠
        .ok [.obj ((Fact.sample "Qwen\u20283-8B").entry Host.half)] := by
  have one : (recordAll Host.half (.ofText "/j") none [.sample "Qwen\u20283-8B"]).2.length = 1 := by
    decide +kernel
  have recorded : (recordAll Host.half (.ofText "/j") none [.sample "Qwen\u20283-8B"]).2 =
      [.sample "Qwen\u20283-8B"] := by
    obtain ⟨fact, shape⟩ := List.length_eq_one_iff.mp one
    obtain ⟨call, listed, same⟩ := recordAll_facts Host.half (.ofText "/j") none
      [.sample "Qwen\u20283-8B"] fact (by simp [shape])
    obtain rfl := List.mem_singleton.mp listed
    rw [shape, ← same]
    rfl
  refine ⟨recorded, fun read => ?_⟩
  have exact : ∀ call ∈ [Call.sample "Qwen\u20283-8B"], call.fact.Exact Host.half := by
    intro call member
    obtain rfl := List.mem_singleton.mp member
    exact Fact.sample_exact _
  have unbroken := (load_iff Host.half (.ofText "/j") _ exact).mp (by rw [recorded]; exact read)
  rw [recorded] at unbroken
  have clean := unbroken _ (List.mem_singleton_self _) "Qwen\u20283-8B" (by
    simp [Fact.texts, Fact.sample]) 0x2028 (by decide)
  exact absurd clean (by decide)

end InferForge.Journal

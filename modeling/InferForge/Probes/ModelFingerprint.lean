import InferForge.Host
import InferForge.Py.RoundTrip
import InferForge.Py.Utf8

/-! The revision of a checkpoint, from a hash of its structure files and samples of its weights. -/
namespace InferForge.ModelFingerprint
open Py Effect

/-! ## Checkpoints -/

/-- What a name in a directory leads to. -/
inductive Entry where
  | file (content : Bytes)
  /-- A file that cannot be opened. -/
  | locked (size : Nat)
  | other

/-- A directory, in the order it is listed. -/
structure Checkpoint where
  listing : List (Text × Entry)
  nodup : (listing.map Prod.fst).Nodup
  /-- A name that is no UTF-8 has low surrogates for the bytes that do not decode. -/
  decoded : ∀ name ∈ listing.map Prod.fst, name.fsEncodable = true

namespace Checkpoint

variable (d : Checkpoint)

def names : List Text := d.listing.map Prod.fst

def entry? (name : Text) : Option Entry := d.listing.lookup name

def isFile (name : Text) : Bool :=
  match d.entry? name with
  | some (.file _) | some (.locked _) => true
  | _ => false

def read (name : Text) : Except Exn Bytes :=
  match d.entry? name with
  | some (.file content) => .ok content
  | some (.locked _) => .error (.os "Permission denied")
  | some .other => .error (.os "Is a directory")
  | none => .error (.os "No such file or directory")

/-- `os.path.getsize`. -/
def size (name : Text) : Except Exn Nat :=
  match d.entry? name with
  | some (.file content) => .ok content.length
  | some (.locked size) => .ok size
  | some .other => .ok 0
  | none => .error (.os "No such file or directory")

/-- The bytes of a regular file. -/
def content (name : Text) : Option Bytes :=
  match d.entry? name with
  | some (.file content) => some content
  | _ => none

end Checkpoint

/-! ## The probe -/

def sampleBytes : Nat := 1 <<< 20

def structureNames : List Text :=
  ["config.json", "generation_config.json", "tokenizer_config.json", "tokenizer.json",
    "special_tokens_map.json", "preprocessor_config.json", "chat_template.jinja"]

def weightSuffixes : List Text := [".safetensors", ".bin", ".pt", ".gguf"]

def mcoreMarkers : List Text := ["latest_checkpointed_iteration.txt", "mp_rank_00", "iter_0000001"]

def endsWith (name suffix : Text) : Bool := suffix.codes.isSuffixOf name.codes

def isStructure (name : Text) : Bool :=
  structureNames.contains name || endsWith name ".index.json" || endsWith name ".py"

def isWeight (name : Text) : Bool := weightSuffixes.any (endsWith name)

/-- What the probe takes from the standard library. -/
structure Library where
  /-- SHA-256. -/
  digest : Bytes → Bytes
  loads : Bytes → Except Exn Json
  /-- `sorted` of JSON values, which may not compare. -/
  sortedValues : List Json → Except Exn (List Json)
  floats : FloatText

def hexdigest (digest : Bytes) : Text :=
  ⟨digest.flatMap fun byte => [Dumps.hexDigit (byte.toNat / 16), Dumps.hexDigit (byte.toNat % 16)]⟩

structure Weight where
  name : Text
  size : Nat
  sampleSha256 : Text

def Weight.toJson (weight : Weight) : Json :=
  .obj [("name", .str weight.name), ("size", .int weight.size),
    ("sample_sha256", .str weight.sampleSha256)]

structure Ready where
  revision : Text
  revisionMethod : Text
  shardCount : Nat
  totalWeightBytes : Nat
  structures : List (Text × Text)
  weights : List Weight
  identity : Json
  trustRemoteCodeRequired : Bool

inductive Report where
  | modelUnavailable (reason : Text)
  | unsupportedFormat (reason : Text) (entriesSample : List Text)
  | intakeReady (ready : Ready)

section Probe
variable (library : Library)

def sha256File (content : Bytes) : Text := hexdigest (library.digest content)

/-- The bytes that stand for a weight file: the first ones, and the last ones behind them. -/
def sample (content : Bytes) (size : Nat) : Bytes :=
  content.take sampleBytes ++
    if size > sampleBytes then
      (content.drop (max (size - sampleBytes) sampleBytes)).take sampleBytes
    else []

def sampleFile (content : Bytes) (size : Nat) : Text := hexdigest (library.digest (sample content size))

/-- The structure files among the entries, with their hashes. -/
def structureOf (d : Checkpoint) (entries : List Text) : Except Exn (List (Text × Text)) :=
  (entries.filter fun name => isStructure name && d.isFile name).mapM fun name => do
    let content ← d.read name
    return (name, sha256File library content)

/-- The weight files among the entries, with their samples. -/
def weightsOf (d : Checkpoint) (entries : List Text) : Except Exn (List Weight) :=
  (entries.filter fun name => isWeight name && d.isFile name).mapM fun name => do
    let size ← d.size name
    let content ← d.read name
    return ⟨name, size, sampleFile library content size⟩

/-- `(config.get("auto_map") or {}).values()`. -/
def autoMapValues (config : Dict) : Except Exn (List Json) :=
  let autoMap := Dict.getD config "auto_map" .null
  if autoMap.truthy then
    match autoMap with
    | .obj fields => .ok (fields.map Prod.snd)
    | _ => .error (.attr "object has no attribute 'values'")
  else .ok []

def identityFromConfig (config : Json) : Except Exn Json :=
  match config with
  | .obj fields => do
      let get (key : Text) : Json := Dict.getD fields key .null
      let remoteCode ← library.sortedValues (← autoMapValues fields)
      return .obj [("model_type", get "model_type"), ("architectures", get "architectures"),
        ("torch_dtype", (get "torch_dtype").or (get "dtype")),
        ("max_position_embeddings", get "max_position_embeddings"),
        ("num_hidden_layers", get "num_hidden_layers"),
        ("num_attention_heads", get "num_attention_heads"),
        ("num_key_value_heads", get "num_key_value_heads"), ("head_dim", get "head_dim"),
        ("kv_lora_rank", get "kv_lora_rank"), ("qk_rope_head_dim", get "qk_rope_head_dim"),
        ("vocab_size", get "vocab_size"), ("rope_scaling", get "rope_scaling"),
        ("quantization_config", get "quantization_config"), ("remote_code", .arr remoteCode)]
  | _ => .error (.attr "object has no attribute 'get'")

def canonical (structures : List (Text × Text)) (weights : List Weight) : Json :=
  .obj [("structure", .obj (structures.map fun entry => (entry.1, .str entry.2))),
    ("weights", .arr (weights.map Weight.toJson)), ("sample_bytes", .int sampleBytes)]

/-- `hashlib.sha256(canonical.encode()).hexdigest()`. -/
def revisionOf (structures : List (Text × Text)) (weights : List Weight) : Text :=
  hexdigest (library.digest
    (Text.utf8 ⟨dumps library.floats .canonical (canonical structures weights).sorted⟩))

/-- `sorted(os.listdir(path))`. -/
def sortedNames (d : Checkpoint) : List Text :=
  d.names.insertionSort fun a b => Json.codesLe a.codes b.codes = true

/-- `main`, where `none` is a path that is no directory. -/
def probe : Option Checkpoint → Except Exn Report
  | none => .ok (.modelUnavailable "path is not a directory")
  | some d =>
      let entries := sortedNames d
      match entries.find? mcoreMarkers.contains with
      | some marker =>
          .ok (.unsupportedFormat ("looks like an mcore training checkpoint: found " ++ marker) [])
      | none =>
          if entries.contains "config.json" then do
            let config ← library.loads (← d.read "config.json")
            let structures ← structureOf library d entries
            let weights ← weightsOf library d entries
            if weights.isEmpty then
              return .unsupportedFormat "config.json present but no weight shard found" []
            else do
              let identity ← identityFromConfig library config
              return .intakeReady {
                revision := revisionOf library structures weights
                revisionMethod := "structure-sha256 + head/tail 1048576B per shard"
                shardCount := weights.length
                totalWeightBytes := (weights.map Weight.size).sum
                structures := structures
                weights := weights
                identity := identity
                trustRemoteCodeRequired :=
                  match config with
                  | .obj fields => (Dict.getD fields "auto_map" .null).truthy
                  | _ => false }
          else
            .ok (.unsupportedFormat "no config.json: not a servable HuggingFace checkpoint"
              (entries.take 20))

end Probe
/-! ## Hashes -/

theorem hexdigest_injective : Function.Injective hexdigest := by
  intro a b same
  have codes := congrArg Text.codes same
  simp only [hexdigest] at codes
  clear same
  induction a generalizing b with
  | nil =>
    cases b with
    | nil => rfl
    | cons => simp at codes
  | cons x a ih =>
    cases b with
    | nil => simp at codes
    | cons y b =>
      simp only [List.flatMap_cons, List.cons_append, List.nil_append, List.cons.injEq] at codes
      obtain ⟨high, low, rest⟩ := codes
      have below (z : UInt8) : z.toNat / 16 < 16 := by
        have := z.toNat_lt
        omega
      have highs := congrArg Loads.hexValue high
      have lows := congrArg Loads.hexValue low
      rw [hexValue_hexDigit (below x), hexValue_hexDigit (below y), Option.some.injEq] at highs
      rw [hexValue_hexDigit (Nat.mod_lt _ (by decide)), hexValue_hexDigit (Nat.mod_lt _ (by decide)),
        Option.some.injEq] at lows
      have same : x = y := UInt8.toNat_inj.mp (by omega)
      rw [same, ih rest]

theorem hexDigit_ascii (small : n < 16) : (Dumps.hexDigit n).val < 128 := by
  have all : ∀ n : Fin 16, (Dumps.hexDigit n).val < 128 := by decide
  exact all ⟨n, small⟩

/-- Characters of ASCII only. -/
def Ascii (codes : List CodePoint) : Prop := ∀ c ∈ codes, c.val < 128

theorem hexdigest_ascii (digest : Bytes) : Ascii (hexdigest digest).codes := by
  intro c member
  obtain ⟨byte, _, listed⟩ := List.mem_flatMap.mp member
  have := byte.toNat_lt
  rcases List.mem_cons.mp listed with rfl | listed
  · exact hexDigit_ascii (by omega)
  · rw [List.mem_singleton.mp listed]
    exact hexDigit_ascii (Nat.mod_lt _ (by decide))

theorem Ascii.lone {t : Text} (ascii : Ascii t.codes) : t.lone = true := by
  simp only [Text.lone, List.all_eq_true, Bool.not_eq_true', Text.isHigh, Bool.and_eq_false_iff,
    decide_eq_false_iff_not]
  intro c member
  have := ascii c member
  omega

theorem Ascii.encodable {codes : List CodePoint} (ascii : Ascii codes) :
    Text.encodable ⟨codes⟩ = true := by
  simp only [Text.encodable, List.all_eq_true, Bool.not_eq_true', Text.isSurrogate,
    Bool.and_eq_false_iff, decide_eq_false_iff_not]
  intro c member
  have := ascii c member
  omega

theorem lone_of_fsEncodable {t : Text} (encodable : t.fsEncodable = true) : t.lone = true := by
  simp only [Text.fsEncodable, List.all_eq_true, Bool.or_eq_true, Bool.not_eq_true', Text.isSurrogate,
    Bool.and_eq_false_iff, Bool.and_eq_true, decide_eq_true_eq, decide_eq_false_iff_not] at encodable
  simp only [Text.lone, List.all_eq_true, Bool.not_eq_true', Text.isHigh, Bool.and_eq_false_iff,
    decide_eq_false_iff_not]
  intro c member
  have := encodable c member
  omega

/-! ## Samples -/

section Samples
variable {α : Type} {n : Nat}

def lastOf (n : Nat) (x : List α) : List α := x.drop (x.length - n)

/-- The elements from the first `n` to the last `n` on, as far as they are read. -/
def restOf (n : Nat) (x : List α) : List α :=
  if x.length > n then (x.drop (max (x.length - n) n)).take n else []

theorem restOf_eq (x : List α) : restOf n x = x.drop (max (x.length - n) n) := by
  rw [restOf]
  split
  · rw [List.take_of_length_le]
    rw [List.length_drop]
    omega
  · rw [List.drop_eq_nil_of_le (by omega)]

/-- Up to twice the size of a sample, a file is its head and its tail. -/
theorem eq_of_samples {x y : List α} (same : x.length = y.length) (short : x.length ≤ 2 * n)
    (head : x.take n = y.take n) (tail : lastOf n x = lastOf n y) : x = y := by
  rw [← List.take_append_drop (x.length - n) x, ← List.take_append_drop (y.length - n) y]
  have front := congrArg (List.take (x.length - n)) head
  rw [List.take_take, List.take_take, Nat.min_eq_left (by omega)] at front
  rw [lastOf, lastOf] at tail
  rw [front, tail, same]

/-- The head of a file and what is read behind it say as much as its head and its tail. -/
theorem samples_iff {x y : List α} (same : x.length = y.length) :
    x.take n ++ restOf n x = y.take n ++ restOf n y ↔
      x.take n = y.take n ∧ lastOf n x = lastOf n y := by
  have parts : x.take n ++ restOf n x = y.take n ++ restOf n y ↔
      x.take n = y.take n ∧ restOf n x = restOf n y :=
    ⟨fun whole => List.append_inj whole (by simp [same]), fun parts => by rw [parts.1, parts.2]⟩
  rw [parts, restOf_eq, restOf_eq]
  refine and_congr_right fun head => ?_
  by_cases long : 2 * n ≤ x.length
  · rw [lastOf, lastOf, Nat.max_eq_left (by omega), Nat.max_eq_left (by omega)]
  · rw [Nat.max_eq_right (by omega), Nat.max_eq_right (by omega)]
    constructor
    · intro rest
      have whole : x = y := by
        rw [← List.take_append_drop n x, ← List.take_append_drop n y, head, rest]
      rw [whole]
    · intro tail
      rw [eq_of_samples same (by omega) head tail]

end Samples

/-! ## The canonical text -/

theorem escapeChar_ascii (c : CodePoint) : Ascii (Dumps.escapeChar true c) := by
  have escape (n : Nat) : Ascii (Dumps.unicodeEscape n) := by
    intro d member
    simp only [Dumps.unicodeEscape, Dumps.hex4, List.mem_cons, List.not_mem_nil, or_false] at member
    rcases member with rfl | rfl | rfl | rfl | rfl | rfl
    · decide
    · decide
    all_goals exact hexDigit_ascii (Nat.mod_lt _ (by decide))
  unfold Dumps.escapeChar
  split
  · rename_i letter found
    have letters : (Dumps.shortEscapes.all fun pair => decide (pair.2.val < 128)) = true := rfl
    intro d member
    simp only [List.mem_cons, List.not_mem_nil, or_false] at member
    rcases member with rfl | rfl
    · decide
    · exact of_decide_eq_true (List.all_eq_true.mp letters _ (mem_of_lookup found))
  · split
    · rename_i shown
      simp only [Dumps.plain, Bool.and_eq_true, Bool.or_eq_true, decide_eq_true_eq, Bool.not_true,
        Bool.false_eq_true, false_or] at shown
      intro d member
      rw [List.mem_singleton.mp member]
      omega
    · split
      · exact escape _
      · intro d member
        exact (List.mem_append.mp member).elim (escape _ d) (escape _ d)

theorem Ascii.append {a b : List CodePoint} (left : Ascii a) (right : Ascii b) : Ascii (a ++ b) :=
  List.forall_mem_append.mpr ⟨left, right⟩

theorem Ascii.cons {c : CodePoint} (first : c.val < 128) (rest : Ascii a) : Ascii (c :: a) :=
  List.forall_mem_cons.mpr ⟨first, rest⟩

theorem Ascii.nil : Ascii [] := nofun

theorem string_ascii (t : Text) : Ascii (Dumps.string true t) := by
  apply Ascii.cons (by decide)
  apply Ascii.append
  · intro c member
    obtain ⟨d, _, listed⟩ := List.mem_flatMap.mp member
    exact escapeChar_ascii d c listed
  · exact Ascii.cons (by decide) .nil

theorem nat_ascii (n : Nat) : Ascii (Dumps.nat n) := by
  intro c member
  have digit := nat_digits n c member
  simp only [Loads.isDigit, Bool.and_eq_true, decide_eq_true_eq] at digit
  omega

theorem lit_ascii {s : String} (small : ∀ c ∈ s.toList, c.toNat < 128) : Ascii (lit s) := by
  intro c member
  obtain ⟨char, listed, rfl⟩ := List.mem_map.mp member
  have := small char listed
  dsimp only
  omega

mutual

/-- A value without floats is written in ASCII. -/
theorem dumps_ascii (floats : FloatText) : (value : Json) → value.doubles = [] →
    Ascii (dumps floats .canonical value)
  | .null, _ | .bool true, _ | .bool false, _ => lit_ascii (by simp)
  | .float .nan, _ | .float (.inf false), _ | .float (.inf true), _ => lit_ascii (by simp)
  | .float (.fin q), none' => by simp [Json.doubles] at none'
  | .int (.ofNat n), _ => nat_ascii n
  | .int (.negSucc n), _ => .cons (by decide) (nat_ascii _)
  | .str t, _ => string_ascii t
  | .arr items, none' => .cons (by decide) (.append (dumpsItems_ascii floats items none')
      (.cons (by decide) .nil))
  | .obj fields, none' => .cons (by decide) (.append (dumpsFields_ascii floats fields none')
      (.cons (by decide) .nil))

theorem dumpsItems_ascii (floats : FloatText) : (items : List Json) → Json.doublesItems items = [] →
    Ascii (dumpsItems floats .canonical items)
  | [], _ => .nil
  | item :: rest, none' => by
      simp only [Json.doublesItems, List.append_eq_nil_iff] at none'
      apply Ascii.append (dumps_ascii floats item none'.1)
      split
      · exact .nil
      · exact .cons (by decide) (dumpsItems_ascii floats rest none'.2)

theorem dumpsFields_ascii (floats : FloatText) : (fields : List (Text × Json)) →
    Json.doublesFields fields = [] → Ascii (dumpsFields floats .canonical fields)
  | [], _ => .nil
  | (key, value) :: rest, none' => by
      simp only [Json.doublesFields, List.append_eq_nil_iff] at none'
      apply Ascii.append
      · exact .append (.append (string_ascii key) (.cons (by decide) .nil))
          (dumps_ascii floats value none'.1)
      · split
        · exact .nil
        · exact .cons (by decide) (dumpsFields_ascii floats rest none'.2)

end

/-- The hashed text of a value determines it. -/
theorem hashed_injective {floats : FloatText} {a b : Json} (noneA : a.doubles = [])
    (noneB : b.doubles = []) (loneA : ∀ t ∈ a.texts, t.lone = true)
    (loneB : ∀ t ∈ b.texts, t.lone = true) (distinctA : a.distinct = true)
    (distinctB : b.distinct = true)
    (same : Text.utf8 ⟨dumps floats .canonical a⟩ = Text.utf8 ⟨dumps floats .canonical b⟩) : a = b := by
  have decoded := congrArg decodeUtf8 same
  rw [decodeUtf8_utf8 (dumps_ascii floats a noneA).encodable,
    decodeUtf8_utf8 (dumps_ascii floats b noneB).encodable, Option.some.injEq] at decoded
  have read := congrArg (loads floats) decoded
  rw [loads_dumps_lone a (fun _ => loneA) (by simp [noneA]) distinctA,
    loads_dumps_lone b (fun _ => loneB) (by simp [noneB]) distinctB, Option.some.injEq] at read
  exact read

/-! ## The canonical value -/

def Before (a b : Text) : Prop := Json.codesLe a.codes b.codes = true

/-- Sorted entries of one value each. -/
theorem sortedFields_strings (entries : List (Text × Text)) :
    Json.sortedFields (entries.map fun entry => (entry.1, .str entry.2)) =
      entries.map fun entry => (entry.1, .str entry.2) := by
  induction entries with
  | nil => rfl
  | cons entry rest ih => simp [Json.sortedFields, Json.sorted, ih]

theorem weight_sorted (weight : Weight) : weight.toJson.sorted =
    .obj [("name", .str weight.name), ("sample_sha256", .str weight.sampleSha256),
      ("size", .int weight.size)] := by
  simp [Weight.toJson, Json.sorted, Json.sortedFields, List.insertionSort, List.orderedInsert,
    Json.keyLe, Json.codesLe, Text.ofString]

theorem sortedItems_map (weights : List Weight) :
    Json.sortedItems (weights.map Weight.toJson) = weights.map fun weight => weight.toJson.sorted := by
  induction weights with
  | nil => rfl
  | cons weight rest ih => rw [List.map_cons, Json.sortedItems, ih, List.map_cons]

theorem canonical_sorted {structures : List (Text × Text)} {weights : List Weight}
    (ordered : (structures.map Prod.fst).Pairwise Before) :
    (canonical structures weights).sorted =
      .obj [("sample_bytes", .int sampleBytes),
        ("structure", .obj (structures.map fun entry => (entry.1, .str entry.2))),
        ("weights", .arr (weights.map fun weight => weight.toJson.sorted))] := by
  have kept : (structures.map fun entry => (entry.1, Json.str entry.2)).insertionSort
      (fun a b => Json.keyLe a b = true) = structures.map fun entry => (entry.1, Json.str entry.2) := by
    apply List.Pairwise.insertionSort_eq
    rw [List.pairwise_map] at ordered ⊢
    exact ordered
  simp only [canonical, Json.sorted, Json.sortedFields, sortedFields_strings, sortedItems_map, kept]
  simp [List.insertionSort, List.orderedInsert, Json.keyLe, Json.codesLe, Text.ofString]

/-! ## What is covered -/

section Records
variable {β : Type} {f g : Text → Except Exn β} {xs ys : List Text} {as bs : List β}

/-- Two lists of labelled records agree when the names do, and the record of each name. -/
theorem records_eq_iff (label : β → Text) (left : ∀ name r, f name = .ok r → label r = name)
    (right : ∀ name r, g name = .ok r → label r = name) (first : xs.mapM f = .ok as)
    (second : ys.mapM g = .ok bs) : as = bs ↔ xs = ys ∧ ∀ name ∈ xs, f name = g name := by
  have pairs := mapM_forall₂.mp first
  have pairs' := mapM_forall₂.mp second
  clear first second
  induction pairs generalizing ys bs with
  | nil =>
    cases pairs' with
    | nil => simp
    | cons => simp
  | @cons name r xs as here _ ih =>
    cases pairs' with
    | nil => simp
    | @cons name' r' ys bs here' pairs' =>
      constructor
      · intro whole
        obtain ⟨rfl, others⟩ := List.cons.inj whole
        obtain ⟨rfl, same⟩ := (ih pairs').mp others
        obtain rfl : name = name' := (left name r here).symm.trans (right name' r here')
        exact ⟨rfl, List.forall_mem_cons.mpr ⟨here.trans here'.symm, same⟩⟩
      · rintro ⟨names, records⟩
        obtain ⟨rfl, rfl⟩ := List.cons.inj names
        rw [List.forall_mem_cons, here, here', Except.ok.injEq] at records
        rw [records.1, (ih pairs').mpr ⟨rfl, records.2⟩]

theorem labels_eq (label : β → Text) (left : ∀ name r, f name = .ok r → label r = name)
    (first : xs.mapM f = .ok as) : as.map label = xs := by
  have pairs := mapM_forall₂.mp first
  clear first
  induction pairs with
  | nil => rfl
  | cons here _ ih => rw [List.map_cons, ih, left _ _ here]

end Records

theorem mem_sortedNames {d : Checkpoint} : name ∈ sortedNames d ↔ name ∈ d.names :=
  (List.perm_insertionSort _ _).mem_iff

theorem sortedNames_pairwise (d : Checkpoint) : (sortedNames d).Pairwise Before := by
  have : Std.Total fun a b : Text => Json.codesLe a.codes b.codes = true :=
    ⟨fun a b => Json.codesLe_total a.codes b.codes⟩
  have : IsTrans Text fun a b => Json.codesLe a.codes b.codes = true :=
    ⟨fun _ _ _ => Json.codesLe_trans⟩
  have sorted : (sortedNames d).Pairwise fun a b => Json.codesLe a.codes b.codes = true :=
    List.pairwise_insertionSort _ _
  exact sorted

theorem mem_names_of_isFile {d : Checkpoint} (file : d.isFile name = true) : name ∈ d.names := by
  unfold Checkpoint.isFile at file
  cases found : d.entry? name with
  | none => simp [found] at file
  | some entry => exact List.mem_map_of_mem (mem_of_lookup found)

/-- The names of one kind that are files, in the order of the probe. -/
def covered (wanted : Text → Bool) (d : Checkpoint) : List Text :=
  (sortedNames d).filter fun name => wanted name && d.isFile name

theorem mem_covered {wanted : Text → Bool} {d : Checkpoint} :
    name ∈ covered wanted d ↔ wanted name = true ∧ d.isFile name = true := by
  rw [covered, List.mem_filter, Bool.and_eq_true, mem_sortedNames]
  exact ⟨fun both => both.2, fun both => ⟨mem_names_of_isFile both.2, both⟩⟩

theorem covered_pairwise (wanted : Text → Bool) (d : Checkpoint) :
    (covered wanted d).Pairwise Before :=
  (sortedNames_pairwise d).sublist List.filter_sublist

theorem covered_nodup (wanted : Text → Bool) (d : Checkpoint) : (covered wanted d).Nodup :=
  ((List.perm_insertionSort _ _).nodup_iff.mpr d.nodup).sublist List.filter_sublist

/-- The order of the listing does not matter. -/
theorem covered_eq_iff {wanted : Text → Bool} {a b : Checkpoint} :
    covered wanted a = covered wanted b ↔
      ∀ name, wanted name = true → (a.isFile name = true ↔ b.isFile name = true) := by
  constructor
  · intro same name kind
    have members : name ∈ covered wanted a ↔ name ∈ covered wanted b := by rw [same]
    rw [mem_covered, mem_covered] at members
    simpa [kind] using members
  · intro same
    apply List.Perm.eq_of_pairwise _ (covered_pairwise wanted a) (covered_pairwise wanted b)
    · rw [List.perm_ext_iff_of_nodup (covered_nodup wanted a) (covered_nodup wanted b)]
      intro name
      rw [mem_covered, mem_covered]
      exact and_congr_right (same name)
    · intro x y _ _ first second
      exact Text.ext (Json.codesLe_antisymm first second)

/-! ## One record -/

section Record
variable {library : Library} {d : Checkpoint} {name : Text}

theorem read_ok : d.read name = .ok content ↔ d.content name = some content := by
  unfold Checkpoint.read Checkpoint.content
  cases d.entry? name with
  | none => simp
  | some entry => cases entry <;> simp

theorem size_ok (found : d.content name = some content) : d.size name = .ok content.length := by
  unfold Checkpoint.content at found
  unfold Checkpoint.size
  split at found
  · cases found
    simp [*]
  · cases found

theorem structure_record : (do
      let content ← d.read name
      return (name, sha256File library content) : Except Exn (Text × Text)) = .ok record ↔
    ∃ content, d.content name = some content ∧ record = (name, sha256File library content) := by
  rw [bind_ok]
  refine exists_congr fun content => ?_
  rw [read_ok, pure_ok, eq_comm (b := record)]

theorem weight_record : (do
      let size ← d.size name
      let content ← d.read name
      return ⟨name, size, sampleFile library content size⟩ : Except Exn Weight) = .ok record ↔
    ∃ content, d.content name = some content ∧
      record = ⟨name, content.length, sampleFile library content content.length⟩ := by
  constructor
  · intro made
    obtain ⟨size, sized, rest⟩ := bind_ok.mp made
    obtain ⟨content, found, whole⟩ := bind_ok.mp rest
    rw [read_ok] at found
    rw [size_ok found] at sized
    cases sized
    exact ⟨content, found, (pure_ok.mp whole).symm⟩
  · rintro ⟨content, found, rfl⟩
    rw [size_ok found, read_ok.mpr found]
    rfl

theorem structureOf_member (entries : List Text)
    (made : structureOf library d entries = .ok structures) :
    ∀ entry ∈ structures, entry.1 ∈ d.names ∧ ∃ content, entry.2 = sha256File library content := by
  intro entry member
  obtain ⟨name, listed, record⟩ := forall₂_member (mapM_forall₂.mp made).flip member
  obtain ⟨content, found, rfl⟩ := structure_record.mp record
  rw [List.mem_filter, Bool.and_eq_true] at listed
  exact ⟨mem_names_of_isFile listed.2.2, content, rfl⟩

theorem weightsOf_member (entries : List Text) (made : weightsOf library d entries = .ok weights) :
    ∀ weight ∈ weights, weight.name ∈ d.names ∧
      ∃ content size, weight.sampleSha256 = sampleFile library content size := by
  intro weight member
  obtain ⟨name, listed, record⟩ := forall₂_member (mapM_forall₂.mp made).flip member
  obtain ⟨content, found, rfl⟩ := weight_record.mp record
  rw [List.mem_filter, Bool.and_eq_true] at listed
  exact ⟨mem_names_of_isFile listed.2.2, content, _, rfl⟩

end Record

/-! ## Equal revisions -/

section Revisions
variable {library : Library}

/-- What the probe collects of a checkpoint before it hashes it. -/
structure Collected (library : Library) (d : Checkpoint) (structures : List (Text × Text))
    (weights : List Weight) : Prop where
  structures : structureOf library d (sortedNames d) = .ok structures
  weights : weightsOf library d (sortedNames d) = .ok weights

theorem collected_of_ready {d : Checkpoint}
    (accepted : probe library (some d) = .ok (.intakeReady ready)) :
    ∃ structures weights, Collected library d structures weights ∧
      ready.revision = revisionOf library structures weights := by
  unfold probe at accepted
  dsimp only at accepted
  split at accepted
  · cases accepted
  · split at accepted
    · obtain ⟨_, _, rest⟩ := bind_ok.mp accepted
      obtain ⟨config, _, rest⟩ := bind_ok.mp rest
      obtain ⟨structures, first, rest⟩ := bind_ok.mp rest
      obtain ⟨weights, second, rest⟩ := bind_ok.mp rest
      split at rest
      · cases pure_ok.mp rest
      · obtain ⟨_, _, whole⟩ := bind_ok.mp rest
        cases pure_ok.mp whole
        exact ⟨structures, weights, ⟨first, second⟩, rfl⟩
    · cases accepted

theorem structures_labels {d : Checkpoint} (collected : Collected library d structures weights) :
    structures.map Prod.fst = covered isStructure d :=
  labels_eq Prod.fst (fun name record made => by
    obtain ⟨_, _, rfl⟩ := structure_record.mp made
    rfl) collected.structures

/-- The sorted value that is hashed. -/
def hashed (structures : List (Text × Text)) (weights : List Weight) : Json :=
  .obj [("sample_bytes", .int sampleBytes),
    ("structure", .obj (structures.map fun entry => (entry.1, .str entry.2))),
    ("weights", .arr (weights.map fun weight => weight.toJson.sorted))]

theorem hashed_doubles (structures : List (Text × Text)) (weights : List Weight) :
    (hashed structures weights).doubles = [] := by
  have first : Json.doublesFields (structures.map fun entry => (entry.1, Json.str entry.2)) = [] := by
    induction structures with
    | nil => rfl
    | cons entry rest ih => simp [Json.doublesFields, Json.doubles, ih]
  have second : Json.doublesItems (weights.map fun weight => weight.toJson.sorted) = [] := by
    induction weights with
    | nil => rfl
    | cons weight rest ih =>
      rw [List.map_cons, Json.doublesItems, ih, weight_sorted]
      rfl
  simp [hashed, Json.doubles, Json.doublesFields, first, second]

theorem name_lone {d : Checkpoint} (named : name ∈ d.names) : name.lone = true :=
  lone_of_fsEncodable (d.decoded name named)

theorem hashed_lone {d : Checkpoint} (collected : Collected library d structures weights) :
    ∀ t ∈ (hashed structures weights).texts, t.lone = true := by
  have first : ∀ t ∈ Json.textsFields (structures.map fun entry => (entry.1, Json.str entry.2)),
      t.lone = true := by
    have each := structureOf_member _ collected.structures
    clear collected
    induction structures with
    | nil => simp [Json.textsFields]
    | cons entry rest ih =>
      rw [List.forall_mem_cons] at each
      obtain ⟨⟨named, content, digest⟩, rest'⟩ := each
      simp only [List.map_cons, Json.textsFields, Json.texts, List.singleton_append,
        List.forall_mem_cons]
      rw [digest]
      exact ⟨name_lone named, (hexdigest_ascii _).lone, ih rest'⟩
  have second : ∀ t ∈ Json.textsItems (weights.map fun weight => weight.toJson.sorted),
      t.lone = true := by
    have each := weightsOf_member _ collected.weights
    clear collected first
    induction weights with
    | nil => simp [Json.textsItems]
    | cons weight rest ih =>
      rw [List.forall_mem_cons] at each
      obtain ⟨⟨named, content, size, digest⟩, rest'⟩ := each
      simp only [List.map_cons, Json.textsItems, weight_sorted, Json.textsFields, Json.texts,
        List.forall_mem_append, List.forall_mem_cons, List.append_nil, List.not_mem_nil, false_implies, implies_true, and_true]
      rw [digest]
      exact ⟨⟨by decide, name_lone named, by decide, (hexdigest_ascii _).lone, by decide⟩, ih rest'⟩
  simp only [hashed, Json.texts, Json.textsFields, List.nil_append, List.append_nil,
    List.forall_mem_cons, List.forall_mem_append]
  exact ⟨by decide, by decide, first, by decide, second⟩

theorem hashed_distinct {d : Checkpoint} (collected : Collected library d structures weights) :
    (hashed structures weights).distinct = true := by
  have first : Json.distinctFields (structures.map fun entry => (entry.1, Json.str entry.2)) = true := by
    have nodup := structures_labels collected ▸ covered_nodup isStructure d
    clear collected
    induction structures with
    | nil => rfl
    | cons entry rest ih =>
      rw [List.map_cons, List.nodup_cons] at nodup
      simp only [List.map_cons, Json.distinctFields, Json.distinct, ih nodup.2, List.map_map,
        Bool.and_true, Bool.not_eq_true', List.contains_eq_mem, decide_eq_false_iff_not]
      exact nodup.1
  have second : Json.distinctItems (weights.map fun weight => weight.toJson.sorted) = true := by
    clear collected first
    induction weights with
    | nil => rfl
    | cons weight rest ih =>
      rw [List.map_cons, Json.distinctItems, ih, weight_sorted]
      simp [Json.distinct, Json.distinctFields]
  simp [hashed, Json.distinct, Json.distinctFields, first, second]

theorem canonical_hashed {d : Checkpoint} (collected : Collected library d structures weights) :
    (canonical structures weights).sorted = hashed structures weights :=
  canonical_sorted (structures_labels collected ▸ covered_pairwise isStructure d)

theorem structures_injective :
    Function.Injective fun entry : Text × Text => (entry.1, Json.str entry.2) := by
  intro a b same
  simp only [Prod.mk.injEq, Json.str.injEq] at same
  exact Prod.ext same.1 same.2

theorem weights_injective : Function.Injective fun weight : Weight => weight.toJson.sorted := by
  intro a b same
  simp only [weight_sorted, Json.obj.injEq, List.cons.injEq, Prod.mk.injEq, Json.str.injEq,
    Json.int.injEq, Nat.cast_inj, true_and, and_true] at same
  obtain ⟨_, _, _⟩ := a
  obtain ⟨_, _, _⟩ := b
  simp only at same
  rw [same.1, same.2.1, same.2.2]

theorem hashed_inj : hashed structures weights = hashed structures' weights' ↔
    structures = structures' ∧ weights = weights' := by
  simp only [hashed, Json.obj.injEq, List.cons.injEq, Prod.mk.injEq, Json.arr.injEq, true_and,
    and_true, (List.map_injective_iff.mpr structures_injective).eq_iff,
    (List.map_injective_iff.mpr weights_injective).eq_iff]

/-- Equal revisions are revisions of equal records. -/
theorem revisionOf_eq_iff {a b : Checkpoint} (injective : Function.Injective library.digest)
    (first : Collected library a structures weights)
    (second : Collected library b structures' weights') :
    revisionOf library structures weights = revisionOf library structures' weights' ↔
      structures = structures' ∧ weights = weights' := by
  constructor
  · intro same
    have texts := injective (hexdigest_injective same)
    rw [canonical_hashed first, canonical_hashed second] at texts
    exact hashed_inj.mp (hashed_injective (hashed_doubles _ _) (hashed_doubles _ _)
      (hashed_lone first) (hashed_lone second) (hashed_distinct first) (hashed_distinct second) texts)
  · rintro ⟨rfl, rfl⟩
    rfl

/-- The same size and the same two samples. -/
def SameSample (x y : Bytes) : Prop :=
  x.length = y.length ∧ x.take sampleBytes = y.take sampleBytes ∧
    lastOf sampleBytes x = lastOf sampleBytes y

/-- The same structure files with the same bytes, and the same weight files with the same samples. -/
structure SameCoverage (a b : Checkpoint) : Prop where
  structures : ∀ name, isStructure name = true → a.content name = b.content name
  weights : ∀ name, isWeight name = true → Option.Rel SameSample (a.content name) (b.content name)

theorem content_of_collected {d : Checkpoint} (collected : Collected library d structures weights)
    (kind : isStructure name = true ∨ isWeight name = true) :
    d.isFile name = true ↔ ∃ content, d.content name = some content := by
  constructor
  · intro file
    rcases kind with kind | kind
    · obtain ⟨record, _, made⟩ := forall₂_member (mapM_forall₂.mp collected.structures)
        (mem_covered.mpr ⟨kind, file⟩)
      obtain ⟨content, found, _⟩ := structure_record.mp made
      exact ⟨content, found⟩
    · obtain ⟨record, _, made⟩ := forall₂_member (mapM_forall₂.mp collected.weights)
        (mem_covered.mpr ⟨kind, file⟩)
      obtain ⟨content, found, _⟩ := weight_record.mp made
      exact ⟨content, found⟩
  · rintro ⟨content, found⟩
    unfold Checkpoint.content at found
    unfold Checkpoint.isFile
    split at found
    · simp [*]
    · cases found

section Related
variable {α β : Type} {r s : α → β → Prop} {u : Option α} {v : Option β}

theorem rel_congr (same : ∀ x y, r x y ↔ s x y) : Option.Rel r u v ↔ Option.Rel s u v := by
  cases u <;> cases v <;> simp [same]

theorem rel_eq {u v : Option α} : Option.Rel Eq u v ↔ u = v := by
  cases u <;> cases v <;> simp

theorem rel_some (related : Option.Rel r u v) : (∃ x, u = some x) ↔ ∃ y, v = some y := by
  cases related <;> simp

end Related

/-- Records that the content of a file determines agree when the contents do, by name. -/
theorem records_agree {β : Type} {a b : Checkpoint} {f g : Text → Except Exn β} {as bs : List β}
    (wanted : Text → Bool) (label : β → Text) (make : Text → Bytes → β)
    (labelled : ∀ name content, label (make name content) = name)
    (left : ∀ name r, f name = .ok r ↔ ∃ content, a.content name = some content ∧ r = make name content)
    (right : ∀ name r, g name = .ok r ↔ ∃ content, b.content name = some content ∧ r = make name content)
    (files : ∀ name, wanted name = true →
      (a.isFile name = true ↔ ∃ content, a.content name = some content))
    (files' : ∀ name, wanted name = true →
      (b.isFile name = true ↔ ∃ content, b.content name = some content))
    (first : (covered wanted a).mapM f = .ok as) (second : (covered wanted b).mapM g = .ok bs) :
    as = bs ↔ ∀ name, wanted name = true →
      Option.Rel (fun x y => make name x = make name y) (a.content name) (b.content name) := by
  rw [records_eq_iff label
    (fun name r made => by
      obtain ⟨content, _, rfl⟩ := (left name r).mp made
      exact labelled name content)
    (fun name r made => by
      obtain ⟨content, _, rfl⟩ := (right name r).mp made
      exact labelled name content) first second, covered_eq_iff]
  constructor
  · rintro ⟨names, records⟩ name kind
    cases here : a.content name with
    | none =>
      have missing : ¬ b.isFile name = true := by
        rw [← names name kind, files name kind, here]
        rintro ⟨content, found⟩
        cases found
      rw [files' name kind] at missing
      cases there : b.content name with
      | none => exact .none
      | some y => exact absurd ⟨y, there⟩ missing
    | some x =>
      have file := (files name kind).mpr ⟨x, here⟩
      obtain ⟨y, there⟩ := (files' name kind).mp ((names name kind).mp file)
      have same := records name (mem_covered.mpr ⟨kind, file⟩)
      rw [(left name _).mpr ⟨x, here, rfl⟩, (right name _).mpr ⟨y, there, rfl⟩,
        Except.ok.injEq] at same
      rw [there]
      exact .some same
  · intro agree
    refine ⟨fun name kind => ?_, fun name member => ?_⟩
    · rw [files name kind, files' name kind]
      exact rel_some (agree name kind)
    · obtain ⟨kind, file⟩ := mem_covered.mp member
      obtain ⟨x, here⟩ := (files name kind).mp file
      have same := agree name kind
      rw [here] at same
      cases there : b.content name with
      | none =>
        rw [there] at same
        cases same
      | some y =>
        rw [there] at same
        cases same with
        | some same => rw [(left name _).mpr ⟨x, here, rfl⟩, (right name _).mpr ⟨y, there, rfl⟩, same]

theorem sampleFile_eq_iff (injective : Function.Injective library.digest) {x y : Bytes}
    (same : x.length = y.length) :
    sampleFile library x x.length = sampleFile library y y.length ↔
      x.take sampleBytes = y.take sampleBytes ∧ lastOf sampleBytes x = lastOf sampleBytes y := by
  rw [← samples_iff same]
  exact (hexdigest_injective.comp injective).eq_iff

/-- What is collected agrees exactly when the covered content does. -/
theorem collected_eq_iff {a b : Checkpoint} (injective : Function.Injective library.digest)
    (first : Collected library a structures weights)
    (second : Collected library b structures' weights') :
    structures = structures' ∧ weights = weights' ↔ SameCoverage a b := by
  have left := records_agree isStructure Prod.fst
    (fun name content => (name, sha256File library content)) (fun _ _ => rfl)
    (fun _ _ => structure_record) (fun _ _ => structure_record)
    (fun _ kind => content_of_collected first (.inl kind))
    (fun _ kind => content_of_collected second (.inl kind)) first.structures second.structures
  have right := records_agree isWeight Weight.name
    (fun name content => ⟨name, content.length, sampleFile library content content.length⟩)
    (fun _ _ => rfl) (fun _ _ => weight_record) (fun _ _ => weight_record)
    (fun _ kind => content_of_collected first (.inr kind))
    (fun _ kind => content_of_collected second (.inr kind)) first.weights second.weights
  have bytes (name : Text) (x y : Bytes) :
      (name, sha256File library x) = (name, sha256File library y) ↔ x = y := by
    rw [Prod.mk.injEq, eq_self_iff_true, true_and]
    exact (hexdigest_injective.comp injective).eq_iff
  have samples (name : Text) (x y : Bytes) :
      (⟨name, x.length, sampleFile library x x.length⟩ : Weight) =
        ⟨name, y.length, sampleFile library y y.length⟩ ↔ SameSample x y := by
    rw [Weight.mk.injEq, eq_self_iff_true, true_and]
    exact and_congr_right fun size => sampleFile_eq_iff injective size
  rw [left, right]
  simp only [rel_congr (bytes _), rel_congr (samples _), rel_eq]
  exact ⟨fun both => ⟨both.1, both.2⟩, fun same => ⟨same.structures, same.weights⟩⟩

theorem sampleBytes_twice : 2 * sampleBytes = 2 ^ 21 := by decide

/-- The revisions of two accepted checkpoints are equal exactly when the covered content is. -/
theorem revision_pins (library : Library) (a b : Checkpoint) (readyA readyB : Ready)
    (injective : Function.Injective library.digest)
    (first : probe library (some a) = .ok (.intakeReady readyA))
    (second : probe library (some b) = .ok (.intakeReady readyB)) :
    (readyA.revision = readyB.revision ↔ SameCoverage a b) ∧
    (∀ name x y, isWeight name = true → a.content name = some x → b.content name = some y →
      x.length ≤ 2 ^ 21 → x ≠ y → readyA.revision ≠ readyB.revision) ∧
    ((∀ name, isStructure name = true ∨ isWeight name = true → a.content name = b.content name) →
      readyA.revision = readyB.revision) := by
  obtain ⟨structures, weights, collected, revised⟩ := collected_of_ready first
  obtain ⟨structures', weights', collected', revised'⟩ := collected_of_ready second
  have pins : readyA.revision = readyB.revision ↔ SameCoverage a b := by
    rw [revised, revised', revisionOf_eq_iff injective collected collected',
      collected_eq_iff injective collected collected']
  refine ⟨pins, fun name x y kind here there short differ same => ?_, fun same => ?_⟩
  · have sampled := (pins.mp same).weights name kind
    rw [here, there, Option.rel_some_some] at sampled
    rw [← sampleBytes_twice] at short
    exact differ (eq_of_samples sampled.1 short sampled.2.1 sampled.2.2)
  · refine pins.mpr ⟨fun name kind => same name (.inl kind), fun name kind => ?_⟩
    rw [same name (.inr kind)]
    cases b.content name with
    | none => exact .none
    | some x => exact .some ⟨rfl, rfl, rfl⟩

end Revisions

def Library.sample : Library where
  digest := id
  loads _ := .ok (.obj [])
  sortedValues := .ok
  floats := ⟨fun _ => [], fun _ => none⟩

/-- One weight file beside the configuration. -/
def Checkpoint.sample (weight : Bytes) : Checkpoint where
  listing := [("config.json", .file [123, 125]), ("a.bin", .file weight)]
  nodup := by simp
  decoded := by
    rw [List.forall_mem_map, List.forall_mem_cons, List.forall_mem_singleton]
    have names : Text.fsEncodable "config.json" = true ∧ Text.fsEncodable "a.bin" = true := by decide
    exact names

theorem ready_sample (weight : Bytes) :
    ∃ ready, probe .sample (some (.sample weight)) = .ok (.intakeReady ready) := ⟨_, rfl⟩

theorem revision_pins_sample : ∃ readyA readyB,
    probe .sample (some (.sample [1])) = .ok (.intakeReady readyA) ∧
      probe .sample (some (.sample [2])) = .ok (.intakeReady readyB) ∧
        readyA.revision ≠ readyB.revision := by
  obtain ⟨readyA, first⟩ := ready_sample [1]
  obtain ⟨readyB, second⟩ := ready_sample [2]
  exact ⟨readyA, readyB, first, second,
    (revision_pins .sample (.sample [1]) (.sample [2]) readyA readyB Function.injective_id first
      second).2.1 "a.bin" [1] [2] (by decide) rfl rfl (by decide) (by decide)⟩

end InferForge.ModelFingerprint

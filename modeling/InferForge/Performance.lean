import InferForge.Host
import InferForge.Numerics.Rounded
import InferForge.Py.Ordered

/-! Performance gates: every metric of a baseline or of a candidate, compared under its name and its
labels. -/
namespace InferForge.Performance
open Py

/-- The labels of a metric, a dict of texts. -/
structure Labels where
  items : List (Text × Text)
  distinct : (items.map Prod.fst).Nodup

structure Metric where
  name : Text
  value : Double
  unit : Text
  labels : Labels
  direction : Option Text

inductive Verdict where
  | pass
  | fail
  | unknown
  | incomparable
deriving DecidableEq

structure GateResult where
  name : Text
  verdict : Verdict
  reason : Text
deriving DecidableEq

/-- The order of pairs of texts. -/
def pairLe (a b : Text × Text) : Bool :=
  if a.1 = b.1 then Json.codesLe a.2.codes b.2.codes else Json.codesLe a.1.codes b.1.codes

/-- A name and sorted labels. -/
abbrev Key := Text × List (Text × Text)

def Metric.key (metric : Metric) : Key :=
  (metric.name, metric.labels.items.insertionSort fun a b => pairLe a b = true)

def directions : List Text := ["higher_is_better", "lower_is_better"]

/-- `[a-z0-9]`. -/
def isTokenChar (c : CodePoint) : Bool := (97 ≤ c.val && c.val ≤ 122) || (48 ≤ c.val && c.val ≤ 57)

/-- `re.split(r"[^a-z0-9]+", text)`; `token` is the one being read, backwards. -/
def splitTokens (token : List CodePoint) (between : Bool) : List CodePoint → List Text
  | [] => [⟨token.reverse⟩]
  | c :: rest =>
      if isTokenChar c then splitTokens (c :: token) false rest
      else if between then splitTokens [] true rest
      else ⟨token.reverse⟩ :: splitTokens [] true rest

/-- What the comparison takes from its host: `str.lower` and `repr`. -/
structure Texts where
  lower : Text → Text
  repr : Json → Text

section Indexes

/-- What `_index_metrics` collects: the last metric of each key, and the keys met again. -/
structure Index where
  indexed : List (Key × Metric)
  duplicates : List Key

def Index.add (index : Index) (metric : Metric) : Index where
  indexed := assign index.indexed metric.key metric
  duplicates :=
    if metric.key ∈ index.indexed.map Prod.fst then insertNew index.duplicates metric.key
    else index.duplicates

def indexMetrics (metrics : List Metric) : Index := metrics.foldl Index.add ⟨[], []⟩

end Indexes

section Comparison
variable (texts : Texts) (r : Rounding) (maxRegression : Double)

def legacyDirection (name : Text) : Option Text :=
  let tokens := splitTokens [] false (texts.lower name).codes
  let lower := ["latency", "tpot", "ttft"].any fun word => tokens.contains (Text.ofString word)
  let higher := tokens.contains "throughput"
  if lower = higher then none
  else some (if lower then "lower_is_better" else "higher_is_better")

/-- `(delta if direction == "lower_is_better" else -delta) / abs(reference)`. -/
def regression (direction : Text) (reference value : Double) : Double :=
  let delta := r.sub value reference
  r.div (if direction = "lower_is_better" then delta else delta.neg) reference.abs

/-- What stands after every reason. -/
def context (labels : List (Text × Text)) : Text :=
  if labels.isEmpty then ""
  else " labels=" ++ texts.repr (.obj (labels.map fun label => (label.1, .str label.2)))

/-- `{m.direction for m in (reference, metric) if m.direction is not None}`. -/
def explicitDirections (reference metric : Metric) : List Text :=
  fromKeys ([reference.direction, metric.direction].filterMap id)

/-- The rules for a key that occurs once in each list. -/
def comparePair (name : Text) (reference metric : Metric) : Verdict × Text :=
  if reference.unit ≠ metric.unit then
    (.incomparable, "unit mismatch: baseline=" ++ texts.repr (.str reference.unit) ++ " candidate=" ++
      texts.repr (.str metric.unit))
  else if !reference.value.isFinite || !metric.value.isFinite then
    (.incomparable, "nonfinite value: baseline=" ++ texts.repr (.float reference.value) ++
      " candidate=" ++ texts.repr (.float metric.value))
  else
    let explicit := explicitDirections reference metric
    if explicit.any (· ∉ directions) || 1 < explicit.length then
      (.incomparable, "invalid or conflicting metric direction")
    else
      match explicit.head?.or (legacyDirection texts name) with
      | none => (.incomparable, "metric direction is required for this name")
      | some direction =>
          if reference.value.eq (.fin 0) then
            (.incomparable, "zero baseline; relative regression is undefined")
          else
            let regressed := regression r direction reference.value metric.value
            (if regressed.le maxRegression then .pass else .fail,
              "baseline=" ++ texts.repr (.float reference.value) ++ " candidate=" ++
                texts.repr (.float metric.value) ++ " unit=" ++ texts.repr (.str metric.unit) ++
                " direction=" ++ direction ++ " regression=" ++ texts.repr (.float regressed) ++
                " max_regression=" ++ texts.repr (.float maxRegression))

/-- The body of the loop, without the context of the reason. -/
def compareKey (base current : Index) (key : Key) : Verdict × Text :=
  if key ∈ base.duplicates ∨ key ∈ current.duplicates then (.incomparable, "duplicate metric key")
  else
    match current.indexed.lookup key with
    | none => (.fail, "missing candidate")
    | some metric =>
        match base.indexed.lookup key with
        | none => (.unknown, "missing baseline")
        | some reference => comparePair texts r maxRegression key.1 reference metric

/-- The result of one key. -/
def gate (baseline candidate : List Metric) (key : Key) : GateResult :=
  let found := compareKey texts r maxRegression (indexMetrics baseline) (indexMetrics candidate) key
  ⟨key.1, found.1, found.2 ++ context texts key.2⟩

def noMetrics : GateResult := ⟨"metrics", .unknown, "no baseline or candidate metrics"⟩

def compareMetrics (baseline candidate : List Metric) : Except Exn (List GateResult) := do
  refuse (!maxRegression.isFinite || maxRegression.below (.fin 0))
    (.value "max_regression must be finite and nonnegative")
  let keys := fromKeys ((indexMetrics candidate).indexed.map Prod.fst ++
    (indexMetrics baseline).indexed.map Prod.fst)
  let results := keys.map (gate texts r maxRegression baseline candidate)
  return if results.isEmpty then [noMetrics] else results

end Comparison

/-! The two indexes, by the metrics of one key. -/

section Occurrences

/-- The metrics of one key, in their order. -/
def occurrences (key : Key) (metrics : List Metric) : List Metric :=
  metrics.filter fun metric => metric.key = key

theorem occurrences_append (key : Key) (metrics more : List Metric) :
    occurrences key (metrics ++ more) = occurrences key metrics ++ occurrences key more :=
  List.filter_append ..

theorem occurrences_eq_nil : occurrences key metrics = [] ↔ key ∉ metrics.map Metric.key := by
  simp [occurrences, List.filter_eq_nil_iff]

/-- What an index says about the metrics it was built from. -/
structure Indexes (metrics : List Metric) (index : Index) : Prop where
  keys : index.indexed.map Prod.fst = fromKeys (metrics.map Metric.key)
  last : ∀ key, index.indexed.lookup key = (occurrences key metrics).getLast?
  duplicated : ∀ key, key ∈ index.duplicates ↔ 2 ≤ (occurrences key metrics).length

theorem Indexes.add (indexes : Indexes metrics index) (metric : Metric) :
    Indexes (metrics ++ [metric]) (index.add metric) := by
  have one (key : Key) : occurrences key [metric] = if metric.key = key then [metric] else [] := by
    simp only [occurrences, List.filter_cons, List.filter_nil, decide_eq_true_eq]
  constructor
  · rw [Index.add, keys_assign, indexes.keys, List.map_append, fromKeys, fromKeys, List.foldl_append]
    rfl
  · intro key
    change (assign index.indexed metric.key metric).lookup key = _
    rw [lookup_assign, indexes.last, occurrences_append, one]
    by_cases here : key = metric.key
    · rw [if_pos here, if_pos here.symm, List.getLast?_concat]
    · rw [if_neg here, if_neg (Ne.symm here), List.append_nil]
  · intro key
    rw [occurrences_append, one, List.length_append]
    have known : metric.key ∈ index.indexed.map Prod.fst ↔ occurrences metric.key metrics ≠ [] := by
      rw [indexes.keys, mem_fromKeys, ne_eq, occurrences_eq_nil, not_not]
    simp only [Index.add, known]
    by_cases here : metric.key = key
    · subst here
      rw [if_pos rfl]
      split
      · next some =>
        have := List.length_pos_iff.mpr some
        simp only [mem_insertNew, or_true, List.length_singleton, true_iff]
        omega
      · next none =>
        rw [not_not] at none
        rw [indexes.duplicated, none]
        simp
    · rw [if_neg here, List.length_nil, Nat.add_zero, ← indexes.duplicated]
      split
      · rw [mem_insertNew, or_iff_left (Ne.symm here)]
      · rfl

theorem indexMetrics_indexes (metrics : List Metric) : Indexes metrics (indexMetrics metrics) := by
  induction metrics using List.reverseRecOn with
  | nil => exact ⟨rfl, fun _ => rfl, fun key => by simp [indexMetrics, occurrences]⟩
  | append_singleton metrics metric ih =>
    rw [indexMetrics, List.foldl_append]
    exact ih.add metric

end Occurrences

section Verdicts
variable {texts : Texts} {r : Rounding} {maxRegression : Double}

/-- The rules of the loop, by the metrics that a key has in either list. -/
def judged (texts : Texts) (r : Rounding) (maxRegression : Double) (name : Text) :
    List Metric → List Metric → Verdict × Text
  | [reference], [metric] => comparePair texts r maxRegression name reference metric
  | [], [_] => (.unknown, "missing baseline")
  | [], [] | [_], [] => (.fail, "missing candidate")
  | _, _ => (.incomparable, "duplicate metric key")

theorem compareKey_judged (baseline candidate : List Metric) (key : Key) :
    compareKey texts r maxRegression (indexMetrics baseline) (indexMetrics candidate) key =
      judged texts r maxRegression key.1 (occurrences key baseline) (occurrences key candidate) := by
  have base := indexMetrics_indexes baseline
  have current := indexMetrics_indexes candidate
  simp only [compareKey, base.duplicated, current.duplicated, base.last, current.last]
  cases occurrences key baseline with
  | nil =>
    cases occurrences key candidate with
    | nil => rfl
    | cons metric more =>
      cases more with
      | nil => rfl
      | cons second more => simp [judged]
  | cons reference rest =>
    cases rest with
    | nil =>
      cases occurrences key candidate with
      | nil => rfl
      | cons metric more =>
        cases more with
        | nil => rfl
        | cons second more => simp [judged]
    | cons second rest => simp [judged]

/-- The one direction of two metrics: explicit and valid, or inferred when neither is explicit. -/
def Agreed (texts : Texts) (name : Text) (left right : Option Text) (direction : Text) : Prop :=
  (left = none ∧ right = none ∧ legacyDirection texts name = some direction) ∨
    ((left = some direction ∨ right = some direction) ∧ direction ∈ directions ∧
      ∀ other, left = some other ∨ right = some other → other = direction)

/-- The rules on directions let exactly the agreed one through. -/
theorem explicit_agreed (reference metric : Metric) (direction : Text) :
    ((explicitDirections reference metric).any (· ∉ directions) ||
        decide (1 < (explicitDirections reference metric).length)) = false ∧
      (explicitDirections reference metric).head?.or (legacyDirection texts name) = some direction ↔
        Agreed texts name reference.direction metric.direction direction := by
  have one (only : Text) : only ∈ directions ∧ only = direction ↔
      only = direction ∧ direction ∈ directions := by
    constructor
    · rintro ⟨valid, rfl⟩
      exact ⟨rfl, valid⟩
    · rintro ⟨rfl, valid⟩
      exact ⟨valid, rfl⟩
  unfold explicitDirections Agreed
  cases reference.direction with
  | none =>
    cases metric.direction with
    | none => simp [fromKeys]
    | some right =>
      simp [fromKeys, insertNew, one]
      exact fun here _ => here
  | some left =>
    cases metric.direction with
    | none =>
      simp [fromKeys, insertNew, one]
      exact fun here _ => here
    | some right =>
      by_cases same : right = left
      · subst same
        simp [fromKeys, insertNew, one]
        exact fun here _ => here
      · -- Two directions are never one.
        simp only [fromKeys, insertNew, List.filterMap, id, List.foldl_cons, List.foldl_nil,
          List.not_mem_nil, if_false, List.nil_append, List.mem_singleton, same, List.length_append,
          List.length_singleton, Nat.lt_add_one, decide_true, Bool.or_true, Bool.true_eq_false,
          false_and, false_iff, reduceCtorEq, false_or, not_and, not_forall]
        rintro (here | here) _ <;> cases here
        · exact ⟨right, Or.inr rfl, same⟩
        · exact ⟨left, Or.inl rfl, Ne.symm same⟩

theorem comparePair_pass (name : Text) (reference metric : Metric) :
    (comparePair texts r maxRegression name reference metric).1 = .pass ↔
      reference.unit = metric.unit ∧ ∃ x y direction, reference.value = .fin x ∧
        metric.value = .fin y ∧ Agreed texts name reference.direction metric.direction direction ∧
        x ≠ 0 ∧ (regression r direction (.fin x) (.fin y)).le maxRegression = true := by
  unfold comparePair
  by_cases units : reference.unit = metric.unit
  · rw [if_neg (not_not.mpr units)]
    simp only [units, true_and]
    cases base : reference.value with
    | nan | inf => simp [Double.isFinite]
    | fin x =>
      cases value : metric.value with
      | nan | inf => simp [Double.isFinite]
      | fin y =>
        simp only [Double.isFinite, Bool.not_true, Bool.or_false, Bool.false_eq_true, if_false,
          Double.fin.injEq, exists_eq_left', exists_and_left, ← explicit_agreed]
        cases refused : (explicitDirections reference metric).any (· ∉ directions) ||
          decide (1 < (explicitDirections reference metric).length) with
        | true => simp
        | false =>
          cases (explicitDirections reference metric).head?.or (legacyDirection texts name) with
          | none => simp
          | some direction =>
            by_cases zero : x = 0
            · simp [zero, Double.eq]
            · cases within : (regression r direction (.fin x) (.fin y)).le maxRegression <;>
                simp [zero, Double.eq, within]
  · rw [if_pos units]
    simp [units]

theorem judged_pass (name : Text) (references metrics : List Metric) :
    (judged texts r maxRegression name references metrics).1 = .pass ↔
      ∃ reference metric, references = [reference] ∧ metrics = [metric] ∧
        (comparePair texts r maxRegression name reference metric).1 = .pass := by
  unfold judged
  split
  · simp
  · simp
  · simp
  · simp
  · next other _ _ _ =>
    simp only [reduceCtorEq, false_iff]
    rintro ⟨reference, metric, rfl, rfl, _⟩
    exact other _ _ rfl rfl

theorem judged_duplicate {references metrics : List Metric} (name : Text)
    (twice : 2 ≤ references.length ∨ 2 ≤ metrics.length) :
    judged texts r maxRegression name references metrics =
      (Verdict.incomparable, Text.ofString "duplicate metric key") := by
  unfold judged
  split
  · simp at twice
  · simp at twice
  · simp at twice
  · simp at twice
  · rfl

theorem perm_short {α : Type} {items others : List α} (short : items.length < 2)
    (same : items.Perm others) : items = others := by
  cases items with
  | nil => exact same.nil_eq
  | cons item rest =>
    obtain rfl : rest = [] := List.length_eq_zero_iff.mp (by rw [List.length_cons] at short; omega)
    exact (List.perm_singleton.mp same.symm).symm

/-- The order within the lists does not matter: a key that occurs twice is refused, and a key that
occurs once has one order. -/
theorem judged_perm {references references' metrics metrics' : List Metric} (name : Text)
    (left : references.Perm references') (right : metrics.Perm metrics') :
    judged texts r maxRegression name references metrics =
      judged texts r maxRegression name references' metrics' := by
  by_cases twice : 2 ≤ references.length ∨ 2 ≤ metrics.length
  · rw [judged_duplicate name twice, judged_duplicate name (by rwa [← left.length_eq, ← right.length_eq])]
  · rw [not_or, not_le, not_le] at twice
    rw [perm_short twice.1 left, perm_short twice.2 right]

theorem gate_perm {baseline baseline' candidate candidate' : List Metric}
    (left : baseline.Perm baseline') (right : candidate.Perm candidate') (key : Key) :
    gate texts r maxRegression baseline candidate key =
      gate texts r maxRegression baseline' candidate' key := by
  have left : (occurrences key baseline).Perm (occurrences key baseline') := left.filter _
  have right : (occurrences key candidate).Perm (occurrences key candidate') := right.filter _
  simp only [gate, compareKey_judged, judged_perm key.1 left right]

theorem starts_append {front t u : Text} (starts : front.codes <+: t.codes) :
    front.codes <+: (t ++ u).codes :=
  starts.trans (List.prefix_append _ _)

/-- No reason of a key begins as the one for empty lists does. -/
theorem gate_ne_noMetrics (baseline candidate : List Metric) (key : Key) :
    gate texts r maxRegression baseline candidate key ≠ noMetrics := by
  have apart {front t : Text} (starts : front.codes <+: t.codes)
      (long : 3 ≤ front.codes.length)
      (other : front.codes.take 3 ≠ (Text.ofString "no baseline or candidate metrics").codes.take 3) :
      t ≠ "no baseline or candidate metrics" := by
    rintro rfl
    obtain ⟨rest, whole⟩ := starts
    apply other
    rw [← whole, List.take_append_of_le_length long]
  intro same
  have reason : (judged texts r maxRegression key.1 (occurrences key baseline)
      (occurrences key candidate)).2 ++ context texts key.2 = "no baseline or candidate metrics" := by
    rw [← compareKey_judged]
    exact congrArg GateResult.reason same
  revert reason
  unfold judged
  split
  · unfold comparePair
    dsimp only
    split
    · exact apart (starts_append (starts_append (starts_append (starts_append (List.prefix_refl _)))))
        (by decide) (by decide)
    · split
      · exact apart (starts_append (starts_append (starts_append (starts_append (List.prefix_refl _)))))
          (by decide) (by decide)
      · split
        · exact apart (starts_append (List.prefix_refl _)) (by decide) (by decide)
        · split
          · exact apart (starts_append (List.prefix_refl _)) (by decide) (by decide)
          · split
            · exact apart (starts_append (List.prefix_refl _)) (by decide) (by decide)
            · refine apart (?_ : (Text.ofString "baseline=").codes <+: _) (by decide) (by decide)
              iterate 12 apply starts_append
              exact List.prefix_refl _
  · exact apart (starts_append (List.prefix_refl _)) (by decide) (by decide)
  · exact apart (starts_append (List.prefix_refl _)) (by decide) (by decide)
  · exact apart (starts_append (List.prefix_refl _)) (by decide) (by decide)
  · exact apart (starts_append (List.prefix_refl _)) (by decide) (by decide)

/-- The keys of either list. -/
def keysOf (baseline candidate : List Metric) : List Key :=
  (baseline ++ candidate).map Metric.key

/-- The keys that the loop visits. -/
def visited (baseline candidate : List Metric) : List Key :=
  fromKeys ((indexMetrics candidate).indexed.map Prod.fst ++ (indexMetrics baseline).indexed.map Prod.fst)

theorem mem_visited : key ∈ visited baseline candidate ↔ key ∈ keysOf baseline candidate := by
  rw [visited, mem_fromKeys, (indexMetrics_indexes _).keys, (indexMetrics_indexes _).keys,
    List.mem_append, mem_fromKeys, mem_fromKeys, keysOf, List.map_append, List.mem_append, or_comm]

theorem visited_eq_nil : visited baseline candidate = [] ↔ baseline = [] ∧ candidate = [] := by
  rw [← List.append_eq_nil_iff, ← List.map_eq_nil_iff (f := Metric.key), List.eq_nil_iff_forall_not_mem,
    List.eq_nil_iff_forall_not_mem]
  exact forall_congr' fun key => not_congr mem_visited

theorem compareMetrics_eq {m : Rat} (valid : 0 ≤ m) (baseline candidate : List Metric) :
    compareMetrics texts r (.fin m) baseline candidate =
      .ok (if visited baseline candidate = [] then [noMetrics]
        else (visited baseline candidate).map (gate texts r (.fin m) baseline candidate)) := by
  have checked : (!(Double.fin m).isFinite || (Double.fin m).below (.fin 0)) = false := by
    simpa [Double.isFinite, Double.below] using valid
  unfold compareMetrics
  rw [checked]
  simp [refuse, visited]
  rfl

/-- Metrics of a key that pass: one in each list, in one unit, with finite values, an agreed
direction and a regression within the limit. -/
def Passes (texts : Texts) (r : Rounding) (m : Rat) (name : Text) (references metrics : List Metric) :
    Prop :=
  ∃ reference metric, references = [reference] ∧ metrics = [metric] ∧
    reference.unit = metric.unit ∧ ∃ x y direction, reference.value = .fin x ∧
      metric.value = .fin y ∧ Agreed texts name reference.direction metric.direction direction ∧
      x ≠ 0 ∧ (regression r direction (.fin x) (.fin y)).le (.fin m) = true

theorem gate_pass {m : Rat} (baseline candidate : List Metric) (key : Key) :
    (gate texts r (.fin m) baseline candidate key).verdict = .pass ↔
      Passes texts r m key.1 (occurrences key baseline) (occurrences key candidate) := by
  rw [gate, compareKey_judged, judged_pass]
  simp only [comparePair_pass, Passes]

/-- A key of the baseline alone fails, unless it occurs twice there. -/
theorem gate_baseline_only (baseline candidate : List Metric) (key : Key)
    (absent : occurrences key candidate = []) (present : occurrences key baseline ≠ []) :
    (gate texts r maxRegression baseline candidate key).verdict =
      if (occurrences key baseline).length = 1 then .fail else .incomparable := by
  rw [gate, compareKey_judged, absent]
  cases here : occurrences key baseline with
  | nil => exact absurd here present
  | cons reference rest =>
    cases rest with
    | nil => rfl
    | cons second rest => simp [judged]

/-- The regression of fractions. -/
theorem regression_exact (direction : Text) (x y : Rat) (nonzero : x ≠ 0) :
    regression .exact direction (.fin x) (.fin y) =
      .fin ((if direction = "lower_is_better" then y - x else x - y) / |x|) := by
  have size : |x| ≠ 0 := abs_ne_zero.mpr nonzero
  by_cases lower : direction = "lower_is_better"
  · simp [regression, lower, Rounding.sub, Rounding.add, Rounding.div, Rounding.exact, Double.neg,
      Double.abs, size, sub_eq_add_neg]
  · simp [regression, lower, Rounding.sub, Rounding.add, Rounding.div, Rounding.exact, Double.neg,
      Double.abs, size, sub_eq_add_neg]

/-- What may pass by the fractions themselves: the loss against the baseline is at most the limit. -/
def PassesExactly (texts : Texts) (m : Rat) (name : Text) (references metrics : List Metric) : Prop :=
  ∃ reference metric, references = [reference] ∧ metrics = [metric] ∧
    reference.unit = metric.unit ∧ ∃ x y direction, reference.value = .fin x ∧
      metric.value = .fin y ∧ Agreed texts name reference.direction metric.direction direction ∧
      x ≠ 0 ∧ (if direction = "lower_is_better" then y - x else x - y) / |x| ≤ m

theorem passes_exact (m : Rat) (references metrics : List Metric) :
    Passes texts .exact m name references metrics ↔ PassesExactly texts m name references metrics := by
  have rule (direction : Text) (x y : Rat) :
      (x ≠ 0 ∧ (regression .exact direction (.fin x) (.fin y)).le (.fin m) = true) ↔
        x ≠ 0 ∧ (if direction = "lower_is_better" then y - x else x - y) / |x| ≤ m := by
    refine and_congr_right fun nonzero => ?_
    rw [regression_exact direction x y nonzero, Double.le_fin, decide_eq_true_iff]
  simp only [Passes, PassesExactly, rule]

/-- The comparison gives one result for each key, passes exactly the keys that may pass, fails what
is missing and does not depend on the order of the lists. -/
theorem compare_complete (texts : Texts) (r : Rounding) (m : Rat) (valid : 0 ≤ m)
    (baseline candidate : List Metric) :
    ∃ keys results, compareMetrics texts r (.fin m) baseline candidate = .ok results ∧
      keys.Nodup ∧ (∀ key, key ∈ keys ↔ key ∈ keysOf baseline candidate) ∧
      (results = [noMetrics] ↔ baseline = [] ∧ candidate = []) ∧
      (keys ≠ [] → results = keys.map (gate texts r (.fin m) baseline candidate)) ∧
      (∀ key, (gate texts r (.fin m) baseline candidate key).verdict = .pass ↔
        Passes texts r m key.1 (occurrences key baseline) (occurrences key candidate)) ∧
      (∀ key, (gate texts .exact (.fin m) baseline candidate key).verdict = .pass ↔
        PassesExactly texts m key.1 (occurrences key baseline) (occurrences key candidate)) ∧
      (∀ key, occurrences key candidate = [] → occurrences key baseline ≠ [] →
        (gate texts r (.fin m) baseline candidate key).verdict =
          if (occurrences key baseline).length = 1 then .fail else .incomparable) ∧
      ∀ baseline' candidate' : List Metric, baseline.Perm baseline' → candidate.Perm candidate' →
        (∀ key, gate texts r (.fin m) baseline' candidate' key =
          gate texts r (.fin m) baseline candidate key) ∧
        ∃ results', compareMetrics texts r (.fin m) baseline' candidate' = .ok results' ∧
          results.Perm results' := by
  have distinct (baseline candidate : List Metric) : (visited baseline candidate).Nodup :=
    nodup_fromKeys _
  refine ⟨visited baseline candidate, _, compareMetrics_eq valid baseline candidate, distinct _ _,
    fun key => mem_visited, ?_, fun some => if_neg some, gate_pass baseline candidate,
    fun key => (gate_pass baseline candidate key).trans (passes_exact m _ _),
    gate_baseline_only baseline candidate, fun baseline' candidate' left right => ?_⟩
  · rw [← visited_eq_nil]
    split
    · next none => exact iff_of_true rfl none
    · next some =>
      refine iff_of_false (fun single => ?_) some
      obtain ⟨key, _, same⟩ := List.map_eq_singleton_iff.mp single
      exact gate_ne_noMetrics _ _ _ same
  · have same (key : Key) : gate texts r (.fin m) _ _ key = gate texts r (.fin m) _ _ key :=
      gate_perm left right key
    refine ⟨fun key => (same key).symm, _, compareMetrics_eq valid baseline' candidate', ?_⟩
    have keys : (visited baseline candidate).Perm (visited baseline' candidate') := by
      rw [List.perm_ext_iff_of_nodup (distinct _ _) (distinct _ _)]
      intro key
      rw [mem_visited, mem_visited]
      exact ((left.append right).map Metric.key).mem_iff
    rw [← funext same]
    by_cases none : visited baseline candidate = []
    · rw [if_pos none, if_pos (List.perm_nil.mp (none ▸ keys.symm))]
    · have none' : visited baseline' candidate' ≠ [] := fun empty =>
        none (List.perm_nil.mp (empty ▸ keys))
      rw [if_neg none, if_neg none']
      exact keys.map _

/-! A latency that grows by a twentieth while the throughput falls by a fifth. -/

def Texts.sample : Texts where
  lower t := t
  repr _ := ""

def latency (value : Rat) : Metric where
  name := "latency"
  value := .fin value
  unit := "ms"
  labels := ⟨[], List.nodup_nil⟩
  direction := none

def throughput (value : Rat) : Metric :=
  { latency value with name := "throughput", unit := "tokens/s" }

theorem compare_complete_latency :
    ∃ (keys : List Key) (results : List GateResult),
      compareMetrics .sample .exact (.fin (1 / 20)) [latency 100, throughput 50] [throughput 40, latency 105] =
        .ok results ∧ keys.Nodup ∧
      (∀ key, key ∈ keys ↔ key ∈ keysOf [latency 100, throughput 50] [throughput 40, latency 105]) ∧
      results = keys.map
        (gate .sample .exact (.fin (1 / 20)) [latency 100, throughput 50] [throughput 40, latency 105]) ∧
      (gate .sample .exact (.fin (1 / 20)) [latency 100, throughput 50] [throughput 40, latency 105]
        ("latency", [])).verdict = .pass ∧
      (gate .sample .exact (.fin (1 / 20)) [latency 100, throughput 50] [throughput 40, latency 105]
        ("throughput", [])).verdict ≠ .pass ∧
      ∃ results', compareMetrics .sample .exact (.fin (1 / 20)) [throughput 50, latency 100]
        [latency 105, throughput 40] = .ok results' ∧ results.Perm results' := by
  obtain ⟨keys, results, ran, distinct, all, -, listed, -, passes, -, swapped⟩ :=
    compare_complete .sample .exact (1 / 20) (by decide +kernel) [latency 100, throughput 50]
      [throughput 40, latency 105]
  have some' : keys ≠ [] := List.ne_nil_of_mem ((all ("latency", [])).mpr (by decide))
  have lower : legacyDirection .sample "latency" = some "lower_is_better" := by decide
  have higher : legacyDirection .sample "throughput" = some "higher_is_better" := by decide
  refine ⟨keys, results, ran, distinct, all, listed some', (passes _).mpr ?_, mt (passes _).mp ?_,
    (swapped _ _ (.swap _ _ _) (.swap _ _ _)).2⟩
  · exact ⟨latency 100, latency 105, rfl, rfl, rfl, 100, 105, "lower_is_better", rfl, rfl,
      .inl ⟨rfl, rfl, lower⟩, by decide +kernel, by decide +kernel⟩
  · rintro ⟨_, _, here, there, _, x, y, direction, base, value, agreed, _, small⟩
    have one : occurrences (Text.ofString "throughput", []) [latency 100, throughput 50] = [throughput 50] := rfl
    have other : occurrences (Text.ofString "throughput", []) [throughput 40, latency 105] = [throughput 40] := rfl
    cases one.symm.trans here
    cases other.symm.trans there
    cases base
    cases value
    rcases agreed with ⟨_, _, inferred⟩ | ⟨none | none, _⟩
    · cases higher.symm.trans inferred
      exact absurd small (by decide +kernel)
    · cases none
    · cases none

/-- A metric that the baseline alone has, twice, is incomparable. -/
theorem twice_incomparable : compareMetrics .sample .exact (.fin (1 / 20)) [latency 100, latency 100] [] =
    .ok [⟨"latency", .incomparable, "duplicate metric key"⟩] := by
  decide +kernel

end Verdicts
end InferForge.Performance

import InferForge.Coerce
import InferForge.Numerics.Rounded
import InferForge.Validators.Memory

/-! The memory budget of a deployment: what the log attributes, compared with what the cards that it
occupies report. -/
namespace InferForge.MemoryBudget
open Py Effect ResultValidation

/-- One row of a snapshot. -/
structure Card where
  index : Int
  usedMib : Int
  freeMib : Int
  totalMib : Int
deriving DecidableEq

inductive BudgetFault where
  /-- `BudgetError`. -/
  | budget (message : Text)
  | exn (e : Exn)
  | zeroDivision

/-- A call of a function that raises its own exceptions. -/
def call (x : Except Exn α) : Except BudgetFault α := x.mapError .exn

/-- What the budget takes from its host: the float operations and the digits of `re`. -/
structure Floats where
  /-- `sum` of floats. -/
  sum : List Double → Double
  /-- `round(gib * MIB_PER_GIB)`. -/
  mib : Double → Except Exn Int
  /-- `round(used / total * 100, 1)`, for a nonzero total. -/
  percent : Int → Int → Except Exn Double
  /-- A quotient of integers is a number. -/
  percent_known : ∀ used total p, percent used total = .ok p → p ≠ .nan
  /-- `\d`. -/
  digit : CodePoint → Bool

/-! ## The scope -/

structure Scope where
  ranks : List Card
  tpSize : Option Int
  warnings : List Text

/-- What stands before the number in the patterns of `TP_PATTERNS`. -/
def tpPatterns : List (List Text) :=
  [["tensor_parallel_size="], ["--tensor-parallel-size ", "--tensor-parallel-size="], ["tp_size="]]

/-- `re.search(pattern, text)` and its group: the digits after the first front that has some. -/
def searchNumber (digit : CodePoint → Bool) (fronts : List Text) : List CodePoint → Option Text
  | [] => none
  | c :: rest =>
      let here := fronts.findSome? fun front =>
        if front.codes <+: c :: rest then
          let digits := ((c :: rest).drop front.codes.length).takeWhile digit
          if digits.isEmpty then none else some ⟨digits⟩
        else none
      here.or (searchNumber digit fronts rest)

section Scopes
variable (host : Host) (floats : Floats)

/-- The size that the first matching pattern gives. -/
def declaredTpSize (logText : Text) : Except Exn (Option Int) :=
  match tpPatterns.findSome? fun fronts => searchNumber floats.digit fronts logText.codes with
  | none => .ok none
  | some digits => some <$> (Json.str digits).toInt host

def isActive (idleThresholdMib : Int) (card : Card) : Bool := idleThresholdMib < card.usedMib

/-- The warning about a declared size that is not the number of active cards. -/
def scopeWarnings (active : List Card) : Option Int → List Text
  | none => []
  | some tpSize =>
      errorIf ((active.length : Int) ≠ tpSize)
        (Text.ofNat active.length ++ " cards above the idle threshold but the log declares " ++
          "tensor_parallel_size=" ++ Text.ofInt tpSize ++
          ": a co-tenant process or a stale log may be in scope")

def detectActiveRanks (cards : List Card) (logText : Option Text) (idleThresholdMib : Int) :
    Except BudgetFault Scope :=
  let active := cards.filter (isActive idleThresholdMib)
  if active.isEmpty then
    .error (.budget ("no card above " ++ Text.ofInt idleThresholdMib ++
      " MiB usage: the snapshot has no active rank; is the deployment actually running?"))
  else do
    let tpSize ← call (declaredTpSize host floats (logText.getD ""))
    return ⟨active, tpSize, scopeWarnings active tpSize⟩

end Scopes

/-! ## One rank -/

/-- What `reconcile` returns. -/
structure Budget where
  device : Json
  rank : Int
  hbmTotalMib : Int
  hbmTotalMatchesDevice : Bool
  measuredUsedMib : Int
  measuredFreeMib : Int
  utilizationPct : Double
  logAttributedMib : Int
  unattributedMib : Int
  analyzerOtherMib : Int
  reconciled : Bool
  cards : Nat
  cardSpreadMib : Int
  categoriesMib : Dict
  kvCacheTokens : Json
  maxModelLen : Json
  reportedConcurrency : Json

def Budget.toDict (b : Budget) : Dict :=
  [("device", b.device), ("rank", .int b.rank), ("hbm_total_mib", .int b.hbmTotalMib),
    ("hbm_total_matches_device", .bool b.hbmTotalMatchesDevice),
    ("measured_used_mib", .int b.measuredUsedMib), ("measured_free_mib", .int b.measuredFreeMib),
    ("utilization_pct", .float b.utilizationPct), ("log_attributed_mib", .int b.logAttributedMib),
    ("unattributed_mib", .int b.unattributedMib), ("analyzer_other_mib", .int b.analyzerOtherMib),
    ("reconciled", .bool b.reconciled), ("cards", .int b.cards),
    ("card_spread_mib", .int b.cardSpreadMib), ("categories_mib", .obj b.categoriesMib),
    ("kv_cache_tokens", b.kvCacheTokens), ("max_model_len", b.maxModelLen),
    ("reported_concurrency", b.reportedConcurrency)]

/-- `max` and `min` of integers, from the first. -/
def greatest (first : Int) (rest : List Int) : Int := rest.foldl max first

def least (first : Int) (rest : List Int) : Int := rest.foldl min first

/-- `max(used) - min(used)`; some card has been found among them. -/
def cardSpread (cards : List Card) : Int :=
  match cards.map Card.usedMib with
  | [] => 0
  | first :: rest => greatest first rest - least first rest

section Reconcile
variable (host : Host) (floats : Floats)

/-- `float(breakdown.get(key, 0.0) or 0.0)`. -/
def gib (breakdown : Json) (key : Text) : Except Exn Double := do
  let found ← breakdown.get key
  ((found.getD (.float (.fin 0))).or (.float (.fin 0))).toDouble host

/-- The categories of a breakdown that the log attributes. -/
def attributedKeys : List Text :=
  ["model_weights_gib", "kv_pool_gib", "cuda_graph_gib", "framework_overhead_gib"]

/-- What the log attributes, and what the analyzer calls other. -/
def attributed (breakdown : Json) : Except Exn (Int × Int) := do
  let known ← floats.mib (floats.sum (← attributedKeys.mapM (gib host breakdown)))
  let other ← floats.mib (← gib host breakdown "other_gib")
  return (known, other)

def categories (breakdown : Json) : Except Exn Dict :=
  [(("model_weights" : Text), ("model_weights_gib" : Text)), ("kv_pool", "kv_pool_gib"),
    ("graph_capture", "cuda_graph_gib"), ("framework", "framework_overhead_gib")].mapM fun category => do
      return (category.1, .int (← floats.mib (← gib host breakdown category.2)))

/-- `(report.get("vllm") or {}).get(key)`. -/
def vllm (report : Dict) (key : Text) : Except Exn Json := do
  return (← ((Dict.getD report "vllm" .null).or (.obj [])).get key).getD .null

/-- `round(used / spec_total * 100, 1)`. -/
def utilization (used total : Int) : Except BudgetFault Double :=
  if total = 0 then .error .zeroDivision else call (floats.percent used total)

def reconcile (report : Dict) (cards : List Card) (spec : Dict) (rank : Int) :
    Except BudgetFault Budget :=
  match cards.find? fun card => card.index = rank with
  | none => .error (.budget ("xpu_smi has no card at rank " ++ Text.ofInt rank))
  | some card => do
      let breakdown := Dict.getD report "memory_breakdown" (.obj [])
      let (attributedMib, otherMib) ← call (attributed host floats breakdown)
      let unattributedMib := card.usedMib - attributedMib
      let specTotal ← call (do (← (Json.obj spec).item "hbm_mib").toInt host)
      let percent ← utilization floats card.usedMib specTotal
      let categoriesMib ← call (categories host floats breakdown)
      let tokens ← call (vllm report "gpu_kv_cache_tokens")
      let modelLen ← call (vllm report "max_model_len")
      let concurrency ← call (vllm report "maximum_concurrency")
      return {
        device := Dict.getD spec "display_name" .null
        rank := rank
        hbmTotalMib := specTotal
        hbmTotalMatchesDevice := cards.all fun entry => entry.totalMib = specTotal
        measuredUsedMib := card.usedMib
        measuredFreeMib := card.freeMib
        utilizationPct := percent
        logAttributedMib := attributedMib
        unattributedMib := unattributedMib
        analyzerOtherMib := otherMib
        reconciled := (unattributedMib - otherMib).natAbs ≤ 32
        cards := cards.length
        cardSpreadMib := cardSpread cards
        categoriesMib := categoriesMib
        kvCacheTokens := tokens
        maxModelLen := modelLen
        reportedConcurrency := concurrency }

end Reconcile

/-! ## The deployment -/

/-- What `reconcile_deployment` returns: the fields of its worst rank, and what is its own. -/
structure Deployment where
  worst : Budget
  ranks : List Int
  activeCards : Nat
  tpSizeDeclared : Option Int
  scopeWarnings : List Text
  perRank : List Budget

def Budget.rankDict (b : Budget) : Dict :=
  [("rank", .int b.rank), ("used_mib", .int b.measuredUsedMib), ("free_mib", .int b.measuredFreeMib),
    ("utilization_pct", .float b.utilizationPct), ("unattributed_mib", .int b.unattributedMib),
    ("reconciled", .bool b.reconciled)]

def Deployment.toDict (d : Deployment) : Dict :=
  d.worst.toDict.append
    [("ranks", .arr (d.ranks.map .int)), ("active_cards", .int d.activeCards),
      ("tp_size_declared", match d.tpSizeDeclared with | some size => .int size | none => .null),
      ("scope_warnings", .arr (d.scopeWarnings.map .str)),
      ("per_rank", .arr (d.perRank.map fun b => .obj b.rankDict))]

/-- `max` of the doubles, from the first. -/
def most (first : Double) (rest : List Double) : Double :=
  rest.foldl (fun best x => if best.below x then x else best) first

/-- The worst case of the ranks, by field. -/
def worstCase (head : Budget) (rest : List Budget) (cards : List Card) (active : List Card) : Budget :=
  let perRank := head :: rest
  { head with
    hbmTotalMatchesDevice := perRank.all Budget.hbmTotalMatchesDevice
    measuredUsedMib := greatest head.measuredUsedMib (rest.map Budget.measuredUsedMib)
    measuredFreeMib := least head.measuredFreeMib (rest.map Budget.measuredFreeMib)
    utilizationPct := most head.utilizationPct (rest.map Budget.utilizationPct)
    unattributedMib := least head.unattributedMib (rest.map Budget.unattributedMib)
    reconciled := perRank.all Budget.reconciled
    cards := cards.length
    cardSpreadMib := cardSpread active }

def reconcileDeployment (host : Host) (floats : Floats) (report : Dict) (cards : List Card)
    (spec : Dict) (scope : Scope) : Except BudgetFault Deployment := do
  let active := scope.ranks
  let perRank ← active.mapM fun entry => reconcile host floats report active spec entry.index
  match perRank with
  | [] => .error (.exn ⟨.indexError, "list index out of range"⟩)
  | head :: rest =>
      return {
        worst := worstCase head rest cards active
        ranks := active.map Card.index
        activeCards := active.length
        tpSizeDeclared := scope.tpSize
        scopeWarnings := scope.warnings
        perRank := head :: rest }

/-- `validate_memory_budget` of a budget with its evidence. -/
def verdict (host : Host) (budget : Dict) (evidence : Json) (thresholds : Dict) :
    Except Exn (List Text) :=
  validateMemoryBudget host (budget.set "evidence" evidence) thresholds

end InferForge.MemoryBudget

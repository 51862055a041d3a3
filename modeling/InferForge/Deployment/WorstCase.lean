import InferForge.Deployment.MemoryBudget
import Mathlib.Algebra.Order.Ring.Cast

/-! A budget of a deployment passes where the budgets of its ranks do. -/
namespace InferForge
open Py Effect ResultValidation

/-! ## What the validator reads -/

theorem whenGiven_nil {check : Json → Except Exn (List Text)} :
    whenGiven thresholds key check = .ok [] ↔
      ∀ threshold, Dict.get? thresholds key = some threshold → check threshold = .ok [] := by
  unfold whenGiven
  cases Dict.get? thresholds key with
  | none => simp
  | some threshold => simp

/-- A comparison that must not hold. -/
theorem refused_nil {compared : Except Exn Bool} {message : Text} :
    (do return errorIf (← compared) message : Except Exn (List Text)) = .ok [] ↔
      compared = .ok false := by
  rw [bind_ok]
  constructor
  · rintro ⟨found, ran, none⟩
    rw [ran, errorIf_nil (pure_ok.mp none)]
  · intro ran
    exact ⟨false, ran, rfl⟩

namespace MemoryBudget

/-- The entries of a budget that the validator reads. -/
structure Shows (d : Dict) (b : Budget) : Prop where
  device : Dict.get? d "hbm_total_matches_device" = some (.bool b.hbmTotalMatchesDevice)
  reconciled : Dict.get? d "reconciled" = some (.bool b.reconciled)
  unattributed : Dict.get? d "unattributed_mib" = some (.int b.unattributedMib)
  free : Dict.get? d "measured_free_mib" = some (.int b.measuredFreeMib)
  utilization : Dict.get? d "utilization_pct" = some (.float b.utilizationPct)
  tokens : Dict.get? d "kv_cache_tokens" = some b.kvCacheTokens
  spread : Dict.get? d "card_spread_mib" = some (.int b.cardSpreadMib)

theorem Budget.shows (b : Budget) : Shows b.toDict b := by
  constructor <;> simp [Budget.toDict]

theorem Deployment.shows (d : Deployment) : Shows d.toDict d.worst := by
  constructor <;> simp [Deployment.toDict, Budget.toDict, Dict.get?_cons]

/-- What the checks ask of a budget. -/
structure Accepts (b : Budget) (evidence : Json) (thresholds : Dict) : Prop where
  device : b.hbmTotalMatchesDevice = true
  reconciled : b.reconciled = true
  unattributed : (Json.int minUnattributedMib).gt (.int b.unattributedMib) = .ok false
  evidence : ∃ found, (evidence.or (.obj [])).get "xpu_smi" = .ok found ∧
    (found.getD .null).truthy = true
  free : ∀ threshold, Dict.get? thresholds "min_free_mib" = some threshold →
    threshold.gt (.int b.measuredFreeMib) = .ok false
  utilization : ∀ threshold, Dict.get? thresholds "max_utilization_pct" = some threshold →
    (Json.float b.utilizationPct).gt threshold = .ok false
  tokens : ∀ threshold, Dict.get? thresholds "min_kv_cache_tokens" = some threshold →
    b.kvCacheTokens.isInstanceInt = true ∧ threshold.gt b.kvCacheTokens = .ok false
  spread : ∀ threshold, Dict.get? thresholds "max_card_spread_mib" = some threshold →
    (Json.int b.cardSpreadMib).gt threshold = .ok false

theorem verdict_accepts (host : Host) (shows : Shows d b) :
    verdict host d evidence thresholds = .ok [] ↔ Accepts b evidence thresholds := by
  have read (key : Text) (fallback : Json) (other : key ≠ "evidence") :
      Dict.getD (d.set "evidence" evidence) key fallback = (Dict.get? d key).getD fallback := by
    rw [Dict.getD, Dict.get?_set_other d evidence other]
  have attached : Dict.getD (d.set "evidence" evidence) "evidence" .null = evidence := by
    rw [Dict.getD, Dict.get?_set_same, Option.getD_some]
  have unattributed : unattributedErrors host (d.set "evidence" evidence) = .ok [] ↔
      (Json.int minUnattributedMib).gt (.int b.unattributedMib) = .ok false := by
    unfold unattributedErrors
    rw [read _ _ (by decide), shows.unattributed, Option.getD_some]
    exact refused_nil
  have tokens (threshold : Json) : tokensErrors host (d.set "evidence" evidence) threshold = .ok [] ↔
      b.kvCacheTokens.isInstanceInt = true ∧ threshold.gt b.kvCacheTokens = .ok false := by
    unfold tokensErrors
    rw [read _ _ (by decide), shows.tokens, Option.getD_some]
    by_cases known : b.kvCacheTokens.isInstanceInt = true
    · simp only [known, Bool.not_true, Bool.false_eq_true, if_false, true_and]
      exact refused_nil
    · simp [known]
  have free (threshold : Json) : freeErrors host (d.set "evidence" evidence) threshold = .ok [] ↔
      threshold.gt (.int b.measuredFreeMib) = .ok false := by
    unfold freeErrors
    rw [refused_nil, read _ _ (by decide), shows.free, Option.getD_some]
  have utilization (threshold : Json) :
      utilizationErrors host (d.set "evidence" evidence) threshold = .ok [] ↔
        (Json.float b.utilizationPct).gt threshold = .ok false := by
    unfold utilizationErrors
    rw [refused_nil, read _ _ (by decide), shows.utilization, Option.getD_some]
  have spread (threshold : Json) : spreadErrors host (d.set "evidence" evidence) threshold = .ok [] ↔
      (Json.int b.cardSpreadMib).gt threshold = .ok false := by
    unfold spreadErrors
    rw [refused_nil, read _ _ (by decide), shows.spread, Option.getD_some]
  unfold verdict validateMemoryBudget
  simp only [bind_ok, pure_ok, List.append_eq_nil_iff, errorIf_iff_nil, attached,
    read _ _ (show ("hbm_total_matches_device" : Text) ≠ "evidence" by decide),
    read _ _ (show ("reconciled" : Text) ≠ "evidence" by decide), shows.device, shows.reconciled,
    Option.getD_some, Json.truthy, Bool.not_eq_false']
  constructor
  · rintro ⟨_, known, found, here, _, freed, _, used, _, held, _, apart,
      ⟨⟨⟨⟨⟨⟨device, reconciled⟩, rfl⟩, snapshot⟩, rfl⟩, rfl⟩, rfl⟩, rfl⟩
    exact {
      device := device
      reconciled := reconciled
      unattributed := unattributed.mp known
      evidence := ⟨found, here, snapshot⟩
      free := fun threshold given => (free threshold).mp (whenGiven_nil.mp freed threshold given)
      utilization := fun threshold given =>
        (utilization threshold).mp (whenGiven_nil.mp used threshold given)
      tokens := fun threshold given => (tokens threshold).mp (whenGiven_nil.mp held threshold given)
      spread := fun threshold given => (spread threshold).mp (whenGiven_nil.mp apart threshold given) }
  · intro accepts
    obtain ⟨found, here, snapshot⟩ := accepts.evidence
    exact ⟨[], unattributed.mpr accepts.unattributed, found, here,
      [], whenGiven_nil.mpr fun threshold given => (free threshold).mpr (accepts.free threshold given),
      [], whenGiven_nil.mpr fun threshold given =>
        (utilization threshold).mpr (accepts.utilization threshold given),
      [], whenGiven_nil.mpr fun threshold given => (tokens threshold).mpr (accepts.tokens threshold given),
      [], whenGiven_nil.mpr fun threshold given => (spread threshold).mpr (accepts.spread threshold given),
      ⟨⟨⟨⟨⟨⟨accepts.device, accepts.reconciled⟩, rfl⟩, snapshot⟩, rfl⟩, rfl⟩, rfl⟩, rfl⟩

/-! ## Worst cases of numbers -/

/-- Numbers compare as their doubles do. -/
theorem gt_numbers {a b : Json} (left : a.num? = some x) (right : b.num? = some y) :
    a.gt b = .ok (y.below x) := by
  have same : Json.gt (.float x) (.float y) = .ok (y.below x) := by
    cases x <;> cases y <;> rfl
  rw [← same]
  cases a with
  | null | str | arr | obj => cases left
  | bool | int | float =>
    cases b with
    | null | str | arr | obj => cases right
    | bool | int | float =>
      simp only [Json.gt, left, right]
      rfl

/-- A number does not compare with another kind. -/
theorem gt_mixed {a b : Json} (mixed : a.num?.isSome ≠ b.num?.isSome) : ∃ e, a.gt b = .error e := by
  cases left : a.num? with
  | none =>
    cases right : b.num? with
    | none => simp [left, right] at mixed
    | some y =>
      cases b with
      | null | str | arr | obj => cases right
      | bool | int | float => cases a <;> exact ⟨_, by simp only [Json.gt, left]; rfl⟩
  | some x =>
    cases right : b.num? with
    | some y => simp [left, right] at mixed
    | none =>
      cases a with
      | null | str | arr | obj => cases left
      | bool | int | float => cases b <;> exact ⟨_, by simp only [Json.gt, right]; rfl⟩

theorem gt_number {a : Json} (number : a.num? = some x) (threshold : Json) :
    a.gt threshold = .ok false ↔ ∃ y, threshold.num? = some y ∧ y.below x = false := by
  cases other : threshold.num? with
  | none =>
    obtain ⟨e, raised⟩ := gt_mixed (a := a) (b := threshold) (by simp [number, other])
    simp [raised]
  | some y => simp [gt_numbers number other]

theorem number_gt {a : Json} (number : a.num? = some x) (threshold : Json) :
    threshold.gt a = .ok false ↔ ∃ y, threshold.num? = some y ∧ x.below y = false := by
  cases other : threshold.num? with
  | none =>
    obtain ⟨e, raised⟩ := gt_mixed (a := threshold) (b := a) (by simp [number, other])
    simp [raised]
  | some y => simp [gt_numbers other number]

/-- A least integer is below what one of the integers is below. -/
theorem least_below (first : Int) (rest : List Int) (y : Double) :
    (Double.fin (least first rest)).below y = false ↔
      ∀ x ∈ first :: rest, (Double.fin x).below y = false := by
  have step (a b : Int) : (Double.fin (min a b : Int)).below y = false ↔
      (Double.fin a).below y = false ∧ (Double.fin b).below y = false := by
    cases y with
    | nan => simp [Double.below]
    | inf negative => simp [Double.below]
    | fin q =>
      rcases Int.le_total a b with lower | lower
      · have cast : (a : Rat) ≤ b := Int.cast_le.mpr lower
        simpa [Double.below, Int.min_eq_left lower] using fun above => le_trans above cast
      · have cast : (b : Rat) ≤ a := Int.cast_le.mpr lower
        simpa [Double.below, Int.min_eq_right lower] using fun above => le_trans above cast
  induction rest generalizing first with
  | nil => simp [least]
  | cons second rest ih =>
    have folded := ih (min first second)
    simp only [List.mem_cons, forall_eq_or_imp, step, and_assoc] at folded ⊢
    exact folded

/-- A largest number is above what one of the numbers is above. -/
theorem below_most (first : Double) (rest : List Double) (y : Double)
    (known : ∀ x ∈ first :: rest, x ≠ .nan) :
    y.below (most first rest) = false ↔ ∀ x ∈ first :: rest, y.below x = false := by
  have step (a b : Double) (here : a ≠ .nan) (there : b ≠ .nan) :
      y.below (if a.below b then b else a) = false ↔ y.below a = false ∧ y.below b = false := by
    have chain (lower : a.below b = true) (above : y.below b = false) : y.below a = false := by
      cases a <;> cases b <;> cases y <;> simp_all [Double.below]
      exact lower.le.trans above
    have chain' (lower : a.below b = false) (above : y.below a = false) : y.below b = false := by
      cases a <;> cases b <;> cases y <;> simp_all [Double.below]
      exact lower.trans above
    cases lower : a.below b with
    | true => exact ⟨fun above => ⟨chain lower above, above⟩, And.right⟩
    | false => exact ⟨fun above => ⟨above, chain' lower above⟩, And.left⟩
  induction rest generalizing first with
  | nil => simp [most]
  | cons second rest ih =>
    simp only [List.mem_cons, forall_eq_or_imp] at known ih ⊢
    have larger : (if first.below second then second else first) ≠ .nan := by
      split
      · exact known.2.1
      · exact known.1
    have folded := ih (if first.below second then second else first) ⟨larger, known.2.2⟩
    rw [step first second known.1 known.2.1, and_assoc] at folded
    exact folded

/-! ## The worst rank -/

/-- Ranks of one report, on one set of active cards. -/
structure Ranks (active : List Card) (head : Budget) (rest : List Budget) : Prop where
  tokens : ∀ b ∈ head :: rest, b.kvCacheTokens = head.kvCacheTokens
  spread : ∀ b ∈ head :: rest, b.cardSpreadMib = cardSpread active
  known : ∀ b ∈ head :: rest, b.utilizationPct ≠ .nan

/-- The worst case passes a check exactly where every rank does. -/
theorem worstCase_accepts (ranks : Ranks active head rest) (cards : List Card) :
    Accepts (worstCase head rest cards active) evidence thresholds ↔
      ∀ b ∈ head :: rest, Accepts b evidence thresholds := by
  have lowest (field : Budget → Int) (threshold : Json) :
      threshold.gt (.int (least (field head) (rest.map field))) = .ok false ↔
        ∀ b ∈ head :: rest, threshold.gt (.int (field b)) = .ok false := by
    have number (n : Int) : (Json.int n).num? = some (.fin n) := rfl
    rw [number_gt (number _)]
    constructor
    · rintro ⟨y, compared, above⟩ b member
      apply (number_gt (number _) threshold).mpr
      exact ⟨y, compared, (least_below _ _ _).mp above _ (List.mem_map_of_mem (f := field) member)⟩
    · intro every
      obtain ⟨y, compared, _⟩ := (number_gt (number _) threshold).mp (every head List.mem_cons_self)
      refine ⟨y, compared, (least_below _ _ _).mpr fun x listed => ?_⟩
      obtain ⟨b, member, rfl⟩ := List.mem_map.mp (show x ∈ (head :: rest).map field from listed)
      obtain ⟨y', compared', above⟩ := (number_gt (number _) threshold).mp (every b member)
      cases compared.symm.trans compared'
      exact above
  have highest (threshold : Json) :
      (Json.float (most head.utilizationPct (rest.map Budget.utilizationPct))).gt threshold =
          .ok false ↔
        ∀ b ∈ head :: rest, (Json.float b.utilizationPct).gt threshold = .ok false := by
    have number (x : Double) : (Json.float x).num? = some x := rfl
    have known : ∀ x ∈ (head :: rest).map Budget.utilizationPct, x ≠ .nan := by
      intro x listed
      obtain ⟨b, member, rfl⟩ := List.mem_map.mp listed
      exact ranks.known b member
    rw [gt_number (number _)]
    constructor
    · rintro ⟨y, compared, below⟩ b member
      apply (gt_number (number _) threshold).mpr
      exact ⟨y, compared, (below_most _ _ _ known).mp below _
        (List.mem_map_of_mem (f := Budget.utilizationPct) member)⟩
    · intro every
      obtain ⟨y, compared, _⟩ := (gt_number (number _) threshold).mp (every head List.mem_cons_self)
      refine ⟨y, compared, (below_most _ _ _ known).mpr fun x listed => ?_⟩
      obtain ⟨b, member, rfl⟩ :=
        List.mem_map.mp (show x ∈ (head :: rest).map Budget.utilizationPct from listed)
      obtain ⟨y', compared', below⟩ := (gt_number (number _) threshold).mp (every b member)
      cases compared.symm.trans compared'
      exact below
  constructor
  · intro worst b member
    exact {
      device := List.all_eq_true.mp worst.device b member
      reconciled := List.all_eq_true.mp worst.reconciled b member
      unattributed := (lowest Budget.unattributedMib _).mp worst.unattributed b member
      evidence := worst.evidence
      free := fun threshold given => (lowest Budget.measuredFreeMib _).mp (worst.free threshold given) b member
      utilization := fun threshold given => (highest _).mp (worst.utilization threshold given) b member
      tokens := fun threshold given => by
        rw [ranks.tokens b member]
        exact worst.tokens threshold given
      spread := fun threshold given => by
        rw [ranks.spread b member]
        exact worst.spread threshold given }
  · intro every
    have first := every head List.mem_cons_self
    exact {
      device := List.all_eq_true.mpr fun b member => (every b member).device
      reconciled := List.all_eq_true.mpr fun b member => (every b member).reconciled
      unattributed := (lowest Budget.unattributedMib _).mpr fun b member => (every b member).unattributed
      evidence := first.evidence
      free := fun threshold given => (lowest Budget.measuredFreeMib _).mpr fun b member =>
        (every b member).free threshold given
      utilization := fun threshold given => (highest _).mpr fun b member =>
        (every b member).utilization threshold given
      tokens := first.tokens
      spread := fun threshold given => by
        have apart := first.spread threshold given
        rw [ranks.spread head List.mem_cons_self] at apart
        exact apart }

/-! ## The deployment -/

section Reconciling
variable {host : Host} {floats : Floats} {report spec : Dict}

theorem call_ok {x : Except Exn α} {a : α} : call x = .ok a ↔ x = .ok a := by
  cases x with
  | ok b => simp [call, Except.mapError]
  | error e => simp [call, Except.mapError]

/-- What the ranks of one report have in common, and that a utilization is a number. -/
theorem reconcile_common (ran : reconcile host floats report active spec rank = .ok b) :
    vllm report "gpu_kv_cache_tokens" = .ok b.kvCacheTokens ∧
      b.cardSpreadMib = cardSpread active ∧ b.utilizationPct ≠ .nan := by
  unfold reconcile at ran
  split at ran
  · cases ran
  · simp only [bind_ok, pure_ok, call_ok] at ran
    obtain ⟨_, _, total, _, percent, used, _, _, tokens, held, _, _, _, _, rfl⟩ := ran
    refine ⟨held, rfl, ?_⟩
    unfold utilization at used
    split at used
    · cases used
    · exact floats.percent_known _ _ _ (call_ok.mp used)

theorem ranks_of_reconcile
    (ran : List.Forall₂ (fun (card : Card) b => reconcile host floats report active spec card.index = .ok b) cards
      (head :: rest)) : Ranks active head rest := by
  have each : ∀ b ∈ head :: rest, ∃ rank, reconcile host floats report active spec rank = .ok b := by
    intro b member
    obtain ⟨card, _, here⟩ := forall₂_member (List.Forall₂.flip ran) member
    exact ⟨card.index, here⟩
  obtain ⟨_, first⟩ := each head List.mem_cons_self
  constructor
  · intro b member
    obtain ⟨_, here⟩ := each b member
    exact Except.ok.inj ((reconcile_common here).1.symm.trans (reconcile_common first).1)
  · intro b member
    obtain ⟨_, here⟩ := each b member
    exact (reconcile_common here).2.1
  · intro b member
    obtain ⟨_, here⟩ := each b member
    exact (reconcile_common here).2.2

theorem forall₂_of_each {α β : Type} {R : α → β → Prop} {items : List α}
    (each : ∀ item ∈ items, ∃ result, R item result) : ∃ results, List.Forall₂ R items results := by
  induction items with
  | nil => exact ⟨[], .nil⟩
  | cons item items ih =>
    obtain ⟨result, here⟩ := each item List.mem_cons_self
    obtain ⟨results, there⟩ := ih fun other member => each other (List.mem_cons_of_mem _ member)
    exact ⟨result :: results, .cons here there⟩

/-- The report on a deployment is accepted where the report on each of its ranks is. -/
theorem deployment_accepted (cards : List Card) (scope : Scope) (some : scope.ranks ≠ []) :
    (∃ d, reconcileDeployment host floats report cards spec scope = .ok d ∧
        verdict host d.toDict evidence thresholds = .ok []) ↔
      ∀ card ∈ scope.ranks, ∃ b, reconcile host floats report scope.ranks spec card.index = .ok b ∧
        verdict host b.toDict evidence thresholds = .ok [] := by
  have accepts (b : Budget) : verdict host b.toDict evidence thresholds = .ok [] ↔
      Accepts b evidence thresholds := verdict_accepts host b.shows
  simp only [accepts]
  unfold reconcileDeployment
  dsimp only
  constructor
  · rintro ⟨d, ran, passed⟩ card member
    obtain ⟨perRank, each, ran⟩ := bind_ok.mp ran
    have each := mapM_forall₂.mp each
    obtain ⟨b, inside, here⟩ := forall₂_member each member
    cases perRank with
    | nil => cases ran
    | cons head rest =>
      cases pure_ok.mp ran
      have worst := (verdict_accepts host (Deployment.shows _)).mp passed
      exact ⟨b, here, (worstCase_accepts (ranks_of_reconcile each) cards).mp worst b inside⟩
  · intro every
    obtain ⟨perRank, each⟩ := forall₂_of_each fun card member =>
      (every card member).imp fun _ => And.left
    have passes : ∀ b ∈ perRank, Accepts b evidence thresholds := by
      intro b member
      obtain ⟨card, inside, here⟩ := forall₂_member each.flip member
      obtain ⟨b', there, passed⟩ := every card inside
      cases here.symm.trans there
      exact passed
    cases perRank with
    | nil => exact absurd (List.forall₂_nil_right_iff.mp each) some
    | cons head rest =>
      refine ⟨_, bind_ok.mpr ⟨_, mapM_forall₂.mpr each, rfl⟩, ?_⟩
      apply (verdict_accepts host (Deployment.shows _)).mpr
      exact (worstCase_accepts (ranks_of_reconcile each) cards).mpr passes

/-! ## Idle cards -/

/-- The errors on the deployment that a snapshot shows. -/
def assess (host : Host) (floats : Floats) (report : Dict) (spec : Dict) (evidence : Json)
    (thresholds : Dict) (cards : List Card) (logText : Option Text) (idleThresholdMib : Int) :
    Except BudgetFault (List Text) := do
  let scope ← detectActiveRanks host floats cards logText idleThresholdMib
  let d ← reconcileDeployment host floats report cards spec scope
  call (verdict host d.toDict evidence thresholds)

/-- A snapshot that also shows idle cards, wherever they stand in it. -/
structure AddsIdle (idleThresholdMib : Int) (cards more : List Card) : Prop where
  kept : cards.Sublist more
  added : ∃ idle : List Card, more.Perm (cards ++ idle) ∧ ∀ card ∈ idle, card.usedMib ≤ idleThresholdMib

theorem AddsIdle.active (adds : AddsIdle idleThresholdMib cards more) :
    more.filter (isActive idleThresholdMib) = cards.filter (isActive idleThresholdMib) := by
  obtain ⟨idle, all, low⟩ := adds.added
  have none : idle.filter (isActive idleThresholdMib) = [] := by
    rw [List.filter_eq_nil_iff]
    intro card member
    simpa [isActive] using low card member
  have counted := (all.filter (isActive idleThresholdMib)).length_eq
  rw [List.filter_append, none, List.append_nil] at counted
  exact ((adds.kept.filter _).eq_of_length counted.symm).symm

theorem AddsIdle.scope (adds : AddsIdle idleThresholdMib cards more) (logText : Option Text) :
    detectActiveRanks host floats more logText idleThresholdMib =
      detectActiveRanks host floats cards logText idleThresholdMib := by
  unfold detectActiveRanks
  rw [adds.active]

/-- The validator does not read how many cards there are. -/
theorem verdict_congr {d d' : Dict} (same : ∀ key : Text, key ≠ "cards" → Dict.get? d key = Dict.get? d' key) :
    verdict host d evidence thresholds = verdict host d' evidence thresholds := by
  have read (key : Text) (fallback : Json) (other : key ≠ "cards") :
      Dict.getD (d.set "evidence" evidence) key fallback =
        Dict.getD (d'.set "evidence" evidence) key fallback := by
    rw [Dict.getD, Dict.getD, Dict.get?_set, Dict.get?_set, same key other]
  have shown (key : Text) (other : key ≠ "cards") :
      budgetShown host (d.set "evidence" evidence) key =
        budgetShown host (d'.set "evidence" evidence) key := by
    rw [budgetShown, budgetShown, read key _ other]
  have unattributed : unattributedErrors host (d.set "evidence" evidence) =
      unattributedErrors host (d'.set "evidence" evidence) := by
    rw [unattributedErrors, unattributedErrors, read _ _ (by decide)]
  have free : freeErrors host (d.set "evidence" evidence) =
      freeErrors host (d'.set "evidence" evidence) := by
    funext threshold
    rw [freeErrors, freeErrors, read _ _ (by decide), shown _ (by decide)]
  have utilization : utilizationErrors host (d.set "evidence" evidence) =
      utilizationErrors host (d'.set "evidence" evidence) := by
    funext threshold
    rw [utilizationErrors, utilizationErrors, read _ _ (by decide), shown _ (by decide)]
  have tokens : tokensErrors host (d.set "evidence" evidence) =
      tokensErrors host (d'.set "evidence" evidence) := by
    funext threshold
    rw [tokensErrors, tokensErrors, read _ _ (by decide)]
  have spread : spreadErrors host (d.set "evidence" evidence) =
      spreadErrors host (d'.set "evidence" evidence) := by
    funext threshold
    rw [spreadErrors, spreadErrors, read _ _ (by decide), shown _ (by decide)]
  unfold verdict validateMemoryBudget
  rw [read "hbm_total_matches_device" _ (by decide), read "reconciled" _ (by decide),
    read "evidence" _ (by decide), shown "unattributed_mib" (by decide),
    shown "analyzer_other_mib" (by decide), unattributed, free, utilization, tokens, spread]

/-- The verdict on a snapshot with idle cards is that on the snapshot without them. -/
theorem AddsIdle.assess (adds : AddsIdle idleThresholdMib cards more) (logText : Option Text) :
    assess host floats report spec evidence thresholds more logText idleThresholdMib =
      MemoryBudget.assess host floats report spec evidence thresholds cards logText idleThresholdMib := by
  have counted (scope : Scope) :
      (do let d ← reconcileDeployment host floats report more spec scope
          call (verdict host d.toDict evidence thresholds)) =
        (do let d ← reconcileDeployment host floats report cards spec scope
            call (verdict host d.toDict evidence thresholds)) := by
    unfold reconcileDeployment
    dsimp only
    cases scope.ranks.mapM fun entry => reconcile host floats report scope.ranks spec entry.index with
    | error e => rfl
    | ok perRank =>
      cases perRank with
      | nil => rfl
      | cons head rest =>
        refine congrArg call (verdict_congr fun key other => ?_)
        simp [Deployment.toDict, Budget.toDict, worstCase, other]
  unfold MemoryBudget.assess
  rw [adds.scope]
  simp only [counted]

/-- The aggregated budget of a deployment passes where the budget of each active rank does, and idle
cards change neither the ranks nor the verdict. -/
theorem worst_case_exact (host : Host) (floats : Floats) (report spec : Dict) (evidence : Json)
    (thresholds : Dict) :
    (∀ (cards : List Card) (scope : Scope), scope.ranks ≠ [] →
      ((∃ d, reconcileDeployment host floats report cards spec scope = .ok d ∧
          verdict host d.toDict evidence thresholds = .ok []) ↔
        ∀ card ∈ scope.ranks, ∃ b,
          reconcile host floats report scope.ranks spec card.index = .ok b ∧
            verdict host b.toDict evidence thresholds = .ok [])) ∧
    ∀ (cards more : List Card) (logText : Option Text) (idleThresholdMib : Int),
      AddsIdle idleThresholdMib cards more →
        detectActiveRanks host floats more logText idleThresholdMib =
            detectActiveRanks host floats cards logText idleThresholdMib ∧
          assess host floats report spec evidence thresholds more logText idleThresholdMib =
            assess host floats report spec evidence thresholds cards logText idleThresholdMib :=
  ⟨fun cards scope some => deployment_accepted cards scope some,
    fun _ _ logText _ adds => ⟨adds.scope logText, adds.assess logText⟩⟩

end Reconciling

/-! Two active cards, and an idle one between them. -/

def Floats.sample : Floats where
  sum := List.foldl Rounding.exact.add (.fin 0)
  mib
    | .fin gib => .ok (gib * 1024).floor
    | _ => .error (.value "cannot convert float NaN to integer")
  percent used total := .ok (.fin (used * 100 / total))
  percent_known := by
    rintro used total p ⟨⟩
    exact nofun
  digit c := 48 ≤ c.val && c.val ≤ 57

def sampleSpec : Dict := [("hbm_mib", .int 98304), ("display_name", .str "P800")]

def sampleCards : List Card := [⟨0, 49152, 49152, 98304⟩, ⟨2, 24576, 73728, 98304⟩]

theorem sample_addsIdle :
    AddsIdle 1024 sampleCards [⟨0, 49152, 49152, 98304⟩, ⟨1, 7, 98297, 98304⟩, ⟨2, 24576, 73728, 98304⟩] where
  kept := by decide
  added := ⟨[⟨1, 7, 98297, 98304⟩], by decide, by decide⟩

theorem worst_case_exact_cards :
    ((∃ d, reconcileDeployment .sample .sample [] sampleCards sampleSpec ⟨sampleCards, none, []⟩ = .ok d ∧
        verdict .sample d.toDict (.obj [("xpu_smi", .str "xpu_smi.csv")]) [] = .ok []) ↔
      ∀ card ∈ sampleCards, ∃ b, reconcile .sample .sample [] sampleCards sampleSpec card.index = .ok b ∧
        verdict .sample b.toDict (.obj [("xpu_smi", .str "xpu_smi.csv")]) [] = .ok []) ∧
    detectActiveRanks .sample .sample
        [⟨0, 49152, 49152, 98304⟩, ⟨1, 7, 98297, 98304⟩, ⟨2, 24576, 73728, 98304⟩] none 1024 =
      detectActiveRanks .sample .sample sampleCards none 1024 :=
  have law := worst_case_exact .sample .sample [] sampleSpec (.obj [("xpu_smi", .str "xpu_smi.csv")]) []
  ⟨law.1 sampleCards ⟨sampleCards, none, []⟩ nofun, (law.2 _ _ none 1024 sample_addsIdle).1⟩

end MemoryBudget
end InferForge

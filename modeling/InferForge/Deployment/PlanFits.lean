import InferForge.Deployment.Plan
import Mathlib.Tactic.Linarith
import Mathlib.Tactic.FieldSimp
import Mathlib.Tactic.GCongr

/-! When an accepted plan fits the device: the size, the weights of one card and the cache of one
sequence of full length. -/
namespace InferForge.DeploymentPlan
open Py Effect

/-! ## The size -/

/-- A size with room for the weights that divides the heads. -/
def Serves (q : Quantities) (size : Int) : Prop :=
  size ∈ validTp ∧ q.weight ≤ size * (q.hbm * weightHeadroom) ∧ size ∣ q.heads

/-- The smallest size that serves, or 8 when none does. -/
def Chosen (q : Quantities) (size : Int) : Prop :=
  (Serves q size ∧ ∀ other, Serves q other → size ≤ other) ∨ size = 8 ∧ ∀ other, ¬ Serves q other

theorem chosen_unique (left : Chosen q a) (right : Chosen q b) : a = b := by
  rcases left with ⟨serves, least⟩ | ⟨rfl, none⟩ <;> rcases right with ⟨serves', least'⟩ | ⟨rfl, none'⟩
  · exact le_antisymm (least b serves') (least' a serves)
  · exact absurd serves (none' a)
  · exact absurd serves' (none b)
  · rfl

theorem mem_validTp (size : Int) : size ∈ validTp ↔ size = 1 ∨ size = 2 ∨ size = 4 ∨ size = 8 := by
  simp [validTp]

theorem chosen_valid (chosen : Chosen q size) : size ∈ validTp := by
  rcases chosen with ⟨serves, -⟩ | ⟨rfl, -⟩
  · exact serves.1
  · exact (mem_validTp 8).mpr (by omega)

/-- The first element of an ordered list with a property is the least one. -/
theorem find?_least [LinearOrder α] {l : List α} {p : α → Bool} (ordered : l.Pairwise (· ≤ ·))
    (found : l.find? p = some a) (member : b ∈ l) (good : p b = true) : a ≤ b := by
  obtain ⟨-, before, after, rfl, fails⟩ := List.find?_eq_some_iff_append.mp found
  rcases List.mem_append.mp member with early | late
  · exact absurd good (by simpa using fails b early)
  · rcases List.mem_cons.mp late with rfl | late
    · exact le_rfl
    · exact List.rel_of_pairwise_cons (List.pairwise_append.mp ordered).2.1 late

theorem isCandidate_iff {q : Quantities} (positive : 0 < q.hbm) (valid : size ∈ validTp) :
    isCandidate q.weight q.hbm q.heads size = true ↔ Serves q size := by
  have capacity : (0 : Rat) < q.hbm * weightHeadroom := by
    have : (0 : Rat) < q.hbm := by exact_mod_cast positive
    unfold weightHeadroom
    positivity
  have one : 1 ≤ size := by
    rw [mem_validTp] at valid
    omega
  rw [isCandidate, Bool.and_eq_true, decide_eq_true_iff, decide_eq_true_iff, max_le_iff,
    Int.ceil_le, div_le_iff₀ capacity, ← Int.dvd_iff_emod_eq_zero]
  constructor
  · rintro ⟨⟨-, room⟩, divides⟩
    exact ⟨valid, room, divides⟩
  · rintro ⟨-, room, divides⟩
    exact ⟨⟨one, room⟩, divides⟩

theorem tensorParallel_chosen (q : Quantities) (positive : 0 < q.hbm) :
    Chosen q (tensorParallel q.weight q.hbm q.heads) := by
  unfold tensorParallel
  cases found : validTp.find? (isCandidate q.weight q.hbm q.heads) with
  | none =>
    right
    refine ⟨rfl, fun other serves => ?_⟩
    exact List.find?_eq_none.mp found other serves.1 ((isCandidate_iff positive serves.1).mpr serves)
  | some size =>
    left
    have valid := List.mem_of_find?_eq_some found
    refine ⟨(isCandidate_iff positive valid).mp (List.find?_some found), fun other serves => ?_⟩
    exact find?_least (by decide) found serves.1 ((isCandidate_iff positive serves.1).mpr serves)

/-! ## The length -/

/-- Halved until it is at most 1024. -/
def lowest (limit : Int) : Int := if 1024 < limit then lowest (limit / 2) else limit
termination_by limit.toNat

theorem lowest_le (positive : 0 < limit) : lowest limit ≤ limit := by
  fun_induction lowest limit with
  | case1 limit long ih =>
    have := ih (by omega)
    omega
  | case2 => exact le_rfl

theorem lowest_pos (positive : 0 < limit) : 0 < lowest limit := by
  fun_induction lowest limit with
  | case1 limit long ih => exact ih (by omega)
  | case2 => exact positive

/-- The cache that a sequence needs, in MiB. -/
def Quantities.need (q : Quantities) (modelLen : Int) : Rat := mib (q.perPosition * modelLen * 2)

theorem Quantities.need_eq (q : Quantities) (modelLen : Int) :
    q.need modelLen = q.perPosition * modelLen * (2 / 2 ^ 20) := by
  rw [need, mib]
  push_cast
  ring

theorem need_lowest {q : Quantities} (positive : 0 < limit) (room : 0 ≤ half)
    (fits : q.need limit ≤ half) : q.need (lowest limit) ≤ half := by
  have some' := lowest_pos positive
  have less := lowest_le positive
  have order : ((lowest limit : Int) : Rat) ≤ limit := by exact_mod_cast less
  have first : (0 : Rat) < (lowest limit : Int) := by exact_mod_cast some'
  rw [Quantities.need_eq] at fits ⊢
  by_cases negative : q.perPosition ≤ 0
  · have : (q.perPosition : Rat) ≤ 0 := by exact_mod_cast negative
    have : (q.perPosition : Rat) * (lowest limit : Int) ≤ 0 :=
      mul_nonpos_of_nonpos_of_nonneg this first.le
    linarith
  · have : (0 : Rat) ≤ q.perPosition := by exact_mod_cast (not_le.mp negative).le
    calc (q.perPosition : Rat) * (lowest limit : Int) * (2 / 2 ^ 20)
        ≤ q.perPosition * limit * (2 / 2 ^ 20) := by gcongr
      _ ≤ half := fits

/-- The search ends at a length that fits exactly when the lowest one does. -/
theorem halveToFit_fits {host : Host} {q : Quantities} {identity : Json} {half : Rat}
    (floors : ∀ n, kvFloorMib host identity n = .ok (q.need n)) (positive : 0 < limit)
    (room : 0 ≤ half) (found : halveToFit host identity half limit = .ok modelLen) :
    0 < modelLen ∧ modelLen ≤ limit ∧ (q.need modelLen ≤ half ↔ q.need (lowest limit) ≤ half) := by
  fun_induction halveToFit host identity half limit with
  | case1 limit long e failed => cases found
  | case2 limit long floor same short ih =>
    obtain ⟨some', less, same⟩ := ih (by omega) found
    rw [lowest, if_pos long]
    exact ⟨some', by omega, same⟩
  | case3 limit long floor same enough =>
    cases found
    rw [floors] at same
    cases same
    have fits := not_lt.mp enough
    exact ⟨positive, le_rfl, iff_of_true fits (need_lowest positive room fits)⟩
  | case4 limit short =>
    cases found
    rw [lowest, if_neg short]
    exact ⟨positive, le_rfl, Iff.rfl⟩

/-- And so does the length of the plan, which is the limit itself when that is not positive. -/
theorem capModelLen_fits {host : Host} {formats : Formats} {q : Quantities} {identity : Json}
    (floors : ∀ n, kvFloorMib host identity n = .ok (q.need n))
    (capped : capModelLenToBudget host formats identity q.limit q.weight q.hbm size =
      .ok (modelLen, source)) (room : 0 ≤ (q.hbm * utilization - q.weight / size) / 2)
    (positive : 0 < q.limit) :
    0 < modelLen ∧ modelLen ≤ q.limit ∧
      (q.need modelLen ≤ (q.hbm * utilization - q.weight / size) / 2 ↔
        q.need (lowest q.limit) ≤ (q.hbm * utilization - q.weight / size) / 2) := by
  unfold capModelLenToBudget at capped
  simp only [floors, ok_bind] at capped
  split at capped
  · next fits =>
    cases capped
    exact ⟨positive, le_rfl, iff_of_true fits (need_lowest positive room fits)⟩
  · rw [bind_ok] at capped
    obtain ⟨found, searched, settled⟩ := capped
    have same : modelLen = found := by
      split at settled
      · next unmoved =>
        cases settled
        exact unmoved.symm
      · cases settled
        rfl
    rw [same]
    exact halveToFit_fits floors positive room searched

/-! ## The plan -/

/-- The size and the length serve the model on this device. -/
structure Fits (host : Host) (identity : Json) (q : Quantities) (size modelLen : Int) : Prop where
  allowed : size ∈ validTp
  divides : size ∣ q.heads
  positive : 0 < modelLen
  within : modelLen ≤ q.limit
  weights : q.weight / size < q.hbm * utilization
  cache : ∃ floor, kvFloorMib host identity modelLen = .ok floor ∧
    floor ≤ (q.hbm * utilization - q.weight / size) / 2

/-- The size and the length that a report gives do. -/
def PlanFits (host : Host) (request report : Dict) (q : Quantities) : Prop :=
  ∃ table size modelLen, reportTable report = .ok table ∧
    parameterValue table "tensor_parallel_size" = .ok (.int size) ∧
    parameterValue table "max_model_len" = .ok (.int modelLen) ∧
    Fits host ((Dict.getD request "identity" .null).or (.obj [])) q size modelLen

/-- What a request needs for its accepted plan to fit. -/
structure Adequate (q : Quantities) : Prop where
  limit : 0 < q.limit
  weights : q.weight < 8 * (q.hbm * utilization)
  heads : q.headsGiven = true ∨ q.weight ≤ q.hbm * weightHeadroom
  cache : ∀ size, Chosen q size →
    q.need (lowest q.limit) ≤ (q.hbm * utilization - q.weight / size) / 2

theorem accepted_size {host : Host} {formats : Formats} {report contract request : Dict}
    {table : Mapping}
    (accepted : validateDeploymentPlan host formats report contract (some request) = .ok [])
    (identity : (Dict.getD request "identity" .null).truthy = true)
    (listed : reportTable report = .ok table) :
    sizeErrors host ((Dict.getD request "identity" .null).or (.obj [])) table = .ok [] := by
  simp only [validateDeploymentPlan, bind_ok, call_ok, pure_ok, List.append_eq_nil_iff] at accepted
  obtain ⟨items, elements, other, tabled, _, -, _, -, _, -, _, -, _, -, _, -, _, -, size, sized, _, -,
    _, -, _, -, errors⟩ := accepted
  rw [reportTable, elements, ok_bind, tabled] at listed
  cases listed
  have filled : ((Dict.getD request "identity" .null).or (.obj [])).truthy = true := by
    rw [Json.or, if_pos identity, identity]
  rw [whenFilled, Option.getD_some, if_pos filled] at sized
  rw [sized, errors.1.1.2]

/-- The size that the checks accept divides the heads, where the checkpoint gives some. -/
theorem sizeErrors_divides {host : Host} {identity heads : Json} {table : Mapping}
    (accepted : sizeErrors host identity table = .ok [])
    (given : field identity "num_attention_heads" = .ok heads) (truthy : heads.truthy = true)
    (count : heads.toInt host = .ok n)
    (value : parameterValue table "tensor_parallel_size" = .ok (.int size)) : size ∣ n := by
  rw [sizeErrors, given, value] at accepted
  simp only [ok_bind] at accepted
  split at accepted
  · cases accepted
  · split at accepted
    · cases accepted
    · rw [count, ok_bind, Json.toInt, ok_bind, pure_ok] at accepted
      have exact := errorIf_nil accepted
      rw [decide_eq_false_iff_not, not_not] at exact
      exact Int.dvd_of_emod_eq_zero exact

/-- The heads are 1 where the checkpoint gives none. -/
theorem quantities_heads {host : Host} {request spec : Dict} {q : Quantities}
    (read : quantities host request spec = .ok q) :
    ∃ heads, field ((Dict.getD request "identity" .null).or (.obj [])) "num_attention_heads" = .ok heads ∧
      heads.truthy = q.headsGiven ∧ (heads.or (.int 1)).toInt host = .ok q.heads := by
  simp only [quantities, intOr, bind_ok, pure_ok] at read
  obtain ⟨_, -, _, -, _, ⟨heads, given, count⟩, again, same, _, -, _, -, _, -, rfl⟩ := read
  rw [given] at same
  cases same
  exact ⟨heads, given, rfl, count⟩

theorem quantities_need {host : Host} {request spec : Dict} {q : Quantities}
    (read : quantities host request spec = .ok q) (modelLen : Int) :
    kvFloorMib host ((Dict.getD request "identity" .null).or (.obj [])) modelLen =
      .ok (q.need modelLen) := by
  simp only [quantities, bind_ok, pure_ok] at read
  obtain ⟨_, -, _, -, _, -, _, -, _, -, layers, counted, elements, cached, rfl⟩ := read
  rw [kvFloorMib, counted, ok_bind, cached, ok_bind]
  rfl

theorem one_head {host : Host} {heads : Json} {q : Quantities} (truth : heads.truthy = q.headsGiven)
    (count : (heads.or (.int 1)).toInt host = .ok q.heads) (absent : q.headsGiven = false) :
    q.heads = 1 := by
  rw [Json.or, truth, absent, if_neg Bool.false_ne_true, Json.toInt] at count
  exact (Except.ok.inj count).symm

/-- The weights of one card leave room exactly when all weights stay below the size times that. -/
theorem share_lt_iff (valid : size ∈ validTp) (weight room : Rat) :
    weight / size < room ↔ weight < size * room := by
  have some' : (0 : Rat) < size := by
    rw [mem_validTp] at valid
    have : 0 < size := by omega
    exact_mod_cast this
  rw [div_lt_iff₀ some', mul_comm]

theorem chosen_share (positive : 0 < q.hbm) (chosen : Chosen q size)
    (weights : q.weight < 8 * (q.hbm * utilization)) : q.weight / size < q.hbm * utilization := by
  have hbm : (0 : Rat) < q.hbm := by exact_mod_cast positive
  rw [share_lt_iff (chosen_valid chosen)]
  rcases chosen with ⟨⟨valid, room, -⟩, -⟩ | ⟨rfl, -⟩
  · have some' : (0 : Rat) < size := by
      rw [mem_validTp] at valid
      have : 0 < size := by omega
      exact_mod_cast this
    have more : weightHeadroom < utilization := by
      unfold weightHeadroom utilization
      norm_num
    calc q.weight ≤ size * (q.hbm * weightHeadroom) := room
      _ < size * (q.hbm * utilization) := by gcongr
  · exact_mod_cast weights

/-- An accepted plan fits the device exactly when the request meets this condition. -/
theorem plan_fits_iff (host : Host) (formats : Formats) (request classification spec contract : Dict)
    (patch : Option Dict) (q : Quantities) (report : Dict)
    (read : quantities host request spec = .ok q) (positive : 0 < q.hbm)
    (identity : (Dict.getD request "identity" .null).truthy = true)
    (planned : plan host formats request classification spec patch = .ok report)
    (accepted : validateDeploymentPlan host formats report contract (some request) = .ok []) :
    PlanFits host request report q ↔ Adequate q := by
  obtain ⟨modelLen, source, table, capped, listed, sized, long⟩ :=
    plan_parameters host formats q request classification spec report patch read planned
  have chosen := tensorParallel_chosen q positive
  have checked := accepted_size accepted identity listed
  generalize tensorParallel q.weight q.hbm q.heads = size at *
  have floors := quantities_need read
  obtain ⟨heads, given, truth, count⟩ := quantities_heads read
  constructor
  · rintro ⟨_, _, _, listed', sized', long', fits⟩
    rw [listed] at listed'
    cases listed'
    rw [sized] at sized'
    cases sized'
    rw [long] at long'
    cases long'
    obtain ⟨floor, known, small⟩ := fits.cache
    rw [floors] at known
    cases known
    have limit := lt_of_lt_of_le fits.positive fits.within
    have room : 0 ≤ (q.hbm * utilization - q.weight / size) / 2 := by linarith [fits.weights]
    refine ⟨limit, ?_, ?_, fun other same => ?_⟩
    · have all := (share_lt_iff fits.allowed _ _).mp fits.weights
      have hbm : (0 : Rat) < q.hbm := by exact_mod_cast positive
      have most : (size : Rat) ≤ 8 := by
        have valid := (mem_validTp size).mp fits.allowed
        have : size ≤ 8 := by omega
        exact_mod_cast this
      calc q.weight < size * (q.hbm * utilization) := all
        _ ≤ 8 * (q.hbm * utilization) := by
          unfold utilization
          gcongr
    · cases heads' : q.headsGiven with
      | true => exact Or.inl rfl
      | false =>
        right
        have one := one_head truth count heads'
        have divides := fits.divides
        have valid := (mem_validTp size).mp fits.allowed
        rw [one] at divides
        have single : size = 1 := by
          have := Int.le_of_dvd Int.one_pos divides
          omega
        rcases chosen with ⟨⟨-, enough, -⟩, -⟩ | ⟨eight, -⟩
        · simpa [single] using enough
        · omega
    · rw [← chosen_unique chosen same]
      exact (capModelLen_fits floors capped room limit).2.2.mp small
  · intro adequate
    refine ⟨table, size, modelLen, listed, sized, long, ?_⟩
    have weights := chosen_share positive chosen adequate.weights
    have room : 0 ≤ (q.hbm * utilization - q.weight / size) / 2 := by linarith
    obtain ⟨some', less, cache⟩ := capModelLen_fits floors capped room adequate.limit
    refine ⟨chosen_valid chosen, ?_, some', less, weights, q.need modelLen, floors modelLen,
      cache.mpr (adequate.cache size chosen)⟩
    rcases chosen with ⟨⟨-, -, divides⟩, -⟩ | ⟨rfl, none⟩
    · exact divides
    · cases heads' : q.headsGiven with
      | true =>
        rw [heads'] at truth
        rw [Json.or, if_pos truth] at count
        exact sizeErrors_divides checked given truth count sized
      | false =>
        -- One card would have served.
        have few := adequate.heads.resolve_left (by simp [heads'])
        have one := one_head truth count heads'
        exact absurd ⟨(mem_validTp 1).mpr (Or.inl rfl), by simpa using few, one_dvd _⟩ (none 1)

/-! ## A plan that does not fit -/

/-- 88000 MiB of weights on each of eight cards of 96 GiB. -/
def tightRequest : Dict :=
  [("identity", .obj [("torch_dtype", .str "bfloat16"), ("num_attention_heads", .int 64),
      ("num_key_value_heads", .int 64), ("head_dim", .int 128), ("num_hidden_layers", .int 80),
      ("max_position_embeddings", .int 2048)]),
    ("model", .obj [("total_weight_bytes", .int (704000 * 2 ^ 20))])]

def tightIdentity : Json := (Dict.getD tightRequest "identity" .null).or (.obj [])

def card : Dict := [("hbm_mib", .int 98304)]

def arithmeticContract : Dict := [("checks", .obj [("memory_arithmetic_required", .bool true)])]

def Formats.sample : Formats where
  fixed x := Text.ofInt ⌊x + 1 / 2⌋
  lower := id

def tightWeight : Rat := mib (704000 * 2 ^ 20)

def tight : Quantities := ⟨64, true, 2048, 98304, tightWeight, 1310720⟩

theorem quantities_tight : quantities Host.sample tightRequest card = .ok tight := rfl

theorem kv_tight (n : Int) :
    kvFloorMib Host.sample tightIdentity n = .ok (mib (1310720 * n * 2)) := rfl

theorem tightWeight_eq : tightWeight = 704000 := by norm_num [tightWeight, mib]

theorem tensorParallel_tight : tensorParallel tightWeight 98304 64 = 8 := by
  rw [tightWeight_eq]
  decide +kernel

theorem room_tight : ((98304 : Int) * utilization - tightWeight / (8 : Int)) / 2 = 1184 / 5 := by
  norm_num [utilization, tightWeight_eq]

/-- The halving stops at 1024, which does not fit. -/
theorem halve_tight : halveToFit Host.sample tightIdentity (1184 / 5) 2048 = .ok 1024 := by
  rw [halveToFit, if_pos (by decide), kv_tight]
  dsimp only
  rw [if_pos (by norm_num [mib]), halveToFit, if_neg (by decide)]
  rfl

def tightSource : Text :=
  "pre-flight budget cap: " ++ Formats.sample.fixed (tightWeight / (8 : Int)) ++
    " MiB/card of weights against a " ++ Formats.sample.fixed ((98304 : Int) * utilization) ++
    " MiB/card budget leaves " ++
    Formats.sample.fixed ((98304 : Int) * utilization - tightWeight / (8 : Int)) ++
    " MiB for KV and runtime, but one " ++ Text.ofInt 2048 ++ "-token sequence needs " ++
    Formats.sample.fixed (mib (1310720 * 2048 * 2)) ++
    " MiB (conservative bf16 estimate); capped to " ++ Text.ofInt 1024 ++
    ". MEM-001 measures the real budget and the length can be revisited."

theorem cap_tight : capModelLenToBudget Host.sample Formats.sample tightIdentity 2048 tightWeight
    98304 8 = .ok (1024, tightSource) := by
  unfold capModelLenToBudget
  simp only [room_tight, kv_tight, ok_bind, halve_tight]
  rw [if_neg (by norm_num [mib]), if_neg (by decide)]
  rfl

def tightReport (size modelLen : Int) (source : Text) : Dict :=
  [("state", .str "PLAN_READY"), ("subject", .null), ("revision", .null), ("hardware", .null),
    ("stack_commit", .null), ("classification", .null),
    ("parameters", .arr ((planParameters Formats.sample (.str "bfloat16") tightWeight 98304 64 size
      modelLen source false false "").map .obj)),
    ("device", .obj [("id", .str "p800"), ("hbm_mib", .int 98304)]),
    ("assumptions", .arr [.str "gpu_memory_utilization"])]

theorem plan_tight : plan Host.sample Formats.sample tightRequest [] card none =
    .ok (tightReport 8 1024 tightSource) := by
  have whole : plan Host.sample Formats.sample tightRequest [] card none = (do
      let capped ← call (capModelLenToBudget Host.sample Formats.sample tightIdentity
        2048 tightWeight 98304 (tensorParallel tightWeight 98304 64))
      return tightReport (tensorParallel tightWeight 98304 64) capped.1 capped.2) := rfl
  rw [whole, tensorParallel_tight, cap_tight]
  rfl

def isAccepted (result : Except PlanFault (List Text)) : Bool :=
  match result with
  | .ok [] => true
  | _ => false

theorem accepted_tight : validateDeploymentPlan Host.sample Formats.sample
    (tightReport 8 1024 tightSource) arithmeticContract (some tightRequest) = .ok [] := by
  have accepted : isAccepted (validateDeploymentPlan Host.sample Formats.sample
      (tightReport 8 1024 tightSource) arithmeticContract (some tightRequest)) = true := by
    decide +kernel
  unfold isAccepted at accepted
  split at accepted
  · assumption
  · cases accepted

theorem tight_overcommitted :
    ∃ report, quantities Host.sample tightRequest card = .ok tight ∧
      plan Host.sample Formats.sample tightRequest [] card none = .ok report ∧
      validateDeploymentPlan Host.sample Formats.sample report arithmeticContract
        (some tightRequest) = .ok [] ∧
      ¬ PlanFits Host.sample tightRequest report tight := by
  refine ⟨_, quantities_tight, plan_tight, accepted_tight, ?_⟩
  rintro ⟨table, size, modelLen, listed, sized, long, fits⟩
  obtain ⟨known, found, eight, low⟩ := parameterTable_plan Formats.sample (.str "bfloat16")
    tightWeight 98304 64 8 1024 tightSource false false ""
  rw [reportTable_filled rfl (List.cons_ne_nil _ _)] at listed
  obtain rfl := Except.ok.inj (found.symm.trans listed)
  rw [eight] at sized
  rw [low] at long
  cases sized
  cases long
  obtain ⟨floor, need, small⟩ := fits.cache
  cases need
  have room : ((tight.hbm : Rat) * utilization - tight.weight / (8 : Int)) / 2 = 1184 / 5 := room_tight
  rw [room] at small
  norm_num [mib] at small

theorem plan_fits_tight :
    PlanFits Host.sample tightRequest (tightReport 8 1024 tightSource) tight ↔ Adequate tight :=
  plan_fits_iff Host.sample Formats.sample tightRequest [] card arithmeticContract none tight
    (tightReport 8 1024 tightSource) quantities_tight (by decide) rfl plan_tight accepted_tight

end InferForge.DeploymentPlan

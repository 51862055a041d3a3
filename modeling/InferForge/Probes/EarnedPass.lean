import InferForge.Probes.BlockSparse
import Mathlib.Tactic.NormNum

/-! Which passes of the probes are earned: the report of a probe, completed and validated. -/
namespace InferForge.Evaluation
open Py ResultValidation Effect

/-! ## Metrics that bound -/

section Metrics
variable {torch : Torch}

theorem metrics_ok : torch.metrics candidate reference = .ok m ↔
    candidate.length = reference.length ∧ m = ⟨torch.rounding.div (torch.dot candidate reference)
        (torch.rounding.add (torch.rounding.mul (torch.norm candidate) (torch.norm reference)) torch.tiny),
      torch.relativeL2 candidate reference, none⟩ := by
  unfold Torch.metrics Torch.cosine
  by_cases sizes : candidate.length = reference.length
  · rw [if_pos sizes]
    simp only [sizes, true_and, bind_ok, pure_ok, exists_eq_left']
    exact eq_comm
  · simp only [sizes, if_false, bind_ok, throw_ok, false_and, exists_false]

theorem relativeL2_atLeastZero (torch : Torch) (candidate reference : Entries) :
    (torch.relativeL2 candidate reference).AtLeastZero := by
  have tiny : torch.tiny.AtLeastZero := torch.rounding.round_nonneg _ (by norm_num)
  exact Rounding.div_atLeastZero (torch.norm_atLeastZero _)
    (Rounding.add_atLeastZero (torch.norm_atLeastZero _) tiny)

/-- A bounded relative norm leaves no entry out of it. -/
theorem relativeL2_finite (sizes : candidate.length = reference.length)
    (small : (torch.relativeL2 candidate reference).le (.fin ceiling) = true) :
    ∀ x ∈ candidate ++ reference, x.isFinite = true := by
  have finite := Double.finite_of_le (relativeL2_atLeastZero torch candidate reference) small
  have each := torch.norm_finite _ (Rounding.div_finite finite)
  have pairs : ∀ pair ∈ candidate.zip reference, pair.1.isFinite = true ∧ pair.2.isFinite = true := by
    intro pair member
    apply Rounding.sub_finite (r := torch.rounding)
    apply each
    rw [← List.map_uncurry_zip_eq_zipWith]
    exact List.mem_map.mpr ⟨pair, member, rfl⟩
  intro x member
  rcases List.mem_append.mp member with left | right
  · have firsts : (candidate.zip reference).map Prod.fst = candidate := List.map_fst_zip sizes.le
    rw [← firsts] at left
    obtain ⟨pair, listed, rfl⟩ := List.mem_map.mp left
    exact (pairs pair listed).1
  · have seconds : (candidate.zip reference).map Prod.snd = reference := List.map_snd_zip sizes.ge
    rw [← seconds] at right
    obtain ⟨pair, listed, rfl⟩ := List.mem_map.mp right
    exact (pairs pair listed).2

end Metrics

/-! ## Runs of the probes -/

/-- What the contract declares about the three dimensions. -/
structure Contract where
  quantization : Terms
  swa : Terms
  window : Window
  blockSparse : Terms
  blocks : Blocks

namespace Contract

def json (contract : Contract) : Json :=
  .obj [("checks", .obj [("dimensions", .obj [("quantization", contract.quantization.json),
    ("swa", contract.swa.json), ("block_sparse", contract.blockSparse.json)])])]

/-- The contract of the task, with the doubles written `0.9999`, `0.01` and `0.02`. -/
def task : Contract where
  quantization := ⟨4503149267407759 / 4503599627370496, 5764607523034235 / 2 ^ 59⟩
  swa := ⟨4503149267407759 / 4503599627370496, 5764607523034235 / 2 ^ 59⟩
  window := ⟨32, 8, 128, 16, 4, 96, 32⟩
  blockSparse := ⟨4503149267407759 / 4503599627370496, 5764607523034235 / 2 ^ 58⟩
  blocks := ⟨4, 16, 128, 64, 64, 2, 512, 4⟩

end Contract

/-- What the kernels and the host do in a run of one probe. -/
inductive Behaviour (contract : Contract) where
  | quantization (b : Quantization)
  | swa (b : Swa)
  | blockSparse (b : BlockSparse contract.blocks.topk)

section Runs
variable (host : Host) (torch : Torch) {contract : Contract}

namespace Behaviour

def terms : Behaviour contract → Terms
  | quantization _ => contract.quantization
  | swa _ => contract.swa
  | blockSparse _ => contract.blockSparse

/-- `PROBES`. -/
def probe : Behaviour contract → Text
  | quantization _ => "tools/probe/quantized_linear_probe.py"
  | swa _ => "tools/probe/sliding_window_decode_probe.py"
  | blockSparse _ => "tools/probe/block_sparse_attention_probe.py"

/-- The printed report. -/
def printed : Behaviour contract → Except Raised Dict
  | quantization b => b.main torch contract.quantization
  | swa b => b.main torch contract.swa contract.window host
  | blockSparse b => b.main host torch contract.blockSparse contract.blocks

end Behaviour

/-- The arguments that `evaluate` adds to a report; it refuses to run without a pod. -/
structure Request where
  subject : Json
  pod : Text
  weights : Json
  named : pod.isEmpty = false

/-- What `evaluate` returns. -/
def Request.complete (request : Request) (probe : Text) (report : Dict) : Dict :=
  let report := Dict.set report "subject" request.subject
  let report := Dict.set report "exercised_in" (.str request.pod)
  let report := Dict.set report "weights" request.weights
  let report := Dict.set report "threshold_source" (.str "tasks/mat-008-capability-evaluation/task.yaml")
  Dict.set report "probe" (.str probe)

/-! ## Earned passes -/

/-- The gated comparison is recorded, covers every entry of both tensors, and meets both gates. -/
structure Graded (terms : Terms) (report : Dict) (name : Text) (out reference : Entries) (m : Metrics) :
    Prop where
  whole : ∃ all, torch.metrics out reference = .ok all ∧ m.cosine = all.cosine ∧ m.relativeL2 = all.relativeL2
  finite : ∀ x ∈ out ++ reference, x.isFinite = true
  recorded : ∃ cases fields, Dict.get? report "cases" = some (.arr cases) ∧ .obj fields ∈ cases ∧
    Dict.get? fields "case" = some (.str name) ∧ Dict.get? fields "cosine" = some (.float m.cosine) ∧
    Dict.get? fields "relative_l2" = some (.float m.relativeL2)
  relative : m.relativeL2.le (.fin terms.maxRelativeL2) = true
  cosine : (Double.fin terms.minCosine).le m.cosine = true

/-- A control that was computed, and missed the gate. -/
def Missed (terms : Terms) (control : Except Raised Metrics) : Prop :=
  ∃ m, control = .ok m ∧ (Double.fin terms.maxRelativeL2).below m.relativeL2 = true

/-- What a pass has to show. -/
def Earned (report : Dict) : Behaviour contract → Prop
  | .quantization b => ∃ applied distance matched m, b.candidate = .ok applied ∧
      applied.distance = .ok distance ∧ b.matched (activationConvention distance) = .ok matched ∧
      Graded torch contract.quantization report "kernel_vs_dequantized_reference" applied.out matched m ∧
      Missed contract.quantization (b.controlMetrics torch matched)
  | .swa b => ∃ out reference m, b.fallback = .ok out ∧ b.reference = .ok reference ∧
      Graded torch contract.swa report "torch_fallback_vs_cpu_reference" out reference m ∧
      Missed contract.swa (b.controlMetrics torch reference)
  | .blockSparse b => ∃ case failed selection out reference m, b.selected torch contract.blocks =
        .ok (case, failed, selection) ∧
      b.attention selection = .ok out ∧ b.restricted selection = .ok reference ∧
      Graded torch contract.blockSparse report BlockSparse.attentionCase out reference m ∧
      Missed contract.blockSparse (b.controlMetrics torch contract.blocks out selection) ∧
      ∀ row ∈ selection, (blockSet row).Nonempty →
        blockSet (shiftRow contract.blocks.count row) ≠ blockSet row

/-- A report that says pass and is accepted is earned. -/
def EarnsItsPass (request : Request) (b : Behaviour contract) : Prop :=
  ∀ report, b.printed host torch = .ok report →
    Dict.get? report "state" = some (.str "EXERCISED_PASS") →
    validate host (request.complete b.probe report) contract.json = .ok [] → Earned torch report b

/-- The gated output is within both gates of its reference while the control raises, and no dump
asks for the control's output. -/
def PassesUnchecked : Behaviour contract → Prop
  | .quantization b => ∃ applied distance matched exact m cost e, b.candidate = .ok applied ∧
      applied.distance = .ok distance ∧ b.matched (activationConvention distance) = .ok matched ∧
      b.exact = .ok exact ∧ torch.metrics applied.out matched = .ok m ∧
      torch.metrics applied.out exact = .ok cost ∧ contract.quantization.passes m = true ∧
      b.controlMetrics torch matched = .error e
  | .swa b => contract.window.window < contract.window.contextLen ∧ ∃ out reference m e,
      b.fallback = .ok out ∧ b.reference = .ok reference ∧ torch.metrics out reference = .ok m ∧
      contract.swa.passes m = true ∧ b.controlMetrics torch reference = .error e ∧ b.dump = none
  | .blockSparse _ => False

end Runs

/-! ## What the probes print -/

section Printed
variable {host : Host} {torch : Torch}

theorem verdict_pass {terms : Terms} : terms.verdict outcome primary = "EXERCISED_PASS" ↔
    terms.discriminates outcome = true ∧ terms.passes primary = true := by
  unfold Terms.verdict
  cases terms.discriminates outcome <;> cases terms.passes primary <;> decide

/-- A control that counts as a miss was computed or raised. -/
theorem discriminates_caught {terms : Terms} {control : Except Raised Metrics} :
    terms.discriminates (caught control) = true ↔ Missed terms control ∨ ∃ e, control = .error e := by
  cases control with
  | ok m => simp [caught, Terms.discriminates, Missed]
  | error e => simp [caught, Terms.discriminates, Missed]

theorem passes_iff {terms : Terms} : terms.passes m = true ↔
    m.relativeL2.le (.fin terms.maxRelativeL2) = true ∧ (Double.fin terms.minCosine).le m.cosine = true := by
  rw [Terms.passes, Bool.and_eq_true]

/-- A comparison over all entries that meets the gates is graded. -/
theorem graded {terms : Terms} (measured : torch.metrics out reference = .ok m)
    (passed : terms.passes m = true)
    (recorded : Dict.get? report "cases" = some (.arr (.obj (compared name source m) :: rest))) :
    Graded torch terms report name out reference m := by
  obtain ⟨relative, cosine⟩ := passes_iff.mp passed
  obtain ⟨sizes, value⟩ := metrics_ok.mp measured
  have small : (torch.relativeL2 out reference).le (.fin terms.maxRelativeL2) = true := by
    rw [value] at relative
    exact relative
  exact ⟨⟨m, measured, rfl, rfl⟩, relativeL2_finite sizes small,
    ⟨_, _, recorded, List.mem_cons_self, rfl, rfl, rfl⟩, relative, cosine⟩

/-- The state of a report that ends without a verdict. -/
theorem other_state {text : Text} (other : text ≠ "EXERCISED_PASS") : some (Json.str text) ≠ some (.str "EXERCISED_PASS") := by
  simpa using other

namespace Quantization
variable {terms : Terms} {b : Quantization}

/-- The probe prints a pass exactly on a gated output within both gates, whose control misses or raises. -/
theorem printed_pass : (b.main torch terms = .ok final ∧
    Dict.get? final "state" = some (.str "EXERCISED_PASS")) ↔
      ∃ applied distance matched exact m cost, b.candidate = .ok applied ∧
        applied.distance = .ok distance ∧ b.matched (activationConvention distance) = .ok matched ∧
        b.exact = .ok exact ∧ torch.metrics applied.out matched = .ok m ∧
        torch.metrics applied.out exact = .ok cost ∧ terms.passes m = true ∧
        terms.discriminates (caught (b.controlMetrics torch matched)) = true ∧
        final = b.report terms applied (activationConvention distance) m cost
          (caught (b.controlMetrics torch matched)) := by
  unfold main
  constructor
  · rintro ⟨printed, state⟩
    cases run : b.candidate with
    | error e =>
      rw [run] at printed
      obtain rfl := Except.ok.inj printed
      exact absurd state (other_state (by decide))
    | ok applied =>
      rw [run] at printed
      simp only [bind_ok, pure_ok] at printed
      obtain ⟨distance, measured, matched, reference, exact, plain, m, graded, cost, costed, rfl⟩ := printed
      have verdict := verdict_pass.mp (Json.str.inj (Option.some.inj state))
      exact ⟨applied, distance, matched, exact, m, cost, rfl, measured, reference, plain, graded, costed,
        verdict.2, verdict.1, rfl⟩
  · rintro ⟨applied, distance, matched, exact, m, cost, run, measured, reference, plain, graded, costed,
      passed, missed, rfl⟩
    rw [run]
    refine ⟨?_, congrArg (fun text => some (Json.str text)) (verdict_pass.mpr ⟨missed, passed⟩)⟩
    simp only [bind_ok, pure_ok]
    exact ⟨distance, measured, matched, reference, exact, plain, m, graded, cost, costed, rfl⟩

end Quantization

theorem get?_extend (d fields : Dict) (key : Text) :
    Dict.get? (extend d fields) key = (Dict.get? d key).or (Dict.get? fields key) := by
  rw [extend, Dict.get?, List.lookup_append]
  rfl

namespace Swa
variable {terms : Terms} {window : Window} {b : Swa} {reference : Entries}

/-- What the vendor kernel adds is no field of the verdict. -/
theorem vendorFields_get? (key : Text) (other : key ≠ "cases") (other' : key ≠ "vendor_kernel") :
    Dict.get? (b.vendorFields torch terms reference primary) key = none := by
  unfold vendorFields
  cases caught (b.vendorCase torch terms reference) <;> simp [other, other']

theorem vendorFields_cases (torch : Torch) (terms : Terms) (b : Swa) (reference : Entries) (primary : Metrics) :
    ∃ rest,
    Dict.get? (b.vendorFields torch terms reference primary) "cases" = some (.arr
      (.obj (compared "torch_fallback_vs_cpu_reference" windowed primary) :: rest)) ∧
    ∀ case ∈ rest, ∃ measured, caught (b.vendorCase torch terms reference) = .ok measured ∧ case = .obj measured := by
  unfold vendorFields
  cases measured : caught (b.vendorCase torch terms reference) with
  | ok case =>
    refine ⟨[.obj case], rfl, fun other member => ⟨case, rfl, ?_⟩⟩
    exact List.mem_singleton.mp member
  | error e => exact ⟨[], rfl, by simp⟩

theorem report_get? (key : Text) (other : key ≠ "cases") (other' : key ≠ "vendor_kernel")
    (other'' : key ≠ "control") :
    Dict.get? (b.report torch terms window reference primary outcome) key =
      Dict.get? (b.header terms window) key := by
  rw [report, get?_extend, get?_extend, vendorFields_get? key other other']
  simp [other'']

/-- The report of a graded fallback, with its state. -/
def judged (torch : Torch) (terms : Terms) (window : Window) (b : Swa) (reference : Entries) (m : Metrics) : Dict :=
  extend (b.report torch terms window reference m (caught (b.controlMetrics torch reference)))
    [("state", .str "EXERCISED_PASS")]

/-- No dump is asked for, or it is written. -/
def Dumped (torch : Torch) (b : Swa) (reference : Entries) : Prop :=
  b.dump = none ∨ b.dump = some (.ok ()) ∧ b.dumpable (caught (b.controlMetrics torch reference)) = true

theorem graded_pass : (b.graded torch terms window reference m = .ok final ∧
    Dict.get? final "state" = some (.str "EXERCISED_PASS")) ↔
      terms.passes m = true ∧ terms.discriminates (caught (b.controlMetrics torch reference)) = true ∧
        b.Dumped torch reference ∧ final = b.judged torch terms window reference m := by
  have state (fields : Dict) : Dict.get? (extend (b.report torch terms window reference m
      (caught (b.controlMetrics torch reference))) fields) "state" = Dict.get? fields "state" := by
    rw [get?_extend, report_get? "state" (by decide) (by decide) (by decide)]
    rfl
  unfold graded Dumped judged
  constructor
  · rintro ⟨printed, passed⟩
    have verdict (kept : extend (b.report torch terms window reference m
        (caught (b.controlMetrics torch reference)))
        [("state", .str (terms.verdict (caught (b.controlMetrics torch reference)) m))] = final) :
        terms.verdict (caught (b.controlMetrics torch reference)) m = "EXERCISED_PASS" := by
      subst kept
      rw [state] at passed
      exact Json.str.inj (Option.some.inj passed)
    cases dump : b.dump with
    | none =>
      rw [dump] at printed
      have kept := pure_ok.mp printed
      obtain ⟨missed, gated⟩ := verdict_pass.mp (verdict kept)
      rw [verdict kept] at kept
      exact ⟨gated, missed, .inl rfl, kept.symm⟩
    | some written =>
      rw [dump] at printed
      by_cases ready : b.dumpable (caught (b.controlMetrics torch reference)) = true
      · simp only [ready, if_true, bind_ok, pure_ok] at printed
        obtain ⟨u, done, kept⟩ := printed
        obtain ⟨missed, gated⟩ := verdict_pass.mp (verdict kept)
        rw [verdict kept] at kept
        exact ⟨gated, missed, .inr ⟨congrArg some done, ready⟩, kept.symm⟩
      · simp only [if_neg ready, pure_ok] at printed
        subst printed
        rw [state] at passed
        exact absurd passed (other_state (by decide))
  · rintro ⟨gated, missed, dump, rfl⟩
    refine ⟨?_, state _⟩
    simp only [verdict_pass.mpr ⟨missed, gated⟩]
    rcases dump with none | ⟨written, ready⟩
    · rw [none]
      rfl
    · rw [written]
      simp only [ready, if_true]
      rfl

theorem printed_pass : (b.main torch terms window host = .ok final ∧
    Dict.get? final "state" = some (.str "EXERCISED_PASS")) ↔
      window.window < window.contextLen ∧ ∃ out reference m, b.fallback = .ok out ∧
        b.reference = .ok reference ∧ torch.metrics out reference = .ok m ∧ terms.passes m = true ∧
        terms.discriminates (caught (b.controlMetrics torch reference)) = true ∧
        b.Dumped torch reference ∧ final = b.judged torch terms window reference m := by
  unfold main
  by_cases short : window.contextLen ≤ window.window
  · rw [if_pos short]
    constructor
    · rintro ⟨printed, passed⟩
      obtain rfl := pure_ok.mp printed
      exact absurd passed (other_state (by decide))
    · rintro ⟨long, _⟩
      exact absurd short (not_le.mpr long)
  · rw [if_neg short]
    constructor
    · rintro ⟨printed, passed⟩
      obtain ⟨reference, computed, printed⟩ := bind_ok.mp printed
      cases measured : b.gated torch reference with
      | error e =>
        rw [measured] at printed
        obtain rfl := pure_ok.mp printed
        exact absurd passed (other_state (by decide))
      | ok m =>
        rw [measured] at printed
        obtain ⟨out, ran, compared⟩ := bind_ok.mp measured
        exact ⟨not_le.mp short, out, reference, m, ran, computed, compared, graded_pass.mp ⟨printed, passed⟩⟩
    · rintro ⟨_, out, reference, m, ran, computed, compared, rest⟩
      have measured : b.gated torch reference = .ok m := bind_ok.mpr ⟨out, ran, compared⟩
      obtain ⟨printed, passed⟩ := graded_pass.mpr rest
      rw [computed, ok_bind, measured]
      exact ⟨printed, passed⟩

end Swa

namespace BlockSparse
variable {terms : Terms} {g : Blocks} {b : BlockSparse g.topk}

/-- The case of the selection has no metrics, whether the kernel ran or not. -/
theorem selected_incomplete (selected : b.selected torch g = .ok (case, failed, selection)) :
    Dict.get? case "cosine" = none := by
  unfold BlockSparse.selected at selected
  cases ran : caught (b.transformed torch) with
  | error e =>
    rw [ran] at selected
    simp only [bind_ok, pure_ok, Prod.mk.injEq] at selected
    obtain ⟨_, _, rfl, _⟩ := selected
    rfl
  | ok result =>
    rw [ran] at selected
    obtain ⟨rfl, _⟩ := Prod.mk.inj (pure_ok.mp selected)
    cases chosen : b.transformed torch with
    | error e =>
      rw [chosen] at ran
      cases ran
    | ok result =>
      rw [chosen] at ran
      obtain rfl := Except.ok.inj ran
      simp only [transformed, bind_ok, pure_ok] at chosen
      obtain ⟨_, _, _, _, _, _, rfl⟩ := chosen
      rfl

theorem finish_pass (printed : b.finish torch terms g cases failed selection = .ok final)
    (passed : Dict.get? final "state" = some (.str "EXERCISED_PASS")) :
    ∃ primary, Dict.get? final "cases" = some (.arr ((cases ++ [primary]).map .obj)) := by
  unfold finish at printed
  cases attended : caught (b.attended torch g selection) with
  | error e =>
    rw [attended] at printed
    obtain rfl := pure_ok.mp printed
    exact absurd passed (other_state (by decide))
  | ok measured =>
    rw [attended] at printed
    obtain ⟨outcome, _, printed⟩ := bind_ok.mp printed
    cases failed with
    | some e =>
      obtain rfl := pure_ok.mp printed
      exact absurd passed (other_state (by decide))
    | none =>
      obtain rfl := pure_ok.mp printed
      exact ⟨_, rfl⟩

/-- A pass of the block-sparse probe selected fewer blocks than there are, and records the selection
without a cosine. -/
theorem printed_pass (printed : b.main host torch terms g = .ok final)
    (passed : Dict.get? final "state" = some (.str "EXERCISED_PASS")) :
    g.topk < g.count ∧ ∃ cases case failed selection, b.selected torch g = .ok (case, failed, selection) ∧
      Dict.get? final "cases" = some (.arr cases) ∧ .obj case ∈ cases ∧ Dict.get? case "cosine" = none := by
  have early (cases : List Dict) (state error : Text) (kept : ended terms g cases state error = final)
      (other : state ≠ "EXERCISED_PASS") : False := by
    subst kept
    exact other_state other passed
  unfold main at printed
  split at printed
  · cases printed
  · split at printed
    · exact (early _ _ _ (pure_ok.mp printed) (by decide)).elim
    · next sparse =>
      split at printed
      · cases printed
      · split at printed
        · exact (early _ _ _ (pure_ok.mp printed) (by decide)).elim
        · split at printed
          · exact (early _ _ _ (pure_ok.mp printed) (by decide)).elim
          · next cases _ =>
            obtain ⟨⟨case, failed, selection⟩, chosen, finished⟩ := bind_ok.mp printed
            obtain ⟨primary, recorded⟩ := finish_pass finished passed
            refine ⟨not_le.mp sparse, _, case, failed, selection, chosen, recorded, ?_, selected_incomplete chosen⟩
            simp

end BlockSparse

end Printed

/-! ## What is accepted -/

section Accepted
variable {host : Host} {torch : Torch} {contract : Contract} {request : Request}

theorem complete_get? (request : Request) (probe : Text) (report : Dict) (key : Text)
    (other : key ∉ (["subject", "exercised_in", "weights", "threshold_source", "probe"] : List Text)) :
    Dict.get? (request.complete probe report) key = Dict.get? report key := by
  simp only [List.mem_cons, List.not_mem_nil, or_false, not_or] at other
  obtain ⟨first, second, third, fourth, fifth⟩ := other
  simp only [Request.complete, Dict.get?_set, first, second, third, fourth, fifth, if_false]

/-- Acceptance of a pass, from its fields: the gates are the declared ones, and the primary case
meets them. -/
theorem validate_accepts {report : Dict} {contract : Json} {terms : Terms} {primary control : Dict}
    {rest : List Json} {relative cosine : Double} (named : name.isEmpty = false)
    (state : Dict.get? report "state" = some (.str "EXERCISED_PASS"))
    (dimension : Dict.get? report "dimension" = some (.str name))
    (operators : (Dict.getD report "operators" .null).truthy = true)
    (pod : (Dict.getD report "exercised_in" .null).truthy = true)
    (source : (Dict.getD report "threshold_source" .null).truthy = true)
    (blockers : Dict.get? report "blockers" = none)
    (thresholds : Dict.get? report "thresholds" = some terms.json)
    (recorded : Dict.get? report "cases" = some (.arr (.obj primary :: rest)))
    (compared : caseErrors host (.obj primary :: rest) = .ok [])
    (controlled : Dict.get? report "control" = some (.obj control))
    (missed : Dict.get? control "discriminates" = some (.bool true))
    (measured : Dict.get? primary "relative_l2" = some (.float relative))
    (directed : Dict.get? primary "cosine" = some (.float cosine))
    (small : relative.le (.fin terms.maxRelativeL2) = true)
    (high : (Double.fin terms.minCosine).le cosine = true)
    (checks : contract.field "checks" = .ok (.obj [("dimensions", .obj dimensions)]))
    (declared : Dict.get? dimensions name = some terms.json) :
    validate host report contract = .ok [] := by
  have other : (Json.str "EXERCISED_PASS").eq (.str "EVALUATION_UNIMPLEMENTED") = false := by decide
  have other' : (Json.str "EXERCISED_PASS").eq (.str "EVALUATION_ERROR") = false := by decide
  have pass : (Json.str "EXERCISED_PASS").eq (.str "EXERCISED_PASS") = true := by decide
  have known : (Json.str "EXERCISED_PASS").among states = .ok true := rfl
  have shown : (Json.str name).truthy = true := by simp [Json.truthy, named]
  have gates : gateErrors host (.obj primary) (.float (.fin terms.minCosine))
      (.float (.fin terms.maxRelativeL2)) = .ok [] := by
    have relative' := Double.not_below_of_le small
    have cosine' := Double.not_below_of_le high
    simp only [gateErrors, exceeds, Json.get, Json.field, measured, directed, ok_bind, Option.getD_some,
      Json.toDouble, relative', cosine']
    rfl
  have bounds : thresholdErrors host report (.obj primary :: rest) = .ok [] := by
    have floor : terms.json.field "min_cosine" = .ok (.float (.fin terms.minCosine)) := rfl
    have ceiling : terms.json.field "max_relative_l2" = .ok (.float (.fin terms.maxRelativeL2)) := rfl
    have present (x : Rat) : (Json.float (.fin x)).eq .null = false := rfl
    have recorded' : (Dict.getD report "thresholds" .null).or (.obj []) = terms.json := by
      rw [Dict.getD, thresholds]
      rfl
    simp only [thresholdErrors, recorded', floor, ceiling, ok_bind, present, Bool.or_false,
      Bool.false_eq_true, if_false, gates]
  have gate : declaredErrors host report contract (.str name) = .ok [] := by
    have key : (Json.str name).or (.str "") = .str name := by simp [Json.or, shown]
    have found : getKey (.obj dimensions) (.str name) = .ok terms.json := by
      simp [getKey, Json.field, Json.get, declared]
    have recorded' : (Dict.getD report "thresholds" .null).or (.obj []) = terms.json := by
      rw [Dict.getD, thresholds]
      rfl
    have ceiling : terms.json.get "max_relative_l2" = .ok (some (.float (.fin terms.maxRelativeL2))) := rfl
    have nested : ((Json.obj [("dimensions", .obj dimensions)]).or (.obj [])).field "dimensions" =
        .ok (.obj dimensions) := rfl
    have nonempty : (Json.obj dimensions).or (.obj []) = .obj dimensions := by
      cases dimensions <;> rfl
    have truthy : terms.json.truthy = true := rfl
    simp [declaredErrors, checks, ok_bind, nested, nonempty, key, found, truthy, ceiling, recorded',
      Json.toDouble, Double.eq, errorIf]
  have blocked : ((Dict.getD report "blockers" .null).or (.arr [])).elements = .ok [] := by
    rw [Dict.getD, blockers]
    rfl
  have cased : ((Dict.getD report "cases" .null).or (.arr [])).elements = .ok (.obj primary :: rest) := by
    rw [Dict.getD, recorded]
    rfl
  have missed' : (Json.obj control).field "discriminates" = .ok (.bool true) := by
    simp [Json.field, Json.get, missed]
  have controlled' : (Dict.getD report "control" .null).or (.obj []) = .obj control := by
    rw [Dict.getD, controlled]
    cases control <;> rfl
  have present : (Json.obj control).truthy = true := by
    cases control with
    | nil => cases missed
    | cons field fields => rfl
  have passes : passErrors host report contract (.str name) (.obj control) (.obj primary :: rest) = .ok [] := by
    simp only [passErrors, missed', ok_bind, bounds, gate]
    rfl
  have exercised : exercisedErrors host report contract (.str "EXERCISED_PASS") (.str name) = .ok [] := by
    simp only [exercisedErrors, operators, pod, source, cased, ok_bind, compared, controlled', blocked,
      present, pass, if_true, passes]
    rfl
  have state' : Dict.getD report "state" .null = .str "EXERCISED_PASS" := by rw [Dict.getD, state]; rfl
  have dimension' : Dict.getD report "dimension" .null = .str name := by rw [Dict.getD, dimension]; rfl
  simp only [validate, state', dimension', known, ok_bind, other, other', Bool.false_eq_true, if_false,
    exercised, shown]
  rfl

theorem compared_holds (name source : Text) (m : Metrics) (rest : Dict) :
    ∀ field ∈ caseFields, Holds (.obj (extend (compared name source m) rest)) isNull field := by
  have each : ∀ field ∈ caseFields, field = "case" ∨ field = "reference" ∨ field = "cosine" ∨
      field = "relative_l2" := by decide
  intro field member
  rcases each field member with rfl | rfl | rfl | rfl
  · exact ⟨.str name, rfl, rfl⟩
  · exact ⟨.str source, rfl, rfl⟩
  · exact ⟨.float m.cosine, rfl, rfl⟩
  · exact ⟨.float m.relativeL2, rfl, rfl⟩

theorem pod_truthy (request : Request) (probe : Text) (report : Dict) :
    (Dict.getD (request.complete probe report) "exercised_in" .null).truthy = true ∧
      (Dict.getD (request.complete probe report) "threshold_source" .null).truthy = true := by
  have apart : ("exercised_in" : Text) ≠ "weights" := by decide
  have apart' : ("exercised_in" : Text) ≠ "threshold_source" := by decide
  have apart'' : ("exercised_in" : Text) ≠ "probe" := by decide
  have other : ("threshold_source" : Text) ≠ "probe" := by decide
  constructor
  · simp only [Dict.getD, Request.complete, Dict.get?_set, apart, apart', apart'', if_true, if_false,
      Option.getD_some, Json.truthy, request.named]
    rfl
  · simp only [Dict.getD, Request.complete, Dict.get?_set, other, if_true, if_false, Option.getD_some]
    rfl

/-- A completed report of a pass is accepted under the contract it was gated by. -/
theorem complete_accepts {report control : Dict} {rest : List Json} {terms : Terms} {m : Metrics}
    {dimensions : Dict} (name : Text) (named : name.isEmpty = false)
    (state : Dict.get? report "state" = some (.str "EXERCISED_PASS"))
    (dimension : Dict.get? report "dimension" = some (.str name))
    (operators : (Dict.getD report "operators" .null).truthy = true)
    (blockers : Dict.get? report "blockers" = none)
    (thresholds : Dict.get? report "thresholds" = some terms.json)
    (recorded : Dict.get? report "cases" = some (.arr (.obj (compared case source m) :: rest)))
    (others : ∀ case ∈ rest, ∃ name source m fields, case = .obj (extend (compared name source m) fields))
    (controlled : Dict.get? report "control" = some (.obj control))
    (missed : Dict.get? control "discriminates" = some (.bool true)) (passed : terms.passes m = true)
    (checks : contract.json.field "checks" = .ok (.obj [("dimensions", .obj dimensions)]))
    (declared : Dict.get? dimensions name = some terms.json) :
    validate host (request.complete probe report) contract.json = .ok [] := by
  obtain ⟨small, high⟩ := passes_iff.mp passed
  obtain ⟨pod, source'⟩ := pod_truthy request probe report
  have same := complete_get? request probe report
  have complete : caseErrors host (.obj (compared case source m) :: rest) = .ok [] := by
    rw [caseErrors_nil, List.forall_mem_cons]
    constructor
    · have first := compared_holds case source m []
      rwa [extend, List.append_nil] at first
    · intro other member
      obtain ⟨name, source, m, fields, rfl⟩ := others other member
      exact compared_holds name source m fields
  have operators' : (Dict.getD (request.complete probe report) "operators" .null).truthy = true := by
    rw [Dict.getD, same "operators" (by decide)]
    exact operators
  exact validate_accepts named ((same "state" (by decide)).trans state)
    ((same "dimension" (by decide)).trans dimension) operators' pod source'
    ((same "blockers" (by decide)).trans blockers) ((same "thresholds" (by decide)).trans thresholds)
    ((same "cases" (by decide)).trans recorded) complete ((same "control" (by decide)).trans controlled)
    missed rfl rfl small high checks declared

theorem control_discriminates {terms : Terms} (missed : terms.discriminates outcome = true) :
    Dict.get? (terms.control name description outcome) "discriminates" = some (.bool true) := by
  unfold Terms.control
  rw [missed]
  cases outcome with
  | ok m =>
    obtain ⟨cosine, relative, compared⟩ := m
    cases compared <;> rfl
  | error e => rfl

/-- The validator does not see whether the control ran. -/
theorem Quantization.accepted {b : Quantization} (passed : contract.quantization.passes m = true)
    (missed : contract.quantization.discriminates outcome = true) :
    validate host (request.complete probe (b.report contract.quantization applied convention m cost outcome))
      contract.json = .ok [] := by
  have state := congrArg (fun text => some (Json.str text)) (verdict_pass.mpr ⟨missed, passed⟩)
  have control : Dict.get? (controlFields contract.quantization outcome) "discriminates" = some (.bool true) := by
    simp only [controlFields.eq_def, get?_extend, control_discriminates missed, Option.some_or]
  refine complete_accepts "quantization" (by decide) state rfl rfl rfl rfl rfl ?_ rfl control passed
    rfl rfl
  intro case member
  obtain rfl := List.mem_singleton.mp member
  exact ⟨_, _, cost, [], by rw [extend, List.append_nil]⟩

theorem Swa.vendorCase_compared {b : Swa} {reference : Entries}
    (measured : b.vendorCase torch terms reference = .ok case) :
    ∃ name source m fields, case = extend (compared name source m) fields := by
  simp only [vendorCase, bind_ok, pure_ok] at measured
  obtain ⟨_, _, m, _, _, _, _, _, _, _, rfl⟩ := measured
  exact ⟨_, _, m, _, rfl⟩

theorem Swa.accepted {b : Swa} {reference : Entries} (passed : contract.swa.passes m = true)
    (missed : contract.swa.discriminates (caught (b.controlMetrics torch reference)) = true) :
    validate host (request.complete probe (b.judged torch contract.swa contract.window reference m))
      contract.json = .ok [] := by
  have early (key : Text) (other : key ≠ "state") :
      Dict.get? (b.judged torch contract.swa contract.window reference m) key =
        Dict.get? (b.report torch contract.swa contract.window reference m
          (caught (b.controlMetrics torch reference))) key := by
    rw [judged, get?_extend]
    simp [other]
  have described (key : Text) (fields : key ∉ (["cases", "vendor_kernel", "control", "state"] : List Text)) :
      Dict.get? (b.judged torch contract.swa contract.window reference m) key =
        Dict.get? (b.header contract.swa contract.window) key := by
    simp only [List.mem_cons, List.not_mem_nil, or_false, not_or] at fields
    obtain ⟨cases, vendor, control, state⟩ := fields
    rw [early key state, report_get? key cases vendor control]
  obtain ⟨rest, recorded, others⟩ := vendorFields_cases torch contract.swa b reference m
  have state : Dict.get? (b.judged torch contract.swa contract.window reference m) "state" =
      some (.str "EXERCISED_PASS") := by
    rw [judged, get?_extend, report_get? "state" (by decide) (by decide) (by decide)]
    rfl
  have operators : (Dict.getD (b.judged torch contract.swa contract.window reference m) "operators" .null).truthy =
      true := by
    rw [Dict.getD, described "operators" (by decide)]
    rfl
  have cases : Dict.get? (b.judged torch contract.swa contract.window reference m) "cases" = some (.arr
      (.obj (compared "torch_fallback_vs_cpu_reference" windowed m) :: rest)) := by
    rw [early "cases" (by decide), report, get?_extend, get?_extend, recorded]
    rfl
  have control : Dict.get? (b.judged torch contract.swa contract.window reference m) "control" = some (.obj
      (contract.swa.control "ignore_the_window" "the same fallback with max_window_size=-1, i.e. full attention"
        (caught (b.controlMetrics torch reference)))) := by
    rw [early "control" (by decide), report, get?_extend, get?_extend,
      vendorFields_get? "control" (by decide) (by decide)]
    rfl
  refine complete_accepts "swa" (by decide) state (described "dimension" (by decide)) operators
    (described "blockers" (by decide)) (described "thresholds" (by decide)) cases ?_ control
    (control_discriminates missed) passed rfl rfl
  intro case member
  obtain ⟨measured, outcome, rfl⟩ := others case member
  cases ran : b.vendorCase torch contract.swa reference with
  | error e =>
    rw [ran] at outcome
    cases outcome
  | ok fields =>
    rw [ran] at outcome
    obtain rfl := Except.ok.inj outcome
    obtain ⟨name, source, m, fields, rfl⟩ := vendorCase_compared ran
    exact ⟨name, source, m, fields, rfl⟩

end Accepted

/-! ## The claim of a pass -/

section Earned
variable {host : Host} {torch : Torch} {contract : Contract} {request : Request}

theorem missed_of_earned {terms : Terms} {control : Except Raised Metrics} (missed : Missed terms control)
    (raised : control = .error e) : False := by
  obtain ⟨m, computed, _⟩ := missed
  rw [computed] at raised
  cases raised

theorem Quantization.earns {b : Quantization} :
    EarnsItsPass host torch request (.quantization b : Behaviour contract) ↔
      ¬ PassesUnchecked torch (.quantization b : Behaviour contract) := by
  constructor
  · rintro earns ⟨applied, distance, matched, exact, m, cost, e, run, measured, reference, plain, graded, costed,
      passed, raised⟩
    have missed : contract.quantization.discriminates (caught (b.controlMetrics torch matched)) = true :=
      discriminates_caught.mpr (.inr ⟨e, raised⟩)
    obtain ⟨printed, state⟩ := printed_pass.mpr ⟨applied, distance, matched, exact, m, cost, run, measured,
      reference, plain, graded, costed, passed, missed, rfl⟩
    obtain ⟨applied', distance', matched', m', run', measured', reference', _, control⟩ :=
      earns _ printed state (accepted passed missed)
    obtain rfl := Except.ok.inj (run.symm.trans run')
    obtain rfl := Except.ok.inj (measured.symm.trans measured')
    obtain rfl := Except.ok.inj (reference.symm.trans reference')
    exact missed_of_earned control raised
  · intro checked final printed state _
    obtain ⟨applied, distance, matched, exact, m, cost, run, measured, reference, plain, compared, costed, passed,
      missed, rfl⟩ := printed_pass.mp ⟨printed, state⟩
    refine ⟨applied, distance, matched, m, run, measured, reference, graded compared passed rfl, ?_⟩
    rcases discriminates_caught.mp missed with missed | ⟨e, raised⟩
    · exact missed
    · exact absurd ⟨applied, distance, matched, exact, m, cost, e, run, measured, reference, plain, compared,
        costed, passed, raised⟩ checked

theorem Swa.earns {b : Swa} : EarnsItsPass host torch request (.swa b : Behaviour contract) ↔
    ¬ PassesUnchecked torch (.swa b : Behaviour contract) := by
  constructor
  · rintro earns ⟨long, out, reference, m, e, run, computed, measured, passed, raised, none⟩
    have missed : contract.swa.discriminates (caught (b.controlMetrics torch reference)) = true :=
      discriminates_caught.mpr (.inr ⟨e, raised⟩)
    obtain ⟨printed, state⟩ : b.main torch contract.swa contract.window host = .ok _ ∧ _ := printed_pass.mpr
      ⟨long, out, reference, m, run, computed, measured, passed, missed, .inl none, rfl⟩
    obtain ⟨out', reference', m', run', computed', _, control⟩ :=
      earns _ printed state (accepted passed missed)
    obtain rfl := Except.ok.inj (computed.symm.trans computed')
    exact missed_of_earned control raised
  · intro checked final printed state _
    obtain ⟨long, out, reference, m, run, computed, measured, passed, missed, dumped, rfl⟩ :=
      printed_pass.mp ⟨printed, state⟩
    obtain ⟨rest, recorded, _⟩ := vendorFields_cases torch contract.swa b reference m
    have cases : Dict.get? (b.judged torch contract.swa contract.window reference m) "cases" = some (.arr
        (.obj (compared "torch_fallback_vs_cpu_reference" windowed m) :: rest)) := by
      rw [judged, report, get?_extend, get?_extend, get?_extend, recorded]
      rfl
    refine ⟨out, reference, m, run, computed, Evaluation.graded measured passed cases, ?_⟩
    rcases discriminates_caught.mp missed with missed | ⟨e, raised⟩
    · exact missed
    · rcases dumped with none | ⟨_, ready⟩
      · exact absurd ⟨long, out, reference, m, e, run, computed, measured, passed, raised, none⟩ checked
      · rw [dumpable, raised, Bool.and_eq_true] at ready
        cases ready.2

/-- A pass of the block-sparse probe is refused. -/
theorem BlockSparse.refused {b : BlockSparse contract.blocks.topk}
    (printed : b.main host torch contract.blockSparse contract.blocks = .ok final)
    (state : Dict.get? final "state" = some (.str "EXERCISED_PASS")) :
    validate host (request.complete probe final) contract.json ≠ .ok [] := by
  intro accepted
  obtain ⟨_, cases, case, _, _, _, recorded, member, incomplete⟩ := printed_pass printed state
  have same := complete_get? request probe final
  have state' : Dict.getD (request.complete probe final) "state" .null = .str "EXERCISED_PASS" := by
    rw [Dict.getD, same "state" (by decide), state]
    rfl
  have recorded' : Dict.getD (request.complete probe final) "cases" .null = .arr cases := by
    rw [Dict.getD, same "cases" (by decide), recorded]
    rfl
  obtain ⟨value, read, counts⟩ := validate_cases accepted state' recorded' _ member "cosine" (by decide)
  rw [Json.field, Json.get, incomplete] at read
  obtain rfl := Except.ok.inj read
  cases counts

/-- An accepted pass is earned exactly where the probe does not pass without a control. -/
theorem pass_earned (host : Host) (torch : Torch) (contract : Contract) (request : Request)
    (b : Behaviour contract) : EarnsItsPass host torch request b ↔ ¬ PassesUnchecked torch b := by
  cases b with
  | quantization b => exact Quantization.earns
  | swa b => exact Swa.earns
  | blockSparse b =>
    constructor
    · exact fun _ => id
    · intro _ final printed state accepted
      exact absurd accepted (BlockSparse.refused printed state)

/-! A kernel that agrees with its reference, and raises on the wrong scale. -/

/-- Exact arithmetic; on one entry the norm is its absolute value. -/
def Torch.sample : Torch where
  rounding := .exact
  dot a b := (List.zipWith Rounding.exact.mul a b).foldr Rounding.exact.add (.fin 0)
  norm xs := (xs.map Double.abs).foldr Rounding.exact.add (.fin 0)
  norm_atLeastZero xs := by
    induction xs with
    | nil => exact le_rfl
    | cons x rest ih => exact Rounding.add_atLeastZero (Double.abs_atLeastZero x) ih
  norm_finite xs finite := by
    induction xs with
    | nil => nofun
    | cons x rest ih =>
      obtain ⟨first, others⟩ := Rounding.add_finite finite
      rw [Double.abs_isFinite] at first
      exact List.forall_mem_cons.mpr ⟨first, ih others⟩
  mismatch _ _ := "inconsistent tensor size"
  double := .exact

def Request.sample : Request := ⟨.null, "pod", .str "/weights", by decide⟩

def agreeing : Quantization where
  layer := ⟨"model.layers.0.self_attn.q_proj", false, .obj [], true, .obj [], .obj []⟩
  candidate := .ok ⟨[.fin 1], false, [17, 1], .ok fun _ => .fin 0⟩
  matched _ := .ok [.fin 1]
  exact := .ok [.fin 1]
  control := .error ⟨"RuntimeError", "invalid scale"⟩

theorem agreeing_unearned :
    ¬ EarnsItsPass .sample .sample .sample (.quantization agreeing : Behaviour .task) := by
  intro earns
  have metrics : Torch.sample.metrics [.fin 1] [.fin 1] =
      .ok ⟨.fin (10 ^ 30 / (10 ^ 30 + 1)), .fin 0, none⟩ :=
    metrics_ok.mpr ⟨rfl, by decide +kernel⟩
  exact Quantization.earns.mp earns ⟨_, _, _, _, _, _, _, rfl, rfl, rfl, rfl, metrics, metrics, by decide +kernel, rfl⟩

end Earned
end InferForge.Evaluation

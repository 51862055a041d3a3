import InferForge.Validators.Evaluation
import Mathlib.Data.Finset.Basic

/-! The probes that exercise a capability against float32 references, and the reports they print. -/
namespace InferForge.Evaluation
open Py ResultValidation Effect

/-! ## Metrics -/

/-- The entries of a tensor, flattened. -/
abbrev Entries := List Double

/-- An exception of a kernel or of torch. -/
structure Raised where
  name : Text
  message : Text

def Raised.text (e : Raised) : Text := e.name ++ ": " ++ e.message

/-- What the probes take from torch: float32 arithmetic, dot products and norms. -/
structure Torch where
  rounding : Rounding
  dot : Entries → Entries → Double
  norm : Entries → Double
  norm_atLeastZero : ∀ xs, (norm xs).AtLeastZero
  norm_finite : ∀ xs, (norm xs).isFinite = true → ∀ x ∈ xs, x.isFinite = true
  /-- What `dot` says about tensors of two sizes. -/
  mismatch : Nat → Nat → Text
  /-- Python's own floats. -/
  double : Rounding

structure Metrics where
  cosine : Double
  relativeL2 : Double
  /-- `compared_elements`. -/
  compared : Option Nat
deriving DecidableEq

def Metrics.fields (m : Metrics) : Dict :=
  ("cosine", .float m.cosine) :: ("relative_l2", .float m.relativeL2) ::
    match m.compared with
    | some n => [("compared_elements", .int n)]
    | none => []

section Torch
variable (torch : Torch)

/-- `1e-30`. -/
def Torch.tiny : Double := torch.rounding.round (1 / 10 ^ 30)

def Torch.cosine (a b : Entries) : Except Raised Double := do
  if a.length = b.length then
    return torch.rounding.div (torch.dot a b)
      (torch.rounding.add (torch.rounding.mul (torch.norm a) (torch.norm b)) torch.tiny)
  else throw ⟨"RuntimeError", torch.mismatch a.length b.length⟩

def Torch.relativeL2 (candidate reference : Entries) : Double :=
  torch.rounding.div (torch.norm (List.zipWith torch.rounding.sub candidate reference))
    (torch.rounding.add (torch.norm reference) torch.tiny)

/-- `metrics`, over all entries. -/
def Torch.metrics (candidate reference : Entries) : Except Raised Metrics := do
  return ⟨← torch.cosine candidate reference, torch.relativeL2 candidate reference, none⟩

/-- `metrics` of the block-sparse probe, over the entries that are finite on both sides. -/
def Torch.finiteMetrics (candidate reference : Entries) : Except Raised Metrics := do
  if candidate.length = reference.length then
    let kept := (candidate.zip reference).filter fun (a, b) => a.isFinite && b.isFinite
    let m ← torch.metrics (kept.map Prod.fst) (kept.map Prod.snd)
    return { m with compared := some kept.length }
  else throw ⟨"RuntimeError", torch.mismatch candidate.length reference.length⟩

end Torch

/-- `min(names, key=...)`. -/
def least (distance : Text → Double) (first : Text) (rest : List Text) : Text :=
  rest.foldl (fun best name => if (distance name).below (distance best) then name else best) first

/-! ## Reports -/

/-- New keys at the end of a dict. -/
def extend (d fields : Dict) : Dict := d ++ fields

/-- The thresholds of one dimension of the contract, which its probe is given. -/
structure Terms where
  minCosine : Rat
  maxRelativeL2 : Rat

namespace Terms
variable (terms : Terms)

def json : Json :=
  .obj [("min_cosine", .float (.fin terms.minCosine)), ("max_relative_l2", .float (.fin terms.maxRelativeL2))]

/-- Both gates. -/
def passes (m : Metrics) : Bool :=
  m.relativeL2.le (.fin terms.maxRelativeL2) && (Double.fin terms.minCosine).le m.cosine

/-- A control that raised counts as one that missed the gate. -/
def discriminates : Except Text Metrics → Bool
  | .ok m => (Double.fin terms.maxRelativeL2).below m.relativeL2
  | .error _ => true

def control (name description : Text) (outcome : Except Text Metrics) : Dict :=
  let values : Dict := match outcome with
    | .ok m => m.fields
    | .error _ => []
  let error : Json := match outcome with
    | .ok _ => .null
    | .error e => .str e
  ("case", .str name) :: ("description", .str description) ::
    extend values [("error", error), ("discriminates", .bool (terms.discriminates outcome))]

def verdict (outcome : Except Text Metrics) (primary : Metrics) : Text :=
  if !terms.discriminates outcome then "EVALUATION_INCONCLUSIVE"
  else if terms.passes primary then "EXERCISED_PASS"
  else "EXERCISED_FAIL"

end Terms

def compared (name reference : Text) (m : Metrics) : Dict :=
  ("case", .str name) :: ("reference", .str reference) :: m.fields

def texts (names : List Text) : Json := .arr (names.map .str)

/-- What `except` records. -/
def caught (outcome : Except Raised α) : Except Text α :=
  match outcome with
  | .ok a => .ok a
  | .error e => .error e.text

/-! ## The quantized linear layer -/

/-- What the report says about the layer. -/
structure Layer where
  tensor : Text
  declared : Bool
  precision : Json
  mixed : Bool
  shape : Json
  weight : Json

/-- What the two operators return. -/
structure Applied where
  out : Entries
  static : Bool
  scaleShape : List Nat
  /-- How far the input is from the dequantized activations, by convention. -/
  distance : Except Raised (Text → Double)

/-- A run of `quantized_linear_probe`. -/
structure Quantization where
  layer : Layer
  candidate : Except Raised Applied
  /-- The matmul over the candidate's activations, dequantized by convention. -/
  matched : Text → Except Raised Entries
  /-- The matmul over the unquantized activations. -/
  exact : Except Raised Entries
  control : Except Raised Applied

def activationConvention (distance : Text → Double) : Text := least distance "max" ["scale"]

namespace Quantization
variable (torch : Torch) (terms : Terms) (b : Quantization)

def header : Dict :=
  [("dimension", .str "quantization"), ("tensor", .str b.layer.tensor),
    ("tensor_selection", .str (if b.layer.declared then "declared" else "discovered_from_the_index")),
    ("precision_by_prefix", b.layer.precision), ("mixed_precision", .bool b.layer.mixed),
    ("shape", b.layer.shape), ("weight", b.layer.weight),
    ("operators", texts ["_C::scaled_int8_quant", "_C::matmul"]), ("thresholds", terms.json),
    ("gate", .str "relative_l2 on kernel_vs_dequantized_reference, with cosine as a direction check only")]

/-- The omitted factor, against the reference of the candidate. -/
def controlMetrics (matched : Entries) : Except Raised Metrics := do
  torch.metrics (← b.control).out matched

def controlFields (outcome : Except Text Metrics) : Dict :=
  let blind := match outcome with
    | .ok m => (Double.fin terms.minCosine).le m.cosine
    | .error _ => false
  extend (terms.control "omit_scale_to_max_conversion"
      "same call with w_pc_max=w_s, i.e. without scale_mm.py's mul_(127.0)" outcome)
    [("cosine_is_blind_to_this", .bool blind)]

def cases (primary cost : Metrics) : Json :=
  .arr [
    .obj (compared "kernel_vs_dequantized_reference"
      "float32 dequantized matmul reusing the candidate's quantized activations" primary),
    .obj (compared "kernel_vs_exact_reference"
      "float32 matmul on unquantized activations (quantization cost, not a defect)" cost)]

/-- The report of a candidate that ran. -/
def report (applied : Applied) (convention : Text) (primary cost : Metrics)
    (outcome : Except Text Metrics) : Dict :=
  let activation := .obj [("static", .bool applied.static), ("convention", .str convention),
    ("scale_shape", .arr (applied.scaleShape.map fun n => .int n))]
  extend (b.header terms)
    [("cases", cases primary cost), ("activation", activation),
      ("control", .obj (controlFields terms outcome)), ("state", .str (terms.verdict outcome primary))]

/-- `main`: the printed report, unless an exception ends the probe. -/
def main : Except Raised Dict :=
  match b.candidate with
  | .error e => .ok (extend (b.header terms)
      [("cases", .arr []), ("state", .str "EVALUATION_ERROR"), ("error", .str e.text)])
  | .ok applied => do
      let convention := activationConvention (← applied.distance)
      let matched ← b.matched convention
      let exact ← b.exact
      let primary ← torch.metrics applied.out matched
      let cost ← torch.metrics applied.out exact
      return b.report terms applied convention primary cost (caught (b.controlMetrics torch matched))

end Quantization

/-! ## The sliding window -/

/-- The geometry of the contract. -/
structure Window where
  heads : Int
  kvHeads : Int
  headDim : Int
  blockSize : Int
  batch : Int
  contextLen : Int
  window : Int

/-- The outcome of the vendor kernel, and the references it is measured against. -/
structure Vendor where
  out : Entries
  /-- The reference at a window off by so many, and at no window. -/
  references : Except Raised ((Text → Entries) × Entries)

/-- A run of `sliding_window_decode_probe`. -/
structure Swa where
  kernel : Text
  reference : Except Raised Entries
  fallback : Except Raised Entries
  vendor : Except Raised Vendor
  control : Except Raised Entries
  /-- Writing the tensors, where `--dump` asks for it. -/
  dump : Option (Except Raised Unit)

namespace Swa
variable (torch : Torch) (terms : Terms) (window : Window) (b : Swa)

def geometry : Json :=
  .obj [("heads", .int window.heads), ("kv_heads", .int window.kvHeads), ("head_dim", .int window.headDim),
    ("block_size", .int window.blockSize), ("batch", .int window.batch),
    ("context_len", .int window.contextLen), ("window", .int window.window)]

def header : Dict :=
  [("dimension", .str "swa"),
    ("operators", texts ["kunlun_ops." ++ b.kernel, "tools/torch/paged_decode.py"]),
    ("geometry", geometry window), ("thresholds", terms.json),
    ("gate", .str "relative_l2 of the torch fallback against a CPU float32 windowed reference")]

def windowed : Text := "float32 windowed attention on the CPU from the same paged cache"

def offsets : List Text := ["-1", "0", "1"]

/-- The vendor kernel is measured, not graded. -/
def vendorCase (reference : Entries) : Except Raised Dict := do
  let vendor ← b.vendor
  let m ← torch.metrics vendor.out reference
  let (shifted, unwindowed) ← vendor.references
  let distances ← offsets.mapM fun offset => do
    return (offset, Json.float (← torch.metrics vendor.out (shifted offset)).relativeL2)
  let full ← torch.metrics vendor.out unwindowed
  return extend (compared "vendor_kernel_vs_cpu_reference" windowed m)
    [("best_window_offset", .str
        (least (fun offset => torch.relativeL2 vendor.out (shifted offset)) "-1" ["0", "1"])),
      ("relative_l2_by_offset", .obj distances),
      ("vs_unwindowed_reference", .obj full.fields),
      ("ignores_window", .bool (full.relativeL2.le (.fin terms.maxRelativeL2)))]

def vendorFields (reference : Entries) (primary : Metrics) : Dict :=
  let first := Json.obj (compared "torch_fallback_vs_cpu_reference" windowed primary)
  match caught (b.vendorCase torch terms reference) with
  | .ok case => [("cases", .arr [first, .obj case])]
  | .error e => [("cases", .arr [first]), ("vendor_kernel", .obj [("error", .str e)])]

def controlMetrics (reference : Entries) : Except Raised Metrics := do
  torch.metrics (← b.control) reference

def gated (reference : Entries) : Except Raised Metrics := do
  torch.metrics (← b.fallback) reference

/-- The kernel's and the control's output are there to be dumped. -/
def dumpable (outcome : Except Text Metrics) : Bool := b.vendor.toBool && outcome.toBool

/-- The report once the fallback has been compared, before its state. -/
def report (reference : Entries) (primary : Metrics) (outcome : Except Text Metrics) : Dict :=
  let control := .obj (terms.control "ignore_the_window"
    "the same fallback with max_window_size=-1, i.e. full attention" outcome)
  extend (b.header terms window)
    (extend (b.vendorFields torch terms reference primary) [("control", control)])

def graded (reference : Entries) (primary : Metrics) : Except Raised Dict := do
  let outcome := caught (b.controlMetrics torch reference)
  let report := b.report torch terms window reference primary outcome
  let judged := extend report [("state", .str (terms.verdict outcome primary))]
  match b.dump with
  | none => return judged
  | some written =>
      if b.dumpable outcome then
        written
        return judged
      else
        return extend report [("state", .str "EVALUATION_INCONCLUSIVE"),
          ("error", .str "kernel or control output unavailable, so there is nothing to dump")]

def main (host : Host) : Except Raised Dict := do
  if window.contextLen ≤ window.window then
    return extend (b.header terms window) [("cases", .arr []), ("state", .str "EVALUATION_INCONCLUSIVE"),
      ("error", .str ("context_len " ++ host.repr (.int window.contextLen) ++ " does not exceed window " ++
        host.repr (.int window.window) ++
        ", so a windowed and an unwindowed decode are the same computation"))]
  else
    let reference ← b.reference
    match caught (b.gated torch reference) with
    | .ok primary => b.graded torch terms window reference primary
    | .error e => return extend (b.header terms window) [("cases", .arr []), ("state", .str "EVALUATION_ERROR"),
        ("error", .str ("torch fallback: " ++ e))]

end Swa
end InferForge.Evaluation

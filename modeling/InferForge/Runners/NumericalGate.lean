import InferForge.Runners.PatchExecutor
import InferForge.Numerics.Attention
import InferForge.Numerics.Rounded

/-! The numerical comparison that runs in the Pod: both decode kernels on a sweep of geometries, and a
cosine for each. -/
namespace InferForge
open Py Effect Numerics

/-- The arguments of a decode kernel that its result depends on. A query has one token and there is
no attention sink. -/
structure DecodeCase where
  batch : Nat
  heads : Nat
  kvHeads : Nat
  dim : Nat
  /-- The same for every request. -/
  contextLen : Nat
  blockSize : Nat
  maxContextLen : Nat
  /-- `max_num_blocks_per_seq`. -/
  maxBlocks : Nat
  maxWindowSize : Int
  scale : Double
  /-- By request, head and dimension. -/
  query : Nat → Nat → Nat → Double
  /-- By block, head, position in the block and dimension. -/
  keyCache : Nat → Nat → Nat → Nat → Double
  valueCache : Nat → Nat → Nat → Nat → Double
  /-- By request and position in its table. -/
  blockTables : Nat → Nat → Nat

/-- The contents of `out` after a call, flattened; or the class and the text of an exception. -/
abbrev Kernel := DecodeCase → Except (Text × Text) (List Double)

/-- What the script takes from `torch`. -/
structure Torch where
  /-- Rounding to `float32`. -/
  single : Rounding
  /-- Rounding to `bfloat16`. -/
  half : ℝ → Double
  half_zero : half 0 = .fin 0
  dot : List Double → List Double → Double
  norm : List Double → Double
  /-- `torch.randn` after `manual_seed(20260914)`, by shape and index. -/
  randn : Nat × Nat × Nat → Nat → Nat → Nat → Double
  /-- `dim ** -0.5`. -/
  inverseRoot : Nat → Double
  /-- `1e-12` as a `float32`. -/
  guard : Rat
  guard_pos : 0 < guard
  guard_single : single.round guard = .fin guard
  dot_zero : ∀ n, dot (List.replicate n (.fin 0)) (List.replicate n (.fin 0)) = .fin 0
  norm_zero : ∀ n, norm (List.replicate n (.fin 0)) = .fin 0
  norm_nonneg : ∀ v, (norm v).AtLeastZero
  /-- Every product is a square with a minus sign. -/
  dot_opposite : ∀ v, (dot v (v.map Double.neg)).AtMostZero

/-- `(a + b - 1) // b`, at least one. -/
def blocksFor (length blockSize : Nat) : Nat := max 1 ((length + blockSize - 1) / blockSize)

namespace Torch
variable (torch : Torch)

def buildCase (heads kvHeads dim batch contextLen blockSize maxContextLen blocks : Nat) : DecodeCase where
  batch := batch
  heads := heads
  kvHeads := kvHeads
  dim := dim
  contextLen := contextLen
  blockSize := blockSize
  maxContextLen := maxContextLen
  maxBlocks := blocksFor maxContextLen blockSize
  maxWindowSize := -1
  scale := torch.inverseRoot dim
  query := torch.randn (batch, heads, dim)
  keyCache _ _ _ _ := .fin 0
  valueCache _ _ _ _ := .fin 0
  blockTables request block :=
    let used := blocksFor contextLen blockSize
    if request < batch && block < used then (request * used + block) % blocks else 0

def cosine (a b : List Double) : Double :=
  torch.single.div (torch.dot a b)
    (torch.single.add (torch.single.mul (torch.norm a) (torch.norm b)) (.fin torch.guard))

/-- A geometry of the sweep. -/
structure Geometry where
  batch : Nat
  context : Nat
  blockSize : Nat

/-- The geometries, in the order of the loops. -/
def geometries : List Geometry :=
  [1, 4, 16, 64].flatMap fun batch => [1, 128, 4096].flatMap fun context =>
    [16, 64, 128].map fun blockSize => ⟨batch, context, blockSize⟩

def Geometry.label (g : Geometry) : Text :=
  "b" ++ .ofNat g.batch ++ "/c" ++ .ofNat g.context ++ "/k" ++ .ofNat g.blockSize

def sweepCase (g : Geometry) : DecodeCase :=
  torch.buildCase 32 8 128 g.batch g.context g.blockSize 32768
    (g.batch * blocksFor g.context g.blockSize + 1)

section Sweep
variable (vendor fallback : Kernel)

/-- Both kernels on one geometry. -/
def compared (g : Geometry) : Except (Text × Text) Double := do
  let vendorOut ← vendor (torch.sweepCase g)
  let torchOut ← fallback (torch.sweepCase g)
  return torch.cosine vendorOut torchOut

/-- The entry of one geometry in `results`. -/
def entry (g : Geometry) : Json :=
  .obj (("case", .str g.label) :: match torch.compared vendor fallback g with
    | .ok cosine => [("cosine", .float cosine)]
    | .error (name, message) => [("error", .str (name ++ ": " ++ message))])

/-- What the script prints. -/
def validation (reproduction : Dict) : Dict :=
  [("reproduction", .obj reproduction), ("results", .arr (geometries.map (torch.entry vendor fallback)))]

/-- The cosines of the geometries that both kernels accept. -/
def cosines : List Double :=
  geometries.filterMap fun g => (torch.compared vendor fallback g).toOption

end Sweep
end Torch

/-! Paged attention. -/

def Py.Double.toReal : Double → ℝ
  | .fin x => x
  | _ => 0

namespace DecodeCase
variable (case : DecodeCase)

/-- The entry of a cache for a position of a request. -/
def cell (cache : Nat → Nat → Nat → Nat → Double) (request head position d : Nat) : Double :=
  cache (case.blockTables request (position / case.blockSize)) (head / (case.heads / case.kvHeads))
    (position % case.blockSize) d

/-- The positions that a request attends to: its context, or the end of it that a window leaves. -/
def positions : Finset Nat :=
  (Finset.range case.contextLen).filter fun position =>
    case.maxWindowSize < 0 ∨ (case.contextLen : Int) - case.maxWindowSize ≤ position

noncomputable def score (request head position : Nat) : ℝ :=
  case.scale.toReal * ∑ d ∈ Finset.range case.dim,
    (case.query request head d).toReal * (case.cell case.keyCache request head position d).toReal

/-- The exact output, flattened. -/
noncomputable def attention : List ℝ :=
  (List.range case.batch).flatMap fun request => (List.range case.heads).flatMap fun head =>
    (List.range case.dim).map fun d => attend case.positions (case.score request head)
      fun position => (case.cell case.valueCache request head position d).toReal

end DecodeCase

/-- The kernel stores the exact output, rounded. -/
def Kernel.Correct (torch : Torch) (kernel : Kernel) : Prop :=
  ∀ case, kernel case = .ok (case.attention.map torch.half)

/-- The outputs of the two kernels differ in the sign. -/
def Kernel.Opposite (vendor fallback : Kernel) : Prop :=
  ∀ case out out', vendor case = .ok out → fallback case = .ok out' → out' = out.map Double.neg

end InferForge

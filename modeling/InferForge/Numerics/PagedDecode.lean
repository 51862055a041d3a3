import InferForge.Numerics.Tensor
import Mathlib.Algebra.BigOperators.Field
import Mathlib.Algebra.Order.BigOperators.Group.Finset
import Mathlib.Algebra.Order.Field.Basic

/-! Paged decode attention in exact arithmetic, with any positive weight of a score in the place of
`exp`. -/
namespace InferForge.Numerics.PagedDecode

inductive Fault where
  | unsupportedDecode
  | runtimeError
  | indexError
  | zeroDivision
deriving DecidableEq

/-- The keyword arguments. -/
structure Call (K : Type) where
  out : Tensor K
  q : Tensor K
  kCache : Tensor K
  vCache : Tensor K
  contextLensXpu : Tensor Int
  contextLensCpu : Tensor Int
  blockTables : Tensor Int
  scale : K
  headNum : Nat
  headDim : Nat
  kvHeadNum : Nat
  blockSize : Nat
  maxNumBlocksPerSeq : Nat
  maxWindowSize : Option Int
  sink : Bool
  qlen : Int

/-- `None` means no window. -/
def Call.window (call : Call K) : Int := call.maxWindowSize.getD (-1)

/-- Past the length, or before the last `window` positions of it. -/
def isInvalid (len window position : Int) : Bool :=
  decide (len ≤ position) || (decide (0 ≤ window) && decide (position < len - window))

def windowMask (positions : Nat) (lens : Tensor Int) (window : Int) : Tensor Bool where
  shape := [lens.size 0, positions]
  get index := isInvalid (lens.get [index.getD 0 0]) window (index.getD 1 0)

/-- `tables[start:stop, :used].clamp_min(0)`. -/
def tableSlice (tables : Tensor Int) (start stop used : Nat) : Tensor Nat where
  shape := [min stop (tables.size 0) - start, min used (tables.size 1)]
  get index := (tables.get [start + index.getD 0 0, index.getD 1 0]).toNat

/-- `cache[index]` for a matrix of block numbers. -/
def gather (cache : Tensor K) (index : Tensor Nat) : Except Fault (Tensor K) :=
  if (List.range (index.size 0)).all fun i => (List.range (index.size 1)).all fun j =>
      decide (index.get [i, j] < cache.size 0) then
    .ok ⟨index.shape ++ cache.shape.drop 1, fun place =>
      cache.get (index.get (place.take 2) :: place.drop 2)⟩
  else .error .indexError

def reshaped (t : Tensor K) (shape : List Nat) : Except Fault (Tensor K) :=
  match t.reshape shape with
  | some t => .ok t
  | none => .error .runtimeError

section Arithmetic
variable {K : Type} [Field K] [DecidableEq K]

/-- `einsum("rkgd,rkld->rkgl", ...)`. -/
def dotKeys (grouped keys : Tensor K) : Except Fault (Tensor K) :=
  if grouped.size 0 = keys.size 0 ∧ grouped.size 1 = keys.size 1 ∧ grouped.size 3 = keys.size 3 then
    .ok ⟨[grouped.size 0, grouped.size 1, grouped.size 2, keys.size 2], fun index =>
      ∑ d ∈ Finset.range (grouped.size 3), grouped.get (index.take 3 ++ [d]) *
        keys.get [index.getD 0 0, index.getD 1 0, index.getD 3 0, d]⟩
  else .error .runtimeError

/-- `einsum("rkgl,rkld->rkgd", ...)`. -/
def mixValues (weights values : Tensor K) : Except Fault (Tensor K) :=
  if weights.size 0 = values.size 0 ∧ weights.size 1 = values.size 1 ∧ weights.size 3 = values.size 2 then
    .ok ⟨[weights.size 0, weights.size 1, weights.size 2, values.size 3], fun index =>
      ∑ l ∈ Finset.range (weights.size 3), weights.get (index.take 3 ++ [l]) *
        values.get [index.getD 0 0, index.getD 1 0, l, index.getD 3 0]⟩
  else .error .runtimeError

/-- `masked_fill(invalid[:, None, None, :], -inf)`; `none` is the infinite score. -/
def maskedFill (scores : Tensor K) (invalid : Tensor Bool) : Tensor (Option K) where
  shape := scores.shape
  get index := if invalid.get [index.getD 0 0, index.getD 3 0] then none else some (scores.get index)

variable (weight : K → K)

/-- The weight of a score, zero for a masked one. -/
def weightOf : Option K → K
  | none => 0
  | some score => weight score

/-- `softmax(dim=-1)`; `none` is the NaN of a row without any weight. -/
def softmaxLast (scores : Tensor (Option K)) : Tensor (Option K) where
  shape := scores.shape
  get index :=
    let total := ∑ l ∈ Finset.range (scores.size 3), weightOf weight (scores.get (index.take 3 ++ [l]))
    if total = 0 then none else some (weightOf weight (scores.get index) / total)

def nanToNum (t : Tensor (Option K)) : Tensor K := t.map fun value => value.getD 0

/-- `out[start:stop] = rows`. -/
def assignRows (out rows : Tensor K) (start stop : Nat) : Except Fault (Tensor K) :=
  if rows.shape = (out.rows start stop).shape then
    .ok ⟨out.shape, fun index =>
      match index with
      | i :: rest => if start ≤ i ∧ i < stop then rows.get ((i - start) :: rest) else out.get index
      | [] => out.get []⟩
  else .error .runtimeError

/-- What the loop uses of the call. -/
structure Geometry (K : Type) where
  call : Call K
  query : Tensor K
  lens : Tensor Int
  tokens : Nat
  group : Nat
  usedBlocks : Nat

def Geometry.span (g : Geometry K) : Nat := g.usedBlocks * g.call.blockSize

/-- Keys or values of some rows, as `(rows, kv_heads, span, dim)`. -/
def gathered (g : Geometry K) (cache : Tensor K) (start stop : Nat) : Except Fault (Tensor K) := do
  let blocks ← gather cache (tableSlice g.call.blockTables start stop g.usedBlocks)
  reshaped (blocks.permute [0, 2, 1, 3, 4])
    [stop - start, g.call.kvHeadNum, g.span, g.call.headDim]

/-- The context of the rows from `start` to `stop`. -/
def attendRows (g : Geometry K) (start stop : Nat) : Except Fault (Tensor K) := do
  let rows := stop - start
  let keys ← gathered g g.call.kCache start stop
  let values ← gathered g g.call.vCache start stop
  let grouped ← reshaped (g.query.rows start stop) [rows, g.call.kvHeadNum, g.group, g.call.headDim]
  let scores ← dotKeys grouped keys
  let invalid := windowMask g.span (g.lens.rows start stop) g.call.window
  let masked := maskedFill (scores.map (· * g.call.scale)) invalid
  let weights := nanToNum (softmaxLast weight masked)
  let context ← mixValues weights values
  reshaped context [rows, g.call.headNum, g.call.headDim]

/-- One round of the loop. -/
def round (g : Geometry K) (chunk : Nat) (out : Tensor K) (start : Nat) : Except Fault (Tensor K) := do
  let stop := min (start + chunk) g.tokens
  let rows ← attendRows weight g start stop
  assignRows out rows start stop

/-- `range(0, tokens, chunk)`. -/
def starts (tokens chunk : Nat) : List Nat :=
  (List.range ((tokens + chunk - 1) / chunk)).map (· * chunk)

/-- `int(lens.max())`. -/
def maxOf (lens : Tensor Int) : Except Fault Int :=
  match (List.range (lens.size 0)).map fun i => lens.get [i] with
  | [] => .error .runtimeError
  | first :: rest => .ok (rest.foldl max first)

/-- `torch_paged_decode`: what `out` holds afterwards. -/
def torchPagedDecode (gatherBudgetElements : Nat) (call : Call K) : Except Fault (Tensor K) :=
  if call.window = 0 then .error .unsupportedDecode
  else if call.sink then .error .unsupportedDecode
  else if call.qlen ≠ 1 then .error .unsupportedDecode
  else
    let tokens := call.out.size 0
    if tokens = 0 then .ok call.out
    else if call.kvHeadNum = 0 then .error .zeroDivision
    else do
      let group := call.headNum / call.kvHeadNum
      let ceiling := min call.maxNumBlocksPerSeq (call.kCache.size 0) * call.blockSize
      let longest ← maxOf call.contextLensCpu
      let maxLen := (max 1 (min longest ceiling)).toNat
      let lens := call.contextLensXpu.map fun len : Int => min len (maxLen : Int)
      if call.blockSize = 0 then throw .zeroDivision
      else
        let usedBlocks := max 1 ((maxLen + call.blockSize - 1) / call.blockSize)
        let query ← reshaped call.q [tokens, call.headNum, call.headDim]
        let g : Geometry K := ⟨call, query, lens, tokens, group, usedBlocks⟩
        let chunk := max 1 (min tokens
          (gatherBudgetElements / max 1 (call.kvHeadNum * g.span * call.headDim)))
        (starts tokens chunk).foldlM (round weight g chunk) call.out

end Arithmetic
end InferForge.Numerics.PagedDecode

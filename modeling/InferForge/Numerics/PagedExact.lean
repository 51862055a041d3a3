import InferForge.Numerics.PagedDecode
import InferForge.Effect

/-! Paged decode is the weighted mean of the values over the attended positions. -/
namespace InferForge.Numerics.PagedDecode
open Effect

/-! ## The gathered blocks -/

theorem reshaped_ok {t : Tensor α} {shape : List Nat} (same : numel t.shape = numel shape) :
    reshaped t shape = .ok (t.viewAs shape) := by
  simp [reshaped, Tensor.reshape, same]

/-- A gather of block numbers that are all in range. -/
theorem gather_ok {cache : Tensor α} {index : Tensor Nat}
    (valid : ∀ i < index.size 0, ∀ j < index.size 1, index.get [i, j] < cache.size 0) :
    gather cache index = .ok ⟨index.shape ++ cache.shape.drop 1, fun place =>
      cache.get (index.get (place.take 2) :: place.drop 2)⟩ := by
  rw [gather, if_pos]
  rw [List.all_eq_true]
  intro i low
  rw [List.all_eq_true]
  intro j low'
  exact decide_eq_true (valid i (List.mem_range.mp low) j (List.mem_range.mp low'))

section Gathered
variable {K : Type} {g : Geometry K} {cache : Tensor K} {start stop blocks : Nat}

/-- The block that holds a position of a row. -/
def Call.blockAt (call : Call K) (r p : Nat) : Nat :=
  (call.blockTables.get [r, p / call.blockSize]).toNat

/-- The rows of a call in range, with a table that has the blocks used. -/
structure TableFits (g : Geometry K) (blocks start stop : Nat) : Prop where
  shape : g.call.blockTables.shape = [g.tokens, g.call.maxNumBlocksPerSeq]
  columns : g.usedBlocks ≤ g.call.maxNumBlocksPerSeq
  below : start ≤ stop
  rows : stop ≤ g.tokens
  entries : ∀ r < g.tokens, ∀ b < g.call.maxNumBlocksPerSeq,
    (g.call.blockTables.get [r, b]).toNat < blocks

theorem gathered_get (fits : TableFits g blocks start stop)
    (layout : cache.shape = [blocks, g.call.kvHeadNum, g.call.blockSize, g.call.headDim])
    (slots : 0 < g.call.blockSize) :
    ∃ t, gathered g cache start stop = .ok t ∧
      t.shape = [stop - start, g.call.kvHeadNum, g.span, g.call.headDim] ∧
      ∀ i < stop - start, ∀ k < g.call.kvHeadNum, ∀ l < g.span, ∀ d < g.call.headDim,
        t.get [i, k, l, d] =
          cache.get [g.call.blockAt (start + i) l, k, l % g.call.blockSize, d] := by
  have shape : (tableSlice g.call.blockTables start stop g.usedBlocks).shape =
      [stop - start, g.usedBlocks] := by
    simp [tableSlice, Tensor.size, fits.shape, fits.rows, fits.columns]
  have valid : ∀ i < (tableSlice g.call.blockTables start stop g.usedBlocks).size 0,
      ∀ j < (tableSlice g.call.blockTables start stop g.usedBlocks).size 1,
        (tableSlice g.call.blockTables start stop g.usedBlocks).get [i, j] < cache.size 0 := by
    intro i low j low'
    simp only [Tensor.size, shape, layout, List.getD_cons_zero, List.getD_cons_succ] at low low' ⊢
    have columns := fits.columns
    have rows := fits.rows
    exact fits.entries (start + i) (by omega) j (by omega)
  have laidOut := gather_ok valid
  rw [shape, layout] at laidOut
  unfold gathered
  rw [laidOut, ok_bind, reshaped_ok]
  · refine ⟨_, rfl, rfl, fun i low k low' l short d low'' => ?_⟩
    have merge := ravel_merge [stop - start, g.call.kvHeadNum] [i, k] rfl g.usedBlocks
      g.call.blockSize (l / g.call.blockSize) (l % g.call.blockSize) [g.call.headDim] [d]
    rw [Nat.div_add_mod'] at merge
    rw [Tensor.viewAs_get [i, k, l / g.call.blockSize, l % g.call.blockSize, d] ?_ merge]
    · rfl
    · have block : l / g.call.blockSize < g.usedBlocks := (Nat.div_lt_iff_lt_mul slots).mpr short
      have slot := Nat.mod_lt l slots
      exact .cons low (.cons low' (.cons block (.cons slot (.cons low'' .nil))))
  · exact (numel_merge [stop - start, g.call.kvHeadNum] g.usedBlocks g.call.blockSize
      [g.call.headDim]).symm

/-- What the loop relies on. -/
structure Ready (g : Geometry K) (blocks : Nat) : Prop where
  table : g.call.blockTables.shape = [g.tokens, g.call.maxNumBlocksPerSeq]
  columns : g.usedBlocks ≤ g.call.maxNumBlocksPerSeq
  entries : ∀ r < g.tokens, ∀ b < g.call.maxNumBlocksPerSeq,
    (g.call.blockTables.get [r, b]).toNat < blocks
  keys : g.call.kCache.shape = [blocks, g.call.kvHeadNum, g.call.blockSize, g.call.headDim]
  values : g.call.vCache.shape = [blocks, g.call.kvHeadNum, g.call.blockSize, g.call.headDim]
  slots : 0 < g.call.blockSize
  query : g.query.shape = [g.tokens, g.call.headNum, g.call.headDim]
  lens : g.lens.shape = [g.tokens]
  heads : g.call.headNum = g.call.kvHeadNum * g.group

/-- The queries of some rows, grouped under the key heads. -/
theorem grouped_get (ready : Ready g blocks) (start : Nat) (rows : stop ≤ g.tokens) :
    ∃ t, reshaped (g.query.rows start stop)
        [stop - start, g.call.kvHeadNum, g.group, g.call.headDim] = .ok t ∧
      t.shape = [stop - start, g.call.kvHeadNum, g.group, g.call.headDim] ∧
      ∀ i < stop - start, ∀ k < g.call.kvHeadNum, ∀ j < g.group, ∀ d < g.call.headDim,
        t.get [i, k, j, d] = g.query.get [start + i, k * g.group + j, d] := by
  have shape : (g.query.rows start stop).shape =
      [stop - start, g.call.kvHeadNum * g.group, g.call.headDim] := by
    simp [Tensor.rows, ready.query, ready.heads, rows]
  rw [reshaped_ok]
  · refine ⟨_, rfl, rfl, fun i row k kv j inner d element => ?_⟩
    have merge := ravel_merge [stop - start] [i] rfl g.call.kvHeadNum g.group k j [g.call.headDim] [d]
    rw [Tensor.viewAs_get [i, k * g.group + j, d] ?_ ?_]
    · rfl
    · rw [shape]
      have head : k * g.group + j < g.call.kvHeadNum * g.group := by
        calc k * g.group + j < (k + 1) * g.group := by rw [Nat.add_one_mul]; omega
          _ ≤ g.call.kvHeadNum * g.group := Nat.mul_le_mul_right _ kv
      exact .cons row (.cons head (.cons element .nil))
    · rw [shape]
      exact merge.symm
  · rw [shape]
    exact numel_merge [stop - start] g.call.kvHeadNum g.group [g.call.headDim]

end Gathered
/-! ## One chunk of rows -/

section Rows
variable {K : Type} [Field K]

theorem dotKeys_ok {grouped keys : Tensor K} (left : grouped.shape = [r, k, j, n])
    (right : keys.shape = [r, k, l, n]) :
    dotKeys grouped keys = .ok ⟨[r, k, j, l], fun index =>
      ∑ d ∈ Finset.range n, grouped.get (index.take 3 ++ [d]) *
        keys.get [index.getD 0 0, index.getD 1 0, index.getD 3 0, d]⟩ := by
  simp [dotKeys, Tensor.size, left, right]

theorem mixValues_ok {weights values : Tensor K} (left : weights.shape = [r, k, j, l])
    (right : values.shape = [r, k, l, n]) :
    mixValues weights values = .ok ⟨[r, k, j, n], fun index =>
      ∑ p ∈ Finset.range l, weights.get (index.take 3 ++ [p]) *
        values.get [index.getD 0 0, index.getD 1 0, p, index.getD 3 0]⟩ := by
  simp [mixValues, Tensor.size, left, right]

variable [DecidableEq K] (weight : K → K) (g : Geometry K)

/-- The key and the value at a position of a row, as the block table places them. -/
def Call.keyAt (call : Call K) (r k p d : Nat) : K :=
  call.kCache.get [call.blockAt r p, k, p % call.blockSize, d]

def Call.valueAt (call : Call K) (r k p d : Nat) : K :=
  call.vCache.get [call.blockAt r p, k, p % call.blockSize, d]

def rowScore (r h p : Nat) : K :=
  (∑ d ∈ Finset.range g.call.headDim, g.query.get [r, h, d] * g.call.keyAt r (h / g.group) p d) *
    g.call.scale

def rowMasked (r h p : Nat) : Option K :=
  if isInvalid (g.lens.get [r]) g.call.window p then none else some (rowScore g r h p)

def rowTotal (r h : Nat) : K := ∑ p ∈ Finset.range g.span, weightOf weight (rowMasked g r h p)

def rowWeight (r h p : Nat) : K :=
  if rowTotal weight g r h = 0 then 0 else weightOf weight (rowMasked g r h p) / rowTotal weight g r h

/-- What a head of a row gets at one element. -/
def rowContext (r h d : Nat) : K :=
  ∑ p ∈ Finset.range g.span, rowWeight weight g r h p * g.call.valueAt r (h / g.group) p d

variable {weight g} {blocks start stop : Nat}

/-- A row of weights, from what its masked scores are. -/
theorem weights_get {masked : Tensor (Option K)} {m : Nat → Option K} {i k j n p : Nat}
    (size : masked.size 3 = n) (row : ∀ q < n, masked.get [i, k, j, q] = m q) (short : p < n) :
    (nanToNum (softmaxLast weight masked)).get [i, k, j, p] =
      if ∑ q ∈ Finset.range n, weightOf weight (m q) = 0 then 0
      else weightOf weight (m p) / ∑ q ∈ Finset.range n, weightOf weight (m q) := by
  have total : ∑ q ∈ Finset.range (masked.size 3), weightOf weight (masked.get [i, k, j, q]) =
      ∑ q ∈ Finset.range n, weightOf weight (m q) := by
    rw [size]
    refine Finset.sum_congr rfl fun q member => ?_
    rw [row q (Finset.mem_range.mp member)]
  change (if ∑ q ∈ Finset.range (masked.size 3), weightOf weight (masked.get [i, k, j, q]) = 0
    then none else some (weightOf weight (masked.get [i, k, j, p]) /
      ∑ q ∈ Finset.range (masked.size 3), weightOf weight (masked.get [i, k, j, q]))).getD 0 = _
  rw [total, row p short]
  split <;> rfl

variable (weight) in
theorem attendRows_get (ready : Ready g blocks) (below : start ≤ stop) (rows : stop ≤ g.tokens) :
    ∃ t, attendRows weight g start stop = .ok t ∧
      t.shape = [stop - start, g.call.headNum, g.call.headDim] ∧
      ∀ i < stop - start, ∀ h < g.call.headNum, ∀ d < g.call.headDim,
        t.get [i, h, d] = ∑ p ∈ Finset.range g.span, rowWeight weight g (start + i) h p *
          g.call.valueAt (start + i) (h / g.group) p d := by
  have fits : TableFits g blocks start stop :=
    ⟨ready.table, ready.columns, below, rows, ready.entries⟩
  obtain ⟨keys, gotKeys, keysShape, key⟩ := gathered_get fits ready.keys ready.slots
  obtain ⟨values, gotValues, valuesShape, value⟩ := gathered_get fits ready.values ready.slots
  obtain ⟨grouped, gotGrouped, groupedShape, query⟩ := grouped_get ready start rows
  unfold attendRows
  simp only [gotKeys, gotValues, gotGrouped, ok_bind, dotKeys_ok groupedShape keysShape]
  rw [mixValues_ok rfl valuesShape, ok_bind, reshaped_ok]
  · refine ⟨_, rfl, rfl, fun i row h head d element => ?_⟩
    have group : 0 < g.group := by
      rw [ready.heads] at head
      exact Nat.pos_of_ne_zero fun none => by simp [none] at head
    have kv : h / g.group < g.call.kvHeadNum := by
      rw [ready.heads] at head
      exact (Nat.div_lt_iff_lt_mul group).mpr head
    have inner := Nat.mod_lt h group
    have merge := ravel_merge [stop - start] [i] rfl g.call.kvHeadNum g.group (h / g.group)
      (h % g.group) [g.call.headDim] [d]
    rw [Nat.div_add_mod', ← ready.heads] at merge
    rw [Tensor.viewAs_get [i, h / g.group, h % g.group, d]
      (.cons row (.cons kv (.cons inner (.cons element .nil)))) merge]
    dsimp only
    refine Finset.sum_congr rfl fun p short => ?_
    rw [Finset.mem_range] at short
    refine congrArg₂ (· * ·) ?_ (value i row _ kv p short d element)
    refine weights_get (m := rowMasked g (start + i) h) rfl (fun q short => ?_) short
    have score : ∑ d ∈ Finset.range g.call.headDim,
        grouped.get [i, h / g.group, h % g.group, d] * keys.get [i, h / g.group, q, d] =
        ∑ d ∈ Finset.range g.call.headDim,
          g.query.get [start + i, h, d] * g.call.keyAt (start + i) (h / g.group) q d := by
      refine Finset.sum_congr rfl fun d member => ?_
      have element := Finset.mem_range.mp member
      rw [query i row _ kv _ inner d element, key i row _ kv q short d element, Nat.div_add_mod']
      rfl
    rw [rowMasked, rowScore, ← score]
    rfl
  · have merge := numel_merge [stop - start] g.call.kvHeadNum g.group [g.call.headDim]
    rw [← ready.heads] at merge
    exact merge.symm

/-! ## The loop -/

variable (weight) in
theorem round_get (ready : Ready g blocks) {out : Tensor K} (chunk : Nat) (below : start < g.tokens)
    (shape : out.shape = [g.tokens, g.call.headNum, g.call.headDim]) :
    ∃ after, round weight g chunk out start = .ok after ∧ after.shape = out.shape ∧
      ∀ r < g.tokens, ∀ h < g.call.headNum, ∀ d < g.call.headDim, after.get [r, h, d] =
        if start ≤ r ∧ r < start + chunk then rowContext weight g r h d else out.get [r, h, d] := by
  obtain ⟨rows, attended, rowsShape, row⟩ := attendRows_get weight ready
    (show start ≤ min (start + chunk) g.tokens by omega) (Nat.min_le_right _ _)
  have fits : rows.shape = (out.rows start (min (start + chunk) g.tokens)).shape := by
    simp [rowsShape, Tensor.rows, shape]
  have start_le : start ≤ min (start + chunk) g.tokens := by omega
  unfold round assignRows
  simp only [attended, ok_bind, if_pos fits]
  refine ⟨_, rfl, rfl, fun r low h head d element => ?_⟩
  dsimp only
  by_cases inside : start ≤ r ∧ r < start + chunk
  · rw [if_pos inside, if_pos (by omega), row (r - start) (by omega) h head d element,
      Nat.add_sub_of_le inside.1]
    rfl
  · rw [if_neg inside, if_neg (by omega)]

/-- The first rounds of the loop. -/
theorem loop_get (ready : Ready g blocks) {out : Tensor K} {chunk : Nat}
    (shape : out.shape = [g.tokens, g.call.headNum, g.call.headDim]) (n : Nat)
    (short : n ≤ (g.tokens + chunk - 1) / chunk) (some' : 0 < chunk) :
    ∃ after, ((List.range n).map (· * chunk)).foldlM (round weight g chunk) out = .ok after ∧
      after.shape = out.shape ∧
      ∀ r < g.tokens, r < n * chunk → ∀ h < g.call.headNum, ∀ d < g.call.headDim,
        after.get [r, h, d] = rowContext weight g r h d := by
  induction n with
  | zero => exact ⟨out, rfl, rfl, fun r _ none => by simp at none⟩
  | succ n ih =>
    obtain ⟨before, ran, kept, rows⟩ := ih (by omega)
    have below : n * chunk < g.tokens := by
      have := (Nat.le_div_iff_mul_le some').mp short
      rw [Nat.add_one_mul] at this
      omega
    obtain ⟨after, next, kept', row⟩ := round_get weight ready chunk below (kept.trans shape)
    refine ⟨after, ?_, kept'.trans kept, fun r low early h head d element => ?_⟩
    · rw [List.range_succ, List.map_append, List.foldlM_append, ran, ok_bind,
        List.map_singleton, List.foldlM_cons, next, ok_bind]
      rfl
    · rw [row r low h head d element]
      split
      · rfl
      · next other =>
        refine rows r low ?_ h head d element
        rw [Nat.add_one_mul] at early
        omega

end Rows
/-! ## The reference -/

section Reference
variable {K : Type} [Field K] (weight : K → K) (call : Call K) (tokens : Nat)

/-- The query as `(tokens, heads, dim)`. -/
def Call.query : Tensor K := call.q.viewAs [tokens, call.headNum, call.headDim]

/-- The number of heads that share a key head. -/
def Call.group : Nat := call.headNum / call.kvHeadNum

/-- The positions that a row attends to. -/
def attended (len window : Int) : Finset Nat :=
  (Finset.range len.toNat).filter fun p => 0 ≤ window → len - window ≤ p

def Call.positions (r : Nat) : Finset Nat := attended (call.contextLensXpu.get [r]) call.window

def Call.score (r h p : Nat) : K :=
  (∑ d ∈ Finset.range call.headDim,
    (call.query tokens).get [r, h, d] * call.keyAt r (h / call.group) p d) * call.scale

def Call.total (r h : Nat) : K := ∑ p ∈ call.positions r, weight (call.score tokens r h p)

/-- The mean of the values at the attended positions, by the weights of their scores. -/
def Call.average (r h d : Nat) : K :=
  (∑ p ∈ call.positions r, weight (call.score tokens r h p) * call.valueAt r (h / call.group) p d) /
    call.total weight tokens r h

/-- Arguments that fit together, for caches of so many blocks. -/
structure WellFormed (call : Call K) (tokens blocks : Nat) : Prop where
  out : call.out.shape = [tokens, call.headNum, call.headDim]
  q : numel call.q.shape = numel [tokens, call.headNum, call.headDim]
  keys : call.kCache.shape = [blocks, call.kvHeadNum, call.blockSize, call.headDim]
  values : call.vCache.shape = [blocks, call.kvHeadNum, call.blockSize, call.headDim]
  tables : call.blockTables.shape = [tokens, call.maxNumBlocksPerSeq]
  entries : ∀ r < tokens, ∀ b < call.maxNumBlocksPerSeq,
    0 ≤ call.blockTables.get [r, b] ∧ call.blockTables.get [r, b] < blocks
  lens : call.contextLensXpu.shape = [tokens]
  cpuLens : call.contextLensCpu.shape = [tokens]
  agree : ∀ r < tokens, call.contextLensCpu.get [r] = call.contextLensXpu.get [r]
  lengths : ∀ r < tokens, 0 ≤ call.contextLensXpu.get [r] ∧
    call.contextLensXpu.get [r] ≤ min call.maxNumBlocksPerSeq blocks * call.blockSize
  divides : call.kvHeadNum ∣ call.headNum
  window : call.window ≠ 0
  sink : call.sink = false
  qlen : call.qlen = 1

/-- At least one key head, one slot in a block and one block of a sequence. -/
structure NotEmpty (call : Call K) : Prop where
  heads : 0 < call.kvHeadNum
  slots : 0 < call.blockSize
  columns : 0 < call.maxNumBlocksPerSeq

/-- Two calls that agree on one row: its query, its length and the cache at its attended positions. -/
structure SameRow (call other : Call K) (tokens r : Nat) : Prop where
  headNum : other.headNum = call.headNum
  kvHeadNum : other.kvHeadNum = call.kvHeadNum
  headDim : other.headDim = call.headDim
  scale : other.scale = call.scale
  window : other.window = call.window
  query : ∀ h d, (other.query tokens).get [r, h, d] = (call.query tokens).get [r, h, d]
  len : other.contextLensXpu.get [r] = call.contextLensXpu.get [r]
  keys : ∀ p ∈ call.positions r, ∀ k d, other.keyAt r k p d = call.keyAt r k p d
  values : ∀ p ∈ call.positions r, ∀ k d, other.valueAt r k p d = call.valueAt r k p d

variable {weight call tokens} {other : Call K} {r : Nat}

theorem average_same (same : SameRow call other tokens r) (h d : Nat) :
    other.average weight tokens r h d = call.average weight tokens r h d := by
  have positions : other.positions r = call.positions r := by
    rw [Call.positions, Call.positions, same.len, same.window]
  have group : other.group = call.group := by
    rw [Call.group, Call.group, same.headNum, same.kvHeadNum]
  have score : ∀ p ∈ call.positions r, other.score tokens r h p = call.score tokens r h p := by
    intro p member
    rw [Call.score, Call.score, same.headDim, same.scale, group]
    simp only [same.query, same.keys p member]
  have total : other.total weight tokens r h = call.total weight tokens r h := by
    rw [Call.total, Call.total, positions]
    apply Finset.sum_congr rfl
    intro p member
    rw [score p member]
  rw [Call.average, Call.average, total, positions, group]
  apply congrArg (· / _)
  apply Finset.sum_congr rfl
  intro p member
  rw [score p member, same.values p member]

theorem mem_attended {len window : Int} {p : Nat} :
    p ∈ attended len window ↔ isInvalid len window p = false := by
  simp only [attended, Finset.mem_filter, Finset.mem_range, isInvalid, Bool.or_eq_false_iff,
    Bool.and_eq_false_iff, decide_eq_false_iff_not]
  omega

/-- The attended positions among any others. -/
theorem sum_attended {len window : Int} {span : Nat} (short : len ≤ span) (f : Nat → K) :
    ∑ p ∈ Finset.range span, (if isInvalid len window p then 0 else f p) =
      ∑ p ∈ attended len window, f p := by
  have inside : attended len window = (Finset.range span).filter fun p : Nat => isInvalid len window p = false := by
    ext p
    rw [Finset.mem_filter, ← mem_attended, Finset.mem_range]
    constructor
    · intro member
      have early := Finset.mem_range.mp (Finset.mem_filter.mp member).1
      exact ⟨by omega, member⟩
    · exact And.right
  rw [inside, Finset.sum_filter]
  apply Finset.sum_congr rfl
  intro p _
  cases isInvalid len window p <;> rfl

theorem average_zero (len : call.contextLensXpu.get [r] = 0) (h d : Nat) :
    call.average weight tokens r h d = 0 := by
  have positions : call.positions r = ∅ := by
    rw [Call.positions, attended, len]
    rfl
  rw [Call.average, positions, Finset.sum_empty, zero_div]

variable [DecidableEq K] {g : Geometry K}

/-- The context of a row whose length was not clamped. -/
theorem rowContext_average (query : g.query = g.call.query tokens) (group : g.group = g.call.group)
    (len : g.lens.get [r] = g.call.contextLensXpu.get [r]) (short : g.lens.get [r] ≤ g.span)
    (h d : Nat) : rowContext weight g r h d = g.call.average weight tokens r h d := by
  have score : ∀ p, rowScore g r h p = g.call.score tokens r h p := by
    intro p
    rw [rowScore, Call.score, query, group]
  have masked : ∀ p, weightOf weight (rowMasked g r h p) =
      if isInvalid (g.lens.get [r]) g.call.window p then 0
      else weight (g.call.score tokens r h p) := by
    intro p
    rw [rowMasked, score]
    split <;> rfl
  have total : rowTotal weight g r h = g.call.total weight tokens r h := by
    rw [rowTotal, Call.total, Call.positions, ← len, ← sum_attended short]
    apply Finset.sum_congr rfl
    intro p _
    exact masked p
  rw [rowContext, Call.average, Call.positions, ← len, ← sum_attended short, Finset.sum_div]
  apply Finset.sum_congr rfl
  intro p _
  rw [rowWeight, total, masked, group]
  by_cases none : g.call.total weight tokens r h = 0
  · rw [if_pos none, none, div_zero, zero_mul]
  · rw [if_neg none]
    split
    · rw [zero_div, zero_mul]
    · rw [div_mul_eq_mul_div]

/-! ## The call -/

theorem le_foldl_max (values : List Int) (first : Int) :
    first ≤ values.foldl max first ∧ ∀ value ∈ values, value ≤ values.foldl max first := by
  induction values generalizing first with
  | nil => exact ⟨le_refl first, fun _ none => nomatch none⟩
  | cons value values ih =>
    obtain ⟨start, rest⟩ := ih (max first value)
    constructor
    · exact (le_max_left first value).trans start
    · intro other member
      cases member with
      | head => exact (le_max_right first value).trans start
      | tail _ member => exact rest other member

theorem maxOf_ok {lens : Tensor Int} (shape : lens.shape = [tokens]) (some' : tokens ≠ 0) :
    ∃ longest, maxOf lens = .ok longest ∧ ∀ r < tokens, lens.get [r] ≤ longest := by
  obtain ⟨n, rfl⟩ := Nat.exists_eq_succ_of_ne_zero some'
  have size : lens.size 0 = n + 1 := by simp [Tensor.size, shape]
  obtain ⟨start, rest⟩ := le_foldl_max
    ((List.range n).map fun i => lens.get [i + 1]) (lens.get [0])
  refine ⟨((List.range n).map fun i => lens.get [i + 1]).foldl max (lens.get [0]), ?_, ?_⟩
  · rw [maxOf, size, List.range_succ_eq_map, List.map_cons, List.map_map]
    rfl
  · intro r low
    cases r with
    | zero => exact start
    | succ r =>
      exact rest _ (List.mem_map.mpr ⟨r, List.mem_range.mpr (Nat.succ_lt_succ_iff.mp low), rfl⟩)

variable {blocks : Nat}

/-- What the loop starts from. -/
structure Start (call : Call K) (tokens : Nat) (g : Geometry K) : Prop where
  sameCall : g.call = call
  sameTokens : g.tokens = tokens
  query : g.query = call.query tokens
  group : g.group = call.group
  lens : ∀ r < tokens, g.lens.get [r] = call.contextLensXpu.get [r]
  short : ∀ r < tokens, call.contextLensXpu.get [r] ≤ g.span

/-- The blocks used hold the longest row, and the table has them. -/
theorem usedBlocks_bounds {maxLen slots columns : Nat} (some' : 0 < slots) (more : 0 < columns)
    (fits : maxLen ≤ columns * slots) :
    max 1 ((maxLen + slots - 1) / slots) ≤ columns ∧
      maxLen ≤ max 1 ((maxLen + slots - 1) / slots) * slots := by
  have least : (maxLen + slots - 1) / slots ≤ columns := by
    rw [Nat.div_le_iff_le_mul_add_pred some']
    have swap := Nat.mul_comm columns slots
    omega
  have enough : maxLen ≤ (maxLen + slots - 1) / slots * slots := by
    have split := Nat.div_add_mod' (maxLen + slots - 1) slots
    have rest := Nat.mod_lt (maxLen + slots - 1) some'
    omega
  constructor
  · omega
  · exact enough.trans (Nat.mul_le_mul_right _ (Nat.le_max_right _ _))

variable (weight) in
theorem decode_starts (wf : WellFormed call tokens blocks) (ne : NotEmpty call)
    (some' : tokens ≠ 0) (budget : Nat) :
    ∃ g chunk, Ready g blocks ∧ Start call tokens g ∧ 0 < chunk ∧
      torchPagedDecode weight budget call =
        (starts tokens chunk).foldlM (round weight g chunk) call.out := by
  obtain ⟨longest, gotLongest, longer⟩ := maxOf_ok wf.cpuLens some'
  have size : call.out.size 0 = tokens := by simp [Tensor.size, wf.out]
  have cache : call.kCache.size 0 = blocks := by simp [Tensor.size, wf.keys]
  have present : 0 < blocks := by
    have ⟨low, high⟩ := wf.entries 0 (Nat.pos_of_ne_zero some') 0 ne.columns
    omega
  have ceiling : 1 ≤ min call.maxNumBlocksPerSeq blocks * call.blockSize :=
    Nat.mul_pos (lt_min ne.columns present) ne.slots
  have room : min call.maxNumBlocksPerSeq blocks * call.blockSize ≤
      call.maxNumBlocksPerSeq * call.blockSize := Nat.mul_le_mul_right _ (Nat.min_le_left _ _)
  unfold torchPagedDecode
  rw [if_neg wf.window, wf.sink, if_neg Bool.false_ne_true, wf.qlen, if_neg (not_not_intro rfl),
    size]
  dsimp only
  rw [if_neg some', if_neg ne.heads.ne', gotLongest, ok_bind, cache, if_neg ne.slots.ne',
    reshaped_ok wf.q, ok_bind]
  generalize top : (max 1 (min longest
    ((min call.maxNumBlocksPerSeq blocks * call.blockSize : Nat) : Int))).toNat = maxLen
  have fits : maxLen ≤ call.maxNumBlocksPerSeq * call.blockSize := by omega
  have ⟨columns, span⟩ := usedBlocks_bounds ne.slots ne.columns fits
  have clamped : ∀ r < tokens, call.contextLensXpu.get [r] ≤ maxLen := by
    intro r low
    have bound := longer r low
    have ⟨_, short⟩ := wf.lengths r low
    rw [wf.agree r low] at bound
    push_cast at short top
    omega
  refine ⟨_, _, ?ready, ?start, ?chunk, rfl⟩
  case chunk => exact Nat.lt_of_lt_of_le Nat.one_pos (Nat.le_max_left _ _)
  case ready =>
    exact {
      table := wf.tables
      columns := columns
      entries := fun r low b low' => (Int.toNat_lt (wf.entries r low b low').1).mpr
        (wf.entries r low b low').2
      keys := wf.keys
      values := wf.values
      slots := ne.slots
      query := rfl
      lens := wf.lens
      heads := (Nat.mul_div_cancel' wf.divides).symm }
  case start =>
    exact {
      sameCall := rfl
      sameTokens := rfl
      query := rfl
      group := rfl
      lens := fun r low => min_eq_left (clamped r low)
      short := fun r low => (clamped r low).trans (Int.ofNat_le.mpr span) }

variable (weight) in
theorem decode_average (wf : WellFormed call tokens blocks) (ne : NotEmpty call) (budget : Nat) :
    ∃ out, torchPagedDecode weight budget call = .ok out ∧ out.shape = call.out.shape ∧
      ∀ r < tokens, ∀ h < call.headNum, ∀ d < call.headDim,
        out.get [r, h, d] = call.average weight tokens r h d := by
  by_cases none : tokens = 0
  · subst none
    have size : call.out.size 0 = 0 := by simp [Tensor.size, wf.out]
    refine ⟨call.out, ?_, rfl, fun r low => absurd low (Nat.not_lt_zero r)⟩
    rw [torchPagedDecode, if_neg wf.window, wf.sink, if_neg Bool.false_ne_true, wf.qlen,
      if_neg (not_not_intro rfl), size]
    rfl
  · obtain ⟨g, chunk, ready, start, positive, ran⟩ := decode_starts weight wf ne none budget
    obtain ⟨sameCall, sameTokens, query, group, lens, short⟩ := start
    subst sameCall sameTokens
    obtain ⟨out, looped, shape, row⟩ := loop_get ready wf.out
      ((g.tokens + chunk - 1) / chunk) (le_refl _) positive
    refine ⟨out, ran.trans looped, shape, fun r low h head d element => ?_⟩
    have reached : r < (g.tokens + chunk - 1) / chunk * chunk := by
      have split := Nat.div_add_mod' (g.tokens + chunk - 1) chunk
      have rest := Nat.mod_lt (g.tokens + chunk - 1) positive
      omega
    rw [row r low reached h head d element]
    apply rowContext_average query group (lens r low)
    rw [lens r low]
    exact short r low

end Reference
section Exact
variable {K : Type} [Field K] [LinearOrder K] [IsStrictOrderedRing K] {weight : K → K}
  {call : Call K} {tokens blocks : Nat} {r : Nat}

theorem total_pos (positive : ∀ score, 0 < weight score) (window : call.window ≠ 0)
    (len : 0 < call.contextLensXpu.get [r]) (h : Nat) : 0 < call.total weight tokens r h := by
  apply Finset.sum_pos
  · intro p _
    exact positive _
  · refine ⟨(call.contextLensXpu.get [r] - 1).toNat, ?_⟩
    rw [Call.positions, mem_attended, isInvalid, Bool.or_eq_false_iff, Bool.and_eq_false_iff,
      decide_eq_false_iff_not, decide_eq_false_iff_not, decide_eq_false_iff_not]
    omega

/-- Every row gets the mean of its attended values, whatever the chunks and the rest of the call. -/
theorem paged_decode_exact (positive : ∀ score, 0 < weight score)
    (wf : WellFormed call tokens blocks) (ne : NotEmpty call) (budget : Nat) :
    ∃ out, torchPagedDecode weight budget call = .ok out ∧ out.shape = call.out.shape ∧
      ∀ r < tokens, ∀ h < call.headNum, ∀ d < call.headDim,
        out.get [r, h, d] = call.average weight tokens r h d ∧
        (0 < call.contextLensXpu.get [r] → 0 < call.total weight tokens r h) ∧
        (call.contextLensXpu.get [r] = 0 → out.get [r, h, d] = 0) ∧
        ∀ (other : Call K) (blocks' budget' : Nat), WellFormed other tokens blocks' →
          NotEmpty other → SameRow call other tokens r →
          ∃ out', torchPagedDecode weight budget' other = .ok out' ∧
            out'.get [r, h, d] = out.get [r, h, d] := by
  obtain ⟨out, ran, shape, row⟩ := decode_average weight wf ne budget
  refine ⟨out, ran, shape, fun r low h head d element =>
    ⟨row r low h head d element, fun len => total_pos positive wf.window len h, fun len => ?_, ?_⟩⟩
  · rw [row r low h head d element, average_zero len]
  · intro other blocks' budget' wf' ne' same
    obtain ⟨out', ran', _, row'⟩ := decode_average weight wf' ne' budget'
    refine ⟨out', ran', ?_⟩
    rw [← same.headNum] at head
    rw [← same.headDim] at element
    rw [row' r low h head d element, row r low h (same.headNum ▸ head) d (same.headDim ▸ element),
      average_same same]

/-- One row without positions, for so many heads, slots of a block and blocks of a sequence. -/
def emptyRow (heads slots columns : Nat) : Call ℚ where
  out := ⟨[1, heads, 1], fun _ => 0⟩
  q := ⟨[1, heads, 1], fun _ => 1⟩
  kCache := ⟨[1, heads, slots, 1], fun _ => 1⟩
  vCache := ⟨[1, heads, slots, 1], fun _ => 1⟩
  contextLensXpu := ⟨[1], fun _ => 0⟩
  contextLensCpu := ⟨[1], fun _ => 0⟩
  blockTables := ⟨[1, columns], fun _ => 0⟩
  scale := 1
  headNum := heads
  headDim := 1
  kvHeadNum := heads
  blockSize := slots
  maxNumBlocksPerSeq := columns
  maxWindowSize := none
  sink := false
  qlen := 1

theorem emptyRow_wellFormed (heads slots columns : Nat) :
    WellFormed (emptyRow heads slots columns) 1 1 where
  out := rfl
  q := rfl
  keys := rfl
  values := rfl
  tables := rfl
  entries _ _ _ _ := ⟨le_refl _, Int.one_pos⟩
  lens := rfl
  cpuLens := rfl
  agree _ _ := rfl
  lengths _ _ := ⟨le_refl _, Int.natCast_nonneg _⟩
  divides := dvd_refl _
  window := Int.negSucc_ne_zero 0
  sink := rfl
  qlen := rfl

/-- Without key heads, without slots or without blocks of a sequence no row is written. -/
theorem emptyRow_raises :
    (∀ heads slots columns, WellFormed (emptyRow heads slots columns) 1 1) ∧
      torchPagedDecode (fun _ => (1 : ℚ)) 16 (emptyRow 0 1 1) = .error .zeroDivision ∧
      torchPagedDecode (fun _ => (1 : ℚ)) 16 (emptyRow 1 0 1) = .error .zeroDivision ∧
      torchPagedDecode (fun _ => (1 : ℚ)) 16 (emptyRow 1 1 0) = .error .runtimeError :=
  ⟨emptyRow_wellFormed, rfl, rfl, rfl⟩

/-- Two query heads on one key head, a window of two and three positions in two blocks. -/
def windowed : Call ℚ where
  out := ⟨[1, 2, 1], fun _ => 0⟩
  q := ⟨[1, 2, 1], fun index => index.getD 1 0⟩
  kCache := ⟨[2, 1, 2, 1], fun index => index.getD 0 0⟩
  vCache := ⟨[2, 1, 2, 1], fun index => 2 * index.getD 0 0 + index.getD 2 0⟩
  contextLensXpu := ⟨[1], fun _ => 3⟩
  contextLensCpu := ⟨[1], fun _ => 3⟩
  blockTables := ⟨[1, 2], fun index => 1 - index.getD 1 0⟩
  scale := 1
  headNum := 2
  headDim := 1
  kvHeadNum := 1
  blockSize := 2
  maxNumBlocksPerSeq := 2
  maxWindowSize := some 2
  sink := false
  qlen := 1

theorem windowed_wellFormed : WellFormed windowed 1 2 where
  out := rfl
  q := rfl
  keys := rfl
  values := rfl
  tables := rfl
  entries r _ b low := by
    change b < 2 at low
    change (0 : Int) ≤ 1 - b ∧ (1 - b : Int) < 2
    omega
  lens := rfl
  cpuLens := rfl
  agree _ _ := rfl
  lengths _ _ := ⟨by change (0 : Int) ≤ 3; omega, by change (3 : Int) ≤ 4; omega⟩
  divides := by decide
  window := by decide
  sink := rfl
  qlen := rfl

theorem paged_decode_windowed : ∃ out, torchPagedDecode (fun s : ℚ => 1 + s * s) 1 windowed = .ok out ∧
    out.get [0, 0, 0] = 3 / 2 ∧ out.get [0, 1, 0] = 2 := by
  have positive : ∀ s : ℚ, 0 < 1 + s * s := by
    intro s
    exact add_pos_of_pos_of_nonneg one_pos (mul_self_nonneg s)
  obtain ⟨out, ran, _, row⟩ := paged_decode_exact positive windowed_wellFormed
    ⟨by decide, by decide, by decide⟩ 1
  refine ⟨out, ran, ?_, ?_⟩
  · rw [(row 0 (by decide) 0 (by decide) 0 (by decide)).1]
    decide +kernel
  · rw [(row 0 (by decide) 1 (by decide) 0 (by decide)).1]
    decide +kernel

end Exact

end InferForge.Numerics.PagedDecode

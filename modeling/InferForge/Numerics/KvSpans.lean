import InferForge.Effect
import Mathlib.Algebra.BigOperators.Group.Finset.Basic
import Mathlib.Algebra.Order.BigOperators.Group.Finset
import Mathlib.Data.Nat.Find

/-! The key spans that each query token of a prefill batch may attend to, as the repaired helper
computes them when the vendor operator is absent. -/
namespace InferForge.Numerics.KvSpans

open Effect

inductive Fault where
  | runtimeError
  | indexError
deriving DecidableEq

/-! ## One-dimensional integer tensors -/

/-- Two's complement. -/
def wrap (bits : Nat) (x : Int) : Int := x.bmod (2 ^ bits)

/-- An elementwise operation; a tensor with one element meets every element of the other. -/
def elementwise (f : Int → Int → Int) (xs ys : List Int) : Except Fault (List Int) :=
  if xs.length = ys.length then .ok (List.zipWith f xs ys)
  else
    match xs, ys with
    | [x], ys => .ok (ys.map (f x))
    | xs, [y] => .ok (xs.map (f · y))
    | _, _ => .error .runtimeError

def add : List Int → List Int → Except Fault (List Int) := elementwise fun x y => wrap 64 (x + y)

def sub : List Int → List Int → Except Fault (List Int) := elementwise fun x y => wrap 64 (x - y)

/-- `xs + n`. -/
def addScalar (xs : List Int) (n : Int) : List Int := xs.map fun x => wrap 64 (x + n)

def cumsumFrom (total : Int) : List Int → List Int
  | [] => []
  | x :: xs => wrap 64 (total + x) :: cumsumFrom (wrap 64 (total + x)) xs

def cumsum (xs : List Int) : List Int := cumsumFrom 0 xs

def arange (stop : Int) : Except Fault (List Int) :=
  if stop < 0 then .error .runtimeError else .ok ((List.range stop.toNat).map fun (i : Nat) => (i : Int))

/-- Each element as often as its count says. -/
def repeatInterleave (xs counts : List Int) : Except Fault (List Int) := do
  let counts ←
    if xs.length = counts.length then .ok counts
    else
      match counts with
      | [n] => .ok (List.replicate xs.length n)
      | _ => .error .runtimeError
  if counts.all fun n => 0 ≤ n then
    return (List.zipWith (fun x n => List.replicate n.toNat x) xs counts).flatten
  else .error .runtimeError

/-- `xs[i]`; a negative index counts from the end. -/
def item (xs : List Int) (i : Int) : Except Fault Int :=
  match xs[(if i < 0 then i + xs.length else i).toNat]? with
  | some x => if -xs.length ≤ i then .ok x else .error .indexError
  | none => .error .indexError

/-- `xs[index]`. -/
def gather (xs index : List Int) : Except Fault (List Int) := index.mapM (item xs)

/-! ## The helper -/

/-- `op` is the vendor operator, where it is registered. -/
def kvSpansFromBatches (op : Option (List Int → List Int → Except Fault (List Int × List Int)))
    (startSeqLoc seqLenPerBatch : List Int) : Except Fault (List Int × List Int) :=
  match op with
  | some op => op startSeqLoc seqLenPerBatch
  | none => do
      let numReqs := seqLenPerBatch.length
      let queryCounts ← sub startSeqLoc.tail startSeqLoc.dropLast
      let numTokens ← item startSeqLoc (-1)
      let kvStartsPerBatch ← sub (cumsum seqLenPerBatch) seqLenPerBatch
      let batchId ← repeatInterleave (← arange numReqs) queryCounts
      let rowStarts ← gather kvStartsPerBatch batchId
      let firsts ← repeatInterleave startSeqLoc.dropLast queryCounts
      let posWithinQuery := addScalar (← sub (← arange numTokens) firsts) 1
      let contextLen ← repeatInterleave (← sub seqLenPerBatch queryCounts) queryCounts
      let rowEnds ← add (← add rowStarts contextLen) posWithinQuery
      return (rowStarts.map (wrap 32), rowEnds.map (wrap 32))

/-! ## Batches -/

/-- The query tokens of request `i` are numbered from `offset i` to `offset (i + 1)`, and its
sequence has `len i` positions, those tokens last. -/
structure Batch where
  requests : Nat
  offset : Nat → Nat
  len : Nat → Nat
  first : offset 0 = 0
  ordered : ∀ i < requests, offset i ≤ offset (i + 1)
  room : ∀ i < requests, offset (i + 1) - offset i ≤ len i

namespace Batch

variable (b : Batch)

def startSeqLoc : List Int := (List.range (b.requests + 1)).map fun i => (b.offset i : Int)

def seqLens : List Int := (List.range b.requests).map fun i => (b.len i : Int)

/-- The number of query tokens. -/
def tokens : Nat := b.offset b.requests

/-- The first position of a request, the sequences laid one behind the other. -/
def start (i : Nat) : Nat := ∑ j ∈ Finset.range i, b.len j

def total : Nat := b.start b.requests

/-- Query token `t` is one of request `i`. -/
def Owns (i t : Nat) : Prop := i < b.requests ∧ b.offset i ≤ t ∧ t < b.offset (i + 1)

/-- The end of the span of token `t` of request `i`. -/
def stop (i t : Nat) : Nat :=
  b.start i + (b.len i - (b.offset (i + 1) - b.offset i)) + (t - b.offset i) + 1

/-- The request of a token. -/
def owner (t : Nat) : Nat := Nat.findGreatest (fun i => b.offset i ≤ t) (b.requests - 1)

variable {b}

theorem offset_mono (below : i ≤ j) (inside : j ≤ b.requests) : b.offset i ≤ b.offset j := by
  induction below with
  | refl => exact le_rfl
  | @step j _ ih => exact (ih (by omega)).trans (b.ordered j (by omega))

theorem owner_eq (owns : b.Owns i t) : b.owner t = i := by
  obtain ⟨inside, from', before⟩ := owns
  apply Nat.findGreatest_eq_iff.mpr
  refine ⟨by omega, fun _ => from', fun j above below => ?_⟩
  have := b.offset_mono (i := i + 1) (j := j) above (by omega)
  omega

/-- Every token belongs to a request. -/
theorem owner_owns (token : t < b.tokens) : b.Owns (b.owner t) t := by
  have some' : 0 < b.requests := by
    by_contra none'
    have zero : b.requests = 0 := by omega
    rw [tokens, zero, b.first] at token
    omega
  have begun : b.offset (b.owner t) ≤ t :=
    Nat.findGreatest_spec (P := fun i => b.offset i ≤ t) (Nat.zero_le _) (by simp [b.first])
  have within : b.owner t ≤ b.requests - 1 := Nat.findGreatest_le _
  refine ⟨by omega, begun, ?_⟩
  by_contra past
  by_cases last : b.owner t = b.requests - 1
  · have : b.owner t + 1 = b.requests := by omega
    rw [this] at past
    exact past token
  · have := Nat.le_findGreatest (P := fun i => b.offset i ≤ t) (m := b.owner t + 1)
      (n := b.requests - 1) (by omega) (by omega)
    exact absurd this (by simp [owner])

theorem start_succ (i : Nat) : b.start (i + 1) = b.start i + b.len i :=
  Finset.sum_range_succ _ _

theorem start_mono (below : i ≤ j) : b.start i ≤ b.start j :=
  Finset.sum_le_sum_of_subset (Finset.range_subset_range.mpr below)

theorem offset_le_start (inside : i ≤ b.requests) : b.offset i ≤ b.start i := by
  induction i with
  | zero => simp [b.first]
  | succ i ih =>
    have before := ih (by omega)
    have room := b.room i inside
    rw [start_succ]
    omega

/-- A span is not empty and stays in the positions of its request. -/
theorem stop_bounds (owns : b.Owns i t) : b.start i < b.stop i t ∧ b.stop i t ≤ b.start i + b.len i := by
  obtain ⟨inside, from', before⟩ := owns
  have room := b.room i inside
  rw [stop]
  omega

end Batch

/-! ## What each operation gives -/

/-- A tensor by its entries. -/
def entries (n : Nat) (v : Nat → Int) : List Int := (List.range n).map v

theorem wrap_eq (bits : Nat) {x : Int} (low : -(2 ^ bits : Nat) ≤ x * 2) (high : x * 2 < (2 ^ bits : Nat)) :
    wrap bits x = x := Int.bmod_eq_of_le_mul_two low high

theorem elementwise_entries (f : Int → Int → Int) (n : Nat) (v w : Nat → Int) :
    elementwise f (entries n v) (entries n w) = .ok (entries n fun t => f (v t) (w t)) := by
  unfold elementwise
  rw [if_pos (by simp [entries])]
  simp [entries, List.zipWith_map, List.zipWith_self]

theorem sub_entries (n : Nat) (v w : Nat → Int) :
    sub (entries n v) (entries n w) = .ok (entries n fun t => wrap 64 (v t - w t)) :=
  elementwise_entries _ n v w

theorem add_entries (n : Nat) (v w : Nat → Int) :
    add (entries n v) (entries n w) = .ok (entries n fun t => wrap 64 (v t + w t)) :=
  elementwise_entries _ n v w

theorem cumsumFrom_entries (s : Nat → Nat) (v : Nat → Nat) (step : ∀ i, s (i + 1) = s i + v i)
    (small : ∀ i ≤ a + n, s i < 2 ^ 31) :
    cumsumFrom (s a) ((List.range' a n).map fun i => (v i : Int)) =
      (List.range' a n).map fun i => (s (i + 1) : Int) := by
  induction n generalizing a with
  | zero => rfl
  | succ n ih =>
    have next := small (a + 1) (by omega)
    have total : wrap 64 ((s a : Int) + v a) = s (a + 1) := by
      rw [step] at next ⊢
      rw [wrap_eq 64 (by omega) (by omega)]
      omega
    rw [List.range'_succ, List.map_cons, List.map_cons, cumsumFrom, total,
      ih fun i below => small i (by omega)]

theorem arange_entries (n : Nat) : arange n = .ok (entries n fun i => i) := by
  simp [arange, entries]

/-- Row `i` fills the places from `offset i` to `offset (i + 1)`. -/
theorem flatten_rows (offset : Nat → Nat) (v : Nat → Int) (owner : Nat → Nat) (n : Nat)
    (zero : offset 0 = 0) (ordered : ∀ i < n, offset i ≤ offset (i + 1))
    (owns : ∀ i < n, ∀ t, offset i ≤ t → t < offset (i + 1) → owner t = i) :
    ((List.range n).map fun i => List.replicate (offset (i + 1) - offset i) (v i)).flatten =
      entries (offset n) fun t => v (owner t) := by
  induction n with
  | zero => simp [zero, entries]
  | succ n ih =>
    have row : List.replicate (offset (n + 1) - offset n) (v n) =
        (List.range' (offset n) (offset (n + 1) - offset n)).map fun t => v (owner t) := by
      symm
      rw [List.eq_replicate_iff]
      constructor
      · simp
      · intro x member
        obtain ⟨t, inside, rfl⟩ := List.mem_map.mp member
        rw [List.mem_range'_1] at inside
        rw [owns n (by omega) t inside.1 (by omega)]
    have below := ordered n (by omega)
    have whole : offset (n + 1) = offset n + (offset (n + 1) - offset n) := by omega
    rw [List.range_succ, List.map_append, List.flatten_append,
      ih (fun i less => ordered i (by omega)) fun i less => owns i (by omega)]
    rw [List.map_singleton, List.flatten_singleton, row, entries, entries, whole, List.range_add,
      List.map_append, List.range'_eq_map_range, ← whole]

theorem repeatInterleave_entries (b : Batch) (v : Nat → Int) :
    repeatInterleave (entries b.requests v)
        (entries b.requests fun i => ((b.offset (i + 1) - b.offset i : Nat) : Int)) =
      .ok (entries b.tokens fun t => v (b.owner t)) := by
  unfold repeatInterleave
  rw [if_pos (by simp [entries]), ok_bind]
  have rows := flatten_rows b.offset v b.owner b.requests b.first b.ordered
    fun i inside t from' before => Batch.owner_eq ⟨inside, from', before⟩
  rw [Batch.tokens, ← rows]
  simp [entries, List.zipWith_map, List.zipWith_self]

theorem item_entries (v : Nat → Int) (inside : i < n) : item (entries n v) i = .ok (v i) := by
  have natural : ¬ (i : Int) < 0 := by omega
  simp [item, entries, inside, natural]

theorem gather_entries (n m : Nat) (v : Nat → Int) (index : Nat → Nat) (inside : ∀ t < m, index t < n) :
    gather (entries n v) (entries m fun t => (index t : Int)) = .ok (entries m fun t => v (index t)) := by
  unfold gather
  rw [entries.eq_1 m, entries.eq_1 m, List.mapM_map]
  apply mapM_ok
  intro t member
  exact item_entries v (inside t (List.mem_range.mp member))

theorem entries_congr {v w : Nat → Int} (same : ∀ t < n, v t = w t) : entries n v = entries n w :=
  List.map_congr_left fun t member => same t (List.mem_range.mp member)

/-! ## The spans of a batch -/

section Spans
variable {b : Batch}

theorem startSeqLoc_tail : b.startSeqLoc.tail = entries b.requests fun i => b.offset (i + 1) := by
  simp [Batch.startSeqLoc, entries, List.range_succ_eq_map]

theorem startSeqLoc_dropLast : b.startSeqLoc.dropLast = entries b.requests fun i => b.offset i := by
  simp [Batch.startSeqLoc, entries, List.range_succ]

theorem startSeqLoc_last : item b.startSeqLoc (-1) = .ok b.tokens := by
  simp [item, Batch.startSeqLoc, Batch.tokens]

theorem queryCounts_eq (small : b.total < 2 ^ 31) :
    sub b.startSeqLoc.tail (entries b.requests fun i => b.offset i) =
      .ok (entries b.requests fun i => ((b.offset (i + 1) - b.offset i : Nat) : Int)) := by
  rw [startSeqLoc_tail, sub_entries]
  congr 1
  apply entries_congr
  intro i inside
  have ordered := b.ordered i inside
  have before := Batch.offset_le_start (b := b) (i := i + 1) inside
  have within := Batch.start_mono (b := b) (i := i + 1) (j := b.requests) inside
  rw [Batch.total] at small
  rw [wrap_eq 64 (by omega) (by omega)]
  omega

theorem kvStarts_eq (small : b.total < 2 ^ 31) :
    sub (cumsum b.seqLens) b.seqLens = .ok (entries b.requests fun i => b.start i) := by
  have bound (i : Nat) (inside : i ≤ b.requests) : b.start i < 2 ^ 31 :=
    (Batch.start_mono inside).trans_lt small
  have sums := cumsumFrom_entries (a := 0) (n := b.requests) b.start b.len Batch.start_succ
    fun i below => bound i (by omega)
  rw [← List.range_eq_range'] at sums
  have zero : ((b.start 0 : Nat) : Int) = 0 := by simp [Batch.start]
  rw [zero] at sums
  rw [cumsum, Batch.seqLens, sums]
  refine (sub_entries _ _ _).trans (congrArg _ (entries_congr fun i inside => ?_))
  have here := bound i (by omega)
  rw [Batch.start_succ, wrap_eq 64 (by omega) (by omega)]
  omega

theorem contextLen_eq (small : b.total < 2 ^ 31) :
    sub b.seqLens (entries b.requests fun i => ((b.offset (i + 1) - b.offset i : Nat) : Int)) =
      .ok (entries b.requests fun i => ((b.len i - (b.offset (i + 1) - b.offset i) : Nat) : Int)) := by
  refine (sub_entries _ _ _).trans (congrArg _ (entries_congr fun i inside => ?_))
  have room := b.room i inside
  have within := Batch.start_mono (b := b) (i := i + 1) (j := b.requests) inside
  rw [Batch.start_succ] at within
  rw [Batch.total] at small
  rw [wrap_eq 64 (by omega) (by omega)]
  omega

theorem total_bounds (small : b.total < 2 ^ 31) (owns : b.Owns i t) :
    t < 2 ^ 31 ∧ b.start i + b.len i < 2 ^ 31 := by
  have within := Batch.start_mono (b := b) (i := i + 1) (j := b.requests) owns.1
  have before := Batch.offset_le_start (b := b) (i := i + 1) owns.1
  have last := owns.2.2
  rw [Batch.start_succ] at within before
  rw [Batch.total] at small
  omega

/-- What the fallback returns. -/
theorem fallback_eq (small : b.total < 2 ^ 31) :
    kvSpansFromBatches none b.startSeqLoc b.seqLens =
      .ok (entries b.tokens fun t => b.start (b.owner t),
        entries b.tokens fun t => b.stop (b.owner t) t) := by
  have owned : ∀ t < b.tokens, b.Owns (b.owner t) t := fun t => Batch.owner_owns
  have batchId := repeatInterleave_entries b fun i => i
  have firsts := repeatInterleave_entries b fun i => b.offset i
  have contexts := repeatInterleave_entries b
    fun i => ((b.len i - (b.offset (i + 1) - b.offset i) : Nat) : Int)
  have rowStarts := gather_entries b.requests b.tokens (fun i => b.start i) b.owner
    fun t token => (owned t token).1
  have count : b.seqLens.length = b.requests := by simp [Batch.seqLens]
  have within : sub (entries b.tokens fun t => t) (entries b.tokens fun t => b.offset (b.owner t)) =
      .ok (entries b.tokens fun t => ((t - b.offset (b.owner t) : Nat) : Int)) := by
    refine (sub_entries _ _ _).trans (congrArg _ (entries_congr fun t token => ?_))
    have := total_bounds small (owned t token)
    have := (owned t token).2
    rw [wrap_eq 64 (by omega) (by omega)]
    omega
  have lengths : add (entries b.tokens fun t => b.start (b.owner t))
      (entries b.tokens fun t => ((b.len (b.owner t) -
        (b.offset (b.owner t + 1) - b.offset (b.owner t)) : Nat) : Int)) =
      .ok (entries b.tokens fun t => ((b.start (b.owner t) + (b.len (b.owner t) -
        (b.offset (b.owner t + 1) - b.offset (b.owner t))) : Nat) : Int)) := by
    refine (add_entries _ _ _).trans (congrArg _ (entries_congr fun t token => ?_))
    have := total_bounds small (owned t token)
    rw [wrap_eq 64 (by omega) (by omega)]
    omega
  have ends : add (entries b.tokens fun t => ((b.start (b.owner t) + (b.len (b.owner t) -
        (b.offset (b.owner t + 1) - b.offset (b.owner t))) : Nat) : Int))
      (addScalar (entries b.tokens fun t => ((t - b.offset (b.owner t) : Nat) : Int)) 1) =
      .ok (entries b.tokens fun t => b.stop (b.owner t) t) := by
    rw [addScalar, entries.eq_1 _ fun t => ((t - b.offset (b.owner t) : Nat) : Int), List.map_map]
    refine (add_entries _ _ _).trans (congrArg _ (entries_congr fun t token => ?_))
    have := total_bounds small (owned t token)
    have := (owned t token).2
    have room := b.room _ (owned t token).1
    rw [Function.comp_apply, Batch.stop, wrap_eq 64 (x := _ + 1) (by omega) (by omega),
      wrap_eq 64 (by omega) (by omega)]
    omega
  have narrow (v : Nat → Nat) (low : ∀ t < b.tokens, v t < 2 ^ 31) :
      (entries b.tokens fun t => (v t : Int)).map (wrap 32) = entries b.tokens fun t => v t := by
    rw [entries, List.map_map]
    refine entries_congr fun t token => ?_
    have := low t token
    rw [Function.comp_apply, wrap_eq 32 (by omega) (by omega)]
  simp only [kvSpansFromBatches, queryCounts_eq small, startSeqLoc_last, kvStarts_eq small, count,
    arange_entries, batchId, rowStarts, startSeqLoc_dropLast, firsts, within, contextLen_eq small,
    contexts, lengths, ends, ok_bind]
  rw [narrow, narrow]
  · rfl
  · intro t token
    have := total_bounds small (owned t token)
    have := (Batch.stop_bounds (owned t token)).2
    omega
  · intro t token
    have := total_bounds small (owned t token)
    omega

theorem entries_get (v : Nat → Int) (inside : t < n) : (entries n v)[t]? = some (v t) := by
  simp [entries, inside]

theorem Batch.Owns.token (owns : b.Owns i t) : t < b.tokens :=
  owns.2.2.trans_le (Batch.offset_mono (i := i + 1) owns.1 le_rfl)

/-- The spans of two requests, one before the other. -/
theorem stop_le_start (owns : b.Owns i t) (below : i < j) : b.stop i t ≤ b.start j := by
  have within := (Batch.stop_bounds owns).2
  have later := Batch.start_mono (b := b) (i := i + 1) (j := j) below
  rw [Batch.start_succ] at later
  omega

end Spans

/-- Every query token attends to the positions of its own request up to its own. -/
structure Reference (b : Batch) (starts ends : List Int) : Prop where
  starts_length : starts.length = b.tokens
  ends_length : ends.length = b.tokens
  start : ∀ i t, b.Owns i t → starts[t]? = some (b.start i : Int)
  stop : ∀ i t, b.Owns i t → ends[t]? = some ((b.start i : Int) +
    ((b.len i : Int) - ((b.offset (i + 1) : Int) - b.offset i)) + ((t : Int) - b.offset i) + 1)

/-- What the formula of one token says about the spans of a batch. -/
structure Spaced (b : Batch) (starts ends : List Int) : Prop where
  bounds : ∀ i t s e, b.Owns i t → starts[t]? = some s → ends[t]? = some e →
    s < e ∧ e ≤ s + b.len i
  next : ∀ i t e, b.Owns i t → b.Owns i (t + 1) → ends[t]? = some e → ends[t + 1]? = some (e + 1)
  last : ∀ i t s, b.Owns i t → t + 1 = b.offset (i + 1) → starts[t]? = some s →
    ends[t]? = some (s + b.len i)
  apart : ∀ i j t u s e s' e', b.Owns i t → b.Owns j u → i ≠ j →
    starts[t]? = some s → ends[t]? = some e → starts[u]? = some s' → ends[u]? = some e' →
      e ≤ s' ∨ e' ≤ s

/-- The fallback gives each token the span of its definition, and every token has one. -/
theorem kv_spans_reference (b : Batch) (small : b.total < 2 ^ 31) :
    ∃ starts ends, kvSpansFromBatches none b.startSeqLoc b.seqLens = .ok (starts, ends) ∧
      (∀ t < b.tokens, ∃ i, b.Owns i t) ∧ Reference b starts ends ∧ Spaced b starts ends := by
  have start {i t} (owns : b.Owns i t) :
      (entries b.tokens fun t => b.start (b.owner t))[t]? = some (b.start i : Int) := by
    rw [entries_get _ owns.token, Batch.owner_eq owns]
  have stop {i t} (owns : b.Owns i t) :
      (entries b.tokens fun t => b.stop (b.owner t) t)[t]? = some (b.stop i t : Int) := by
    rw [entries_get _ owns.token, Batch.owner_eq owns]
  refine ⟨_, _, fallback_eq small, fun t token => ⟨_, Batch.owner_owns token⟩, ?_, ?_⟩
  · constructor
    · simp [entries]
    · simp [entries]
    · intro i t owns
      exact start owns
    · intro i t owns
      have room := b.room i owns.1
      have inside := owns.2
      rw [stop owns, Batch.stop, Option.some.injEq]
      omega
  · constructor
    · intro i t s e owns first second
      rw [start owns, Option.some.injEq] at first
      rw [stop owns, Option.some.injEq] at second
      have := Batch.stop_bounds owns
      omega
    · intro i t e owns more here
      rw [stop owns, Option.some.injEq] at here
      have inside := owns.2
      rw [stop more, ← here, Batch.stop, Batch.stop, Option.some.injEq]
      omega
    · intro i t s owns final first
      rw [start owns, Option.some.injEq] at first
      have room := b.room i owns.1
      have inside := owns.2
      rw [stop owns, ← first, Batch.stop, Option.some.injEq]
      omega
    · intro i j t u s e s' e' owns other differ first second third fourth
      rw [start owns, Option.some.injEq] at first
      rw [stop owns, Option.some.injEq] at second
      rw [start other, Option.some.injEq] at third
      rw [stop other, Option.some.injEq] at fourth
      rcases Nat.lt_or_gt_of_ne differ with below | above
      · have := stop_le_start owns below
        omega
      · have := stop_le_start other above
        omega

/-- Three requests with five, no and four positions, and two, no and one query token. -/
def Batch.mixed : Batch where
  requests := 3
  offset i := [0, 2, 2, 3].getD i 3
  len i := [5, 0, 4].getD i 0
  first := rfl
  ordered := by decide
  room := by decide

theorem kv_spans_mixed : Batch.mixed.total < 2 ^ 31 ∧
    ∃ starts ends, kvSpansFromBatches none [0, 2, 2, 3] [5, 0, 4] = .ok (starts, ends) ∧
      Reference .mixed starts ends := by
  have small : Batch.mixed.total < 2 ^ 31 := by decide
  obtain ⟨starts, ends, returned, -, reference, -⟩ := kv_spans_reference .mixed small
  exact ⟨small, starts, ends, returned, reference⟩

example : kvSpansFromBatches none [0, 2, 2, 3] [5, 0, 4] = .ok ([0, 0, 5], [4, 5, 9]) := by decide

end InferForge.Numerics.KvSpans

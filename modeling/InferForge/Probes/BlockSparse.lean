import InferForge.Probes.Evaluation
import Mathlib.Data.Finset.Card

/-! The block-sparse probe: block scores, the selection of blocks, and attention over them. -/
namespace InferForge.Evaluation
open Py ResultValidation Effect

/-- The geometry of the contract. -/
structure Blocks where
  indexHeads : Nat
  heads : Nat
  headDim : Nat
  pageSize : Nat
  blockSize : Nat
  batch : Nat
  contextLen : Nat
  topk : Nat

def Blocks.count (g : Blocks) : Nat := (g.contextLen + g.blockSize - 1) / g.blockSize

/-- The selected blocks of each head of each request; a negative slot selects none. -/
abbrev Selection (topk : Nat) := List (Vector Int topk)

/-! ## Block sets -/

section Sets
variable {topk : Nat}

def blockSet (row : Vector Int topk) : Finset Int := (row.toList.filter (0 ≤ ·)).toFinset

/-- `(slot + 1) % blocks` in 32 bits, on the slots that select. -/
def shiftRow (blocks : Nat) (row : Vector Int topk) : Vector Int topk :=
  row.map fun slot => if 0 ≤ slot then (slot + 1).bmod (2 ^ 32) % blocks else slot

def shifted (blocks : Nat) (selection : Selection topk) : Selection topk := selection.map (shiftRow blocks)

structure Agreement where
  rows : Nat
  exact : Double
  jaccard : Double

/-- `set_agreement`. -/
def agreementOf (r : Rounding) (kernel reference : Selection topk) : Agreement :=
  let pairs := (kernel.zip reference).map fun (left, right) => (blockSet left, blockSet right)
  let share (a b : Nat) : Double := r.div (.fin a) (.fin (max 1 b : Nat))
  let overlap := pairs.foldl
    (fun total (left, right) => r.add total (share (left ∩ right).card (left ∪ right).card)) (.fin 0)
  { rows := kernel.length
    exact := share (pairs.countP fun (left, right) => left = right) kernel.length
    jaccard := r.div overlap (.fin (max 1 kernel.length : Nat)) }

def Agreement.json (a : Agreement) : Json :=
  .obj [("rows", .int a.rows), ("exact_set_match_fraction", .float a.exact), ("mean_jaccard", .float a.jaccard)]

end Sets

/-! ## The probe -/

/-- What `msa_block_score` writes, and what the host computes from the same cache. -/
structure Scored where
  score : Entries
  out : Entries
  reduced : Text → Except Raised Entries
  dense : Except Raised Entries

/-- A dump directory, and the files in it. -/
structure Dump where
  opened : Except Raised Unit
  written : Except Raised Unit

/-- A run of `block_sparse_attention_probe`. -/
structure BlockSparse (topk : Nat) where
  scored : Except Raised Scored
  transform : Except Raised (Selection topk)
  /-- `reference_topk` over the kernel's scores, with and without a reserved local block. -/
  chosen : Bool → Except Raised (Selection topk)
  attention : Selection topk → Except Raised Entries
  /-- `sparse_reference` over a selection. -/
  restricted : Selection topk → Except Raised Entries
  dense : Except Raised Entries
  dump : Option Dump

namespace BlockSparse
variable (host : Host) (torch : Torch) (terms : Terms) (g : Blocks) (b : BlockSparse g.topk)

def conventions : Json := .obj [
  ("index_cache_kv_heads", .str "msa_block_score accepts head_num_kv == 1 only; measured"),
  ("head_dim_v", .str "0 is documented as 'same as head_dim' but is rejected; pass it explicitly"),
  ("topk_idx_layout", .str
    "kernels want [total_q, heads, topk]; upstream triton uses [heads, total_q, topk], so a transpose is part of the port"),
  ("selection_per_kv_head", .str
    "num_idx_heads == num_kv_heads upstream, so each kv head carries its own selection and no cross-head reduction happens")]

def geometry : Json := .obj [
  ("index_heads", .int g.indexHeads), ("index_cache_kv_heads", .int 1), ("heads", .int g.heads),
  ("kv_heads", .int g.indexHeads), ("head_dim", .int g.headDim), ("page_size", .int g.pageSize),
  ("block_size", .int g.blockSize), ("batch", .int g.batch), ("context_len", .int g.contextLen),
  ("topk", .int g.topk), ("score_blocks", .int g.count),
  ("phase", .str "decode (prefill_len=-1, one query per request)")]

def header : Dict :=
  [("dimension", .str "block_sparse"),
    ("operators", texts ["kunlun_ops.msa_block_score", "kunlun_ops.msa_block_score_topk_transform",
      "kunlun_ops.msa_sparse_attention"]),
    ("geometry", geometry g), ("conventions", conventions), ("thresholds", terms.json),
    ("gate", .str "relative_l2 of sparse attention against float32 attention over the same blocks")]

/-- A report that ends early. -/
def ended (cases : List Dict) (state error : Text) : Dict :=
  extend (header terms g) [("cases", .arr (cases.map .obj)), ("state", .str state), ("error", .str error)]

def reductions : List Text := ["max", "max_unscaled", "mean", "sum", "logsumexp"]

/-- Which reduction the block scores are. -/
def reductionCase (scored : Scored) : Except Raised Dict := do
  let measured ← reductions.mapM fun how => do
    return (how, ← torch.finiteMetrics scored.score (← scored.reduced how))
  let distance how : Double := ((measured.lookup how).map Metrics.relativeL2).getD .nan
  let best := least distance "max" ["max_unscaled", "mean", "sum", "logsumexp"]
  let fields : Dict := ((measured.lookup best).map Metrics.fields).getD []
  return extend [("case", .str "block_score_reduction_semantics"),
    ("reference", .str
      "q·k per token from the index cache, reduced per block several ways, float32 on the CPU"),
    ("relative_l2_by_reduction", .obj (measured.map fun (how, m) => (how, .float m.relativeL2))),
    ("best_reduction", .str best),
    ("matches_a_known_reduction", .bool ((distance best).le (.fin terms.maxRelativeL2))),
    ("applies_softmax_scale", .bool ((distance "max").below (distance "max_unscaled")))] fields

/-- The attention output of the same call, reported rather than gated. -/
def outputCase (scored : Scored) : Except Raised Dict := do
  let m ← torch.finiteMetrics scored.out (← scored.dense)
  return extend [("case", .str "block_score_optional_attention_output"),
    ("reference", .str "float32 full attention over the index cache"),
    ("output_is_all_zero", .bool (scored.out.all fun x => x.eq (.fin 0)))] m.fields

/-- The cases that stage one records before an exception, if there is one. -/
def scoreCases : List Dict × Option Raised :=
  match b.scored with
  | .error e => ([], some e)
  | .ok scored =>
      match reductionCase torch terms scored with
      | .error e => ([], some e)
      | .ok first =>
          match outputCase torch scored with
          | .error e => ([first], some e)
          | .ok second => ([first, second], none)

def transformCase : Text := "topk_transform_vs_cpu_reference"

/-- What the kernel selects, compared with two references. -/
def transformed : Except Raised (Dict × Selection g.topk) := do
  let selection ← b.transform
  let plain := agreementOf torch.double selection (← b.chosen false)
  let reserved := agreementOf torch.double selection (← b.chosen true)
  let better := if plain.exact.below reserved.exact then reserved.exact else plain.exact
  let slots := selection.flatMap Vector.toList
  return ([("case", .str transformCase),
    ("reference", .str "top-k over the kernel's own block scores, with and without a reserved local block"),
    ("without_reserved_local_block", plain.json), ("with_reserved_local_block", reserved.json),
    ("reserves_a_local_block", .bool (plain.exact.below reserved.exact)),
    ("selection_understood", .bool (better.eq (.fin 1))),
    ("invalid_slots", .int (slots.countP fun slot => slot < 0))], selection)

/-- The case of the selection, its error, and the selection of stage two. -/
def selected : Except Raised (Dict × Option Text × Selection g.topk) := do
  match caught (b.transformed torch) with
  | .ok (case, selection) => return (case, none, selection)
  | .error e => return ([("case", .str transformCase), ("error", .str e)], some e, ← b.chosen false)

def attentionCase : Text := "sparse_attention_vs_cpu_reference"

/-- Attention over the selected blocks: its output, its metrics and its distance from dense attention. -/
def attended (selection : Selection g.topk) : Except Raised (Entries × Metrics × Metrics) := do
  let out ← b.attention selection
  let m ← torch.finiteMetrics out (← b.restricted selection)
  return (out, m, ← torch.finiteMetrics out (← b.dense))

/-- The same output, against the blocks after the selected ones. -/
def controlMetrics (out : Entries) (selection : Selection g.topk) : Except Raised Metrics := do
  torch.finiteMetrics out (← b.restricted (shifted g.count selection))

/-- A dump that fails replaces the control. -/
def controlled (out : Entries) (selection : Selection g.topk) : Except Raised (Except Text Metrics) := do
  let outcome := caught (b.controlMetrics torch g out selection)
  match b.dump with
  | none => return outcome
  | some dump =>
      dump.opened
      let files : Except Raised Unit := do
        let _ ← b.restricted selection
        let _ ← b.restricted (shifted g.count selection)
        dump.written
      match caught files with
      | .ok _ => return outcome
      | .error e => return .error ("dump failed: " ++ e)

def finish (cases : List Dict) (failed : Option Text) (selection : Selection g.topk) :
    Except Raised Dict := do
  match caught (b.attended torch g selection) with
  | .error e => return ended terms g cases "EVALUATION_ERROR" ("msa_sparse_attention: " ++ e)
  | .ok (out, m, full) =>
      let primary := extend (compared attentionCase "float32 attention restricted to the same selected blocks" m)
        [("vs_dense_reference", .float full.relativeL2)]
      let outcome ← b.controlled torch g out selection
      let control := terms.control "reference_over_a_different_block_set"
        "every selected block index shifted by one, so the reference reads other keys" outcome
      let report := extend (header terms g)
        [("cases", .arr ((cases ++ [primary]).map .obj)), ("control", .obj control)]
      match failed with
      | some _ => return extend report [("state", .str "EVALUATION_INCONCLUSIVE"),
          ("incomplete_cases", texts [transformCase]),
          ("error", .str ("1 case(s) did not run: " ++ transformCase))]
      | none => return extend report [("state", .str (terms.verdict outcome m))]

/-- `main` and `run`. -/
def main : Except Raised Dict := do
  if g.blockSize = 0 then throw ⟨"ZeroDivisionError", "integer division or modulo by zero"⟩
  else if g.count ≤ g.topk then
    return ended terms g [] "EVALUATION_INCONCLUSIVE" ("topk " ++ host.repr (.int g.topk) ++ " covers all " ++
      host.repr (.int g.count) ++
      " blocks, so sparse and dense attention are the same computation and nothing about selection is tested")
  else if g.indexHeads = 0 then throw ⟨"ZeroDivisionError", "integer modulo by zero"⟩
  else if g.heads % g.indexHeads ≠ 0 then
    return ended terms g [] "EVALUATION_INCONCLUSIVE" ("heads " ++ host.repr (.int g.heads) ++
      " is not a multiple of index_heads " ++ host.repr (.int g.indexHeads))
  else
    match b.scoreCases torch terms g with
    | (cases, some e) => return ended terms g cases "EVALUATION_ERROR" ("msa_block_score: " ++ e.text)
    | (cases, none) => do
        let (case, failed, selection) ← b.selected torch g
        b.finish torch terms g (cases ++ [case]) failed selection

end BlockSparse
end InferForge.Evaluation

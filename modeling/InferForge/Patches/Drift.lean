import InferForge.Patches.Transaction
import InferForge.Py.Replacement

/-! The drift repairs of the plugin: `patch` and `main` of `patch_vllm_kunlun_drift.py`. -/
namespace InferForge.Patches.Drift
open Py

/-- A text and what it gives way to. -/
structure Repair where
  old : Text
  new : Text
deriving DecidableEq

/-- The loop of `patch`; `none` when neither text of a repair is there. -/
def repairText : List Repair → Bool → Text → Option (Bool × Text)
  | [], changed, text => some (changed, text)
  | repair :: rest, changed, text =>
      if text.holds repair.new then repairText rest changed text
      else if text.holds repair.old then
        repairText rest true (text.replaceAll repair.old repair.new)
      else none

section
variable {Path : Type} [DecidableEq Path]

/-- `patch` within a transaction; `none` when the file cannot be read. -/
def patch (transaction : Transaction Path) (files : Files Path) (path : Path)
    (repairs : List Repair) : Option (Option Bool × Transaction Path) := do
  let text ← transaction.read files path
  match repairText repairs false text with
  | none => return (none, transaction)
  | some (false, _) => return (some false, transaction)
  | some (true, text) => return (some true, (← transaction.stage files path text).2)

/-- `patch` without a transaction: the file is written at once. -/
def patchFile (files : Files Path) (path : Path) (repairs : List Repair) :
    Files Path × Option (Option Bool) :=
  match (files path).bind readText with
  | none => (files, none)
  | some text =>
      match repairText repairs false text with
      | none => (files, some none)
      | some (false, _) => (files, some (some false))
      | some (true, text) =>
          match writeText files path text none with
          | (files, none) => (files, some (some true))
          | (files, some _) => (files, none)

/-- A step of `main` before the commit. -/
inductive Action (Path : Type) where
  | stage (path : Path) (content : Text)
  | patch (path : Path) (repairs : List Repair)

/-- The results of the patches so far, and the transaction. -/
def perform (files : Files Path) (state : List (Option Bool) × Transaction Path) :
    Action Path → Option (List (Option Bool) × Transaction Path)
  | .stage path content => do
      let (_, transaction) ← state.2.stage files path content
      return (state.1, transaction)
  | .patch path repairs => do
      let (result, transaction) ← patch state.2 files path repairs
      return (state.1 ++ [result], transaction)

/-- The files after the steps and the commit, and the exit code; `none` is an exception. -/
def apply (faults : Path → Option (Option (List UInt8))) (files : Files Path)
    (actions : List (Action Path)) : Files Path × Option Nat :=
  match actions.foldlM (perform files) ([], {}) with
  | none => (files, none)
  | some (results, transaction) =>
      if results.any Option.isNone then (files, some 2)
      else
        match transaction.commit faults files with
        | (files, .ok _) => (files, some 0)
        | (files, .error _) => (files, none)

end

/-- Lines with their ends. -/
def lines (text : List String) : Text :=
  ⟨text.flatMap fun line => (Text.ofString line).codes ++ [10]⟩

def prefillStub : Text := lines [
  "# XPU MLA prefill registration for vllm_kunlun.",
  "#",
  "# Per the drift map: \"Sparse MLA prefill moved to the MLAPrefillBackend",
  "# registry ... On P800 no registered backend is CUDA-free\". The engine",
  "# instantiates an MLA prefill backend in MLAAttention unconditionally, but",
  "# the sparse XPU attention impl handles prefill inside forward_mqa, so the",
  "# MHA prefill path never runs for sparse models. This registration exists",
  "# so construction has a valid target; reaching the run methods means a",
  "# dense-MLA model hit an unsupported path on XPU and must fail loudly",
  "# instead of silently dispatching to CUDA kernels.",
  "from __future__ import annotations",
  "",
  "import torch",
  "",
  "from vllm.v1.attention.backends.mla.prefill.base import MLAPrefillBackend",
  "",
  "",
  "class XPUMLAPrefillStub(MLAPrefillBackend):",
  "",
  "    @staticmethod",
  "    def get_name() -> str:",
  "        return \"XPU_MLA_PREFILL_STUB\"",
  "",
  "    @classmethod",
  "    def supports_compute_capability(cls, device_capability) -> bool:",
  "        return True",
  "",
  "    @classmethod",
  "    def supports_dtype(cls, dtype: torch.dtype) -> bool:",
  "        return dtype in (torch.bfloat16, torch.float16)",
  "",
  "    @classmethod",
  "    def is_available(cls) -> bool:",
  "        return True",
  "",
  "    def __init__(",
  "        self,",
  "        *,",
  "        num_heads: int,",
  "        scale: float,",
  "        kv_lora_rank: int,",
  "        qk_nope_head_dim: int,",
  "        qk_rope_head_dim: int,",
  "        v_head_dim: int,",
  "        vllm_config=None,",
  "    ) -> None:",
  "        self.num_heads = num_heads",
  "        self.scale = scale",
  "        self.kv_lora_rank = kv_lora_rank",
  "        self.qk_nope_head_dim = qk_nope_head_dim",
  "        self.qk_rope_head_dim = qk_rope_head_dim",
  "        self.v_head_dim = v_head_dim",
  "        self.vllm_config = vllm_config",
  "",
  "    def run_prefill_new_tokens(self, *args, **kwargs):",
  "        raise NotImplementedError(",
  "            \"dense MLA prefill is not implemented on XPU; the sparse XPU \"",
  "            \"MLA impl handles prefill inside forward_mqa\"",
  "        )",
  "",
  "    def run_prefill_context_chunk(self, *args, **kwargs):",
  "        raise NotImplementedError(",
  "            \"dense MLA prefill is not implemented on XPU; the sparse XPU \"",
  "            \"MLA impl handles prefill inside forward_mqa\"",
  "        )"]

def deepseekV2 : List Repair := [
  ⟨lines ["from vllm.model_executor.layers.mla import MLAModules, MultiHeadLatentAttention"],
    lines [
      "from vllm.model_executor.layers.mla import (",
      "    MLAModules,",
      "    MultiHeadLatentAttentionWrapper as MultiHeadLatentAttention,",
      ")"]⟩,
  ⟨lines [
      "class DeepseekV2ForCausalLM(nn.Module, SupportsPP, MixtureOfExperts, SupportsLoRA):",
      "    packed_modules_mapping = \x7b",
      "        \"gate_up_proj\": [\"gate_proj\", \"up_proj\"],",
      "    \x7d"],
    lines [
      "class DeepseekV2ForCausalLM(nn.Module, SupportsPP, MixtureOfExperts, SupportsLoRA):",
      "    packed_modules_mapping = \x7b",
      "        \"gate_up_proj\": [\"gate_proj\", \"up_proj\"],",
      "    \x7d",
      "",
      "    def embed_input_ids(self, input_ids: torch.Tensor) -> torch.Tensor:",
      "        return self.model.embed_tokens(input_ids)",
      "",
      "    def compute_logits(self, hidden_states: torch.Tensor) -> torch.Tensor:",
      "        return self.logits_processor(self.lm_head, hidden_states)"]⟩,
  ⟨lines [
      "        if rope_scaling:",
      "            rope_scaling[\"rope_type\"] = \"deepseek_yarn\""],
    lines [
      "        if rope_scaling and rope_scaling.get(\"rope_type\", \"default\") != \"default\":",
      "            rope_scaling[\"rope_type\"] = \"deepseek_yarn\"",
      "        elif rope_scaling:",
      "            rope_scaling = None"]⟩,
  ⟨lines [
      "        if rope_scaling:",
      "            mscale_all_dim = rope_scaling.get(\"mscale_all_dim\", False)",
      "            scaling_factor = rope_scaling[\"factor\"]"],
    lines [
      "        if rope_scaling and rope_scaling.get(\"rope_type\") == \"deepseek_yarn\":",
      "            mscale_all_dim = rope_scaling.get(\"mscale_all_dim\", False)",
      "            scaling_factor = rope_scaling[\"factor\"]"]⟩,
  ⟨lines [
      "        self.rotary_emb = get_rope(",
      "            qk_rope_head_dim,",
      "            rotary_dim=qk_rope_head_dim,",
      "            max_position=max_position_embeddings,",
      "            base=rope_theta,",
      "            rope_scaling=rope_scaling,",
      "            is_neox_style=False,",
      "        )"],
    lines [
      "        rope_parameters = \x7b",
      "            \"rope_dim\": qk_rope_head_dim,",
      "            \"rope_theta\": rope_theta,",
      "            **(rope_scaling or \x7b\x7d),",
      "        \x7d",
      "        self.rotary_emb = get_rope(",
      "            qk_rope_head_dim,",
      "            max_position=max_position_embeddings,",
      "            rope_parameters=rope_parameters,",
      "            is_neox_style=False,",
      "        )"]⟩,
  ⟨lines [
      "        if self.is_v32:",
      "            self.indexer = Indexer("],
    lines [
      "        if self.is_v32:",
      "            self.indexer_rope_emb = get_rope(",
      "                qk_rope_head_dim,",
      "                max_position=max_position_embeddings,",
      "                rope_parameters=config.rope_parameters,",
      "                is_neox_style=not getattr(config, \"indexer_rope_interleave\", False),",
      "            )",
      "            self.indexer = Indexer("]⟩,
  ⟨lines [
      "        else:",
      "            self.indexer = None",
      "",
      "        mla_modules = MLAModules("],
    lines [
      "        else:",
      "            self.indexer_rope_emb = None",
      "            self.indexer = None",
      "",
      "        mla_modules = MLAModules("]⟩,
  ⟨lines [
      "            indexer=self.indexer,",
      "            is_sparse=self.is_v32,"],
    lines [
      "            indexer=self.indexer,",
      "            indexer_rotary_emb=self.indexer_rope_emb,",
      "            is_sparse=self.is_v32,"]⟩,
  ⟨lines ["            self.k_cache.kv_cache[0],"],
    lines ["            self.k_cache.kv_cache,"]⟩,
  ⟨lines [
      "        router_logits, _ = self.gate(hidden_states)",
      "        fused_moe_out = self.experts(",
      "            hidden_states=hidden_states, router_logits=router_logits",
      "        )",
      "",
      "        if self.shared_experts is not None:",
      "            shared_output, final_hidden_states = fused_moe_out",
      "        else:",
      "            shared_output = None",
      "            final_hidden_states = fused_moe_out",
      "",
      "        # Fix FP16 overflow",
      "        # See DeepseekV2DecoderLayer for more details.",
      "        if hidden_states.dtype != torch.float16:",
      "            final_hidden_states *= self.routed_scaling_factor",
      "        elif self.shared_experts is not None:",
      "            assert shared_output is not None",
      "            shared_output *= 1.0 / self.routed_scaling_factor",
      "",
      "        if self.shared_experts is not None:",
      "            assert shared_output is not None",
      "            final_hidden_states += shared_output",
      ""],
    lines [
      "        router_logits, _ = self.gate(hidden_states)",
      "        final_hidden_states = self.experts(",
      "            hidden_states=hidden_states, router_logits=router_logits",
      "        )",
      "",
      "        # Fix FP16 overflow",
      "        # See DeepseekV2DecoderLayer for more details.",
      "        if hidden_states.dtype != torch.float16:",
      "            final_hidden_states *= self.routed_scaling_factor",
      ""]⟩,
  ⟨lines [
      "        elif self.tp_size > 1:",
      "            final_hidden_states = self.experts.maybe_all_reduce_tensor_model_parallel(",
      "                final_hidden_states",
      "            )"],
    ⟨[]⟩⟩,
  ⟨lines [
      "        expert_params_mapping = FusedMoE.make_expert_params_mapping(",
      "            ckpt_gate_proj_name=\"gate_proj\",",
      "            ckpt_down_proj_name=\"down_proj\",",
      "            ckpt_up_proj_name=\"up_proj\",",
      "            num_experts=self.config.n_routed_experts,",
      "            num_redundant_experts=self.num_redundant_experts,",
      "        )"],
    lines [
      "        from vllm.model_executor.layers.fused_moe import (",
      "            fused_moe_make_expert_params_mapping,",
      "        )",
      "",
      "        expert_params_mapping = fused_moe_make_expert_params_mapping(",
      "            self,",
      "            ckpt_gate_proj_name=\"gate_proj\",",
      "            ckpt_down_proj_name=\"down_proj\",",
      "            ckpt_up_proj_name=\"up_proj\",",
      "            num_experts=self.config.n_routed_experts,",
      "            num_redundant_experts=self.num_redundant_experts,",
      "        )"]⟩]

/-- The wrapper of the vendor operator calls the torch reference where the operator is missing. -/
def opFallback : Repair :=
  ⟨lines [
      "def kv_spans_from_batches(start_seq_loc, seq_len_per_batch, device):",
      "    # The engine removed this helper; the vendor op is the",
      "    # exact-equal replacement (verify_kv_spans_pod.py).",
      "    starts = start_seq_loc.to(torch.int64).to(device).contiguous()",
      "    lens = seq_len_per_batch.to(torch.int64).to(device).contiguous()",
      "    return torch.ops.xspeedgate_ops.kv_spans_from_batches(starts, lens)"],
    lines [
      "def kv_spans_from_batches(start_seq_loc, seq_len_per_batch, device):",
      "    # The engine removed this helper. The pinned xspeedgate_ops does",
      "    # not register the vendor op, so use the torch reference",
      "    # (exact-equal: verify_kv_spans_pod.py) when the op is absent.",
      "    try:",
      "        op = torch.ops.xspeedgate_ops.kv_spans_from_batches",
      "    except AttributeError:",
      "        op = None",
      "    if op is not None:",
      "        starts = start_seq_loc.to(torch.int64).to(device).contiguous()",
      "        lens = seq_len_per_batch.to(torch.int64).to(device).contiguous()",
      "        return op(starts, lens)",
      "    query_start_loc = start_seq_loc.to(torch.long).cpu()",
      "    seq_lens = seq_len_per_batch.to(torch.long).cpu()",
      "    num_reqs = seq_lens.numel()",
      "    query_counts = query_start_loc[1:] - query_start_loc[:-1]",
      "    num_tokens = int(query_start_loc[-1].item())",
      "    kv_starts_per_batch = torch.cumsum(seq_lens, dim=0) - seq_lens",
      "    batch_id = torch.repeat_interleave(torch.arange(num_reqs), query_counts)",
      "    row_starts = kv_starts_per_batch[batch_id]",
      "    pos_within_query = (",
      "        torch.arange(num_tokens)",
      "        - torch.repeat_interleave(query_start_loc[:-1], query_counts)",
      "        + 1",
      "    )",
      "    context_len = torch.repeat_interleave(seq_lens - query_counts, query_counts)",
      "    row_ends = row_starts + context_len + pos_within_query",
      "    return (",
      "        row_starts.int().to(device),",
      "        row_ends.int().to(device),",
      "    )"]⟩

/-- The wrapper itself, in the place of the helper that the engine removed. -/
def opWrapper : Repair :=
  ⟨lines [
      "from vllm.v1.attention.backends.utils import (",
      "    CommonAttentionMetadata,",
      "    split_decodes_and_prefills,",
      ")"],
    lines [
      "from vllm.v1.attention.backends.utils import (",
      "    CommonAttentionMetadata,",
      "    split_decodes_and_prefills,",
      ")",
      "",
      "",
      "def kv_spans_from_batches(start_seq_loc, seq_len_per_batch, device):",
      "    # The engine removed this helper; the vendor op is the",
      "    # exact-equal replacement (verify_kv_spans_pod.py).",
      "    starts = start_seq_loc.to(torch.int64).to(device).contiguous()",
      "    lens = seq_len_per_batch.to(torch.int64).to(device).contiguous()",
      "    return torch.ops.xspeedgate_ops.kv_spans_from_batches(starts, lens)"]⟩

def indexer : List Repair := [
  ⟨lines [
      "from vllm.v1.attention.backends.mla.indexer import (",
      "    DeepseekV32IndexerMetadataBuilder,",
      "    kv_spans_from_batches,",
      "    split_prefill_chunks,",
      ")"],
    lines [
      "from vllm import envs",
      "from vllm.v1.attention.backends.mla.indexer import (",
      "    DeepseekV32IndexerMetadataBuilder,",
      "    split_indexer_prefill_chunks,",
      ")"]⟩,
  opFallback,
  opWrapper,
  ⟨lines [
      "        chunk_seq_ids = split_prefill_chunks(",
      "            common_attn_metadata.seq_lens_cpu,",
      "            self.max_prefill_buffer_size,",
      "            num_decodes,",
      "        )"],
    lines [
      "        prefill_query_lens_cpu = torch.diff(",
      "            query_start_loc_cpu[",
      "                num_decodes : num_decodes + num_prefills + 1",
      "            ]",
      "        )",
      "        chunk_seq_ids = split_indexer_prefill_chunks(",
      "            common_attn_metadata.seq_lens_cpu[num_decodes:],",
      "            prefill_query_lens_cpu,",
      "            self.max_prefill_buffer_size,",
      "            envs.VLLM_SPARSE_INDEXER_MAX_LOGITS_MB * 1024 * 1024,",
      "            request_offset=num_decodes,",
      "        )"]⟩,
  ⟨lines [
      "        chunks = [",
      "            self.build_one_prefill_chunk(",
      "                reqs_start,",
      "                reqs_end,",
      "                query_start_loc_cpu,"],
    lines [
      "        chunks = [",
      "            self.build_one_prefill_chunk(",
      "                req_slice.start,",
      "                req_slice.stop,",
      "                query_start_loc_cpu,"]⟩,
  ⟨lines ["            for reqs_start, reqs_end in chunk_seq_ids"],
    lines ["            for req_slice, _query_slice in chunk_seq_ids"]⟩]

def pluginInit : List Repair := [
  ⟨lines [
      "    # 7. Add torch_xmlir's missing memory-info API.",
      "    bootstrap.patch_memory_info(logger)"],
    lines [
      "    # 7. Add torch_xmlir's missing memory-info API.",
      "    bootstrap.patch_memory_info(logger)",
      "    # 8. Register the XPU MLA prefill stub for the engine's",
      "    #    prefill registry: sparse XPU MLA handles prefill inside",
      "    #    forward_mqa, the stub makes MLAAttention construction",
      "    #    valid on XPU and fails loudly if the MHA prefill path is",
      "    #    ever reached. Runs at plugin activation so every worker",
      "    #    process sees the registration.",
      "    from vllm.v1.attention.backends.mla.prefill.registry import (",
      "        MLAPrefillBackendEnum,",
      "        register_mla_prefill_backend,",
      "    )",
      "",
      "    register_mla_prefill_backend(",
      "        MLAPrefillBackendEnum.CUSTOM,",
      "        \"vllm_kunlun.v1.attention.backends.mla.prefill_xpu.\"",
      "        \"XPUMLAPrefillStub\",",
      "    )"]⟩]

def kunlunPlatform : List Repair := [
  ⟨lines [
      "    def is_cuda_alike(self) -> bool:",
      "        \"\"\"Stateless version of [torch.cuda.is_available][].\"\"\"",
      "        return self._enum in (PlatformEnum.CUDA, PlatformEnum.ROCM)"],
    lines [
      "    def is_cuda_alike(self) -> bool:",
      "        \"\"\"Stateless version of [torch.cuda.is_available][].",
      "",
      "        torch_xmlir maps the XPU onto the torch.cuda API end to end, so",
      "        this platform's real contract is CUDA-alike even though its",
      "        PlatformEnum is OOT, not CUDA/ROCM.",
      "        \"\"\"",
      "        return True"]⟩,
  ⟨lines [
      "import psutil",
      "import torch",
      "import vllm.envs as envs"],
    lines [
      "import os",
      "",
      "import psutil",
      "import torch",
      "import vllm.envs as envs"]⟩,
  ⟨lines [
      "            use_flashmla = (",
      "                envs.VLLM_ATTENTION_BACKEND is None",
      "                or envs.VLLM_ATTENTION_BACKEND == \"FLASHMLA\"",
      "            )"],
    lines [
      "            attention_backend = os.getenv(\"VLLM_ATTENTION_BACKEND\")",
      "            use_flashmla = (",
      "                attention_backend is None",
      "                or attention_backend == \"FLASHMLA\"",
      "            )"]⟩,
  ⟨lines [
      "            from vllm.attention.ops.flashmla import is_flashmla_supported",
      "",
      "            if (",
      "                use_flashmla",
      "                and is_flashmla_supported()[0]",
      "                and cache_config.block_size != 64",
      "            ):"],
    lines [
      "            from vllm.v1.attention.ops.flashmla import (",
      "                is_flashmla_dense_supported,",
      "            )",
      "",
      "            if (",
      "                use_flashmla",
      "                and is_flashmla_dense_supported()[0]",
      "                and cache_config.block_size != 64",
      "            ):"]⟩,
  ⟨lines [
      "                logger.info(",
      "                    \"Forcing kv cache block size to 64 for FlashMLASparse \" \"backend.\"",
      "                )",
      "",
      "        from vllm.config import CUDAGraphMode"],
    lines [
      "                logger.info(",
      "                    \"Forcing kv cache block size to 64 for FlashMLASparse \" \"backend.\"",
      "                )",
      "",
      "        from vllm.v1.attention.backends.mla.prefill.registry import (",
      "            MLAPrefillBackendEnum,",
      "            register_mla_prefill_backend,",
      "        )",
      "        register_mla_prefill_backend(",
      "            MLAPrefillBackendEnum.CUSTOM,",
      "            \"vllm_kunlun.v1.attention.backends.mla.prefill_xpu.\"",
      "            \"XPUMLAPrefillStub\",",
      "        )",
      "        if vllm_config.attention_config is not None:",
      "            vllm_config.attention_config.mla_prefill_backend = (",
      "                MLAPrefillBackendEnum.CUSTOM",
      "            )",
      "",
      "        from vllm.config import CUDAGraphMode"]⟩]

/-- The files below `SITE`. -/
inductive RuntimeFile where
  | flashmlaSparse
  | deepseekV2
  | indexer
  | prefillXpu
  | pluginInit
  | kunlunPlatform
deriving DecidableEq

/-- The steps of `main`, for the text of the ported file when the script has one beside it. -/
def actions (ported : Option Text) : List (Action RuntimeFile) :=
  (ported.map (Action.stage .flashmlaSparse)).toList ++ [
    .patch .deepseekV2 deepseekV2,
    .patch .indexer indexer,
    .stage .prefillXpu prefillStub,
    .patch .pluginInit pluginInit,
    .patch .kunlunPlatform kunlunPlatform]

/-- `main`, for the bytes of the file beside the script. -/
def main (ported : Option (List UInt8)) (faults : RuntimeFile → Option (Option (List UInt8)))
    (files : Files RuntimeFile) : Files RuntimeFile × Option Nat :=
  match ported with
  | none => apply faults files (actions none)
  | some bytes =>
      match readText bytes with
      | none => (files, none)
      | some content => apply faults files (actions (some content))

end InferForge.Patches.Drift

import Kona.Executor.Execute

/-!
# Gas accounting of a block

The transaction loop of `execute_payload` keeps `cumulative_gas_used` as a
`u64` and checks each transaction against `gas_limit - cumulative_gas_used`.
Both operations wrap in a release build: a subtraction with
`cumulative_gas_used > gas_limit` would make every later check pass, and an
addition past `2^64` would restart the count. Neither happens as long as the
EVM reports, for each committed transaction, no more gas than its environment's
limit, and none for a system deposit before Regolith, whose gas limit the check
does not look at (`GasWithinLimit`).

`executeTransaction_gas` is the step: from `cumulative_gas_used ≤ gas_limit`,
a successful iteration adds a gas use that keeps the exact sum within
`gas_limit`. `foldlM_cumulativeGasUsed_le` carries `cumulative_gas_used ≤
gas_limit` over the loop, and `executePayload_gas_within_limit` states it for
every iteration of every block, with the header's `gas_used`.

The same section of `execute_payload` computes the block's excess blob gas
twice; `executePayload_excessBlobGas` lifts the agreement of
`blobExcessGas_eq_cancunFields` to the header `execute_payload` returns.
-/

namespace Kona.Executor

section Gas

variable {σ β : Type} {codec : Codec} {evm : Evm σ β}

/-- `revm`'s gas accounting, as the executor relies on it: a committed
transaction uses at most the gas limit of its environment, and a system
transaction uses none when Regolith is not active. -/
def GasWithinLimit (evm : Evm σ β) (isRegolith : Bool) : Prop :=
  ∀ parent cfg blockEnv txEnv db result db',
    evm.transactCommit parent cfg blockEnv txEnv db = .ok result db' →
      result.gasUsed ≤ txEnv.gasLimit ∧
        (isRegolith = false → txEnv.optimism.isSystemTransaction = some true → result.gasUsed = 0)

@[simp] theorem cumulativeGasUsed_addTransaction (st : LoopState) (config : RollupConfig)
    (timestamp : UInt64) (tx : OpTxEnvelope) (d : Option (Option AccountInfo))
    (r : ExecutionResult) :
    (st.addTransaction codec config timestamp tx d r).cumulativeGasUsed =
      st.cumulativeGasUsed + r.gasUsed := rfl

variable {config : RollupConfig} {timestamp : UInt64} {parent : SealedHeader}
  {cfg : CfgEnvWithHandlerCfg} {blockEnv : BlockEnv} {gasLimit : UInt64} {isRegolith : Bool}

/-- The block gas check, with `revm`'s accounting: a transaction that passed
the check at a cumulative gas within the limit, and was committed in the
environment prepared for it, keeps the exact sum within the limit. -/
theorem gasUsed_le_of_check (hgas : GasWithinLimit evm isRegolith) {st : LoopState}
    {tx : OpTxEnvelope} {raw : Bytes} {txEnv : TxEnv} {db db' : σ} {result : ExecutionResult}
    (hst : st.cumulativeGasUsed ≤ gasLimit)
    (hcheck : ¬ (extractTxGasLimit tx > (gasLimit - st.cumulativeGasUsed).toNat ∧
      (isRegolith || !isSystemTransaction tx) = true))
    (htx : prepareTxEnv codec tx raw = .ok txEnv)
    (hres : evm.transactCommit parent cfg blockEnv txEnv db = .ok result db') :
    st.cumulativeGasUsed.toNat + result.gasUsed.toNat ≤ gasLimit.toNat := by
  obtain ⟨hle, hsys⟩ := hgas _ _ _ _ _ _ _ hres
  obtain ⟨hgl, hflag⟩ := prepareTxEnv_eq_ok htx
  rw [UInt64.toNat_sub_of_le _ _ hst] at hcheck
  rw [u64_le_iff] at hst hle
  by_cases hexempt : (isRegolith || !isSystemTransaction tx) = true
  · have hlimit : result.gasUsed.toNat ≤ extractTxGasLimit tx := by
      rw [hgl, u64_toNat_ofNat] at hle
      exact hle.trans (Nat.mod_le _ _)
    have : ¬ extractTxGasLimit tx > gasLimit.toNat - st.cumulativeGasUsed.toNat :=
      fun hgt => hcheck ⟨hgt, hexempt⟩
    omega
  · simp only [Bool.or_eq_true, Bool.not_eq_true', not_or, Bool.not_eq_false] at hexempt
    rw [hsys (by simpa using hexempt.1) (by rw [hflag, hexempt.2]), UInt64.toNat_zero]
    omega

/-- Adding a gas use that keeps the exact sum within the limit does not wrap. -/
theorem toNat_cumulativeGasUsed_add {st : LoopState} {used : UInt64}
    (h : st.cumulativeGasUsed.toNat + used.toNat ≤ gasLimit.toNat) :
    (st.cumulativeGasUsed + used).toNat = st.cumulativeGasUsed.toNat + used.toNat := by
  rw [u64_toNat_add, Nat.mod_eq_of_lt (by have := u64_toNat_lt gasLimit; omega)]

/-- The step: an iteration that starts within the block's gas limit and
succeeds commits a transaction whose gas use keeps the exact sum within the
limit, so the `u64` addition does not wrap. -/
theorem executeTransaction_gas (hgas : GasWithinLimit evm isRegolith) {st st' : LoopState}
    {txRaw : OpTxEnvelope × Bytes} {db db' : σ} (hst : st.cumulativeGasUsed ≤ gasLimit)
    (h : executeTransaction codec evm config timestamp parent cfg blockEnv gasLimit isRegolith
      st txRaw db = .ok st' db') :
    ∃ txEnv depositor db₁ result, prepareTxEnv codec txRaw.1 txRaw.2 = .ok txEnv ∧
      loadDepositor evm isRegolith txRaw.1 db = .ok depositor db₁ ∧
      evm.transactCommit parent cfg blockEnv txEnv db₁ = .ok result db' ∧
      st.cumulativeGasUsed.toNat + result.gasUsed.toNat ≤ gasLimit.toNat ∧
      st' = st.addTransaction codec config timestamp txRaw.1 depositor result := by
  obtain ⟨hcheck, -, txEnv, depositor, db₁, result, htx, hdep, hres, rfl⟩ :=
    executeTransaction_eq_ok h
  exact ⟨txEnv, depositor, db₁, result, htx, hdep, hres,
    gasUsed_le_of_check hgas hst hcheck htx hres, rfl⟩

/-- The run: `cumulative_gas_used ≤ gas_limit` holds after every successful
run of the loop that starts within the limit. -/
theorem foldlM_cumulativeGasUsed_le (hgas : GasWithinLimit evm isRegolith) :
    ∀ (txs : List (OpTxEnvelope × Bytes)) {st st' : LoopState} {db db' : σ},
      st.cumulativeGasUsed ≤ gasLimit →
      txs.foldlM (executeTransaction codec evm config timestamp parent cfg blockEnv gasLimit
        isRegolith) st db = .ok st' db' →
      st'.cumulativeGasUsed ≤ gasLimit
  | [], _, _, _, _, hst, h => by cases h; exact hst
  | _ :: txs, _, _, _, _, hst, h => by
    rw [List.foldlM_cons, EStateM.bind_eq_ok] at h
    obtain ⟨st₁, db₁, h₁, h₂⟩ := h
    obtain ⟨_, _, _, result, -, -, -, hle, hst₁⟩ := executeTransaction_gas hgas hst h₁
    refine foldlM_cumulativeGasUsed_le hgas txs ?_ h₂
    rw [hst₁, u64_le_iff, cumulativeGasUsed_addTransaction, toNat_cumulativeGasUsed_add hle]
    exact hle

end Gas

section Block

variable {σ β : Type} (codec : Codec) (evm : Evm σ β)

/-- **Gas accounting of a block.** For every executor, payload and EVM whose
committed transactions use no more gas than their environment's limit, and none
for a system deposit before Regolith: every iteration of the transaction loop
starts with `cumulative_gas_used ≤ gas_limit`, so `gas_limit -
cumulative_gas_used` does not wrap; every iteration that commits a transaction
adds the gas it used without passing `gas_limit`, so the `u64` sum is exact;
and a header that `execute_payload` returns has `gas_used` equal to the final
`cumulative_gas_used` of the loop over the payload's transactions, decoded in
order, in the block environment `prepare_block_env` built and on the database
the two pre-block calls left, at most the payload's gas limit. -/
theorem executePayload_gas_within_limit (ex : StatelessL2BlockExecutor σ)
    (payload : L2PayloadAttributes)
    (hgas : GasWithinLimit evm (ex.config.isRegolithActive payload.timestamp)) :
    (∀ blockEnv gasLimit (txs : List (OpTxEnvelope × Bytes)) k db st db',
      (txs.take k).foldlM (payloadTxStep codec evm ex.config ex.parent payload blockEnv gasLimit)
        ⟨0, []⟩ db = .ok st db' →
      st.cumulativeGasUsed ≤ gasLimit ∧
      ∀ (hk : k < txs.length) st' db'',
        payloadTxStep codec evm ex.config ex.parent payload blockEnv gasLimit st txs[k] db' =
          .ok st' db'' →
        ∃ txEnv db₁ result,
          evm.transactCommit ex.parent (evmCfgEnv ex.config payload.timestamp) blockEnv txEnv db₁ =
            .ok result db'' ∧
          st.cumulativeGasUsed.toNat + result.gasUsed.toNat ≤ gasLimit.toNat ∧
          st'.cumulativeGasUsed.toNat = st.cumulativeGasUsed.toNat + result.gasUsed.toNat) ∧
    ∀ H ex', executePayload codec evm payload ex = .ok H ex' →
      ∃ (gasLimit : UInt64) (blockEnv : BlockEnv) (txs : List (OpTxEnvelope × Bytes))
        (st : LoopState) (db db' : σ),
        payload.gasLimit = some gasLimit ∧
        prepareBlockEnv (revmSpecId ex.config payload.timestamp) ex.config ex.parent.header
          payload = .ok blockEnv ∧
        PreBlockCalls evm ex.config ex.parent payload blockEnv ex.db db ∧
        txs.map Prod.snd = payload.transactions ∧
        (∀ txRaw ∈ txs, codec.decode2718 txRaw.2 = .ok txRaw.1) ∧
        txs.foldlM (payloadTxStep codec evm ex.config ex.parent payload blockEnv gasLimit)
          ⟨0, []⟩ db = .ok st db' ∧
        H.gasUsed = st.cumulativeGasUsed.toNat ∧ H.gasUsed ≤ gasLimit.toNat := by
  refine ⟨fun blockEnv gasLimit txs k db st db' h => ?_, fun H ex' h => ?_⟩
  · have hst := foldlM_cumulativeGasUsed_le hgas (txs.take k) ((u64_le_iff _ _).2 (Nat.zero_le _)) h
    refine ⟨hst, fun hk st' db'' hstep => ?_⟩
    obtain ⟨txEnv, -, db₁, result, -, -, hres, hle, rfl⟩ := executeTransaction_gas hgas hst hstep
    exact ⟨txEnv, db₁, result, hres, hle, toNat_cumulativeGasUsed_add hle⟩
  · obtain ⟨db, hb, -⟩ := executePayload_eq_ok.1 h
    obtain ⟨env, g, txs, st, db₁, db₂, root, henv, hg, hpre, hdec, hloop, rfl⟩ :=
      buildHeader_eq_ok hb
    obtain ⟨hraw, hdecode⟩ := decodeTransactions_eq_ok hdec
    have hst := foldlM_cumulativeGasUsed_le hgas txs ((u64_le_iff _ _).2 (Nat.zero_le _)) hloop
    exact ⟨g, env, txs, st, db₁, db₂, hg, henv, hpre, hraw, hdecode, hloop, rfl, hst⟩

end Block

/-- The sample database reports gas within the limits, whatever the fork. -/
theorem gasWithinLimit_sampleEvm (isRegolith : Bool) : GasWithinLimit sampleEvm isRegolith := by
  intro _ _ _ txEnv _ result _ h
  simp only [sampleEvm, EStateM.Result.ok.injEq] at h
  obtain ⟨rfl, -⟩ := h
  constructor
  · split <;> simp [ExecutionResult.gasUsed, u64_le_iff]
  · intro _ hs; simp [ExecutionResult.gasUsed, hs]

theorem executePayload_gas_within_limit_samplePayload :
    GasWithinLimit sampleEvm (sampleConfig.isRegolithActive 2) ∧
    ∀ H ex', executePayload sampleCodec sampleEvm (samplePayload (some 1000)) sampleExecutor =
        .ok H ex' →
      ∃ (gasLimit : UInt64) (blockEnv : BlockEnv) (txs : List (OpTxEnvelope × Bytes))
        (st : LoopState) (db db' : Nat),
        (samplePayload (some 1000)).gasLimit = some gasLimit ∧
        prepareBlockEnv (revmSpecId sampleConfig 2) sampleConfig sampleParent.header
          (samplePayload (some 1000)) = .ok blockEnv ∧
        PreBlockCalls sampleEvm sampleConfig sampleParent (samplePayload (some 1000)) blockEnv
          sampleExecutor.db db ∧
        txs.map Prod.snd = (samplePayload (some 1000)).transactions ∧
        (∀ txRaw ∈ txs, sampleCodec.decode2718 txRaw.2 = .ok txRaw.1) ∧
        txs.foldlM (payloadTxStep sampleCodec sampleEvm sampleConfig sampleParent
          (samplePayload (some 1000)) blockEnv gasLimit) ⟨0, []⟩ db = .ok st db' ∧
        H.gasUsed = st.cumulativeGasUsed.toNat ∧ H.gasUsed ≤ gasLimit.toNat :=
  ⟨gasWithinLimit_sampleEvm _, (executePayload_gas_within_limit sampleCodec sampleEvm
    sampleExecutor (samplePayload (some 1000)) (gasWithinLimit_sampleEvm _)).2⟩

section Block

variable {σ β : Type} (codec : Codec) (evm : Evm σ β)

/-- **Blob gas of a block.** For every executor and payload at an Ecotone
timestamp whose parent carries both blob-gas fields, each below `2^63`, exactly
when Ecotone was active at the parent's timestamp: when `execute_payload`
returns a header, the excess blob gas of the block environment given to the EVM
is the header's excess blob gas, `e + u - 393216` of the parent's fields (`0`
after a pre-Ecotone parent). -/
theorem executePayload_excessBlobGas (ex : StatelessL2BlockExecutor σ)
    (payload : L2PayloadAttributes)
    (hEcotone : ex.config.isEcotoneActive payload.timestamp = true)
    (hFields : BlobFieldsFollowFork ex.config ex.parent.header) :
    ∀ H ex', executePayload codec evm payload ex = .ok H ex' →
      ∃ blockEnv, prepareBlockEnv (revmSpecId ex.config payload.timestamp) ex.config
          ex.parent.header payload = .ok blockEnv ∧
        blockEnv.blobExcessGasAndPrice.map (fun b => b.excessBlobGas.toNat) = H.excessBlobGas ∧
        H.excessBlobGas = some (ex.parent.header.excessBlobGas.getD 0 +
          ex.parent.header.blobGasUsed.getD 0 - targetBlobGasPerBlock) := by
  intro H ex' h
  obtain ⟨db, hb, -⟩ := executePayload_eq_ok.1 h
  obtain ⟨env, _, _, _, _, _, _, henv, -, -, -, -, rfl⟩ := buildHeader_eq_ok hb
  obtain ⟨_, _, -, rfl⟩ := prepareBlockEnv_eq_ok henv
  exact ⟨_, henv, blobExcessGas_eq_cancunFields hEcotone hFields⟩

end Block

/-- The sample parent is an Ecotone block with both blob-gas fields, zero. -/
theorem blobFieldsFollowFork_sampleParent :
    BlobFieldsFollowFork sampleConfig sampleParent.header := by
  rw [BlobFieldsFollowFork, if_pos (by decide)]
  exact ⟨0, 0, rfl, rfl, by decide, by decide⟩

theorem executePayload_excessBlobGas_samplePayload :
    sampleConfig.isEcotoneActive 2 = true ∧ BlobFieldsFollowFork sampleConfig sampleParent.header ∧
    ∀ H ex', executePayload sampleCodec sampleEvm (samplePayload (some 1000)) sampleExecutor =
        .ok H ex' →
      ∃ blockEnv, prepareBlockEnv (revmSpecId sampleConfig 2) sampleConfig sampleParent.header
          (samplePayload (some 1000)) = .ok blockEnv ∧
        blockEnv.blobExcessGasAndPrice.map (fun b => b.excessBlobGas.toNat) = H.excessBlobGas ∧
        H.excessBlobGas = some (sampleParent.header.excessBlobGas.getD 0 +
          sampleParent.header.blobGasUsed.getD 0 - targetBlobGasPerBlock) :=
  ⟨rfl, blobFieldsFollowFork_sampleParent, executePayload_excessBlobGas sampleCodec sampleEvm
    sampleExecutor (samplePayload (some 1000)) rfl blobFieldsFollowFork_sampleParent⟩

end Kona.Executor

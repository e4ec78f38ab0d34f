import Kona.Executor.Types

/-!
# The block and transaction environments

`revm_spec_id`, `evm_cfg_env`, `prepare_block_env` and `prepare_tx_env` of
`src/crates/executor/src/lib.rs`, with what they call: the header methods
`next_block_base_fee` and `next_block_excess_blob_gas` of `alloy`, and `revm`'s
`calc_excess_blob_gas`. `cancunFields` is the closure of `execute_payload`
that sets the new header's blob-gas fields.

The excess blob gas of a block is computed twice, once for the EVM
(`prepare_block_env`, from `alloy`'s `u128` formula, or `0` from Ecotone on
when the parent lacks the fields) and once for the header (`cancunFields`, from
`revm`'s `u64` formula on the parent's fields cast to `u64`, or on zeros after a
pre-Ecotone parent). `blobExcessGas_eq_cancunFields` shows the two agree on
every Ecotone block whose parent carries the fields exactly when Ecotone was
active for it, each below `2^63`, so that neither the `u64` sum nor the casts
wrap.

`prepare_block_env` panics where it calls `expect`: without Canyon base-fee
parameters once Canyon is active, and without a payload gas limit
(`prepareBlockEnv_gasLimit_none`), and `alloy`'s base-fee formula panics when
it divides by zero. `prepareBlockEnv_eq_ok` says what it returns otherwise.
-/

namespace Kona.Executor

/-! ## Spec id and configuration environment -/

/-- `revm_spec_id`: the latest active fork, walking back from Fjord. -/
def revmSpecId (config : RollupConfig) (timestamp : UInt64) : SpecId :=
  if config.isFjordActive timestamp then .fjord
  else if config.isEcotoneActive timestamp then .ecotone
  else if config.isCanyonActive timestamp then .canyon
  else if config.isRegolithActive timestamp then .regolith
  else .bedrock

/-- From Ecotone on, the spec id is Ecotone or later. -/
theorem revmSpecId_isEnabledIn_ecotone {config : RollupConfig} {timestamp : UInt64}
    (h : config.isEcotoneActive timestamp = true) :
    (revmSpecId config timestamp).isEnabledIn .ecotone = true := by
  unfold revmSpecId
  split <;> simp_all [SpecId.isEnabledIn, SpecId.toNat]

/-- `evm_cfg_env`: the L2 chain id, the active spec id, the OP handler. -/
def evmCfgEnv (config : RollupConfig) (timestamp : UInt64) : CfgEnvWithHandlerCfg :=
  { chainId := config.l2ChainId, specId := revmSpecId config timestamp, isOptimism := true }

/-! ## Header arithmetic -/

/-- `TARGET_BLOB_GAS_PER_BLOCK`: three blobs of 131072 gas. -/
def targetBlobGasPerBlock : Nat := 393216

/-- `revm`'s `calc_excess_blob_gas` on `u64`: the sum wraps in a release build,
the subtraction saturates. -/
def calcExcessBlobGas (parentExcessBlobGas parentBlobGasUsed : UInt64) : UInt64 :=
  UInt64.ofNat ((parentExcessBlobGas + parentBlobGasUsed).toNat - targetBlobGasPerBlock)

/-- `Header::next_block_excess_blob_gas`: `alloy`'s `calc_excess_blob_gas` of
the header's `u128` fields, when it has both. -/
def Header.nextBlockExcessBlobGas (h : Header) : Option Nat := do
  let e ← h.excessBlobGas
  let u ← h.blobGasUsed
  pure ((e + u) % 2 ^ 128 - targetBlobGasPerBlock)

/-- Rust's `/`: a panic on a zero divisor. -/
def checkedDiv (a b : Nat) : Except Fault Nat :=
  if b = 0 then .error (.panic "attempt to divide by zero") else .ok (a / b)

/-- `alloy`'s `calc_next_block_base_fee` (EIP-1559) on `u128`. -/
def calcNextBlockBaseFee (gasUsed gasLimit baseFee : Nat) (p : BaseFeeParams) :
    Except Fault Nat := do
  let gasTarget ← checkedDiv gasLimit p.elasticityMultiplier
  match compare gasUsed gasTarget with
  | .eq => pure baseFee
  | .gt =>
    let d ← checkedDiv (baseFee * (gasUsed - gasTarget) % 2 ^ 128)
      (p.maxChangeDenominator * gasTarget % 2 ^ 128)
    pure ((baseFee + max 1 d) % 2 ^ 128)
  | .lt =>
    let d ← checkedDiv (baseFee * (gasTarget - gasUsed) % 2 ^ 128)
      (p.maxChangeDenominator * gasTarget % 2 ^ 128)
    pure (baseFee - d)

/-- `Header::next_block_base_fee`: none when the header has no base fee. -/
def Header.nextBlockBaseFee (h : Header) (p : BaseFeeParams) : Except Fault (Option Nat) :=
  match h.baseFeePerGas with
  | none => pure none
  | some b => some <$> calcNextBlockBaseFee h.gasUsed h.gasLimit b p

/-! ## The block environment -/

/-- `0x4200000000000000000000000000000000000011`, the block's coinbase. -/
def coinbase : Address := ⟨[0x42] ++ List.replicate 18 0 ++ [0x11], by simp⟩

/-- The `blob_excess_gas_and_price` of `prepare_block_env`: the parent's next
excess blob gas, else `0` from Ecotone on, cast to `u64`. -/
def blobExcessGasAndPrice (specId : SpecId) (parentHeader : Header) :
    Option BlobExcessGasAndPrice :=
  (parentHeader.nextBlockExcessBlobGas.orElse fun _ =>
      if specId.isEnabledIn .ecotone then some 0 else none).map
    fun x => ⟨UInt64.ofNat x⟩

/-- The `base_fee_params` of `prepare_block_env`: the Canyon parameters once
Canyon is active, which must then be present. -/
def baseFeeParams (config : RollupConfig) (timestamp : UInt64) : Except Fault BaseFeeParams :=
  if config.isCanyonActive timestamp then
    expect config.canyonBaseFeeParams "Canyon base fee params not provided"
  else pure config.baseFeeParams

/-- `prepare_block_env`. -/
def prepareBlockEnv (specId : SpecId) (config : RollupConfig) (parentHeader : Header)
    (payloadAttrs : L2PayloadAttributes) : Except Fault BlockEnv := do
  let baseFeeParams ← baseFeeParams config payloadAttrs.timestamp
  let nextBlockBaseFee ← parentHeader.nextBlockBaseFee baseFeeParams
  let gasLimit ← expect payloadAttrs.gasLimit "Gas limit not provided"
  pure { number := (parentHeader.number + 1).toNat, coinbase := coinbase,
         timestamp := payloadAttrs.timestamp.toNat, gasLimit := gasLimit.toNat,
         basefee := nextBlockBaseFee.getD 0, difficulty := 0,
         prevrandao := some payloadAttrs.prevRandao,
         blobExcessGasAndPrice := blobExcessGasAndPrice specId parentHeader }

/-- What `prepare_block_env` returns when it does not panic. -/
theorem prepareBlockEnv_eq_ok {specId : SpecId} {config : RollupConfig} {parentHeader : Header}
    {payloadAttrs : L2PayloadAttributes} {env : BlockEnv}
    (h : prepareBlockEnv specId config parentHeader payloadAttrs = .ok env) :
    ∃ gasLimit basefee, payloadAttrs.gasLimit = some gasLimit ∧
      env = { number := (parentHeader.number + 1).toNat, coinbase := coinbase,
              timestamp := payloadAttrs.timestamp.toNat, gasLimit := gasLimit.toNat,
              basefee := basefee, difficulty := 0,
              prevrandao := some payloadAttrs.prevRandao,
              blobExcessGasAndPrice := blobExcessGasAndPrice specId parentHeader } := by
  simp only [prepareBlockEnv, bind, Except.bind, pure, Except.pure] at h
  split at h; · cases h
  split at h; · cases h
  rename_i fee _
  cases hg : payloadAttrs.gasLimit with
  | none => simp [hg, expect] at h
  | some g =>
    simp only [hg, expect, Except.ok.injEq] at h
    exact ⟨g, fee.getD 0, rfl, h.symm⟩

/-- Without a payload gas limit, `prepare_block_env` panics on its `expect`
once its base-fee parameters and the parent's next base fee are computed. -/
theorem prepareBlockEnv_gasLimit_none {specId : SpecId} {config : RollupConfig}
    {parentHeader : Header} {payloadAttrs : L2PayloadAttributes} {p : BaseFeeParams}
    {fee : Option Nat} (hg : payloadAttrs.gasLimit = none)
    (hp : baseFeeParams config payloadAttrs.timestamp = .ok p)
    (hfee : parentHeader.nextBlockBaseFee p = .ok fee) :
    prepareBlockEnv specId config parentHeader payloadAttrs =
      .error (.panic "Gas limit not provided") := by
  simp only [prepareBlockEnv, bind, Except.bind, hp, hfee, hg, expect]

/-! ## Blob gas: the block environment and the header agree -/

/-- `(blob_gas_used, excess_blob_gas)` of the header `execute_payload` builds:
from Ecotone on, no blob gas and `revm`'s excess blob gas of the parent's fields
cast to `u64` (of zeros on the first Ecotone block); before, neither. -/
def cancunFields (config : RollupConfig) (parentHeader : Header) (timestamp : UInt64) :
    Option Nat × Option Nat :=
  if config.isEcotoneActive timestamp then
    let excessBlobGas :=
      if config.isEcotoneActive parentHeader.timestamp then
        calcExcessBlobGas (UInt64.ofNat (parentHeader.excessBlobGas.getD 0))
          (UInt64.ofNat (parentHeader.blobGasUsed.getD 0))
      else calcExcessBlobGas 0 0
    (some 0, some excessBlobGas.toNat)
  else (none, none)

/-- The parent carries both blob-gas fields, each below `2^63`, exactly when
Ecotone is active at its timestamp, and neither otherwise. -/
def BlobFieldsFollowFork (config : RollupConfig) (parentHeader : Header) : Prop :=
  if config.isEcotoneActive parentHeader.timestamp then
    ∃ e u, parentHeader.excessBlobGas = some e ∧ parentHeader.blobGasUsed = some u ∧
      e < 2 ^ 63 ∧ u < 2 ^ 63
  else parentHeader.excessBlobGas = none ∧ parentHeader.blobGasUsed = none

/-- `revm`'s formula on two values below `2^63` is the saturating difference
of their exact sum. -/
theorem calcExcessBlobGas_ofNat {e u : Nat} (he : e < 2 ^ 63) (hu : u < 2 ^ 63) :
    (calcExcessBlobGas (UInt64.ofNat e) (UInt64.ofNat u)).toNat = e + u - targetBlobGasPerBlock := by
  replace he : e < 9223372036854775808 := he
  replace hu : u < 9223372036854775808 := hu
  simp only [calcExcessBlobGas, u64_toNat_ofNat, u64_toNat_add, targetBlobGasPerBlock]
  omega

/-- Both computations of a block's excess blob gas give `e + u - 393216` of the
parent's fields (absent ones read as zero). -/
theorem blobExcessGas_eq_cancunFields {config : RollupConfig} {parentHeader : Header}
    {timestamp : UInt64} (hEcotone : config.isEcotoneActive timestamp = true)
    (hFields : BlobFieldsFollowFork config parentHeader) :
    ((blobExcessGasAndPrice (revmSpecId config timestamp) parentHeader).map
        fun b => b.excessBlobGas.toNat) = (cancunFields config parentHeader timestamp).2 ∧
      (cancunFields config parentHeader timestamp).2 =
        some (parentHeader.excessBlobGas.getD 0 + parentHeader.blobGasUsed.getD 0 -
          targetBlobGasPerBlock) := by
  have hspec := revmSpecId_isEnabledIn_ecotone hEcotone
  unfold BlobFieldsFollowFork at hFields
  simp only [cancunFields, hEcotone, if_true]
  split at hFields
  case isTrue hpar =>
    obtain ⟨e, u, he, hu, hle, hlu⟩ := hFields
    have hcast : ((e + u) % 2 ^ 128 - targetBlobGasPerBlock) % 2 ^ 64 =
        e + u - targetBlobGasPerBlock := by
      simp only [targetBlobGasPerBlock, Nat.reducePow] at hle hlu ⊢
      omega
    simpa [hpar, he, hu, calcExcessBlobGas_ofNat hle hlu, blobExcessGasAndPrice,
      Header.nextBlockExcessBlobGas, u64_toNat_ofNat] using hcast
  case isFalse hpar =>
    obtain ⟨he, hu⟩ := hFields
    simp [hpar, he, hu, hspec, blobExcessGasAndPrice, Header.nextBlockExcessBlobGas,
      calcExcessBlobGas, targetBlobGasPerBlock]

/-! ## Transactions -/

/-- `extract_tx_gas_limit`: the gas limit a transaction declares. Modelled from
the spec. -/
def extractTxGasLimit : OpTxEnvelope → Nat
  | .legacy tx _ => tx.gasLimit
  | .eip2930 tx _ => tx.gasLimit
  | .eip1559 tx _ => tx.gasLimit
  | .eip4844 tx _ => tx.gasLimit
  | .deposit tx => tx.gasLimit

/-- `is_system_transaction`: a deposit flagged as a system transaction.
Modelled from the spec. -/
def isSystemTransaction : OpTxEnvelope → Bool
  | .deposit tx => tx.isSystemTransaction
  | _ => false

/-- `TxKind` as `revm`'s `TransactTo`. -/
def transactTo : TxKind → TransactTo
  | .call a => .call a
  | .create => .create

/-- An access list as `revm` takes it, storage keys as big-endian numbers. -/
def accessListEnv (l : List AccessListItem) : List (Address × List Nat) :=
  l.map fun i => (i.address, i.storageKeys.map fun k => fromBeBytes k.toList)

/-- `recover_signer`, its error reported as `Failed to recover signer: {e}`. -/
def recoverCaller (codec : Codec) (tx : OpTxEnvelope) : Except Fault Address :=
  match codec.recoverSigner tx with
  | .ok a => .ok a
  | .error e => .error (.err ("Failed to recover signer: " ++ e))

/-- `prepare_tx_env`: the transaction environment of a decoded transaction and
its encoding. -/
def prepareTxEnv (codec : Codec) (transaction : OpTxEnvelope) (encodedTransaction : Bytes) :
    Except Fault TxEnv :=
  match transaction with
  | .legacy tx _ => do
    let caller ← recoverCaller codec transaction
    pure { caller := caller, gasLimit := UInt64.ofNat tx.gasLimit, gasPrice := tx.gasPrice,
           gasPriorityFee := none, transactTo := transactTo tx.«to», value := tx.value,
           data := tx.input, chainId := tx.chainId, nonce := some tx.nonce, accessList := [],
           blobHashes := [], maxFeePerBlobGas := none,
           optimism := ⟨none, none, some false, some encodedTransaction⟩ }
  | .eip2930 tx _ => do
    let caller ← recoverCaller codec transaction
    pure { caller := caller, gasLimit := UInt64.ofNat tx.gasLimit, gasPrice := tx.gasPrice,
           gasPriorityFee := none, transactTo := transactTo tx.«to», value := tx.value,
           data := tx.input, chainId := some tx.chainId, nonce := some tx.nonce,
           accessList := accessListEnv tx.accessList, blobHashes := [], maxFeePerBlobGas := none,
           optimism := ⟨none, none, some false, some encodedTransaction⟩ }
  | .eip1559 tx _ => do
    let caller ← recoverCaller codec transaction
    pure { caller := caller, gasLimit := UInt64.ofNat tx.gasLimit, gasPrice := tx.maxFeePerGas,
           gasPriorityFee := some tx.maxPriorityFeePerGas, transactTo := transactTo tx.«to»,
           value := tx.value, data := tx.input, chainId := some tx.chainId,
           nonce := some tx.nonce, accessList := accessListEnv tx.accessList, blobHashes := [],
           maxFeePerBlobGas := none,
           optimism := ⟨none, none, some false, some encodedTransaction⟩ }
  | .deposit tx =>
    pure { caller := tx.«from», gasLimit := UInt64.ofNat tx.gasLimit, gasPrice := 0,
           gasPriorityFee := none, transactTo := transactTo tx.«to», value := tx.value,
           data := tx.input, chainId := none, nonce := none, accessList := [], blobHashes := [],
           maxFeePerBlobGas := none,
           optimism := ⟨some tx.sourceHash, tx.mint, some tx.isSystemTransaction,
             some encodedTransaction⟩ }
  | .eip4844 .. => .error (.err "Unexpected tx type")

/-- The environment's gas limit is the transaction's, cast to `u64`, and its
system flag is the transaction's. -/
theorem prepareTxEnv_eq_ok {codec : Codec} {transaction : OpTxEnvelope} {raw : Bytes}
    {env : TxEnv} (h : prepareTxEnv codec transaction raw = .ok env) :
    env.gasLimit = UInt64.ofNat (extractTxGasLimit transaction) ∧
      env.optimism.isSystemTransaction = some (isSystemTransaction transaction) := by
  cases transaction <;> simp only [prepareTxEnv, bind, Except.bind, pure, Except.pure] at h <;>
    (try split at h) <;> cases h <;> exact ⟨rfl, rfl⟩

end Kona.Executor

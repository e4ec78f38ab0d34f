import Kona.Primitives

/-!
# The data of the stateless L2 block executor

`src/crates/executor/src/lib.rs` executes one OP Stack block at a time on top
of a trie-backed `revm` state. This module holds the data it reads and writes:
the rollup configuration and its fork schedule, headers, payload attributes, the
OP transaction and receipt envelopes, and the `revm` environments it fills in.
Every type keeps the fields of its Rust counterpart that the executor reads or
writes, under the same names; the rest are left out (listed in the model map).

Integer widths follow the Rust types. `u64` values (timestamps, block numbers,
the block and transaction gas counters of `revm`) are `UInt64`, whose `+` and
`-` wrap as a release build does. `u128` and `U256` values (header gas fields,
fees, values) are `Nat`; where the code does arithmetic on them that can
overflow, the operation says so with an explicit `% 2 ^ 128`.

The rollup configuration (`kona_derive::types::RollupConfig`), the
transaction-utility functions (`util.rs`) and the two system calls
(`eip4788.rs`, `canyon.rs`) are code of this repository outside the sources
given here. The configuration's fork predicates are modelled from the spec:
a fork is active from its activation time on, and a fork with no activation
time is never active, each fork read from its own field.
-/

namespace Kona.Executor

/-! ## Rollup configuration and fork schedule -/

/-- `BaseFeeParams`: the EIP-1559 base-fee update parameters. -/
structure BaseFeeParams where
  maxChangeDenominator : Nat
  elasticityMultiplier : Nat
deriving DecidableEq

/-- The fields of `RollupConfig` the executor reads. -/
structure RollupConfig where
  l2ChainId : UInt64
  regolithTime : Option UInt64
  canyonTime : Option UInt64
  ecotoneTime : Option UInt64
  fjordTime : Option UInt64
  baseFeeParams : BaseFeeParams
  canyonBaseFeeParams : Option BaseFeeParams

/-- A fork with activation time `activation` is active at `timestamp`
(`activation.map_or(false, |t| timestamp >= t)`). Modelled from the spec. -/
def activeAt (activation : Option UInt64) (timestamp : UInt64) : Bool :=
  activation.elim false fun t => decide (t ≤ timestamp)

namespace RollupConfig

/-- `is_regolith_active`. -/
def isRegolithActive (c : RollupConfig) (timestamp : UInt64) : Bool := activeAt c.regolithTime timestamp

/-- `is_canyon_active`. -/
def isCanyonActive (c : RollupConfig) (timestamp : UInt64) : Bool := activeAt c.canyonTime timestamp

/-- `is_ecotone_active`. -/
def isEcotoneActive (c : RollupConfig) (timestamp : UInt64) : Bool := activeAt c.ecotoneTime timestamp

/-- `is_fjord_active`. -/
def isFjordActive (c : RollupConfig) (timestamp : UInt64) : Bool := activeAt c.fjordTime timestamp

end RollupConfig

/-- The `revm` specification ids the executor selects, in `revm`'s order. -/
inductive SpecId
  | bedrock
  | regolith
  | canyon
  | ecotone
  | fjord
deriving DecidableEq, Repr

namespace SpecId

/-- The position of a spec id in `revm`'s order of forks. -/
def toNat : SpecId → Nat
  | bedrock => 0
  | regolith => 1
  | canyon => 2
  | ecotone => 3
  | fjord => 4

/-- `SpecId::is_enabled_in`: `self` is `other` or a later fork. -/
def isEnabledIn (self other : SpecId) : Bool := decide (other.toNat ≤ self.toNat)

end SpecId

/-! ## Headers and payload attributes -/

/-- `Bloom`: a 2048-bit log bloom filter. -/
abbrev Bloom := FixedBytes 256

/-- `alloy_consensus::Header`. -/
structure Header where
  parentHash : B256
  ommersHash : B256
  beneficiary : Address
  stateRoot : B256
  transactionsRoot : B256
  receiptsRoot : B256
  withdrawalsRoot : Option B256
  logsBloom : Bloom
  difficulty : Nat
  number : UInt64
  gasLimit : Nat
  gasUsed : Nat
  timestamp : UInt64
  extraData : Bytes
  mixHash : B256
  nonce : FixedBytes 8
  baseFeePerGas : Option Nat
  blobGasUsed : Option Nat
  excessBlobGas : Option Nat
  parentBeaconBlockRoot : Option B256
  requestsRoot : Option B256

/-- `Sealed<Header>`: a header with the hash it was sealed under (`seal()`,
also `hash()`). -/
structure SealedHeader where
  header : Header
  hash : B256

/-- The fields of `L2PayloadAttributes` the executor reads. -/
structure L2PayloadAttributes where
  timestamp : UInt64
  prevRandao : B256
  feeRecipient : Address
  parentBeaconBlockRoot : Option B256
  transactions : List Bytes
  gasLimit : Option UInt64

/-! ## Transactions -/

/-- An EIP-2930 access-list entry. -/
structure AccessListItem where
  address : Address
  storageKeys : List B256

/-- `TxLegacy`. -/
structure TxLegacy where
  chainId : Option UInt64
  nonce : UInt64
  gasPrice : Nat
  gasLimit : Nat
  «to» : TxKind
  value : Nat
  input : Bytes

/-- `TxEip2930`. -/
structure TxEip2930 where
  chainId : UInt64
  nonce : UInt64
  gasPrice : Nat
  gasLimit : Nat
  «to» : TxKind
  value : Nat
  accessList : List AccessListItem
  input : Bytes

/-- `TxEip1559`. -/
structure TxEip1559 where
  chainId : UInt64
  nonce : UInt64
  gasLimit : Nat
  maxFeePerGas : Nat
  maxPriorityFeePerGas : Nat
  «to» : TxKind
  value : Nat
  accessList : List AccessListItem
  input : Bytes

/-- `TxEip4844Variant`: the executor reads only its gas limit before rejecting it. -/
structure TxEip4844 where
  gasLimit : Nat

/-- `TxDeposit`: an L1-to-L2 deposit, not signed. -/
structure TxDeposit where
  sourceHash : B256
  «from» : Address
  «to» : TxKind
  mint : Option Nat
  value : Nat
  gasLimit : Nat
  isSystemTransaction : Bool
  input : Bytes

/-- `OpTxEnvelope`. The signed variants carry their signature, from which the
signer is recovered. -/
inductive OpTxEnvelope
  | legacy (tx : TxLegacy) (signature : Bytes)
  | eip2930 (tx : TxEip2930) (signature : Bytes)
  | eip1559 (tx : TxEip1559) (signature : Bytes)
  | eip4844 (tx : TxEip4844) (signature : Bytes)
  | deposit (tx : TxDeposit)

/-- `OpTxType`. -/
inductive OpTxType
  | legacy
  | eip2930
  | eip1559
  | eip4844
  | deposit
deriving DecidableEq, Repr

namespace OpTxEnvelope

/-- `tx_type()`. -/
def txType : OpTxEnvelope → OpTxType
  | legacy .. => .legacy
  | eip2930 .. => .eip2930
  | eip1559 .. => .eip1559
  | eip4844 .. => .eip4844
  | deposit _ => .deposit

/-- `matches!(transaction, OpTxEnvelope::Eip4844(_))`. -/
def isEip4844 (tx : OpTxEnvelope) : Bool := tx.txType == .eip4844

end OpTxEnvelope

/-! ## Receipts -/

/-- `alloy_primitives::Log`. -/
structure Log where
  address : Address
  topics : List B256
  data : Bytes

/-- `Receipt`: EIP-658 status, cumulative gas and logs. -/
structure Receipt where
  status : Bool
  cumulativeGasUsed : Nat
  logs : List Log

/-- `ReceiptWithBloom`. -/
structure ReceiptWithBloom where
  receipt : Receipt
  logsBloom : Bloom

/-- `OpDepositReceipt`: a receipt with the two deposit fields. -/
structure OpDepositReceipt where
  inner : Receipt
  depositNonce : Option UInt64
  depositReceiptVersion : Option UInt64

/-- `OpDepositReceiptWithBloom`. -/
structure OpDepositReceiptWithBloom where
  receipt : OpDepositReceipt
  logsBloom : Bloom

/-- `OpReceiptEnvelope`. -/
inductive OpReceiptEnvelope
  | legacy (r : ReceiptWithBloom)
  | eip2930 (r : ReceiptWithBloom)
  | eip1559 (r : ReceiptWithBloom)
  | eip4844 (r : ReceiptWithBloom)
  | deposit (r : OpDepositReceiptWithBloom)

namespace OpReceiptEnvelope

/-- `tx_type()`. -/
def txType : OpReceiptEnvelope → OpTxType
  | legacy _ => .legacy
  | eip2930 _ => .eip2930
  | eip1559 _ => .eip1559
  | eip4844 _ => .eip4844
  | deposit _ => .deposit

/-- The inner `Receipt` of any variant. -/
def receipt : OpReceiptEnvelope → Receipt
  | legacy r | eip2930 r | eip1559 r | eip4844 r => r.receipt
  | deposit r => r.receipt.inner

/-- `logs()`. -/
def logs (r : OpReceiptEnvelope) : List Log := r.receipt.logs

/-- The deposit nonce a receipt carries: only deposit receipts have one. -/
def depositNonce : OpReceiptEnvelope → Option UInt64
  | deposit r => r.receipt.depositNonce
  | _ => none

/-- The deposit receipt version a receipt carries. -/
def depositReceiptVersion : OpReceiptEnvelope → Option UInt64
  | deposit r => r.receipt.depositReceiptVersion
  | _ => none

end OpReceiptEnvelope

/-! ## The `revm` environments and results -/

/-- `CfgEnvWithHandlerCfg`: the chain id, the spec id and the OP handler flag. -/
structure CfgEnvWithHandlerCfg where
  chainId : UInt64
  specId : SpecId
  isOptimism : Bool

/-- `BlobExcessGasAndPrice`: the excess blob gas (the price is a function of it). -/
structure BlobExcessGasAndPrice where
  excessBlobGas : UInt64

/-- `BlockEnv`. -/
structure BlockEnv where
  number : Nat
  coinbase : Address
  timestamp : Nat
  gasLimit : Nat
  basefee : Nat
  difficulty : Nat
  prevrandao : Option B256
  blobExcessGasAndPrice : Option BlobExcessGasAndPrice

/-- `TransactTo`. -/
inductive TransactTo
  | call (address : Address)
  | create

/-- `OptimismFields` of a transaction environment. -/
structure OptimismFields where
  sourceHash : Option B256
  mint : Option Nat
  isSystemTransaction : Option Bool
  envelopedTx : Option Bytes

/-- `TxEnv`. -/
structure TxEnv where
  caller : Address
  gasLimit : UInt64
  gasPrice : Nat
  gasPriorityFee : Option Nat
  transactTo : TransactTo
  value : Nat
  data : Bytes
  chainId : Option UInt64
  nonce : Option UInt64
  accessList : List (Address × List Nat)
  blobHashes : List B256
  maxFeePerBlobGas : Option Nat
  optimism : OptimismFields

/-- `ExecutionResult`: how a committed transaction ended, with the gas it used
and, on success, its logs. -/
inductive ExecutionResult
  | success (gasUsed : UInt64) (logs : List Log)
  | revert (gasUsed : UInt64)
  | halt (gasUsed : UInt64)

namespace ExecutionResult

/-- `gas_used()`. -/
def gasUsed : ExecutionResult → UInt64
  | success g _ | revert g | halt g => g

/-- `is_success()`. -/
def isSuccess : ExecutionResult → Bool
  | success .. => true
  | _ => false

/-- `logs()`: the logs of a successful execution, none otherwise. -/
def logs : ExecutionResult → List Log
  | success _ l => l
  | _ => []

end ExecutionResult

/-- `AccountInfo`: the field of a cached account the executor reads. -/
structure AccountInfo where
  nonce : UInt64

/-- `AccountInfo::default()`. -/
def AccountInfo.default : AccountInfo := ⟨0⟩

/-- `TrieAccount`: the field of a trie account the executor reads. -/
structure TrieAccount where
  storageRoot : B256

/-! ## What the executor calls

The executor's own logic is modelled; what it calls in other crates is a
parameter. `Codec` collects the pure functions: EIP-2718 decoding and encoding,
signer recovery, hashing, ordered tries and bloom filters. `Evm σ β` collects
the calls on the trie-backed `State` database of type `σ`, including the
execution of a transaction by `revm` with the executor's precompile overrides;
`β` is the type of the bundle of state changes taken from it. Each returns the
database it leaves behind, also when it fails, as a `&mut` call does. -/

/-- The pure library functions the executor calls. -/
structure Codec where
  /-- `OpTxEnvelope::decode_2718`, failing with the decoder's message. -/
  decode2718 : Bytes → Except String OpTxEnvelope
  /-- `recover_signer` of a signed envelope. -/
  recoverSigner : OpTxEnvelope → Except String Address
  /-- `OpReceiptEnvelope::encode_2718`. -/
  encodeReceipt2718 : OpReceiptEnvelope → Bytes
  /-- `ordered_trie_with_encoder(items, ..).root()` of the items' encodings. -/
  orderedTrieRoot : List Bytes → B256
  /-- `Header::hash_slow`: the keccak256 digest of the header's RLP encoding. -/
  hashSlow : Header → B256
  /-- `keccak256`. -/
  keccak256 : Bytes → B256
  /-- `logs_bloom`: the bloom filter of a list of logs. -/
  logsBloom : List Log → Bloom

/-- The calls on the `State<TrieDB>` database and the `revm` instance built on
it. The calls that run or deploy EVM code also see the parent header, which the
`TrieDB` holds: it serves block hashes from it, and the Create2 deployment
compares the payload's timestamp with the parent's. -/
structure Evm (σ β : Type) where
  /-- `pre_block_beacon_root_contract_call`. -/
  preBlockBeaconRootContractCall : SealedHeader → RollupConfig → UInt64 →
    CfgEnvWithHandlerCfg → BlockEnv → L2PayloadAttributes → EStateM String σ Unit
  /-- `ensure_create2_deployer_canyon`: the Create2 deployer is deployed in the
  first block with Canyon active, judged against the parent header's timestamp. -/
  ensureCreate2DeployerCanyon : SealedHeader → RollupConfig → UInt64 → EStateM String σ Unit
  /-- `load_cache_account`, giving the loaded account's `account_info()`. -/
  loadCacheAccount : Address → EStateM String σ (Option AccountInfo)
  /-- `Evm::transact_commit` in the given configuration, block and transaction environments. -/
  transactCommit : SealedHeader → CfgEnvWithHandlerCfg → BlockEnv → TxEnv →
    EStateM String σ ExecutionResult
  /-- `merge_transitions(BundleRetention::Reverts)`. -/
  mergeTransitions : σ → σ
  /-- `take_bundle`. -/
  takeBundle : σ → β × σ
  /-- `TrieDB::state_root` of a bundle. -/
  stateRoot : β → EStateM String σ B256
  /-- `storage_roots().get(address)`, with the node's `blinded_commitment()`. -/
  storageRoots : σ → Address → Option (Option B256)
  /-- `TrieDB::get_trie_account`. -/
  getTrieAccount : Address → EStateM String σ (Option TrieAccount)

end Kona.Executor

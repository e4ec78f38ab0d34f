import Kona.Executor.Env

/-!
# `execute_payload` and `compute_output_root`

`StatelessL2BlockExecutor` of `src/crates/executor/src/lib.rs`. The executor
holds its rollup configuration, the parent header its `TrieDB` builds on, and
the rest of its `State` database (`StatelessL2BlockExecutor`). `execute_payload`:

1. builds the block environment (`prepareBlockEnv`) and the configuration
   environment, and takes the payload's gas limit;
2. makes the EIP-4788 beacon-root call and deploys the Create2 deployer in
   the first block with Canyon active (`PreBlockCalls`);
3. decodes every raw transaction, failing on the first that does not decode;
4. runs the transaction loop (`executeTransaction`, folded over the decoded
   transactions): the block gas check with its pre-Regolith exemption for
   system deposits, the EIP-4844 rejection, the transaction environment, the
   depositor snapshot (`loadDepositor`), the EVM call, the cumulative gas and
   the receipt;
5. merges the state transitions and computes the state root, and from it the
   new header (`newHeader`);
6. seals the header and makes it the parent.

Steps 1 to 5 only read the configuration and the parent header, so they run
on the database alone (`buildHeader`, in `EStateM Fault σ`); `executePayload`
runs them on the executor's database and, when they return a header, makes its
sealed form the new parent. A failed call therefore leaves the parent header as
it was, whatever database changes it made before failing.

`executeTransaction_eq_ok` and `buildHeader_eq_ok` say once what a successful
iteration and a successful block do; the properties of the loop and of whole
runs are derived from them in the modules that follow. `compute_output_root`
commits to the storage root of the `L2ToL1MessagePasser`: `StorageRootOf` says
what the storage root of an account in the database is, and
`storageRootOf_of_messagePasserStorageRoot` that the value read is that root.

Mirroring notes. The `u64` cumulative gas and the block number wrap as in a
release build (`UInt64`). `to::<u64>()` and `to::<u128>()` of the block
environment's number and base fee are exact, since those are a `u64` and a
`u128` widened. `receipt_envelope_from_parts` (in `util.rs`) is modelled from
the spec. The two `println!` calls of `compute_output_root` print and are left
out.
-/

namespace Kona.Executor

/-- The executor: its rollup configuration, the parent header its `TrieDB`
builds on, and the rest of its `State` database. -/
structure StatelessL2BlockExecutor (σ : Type) where
  config : RollupConfig
  parent : SealedHeader
  db : σ

/-- `EMPTY_OMMER_ROOT_HASH`. -/
def emptyOmmerRootHash : B256 :=
  ⟨[0x1d, 0xcc, 0x4d, 0xe8, 0xde, 0xc7, 0x5d, 0x7a, 0xab, 0x85, 0xb5, 0x67, 0xb6, 0xcc, 0xd4, 0x1a,
    0xd3, 0x12, 0x45, 0x1b, 0x94, 0x8a, 0x74, 0x13, 0xf0, 0xa1, 0x42, 0xfd, 0x40, 0xd4, 0x93, 0x47],
    by decide⟩

/-- `EMPTY_ROOT_HASH`. -/
def emptyRootHash : B256 :=
  ⟨[0x56, 0xe8, 0x1f, 0x17, 0x1b, 0xcc, 0x55, 0xa6, 0xff, 0x83, 0x45, 0xe6, 0x92, 0xc0, 0xf8, 0x6e,
    0x5b, 0x48, 0xe0, 0x1b, 0x99, 0x6c, 0xad, 0xc0, 0x01, 0x62, 0x2f, 0xb5, 0xe3, 0x63, 0xb4, 0x21],
    by decide⟩

/-- `0x4200000000000000000000000000000000000016`, the `L2ToL1MessagePasser`. -/
def l2ToL1MessagePasserAddress : Address := ⟨[0x42] ++ List.replicate 18 0 ++ [0x16], by simp⟩

/-- `OUTPUT_ROOT_VERSION`. -/
def outputRootVersion : UInt8 := 0

/-- The loop's accumulators, `cumulative_gas_used` and `receipts`. -/
structure LoopState where
  cumulativeGasUsed : UInt64
  receipts : List OpReceiptEnvelope

section Execute

variable {σ β : Type} (codec : Codec) (evm : Evm σ β)

/-- A database call whose `Err` is propagated by `?`, its message passed
through `msg`. -/
def liftDb {α : Type} (msg : String → String) (m : EStateM String σ α) : EStateM Fault σ α :=
  fun db => match m db with
    | .ok a db => .ok a db
    | .error e db => .error (.err (msg e)) db

/-! ## The transaction loop -/

/-- `receipt_envelope_from_parts`: a receipt of the transaction's type with
the status, the cumulative gas, the logs and their bloom, and for a deposit the
two deposit fields. Modelled from the spec. -/
def receiptEnvelopeFromParts (status : Bool) (cumulativeGasUsed : Nat) (logs : List Log)
    (txType : OpTxType) (depositNonce depositReceiptVersion : Option UInt64) :
    OpReceiptEnvelope :=
  let receipt : Receipt := ⟨status, cumulativeGasUsed, logs⟩
  let logsBloom := codec.logsBloom logs
  match txType with
  | .legacy => .legacy ⟨receipt, logsBloom⟩
  | .eip2930 => .eip2930 ⟨receipt, logsBloom⟩
  | .eip1559 => .eip1559 ⟨receipt, logsBloom⟩
  | .eip4844 => .eip4844 ⟨receipt, logsBloom⟩
  | .deposit => .deposit ⟨⟨receipt, depositNonce, depositReceiptVersion⟩, logsBloom⟩

/-- The depositor snapshot: after Regolith, the cached account of a deposit's
sender, loaded before the deposit executes (`load_cache_account(..).ok().cloned()`,
so a failed load gives none); none otherwise. -/
def loadDepositor (isRegolith : Bool) (transaction : OpTxEnvelope) :
    EStateM Fault σ (Option (Option AccountInfo)) :=
  if isRegolith then
    match transaction with
    | .deposit deposit => fun db =>
      match evm.loadCacheAccount deposit.«from» db with
      | .ok account db => .ok (some account) db
      | .error _ db => .ok none db
    | _ => pure none
  else pure none

/-- The receipt of a transaction committed with `result` at cumulative gas
`cumulativeGasUsed`: a deposit snapshot gives the depositor's nonce (`0` for an
absent account) and, after Canyon, deposit receipt version `1`. -/
def receiptOf (config : RollupConfig) (timestamp : UInt64) (cumulativeGasUsed : UInt64)
    (transaction : OpTxEnvelope) (depositor : Option (Option AccountInfo))
    (result : ExecutionResult) : OpReceiptEnvelope :=
  receiptEnvelopeFromParts codec result.isSuccess cumulativeGasUsed.toNat result.logs
    transaction.txType
    (depositor.map fun d => (d.getD AccountInfo.default).nonce)
    (if depositor.isSome then (if config.isCanyonActive timestamp then some 1 else none)
      else none)

/-- The accumulators after a transaction: its gas added to
`cumulative_gas_used` (wrapping), and its receipt pushed. -/
def LoopState.addTransaction (st : LoopState) (config : RollupConfig) (timestamp : UInt64)
    (transaction : OpTxEnvelope) (depositor : Option (Option AccountInfo))
    (result : ExecutionResult) : LoopState :=
  let cumulativeGasUsed := st.cumulativeGasUsed + result.gasUsed
  ⟨cumulativeGasUsed, st.receipts ++
    [receiptOf codec config timestamp cumulativeGasUsed transaction depositor result]⟩

/-- One iteration of the transaction loop of `execute_payload`. -/
def executeTransaction (config : RollupConfig) (timestamp : UInt64) (parent : SealedHeader)
    (cfg : CfgEnvWithHandlerCfg) (blockEnv : BlockEnv) (gasLimit : UInt64) (isRegolith : Bool)
    (st : LoopState) (txRaw : OpTxEnvelope × Bytes) : EStateM Fault σ LoopState := do
  let transaction := txRaw.1
  let blockAvailableGas := (gasLimit - st.cumulativeGasUsed).toNat
  if extractTxGasLimit transaction > blockAvailableGas ∧
      (isRegolith || !isSystemTransaction transaction) then
    throw (.err "Transaction gas limit exceeds block gas limit")
  if transaction.isEip4844 then
    throw (.err "EIP-4844 transactions are not supported")
  let txEnv ← liftExcept (prepareTxEnv codec transaction txRaw.2)
  let depositor ← loadDepositor evm isRegolith transaction
  let result ← liftDb (fun e => "Fatal EVM Error: " ++ e)
    (evm.transactCommit parent cfg blockEnv txEnv)
  pure (st.addTransaction codec config timestamp transaction depositor result)

/-- The loop body as `execute_payload` runs it for a payload: on the
executor's configuration and parent header, in the configuration environment
of the payload's timestamp, with Regolith read at that timestamp. -/
def payloadTxStep (config : RollupConfig) (parent : SealedHeader) (payload : L2PayloadAttributes)
    (blockEnv : BlockEnv) (gasLimit : UInt64) :
    LoopState → OpTxEnvelope × Bytes → EStateM Fault σ LoopState :=
  executeTransaction codec evm config payload.timestamp parent (evmCfgEnv config payload.timestamp)
    blockEnv gasLimit (config.isRegolithActive payload.timestamp)

/-- Decoding the payload's raw transactions, collected into one `Result`: the
first that fails to decode is the error. -/
def decodeTransactions (raws : List Bytes) : Except Fault (List (OpTxEnvelope × Bytes)) :=
  raws.mapM fun raw =>
    match codec.decode2718 raw with
    | .ok tx => .ok (tx, raw)
    | .error e => .error (.err e)

/-! ## Roots and the new header -/

/-- `compute_transactions_root`: the ordered trie of the raw transactions. -/
def computeTransactionsRoot (transactions : List Bytes) : B256 :=
  codec.orderedTrieRoot transactions

/-- A deposit receipt without its deposit nonce; other receipts unchanged. -/
def stripDepositNonce : OpReceiptEnvelope → OpReceiptEnvelope
  | .deposit r => .deposit { r with receipt := { r.receipt with depositNonce := none } }
  | r => r

/-- The receipts `compute_receipts_root` encodes: with Regolith active and
Canyon not, the deposit nonces are stripped, as op-geth hashes them. -/
def hashedReceipts (receipts : List OpReceiptEnvelope) (config : RollupConfig)
    (timestamp : UInt64) : List OpReceiptEnvelope :=
  if config.isRegolithActive timestamp && !config.isCanyonActive timestamp then
    receipts.map stripDepositNonce
  else receipts

/-- `compute_receipts_root`: the ordered trie of the EIP-2718 encodings of
`hashedReceipts`. -/
def computeReceiptsRoot (receipts : List OpReceiptEnvelope) (config : RollupConfig)
    (timestamp : UInt64) : B256 :=
  codec.orderedTrieRoot ((hashedReceipts receipts config timestamp).map codec.encodeReceipt2718)

/-- The header `execute_payload` seals, from the loop's final state and the
new state root. -/
def newHeader (config : RollupConfig) (parent : SealedHeader) (payload : L2PayloadAttributes)
    (blockNumber gasLimit : UInt64) (baseFee : Nat) (stateRoot : B256) (st : LoopState) :
    Header :=
  { parentHash := parent.hash
    ommersHash := emptyOmmerRootHash
    beneficiary := payload.feeRecipient
    stateRoot := stateRoot
    transactionsRoot := computeTransactionsRoot codec payload.transactions
    receiptsRoot := computeReceiptsRoot codec st.receipts config payload.timestamp
    withdrawalsRoot := if config.isCanyonActive payload.timestamp then some emptyRootHash else none
    logsBloom := codec.logsBloom (st.receipts.flatMap OpReceiptEnvelope.logs)
    difficulty := 0
    number := blockNumber
    gasLimit := gasLimit.toNat
    gasUsed := st.cumulativeGasUsed.toNat
    timestamp := payload.timestamp
    extraData := []
    mixHash := payload.prevRandao
    nonce := FixedBytes.zero 8
    baseFeePerGas := some baseFee
    blobGasUsed := (cancunFields config parent.header payload.timestamp).1
    excessBlobGas := (cancunFields config parent.header payload.timestamp).2
    parentBeaconBlockRoot := payload.parentBeaconBlockRoot
    requestsRoot := none }

/-- `seal_slow`: a header with its hash. -/
def sealSlow (header : Header) : SealedHeader := ⟨header, codec.hashSlow header⟩

/-! ## `execute_payload` -/

/-- Steps 1 to 5 of `execute_payload`, on the database: everything up to the
sealed header. -/
def buildHeader (config : RollupConfig) (parent : SealedHeader) (payload : L2PayloadAttributes) :
    EStateM Fault σ Header := do
  let initializedBlockEnv ← liftExcept
    (prepareBlockEnv (revmSpecId config payload.timestamp) config parent.header payload)
  let initializedCfg := evmCfgEnv config payload.timestamp
  let blockNumber := UInt64.ofNat initializedBlockEnv.number
  let baseFee := initializedBlockEnv.basefee
  let gasLimit ← liftExcept
    (okOr payload.gasLimit (.err "Gas limit not provided in payload attributes"))
  liftDb id (evm.preBlockBeaconRootContractCall parent config blockNumber initializedCfg
    initializedBlockEnv payload)
  liftDb id (evm.ensureCreate2DeployerCanyon parent config payload.timestamp)
  let isRegolith := config.isRegolithActive payload.timestamp
  let transactions ← liftExcept (decodeTransactions codec payload.transactions)
  let st ← transactions.foldlM (executeTransaction codec evm config payload.timestamp parent
    initializedCfg initializedBlockEnv gasLimit isRegolith) ⟨0, []⟩
  modify evm.mergeTransitions
  let bundle ← modifyGet evm.takeBundle
  let stateRoot ← liftDb id (evm.stateRoot bundle)
  pure (newHeader codec config parent payload blockNumber gasLimit baseFee stateRoot st)

/-- `execute_payload`: build the header on the executor's database; on
success make its sealed form the parent header and return it. -/
def executePayload (payload : L2PayloadAttributes) : EStateM Fault (StatelessL2BlockExecutor σ) Header :=
  fun ex =>
    match buildHeader codec evm ex.config ex.parent payload ex.db with
    | .ok header db => .ok header { ex with parent := sealSlow codec header, db := db }
    | .error e db => .error e { ex with db := db }

/-- The two calls `execute_payload` makes before its transaction loop took the
database from `db` to `db'`: the EIP-4788 beacon-root contract call, then the
Create2 deployment at Canyon. -/
def PreBlockCalls (config : RollupConfig) (parent : SealedHeader) (payload : L2PayloadAttributes)
    (blockEnv : BlockEnv) (db db' : σ) : Prop :=
  ∃ db₁, evm.preBlockBeaconRootContractCall parent config (UInt64.ofNat blockEnv.number)
      (evmCfgEnv config payload.timestamp) blockEnv payload db = .ok () db₁ ∧
    evm.ensureCreate2DeployerCanyon parent config payload.timestamp db₁ = .ok () db'

/-! ## `compute_output_root` -/

/-- `r` is the storage root of the account at `address` in the database `db`:
the commitment of the account's storage-trie root node that the `TrieDB`
holds, or, when it holds no node for the account, the storage root of the
account in the state trie. -/
def StorageRootOf (db : σ) (address : Address) (r : B256) : Prop :=
  evm.storageRoots db address = some (some r) ∨
    evm.storageRoots db address = none ∧
      ∃ account db', evm.getTrieAccount address db = .ok (some account) db' ∧
        account.storageRoot = r

/-- The storage root of the `L2ToL1MessagePasser` that `compute_output_root`
reads: from the `TrieDB`'s storage roots if it holds the account's (blinded)
node, else from the account in the trie. -/
def messagePasserStorageRoot : EStateM Fault σ B256 := fun db =>
  match evm.storageRoots db l2ToL1MessagePasserAddress with
  | some storageRoot => liftExcept (okOr storageRoot (.err "Account storage root is unblinded")) db
  | none =>
    (do
      let account ← liftDb id (evm.getTrieAccount l2ToL1MessagePasserAddress)
      liftExcept ((okOr account (.err "L2 to L1 message passer account not found in trie")).map
        TrieAccount.storageRoot)) db

/-- The 128 bytes `compute_output_root` hashes: the version byte at 31, then
the state root, the storage root and the block hash. -/
def rawOutput (parentHeader : SealedHeader) (storageRoot : B256) : FixedBytes 128 :=
  ((((FixedBytes.zero 128).write 31 [outputRootVersion]).write 32
    parentHeader.header.stateRoot.toList).write 64 storageRoot.toList).write 96
    parentHeader.hash.toList

/-- `compute_output_root`. -/
def computeOutputRoot : EStateM Fault (StatelessL2BlockExecutor σ) B256 := fun ex =>
  match messagePasserStorageRoot evm ex.db with
  | .ok storageRoot db => .ok (codec.keccak256 (rawOutput ex.parent storageRoot).toList)
      { ex with db := db }
  | .error e db => .error e { ex with db := db }

/-! ## What one iteration and one block do -/

variable {codec evm}

@[simp] theorem liftDb_eq_ok {α : Type} {msg : String → String} {m : EStateM String σ α}
    {db db' : σ} {a : α} : liftDb msg m db = .ok a db' ↔ m db = .ok a db' := by
  unfold liftDb; split <;> simp_all

/-- A database call fails only with an `Err`, its message passed through `msg`. -/
@[simp] theorem liftDb_eq_error {α : Type} {msg : String → String} {m : EStateM String σ α}
    {db db' : σ} {e : Fault} :
    liftDb msg m db = .error e db' ↔ ∃ s, m db = .error s db' ∧ e = .err (msg s) := by
  unfold liftDb
  split <;> rename_i h <;> simp only [h, EStateM.Result.error.injEq]
  · simp
  · constructor
    · rintro ⟨rfl, rfl⟩; exact ⟨_, ⟨rfl, rfl⟩, rfl⟩
    · rintro ⟨_, ⟨rfl, rfl⟩, rfl⟩; exact ⟨rfl, rfl⟩

/-- A successful iteration passed the block gas check and the EIP-4844
rejection, prepared the transaction environment, took the depositor snapshot,
committed the transaction, and recorded it. -/
theorem executeTransaction_eq_ok {config : RollupConfig} {timestamp : UInt64}
    {parent : SealedHeader} {cfg : CfgEnvWithHandlerCfg} {blockEnv : BlockEnv}
    {gasLimit : UInt64} {isRegolith : Bool} {st st' : LoopState}
    {txRaw : OpTxEnvelope × Bytes} {db db' : σ}
    (h : executeTransaction codec evm config timestamp parent cfg blockEnv gasLimit isRegolith
      st txRaw db = .ok st' db') :
    ¬ (extractTxGasLimit txRaw.1 > (gasLimit - st.cumulativeGasUsed).toNat ∧
        (isRegolith || !isSystemTransaction txRaw.1) = true) ∧
    txRaw.1.isEip4844 = false ∧
    ∃ txEnv depositor db₁ result, prepareTxEnv codec txRaw.1 txRaw.2 = .ok txEnv ∧
      loadDepositor evm isRegolith txRaw.1 db = .ok depositor db₁ ∧
      evm.transactCommit parent cfg blockEnv txEnv db₁ = .ok result db' ∧
      st' = st.addTransaction codec config timestamp txRaw.1 depositor result := by
  simp only [executeTransaction] at h
  split at h
  · simp [EStateM.bind_eq_ok] at h
  split at h
  · simp [EStateM.bind_eq_ok] at h
  rename_i hgas h4844
  simp only [EStateM.bind_eq_ok, liftExcept_eq_ok, liftDb_eq_ok, EStateM.pure_apply] at h
  obtain ⟨_, _, ⟨⟩, _, _, ⟨⟩, txEnv, _, ⟨htx, rfl⟩, depositor, db₁, hdep, result, _, hres, ⟨⟩⟩ := h
  exact ⟨hgas, by simpa using h4844, txEnv, depositor, db₁, result, htx, hdep, hres, rfl⟩

/-- Decoding succeeds when every raw transaction decodes: the result pairs
each raw transaction, in order, with its decoding. -/
theorem decodeTransactions_eq_ok : ∀ {raws : List Bytes} {txs : List (OpTxEnvelope × Bytes)},
    decodeTransactions codec raws = .ok txs →
    txs.map Prod.snd = raws ∧ ∀ txRaw ∈ txs, codec.decode2718 txRaw.2 = .ok txRaw.1
  | [], txs, h => by
    cases h
    simp
  | raw :: raws, txs, h => by
    simp only [decodeTransactions, List.mapM_cons, except_bind_eq_ok] at h
    obtain ⟨txRaw, hd, rest, hrest, h⟩ := h
    cases h
    obtain ⟨h₁, h₂⟩ := decodeTransactions_eq_ok hrest
    split at hd <;> cases hd
    exact ⟨by simp [h₁], List.forall_mem_cons.2 ⟨‹_›, h₂⟩⟩

/-- A successful block built the block environment, found the payload's gas
limit, made the beacon-root and Create2 calls on the database it was given,
decoded every transaction, ran the loop over all of them from zero gas and no
receipts on the database those calls left, and built the header from the loop's
final state. -/
theorem buildHeader_eq_ok {config : RollupConfig} {parent : SealedHeader}
    {payload : L2PayloadAttributes} {db db' : σ} {H : Header}
    (h : buildHeader codec evm config parent payload db = .ok H db') :
    ∃ blockEnv gasLimit transactions st db₁ db₂ stateRoot,
      prepareBlockEnv (revmSpecId config payload.timestamp) config parent.header payload =
        .ok blockEnv ∧
      payload.gasLimit = some gasLimit ∧
      PreBlockCalls evm config parent payload blockEnv db db₁ ∧
      decodeTransactions codec payload.transactions = .ok transactions ∧
      transactions.foldlM (payloadTxStep codec evm config parent payload blockEnv gasLimit)
        ⟨0, []⟩ db₁ = .ok st db₂ ∧
      H = newHeader codec config parent payload (UInt64.ofNat blockEnv.number) gasLimit
        blockEnv.basefee stateRoot st := by
  simp only [buildHeader, EStateM.bind_eq_ok, liftExcept_eq_ok, liftDb_eq_ok, okOr_eq_ok,
    EStateM.pure_apply, EStateM.Result.ok.injEq] at h
  obtain ⟨env, _, ⟨henv, rfl⟩, g, _, ⟨hg, rfl⟩, ⟨⟩, _, hbeacon, ⟨⟩, _, hcreate2, txs, _,
    ⟨hdec, rfl⟩, st, db₂, hloop, -, _, -, -, _, -, root, _, -, rfl, -⟩ := h
  exact ⟨env, g, txs, st, _, db₂, root, henv, hg, ⟨_, hbeacon, hcreate2⟩, hdec, hloop, rfl⟩

/-- A successful `execute_payload` built the header on the executor's
database and made its sealed form the parent. -/
theorem executePayload_eq_ok {payload : L2PayloadAttributes} {ex ex' : StatelessL2BlockExecutor σ}
    {H : Header} :
    executePayload codec evm payload ex = .ok H ex' ↔
      ∃ db, buildHeader codec evm ex.config ex.parent payload ex.db = .ok H db ∧
        ex' = { ex with parent := sealSlow codec H, db := db } := by
  unfold executePayload
  cases buildHeader codec evm ex.config ex.parent payload ex.db with
  | ok H' db =>
    simp only [EStateM.Result.ok.injEq]
    constructor
    · rintro ⟨rfl, rfl⟩; exact ⟨db, ⟨rfl, rfl⟩, rfl⟩
    · rintro ⟨_, ⟨rfl, rfl⟩, rfl⟩; exact ⟨rfl, rfl⟩
  | error e db => simp

/-- A failed `execute_payload` failed while building the header, and left the
configuration and the parent header as they were. -/
theorem executePayload_eq_error {payload : L2PayloadAttributes}
    {ex ex' : StatelessL2BlockExecutor σ} {e : Fault}
    (h : executePayload codec evm payload ex = .error e ex') :
    buildHeader codec evm ex.config ex.parent payload ex.db = .error e ex'.db ∧
      ex'.config = ex.config ∧ ex'.parent = ex.parent := by
  unfold executePayload at h
  split at h <;> cases h
  exact ⟨‹_›, rfl, rfl⟩

/-- Writing a window into a buffer that is a prefix followed by zeros. -/
theorem toList_write_zeros {n k lo : Nat} {b : FixedBytes n} {p src : Bytes}
    (hb : b.toList = p ++ List.replicate k 0) (hlo : p.length = lo) (hs : src.length ≤ k) :
    (b.write lo src).toList = p ++ src ++ List.replicate (k - src.length) 0 := by
  subst hlo
  rw [FixedBytes.toList_write_append hb (by simpa using hs), List.drop_replicate]

/-- The 128 bytes hashed into the output root: 31 zero bytes, the version
byte, the state root, the storage root and the block hash. -/
theorem rawOutput_toList (parentHeader : SealedHeader) (storageRoot : B256) :
    (rawOutput parentHeader storageRoot).toList =
      List.replicate 31 0 ++ [outputRootVersion] ++ parentHeader.header.stateRoot.toList ++
        storageRoot.toList ++ parentHeader.hash.toList := by
  have h₀ : (FixedBytes.zero 128).toList = List.replicate 31 0 ++ List.replicate 97 0 := by
    simp [FixedBytes.zero, ← List.replicate_add]
  have h₁ := @toList_write_zeros 128 97 31 _ _ [outputRootVersion] h₀ (by simp) (by simp)
  have h₂ := @toList_write_zeros 128 96 32 _ _ parentHeader.header.stateRoot.toList h₁
    (by simp) (by simp)
  rw [FixedBytes.length_toList] at h₂
  have h₃ := @toList_write_zeros 128 64 64 _ _ storageRoot.toList h₂ (by simp) (by simp)
  rw [FixedBytes.length_toList] at h₃
  have h₄ := @toList_write_zeros 128 32 96 _ _ parentHeader.hash.toList h₃ (by simp) (by simp)
  simpa [rawOutput] using h₄

/-- What `compute_output_root` reads for the `L2ToL1MessagePasser` is the
account's storage root: the `TrieDB`'s node for it if it holds one, else the
account in the trie. -/
theorem storageRootOf_of_messagePasserStorageRoot {db db' : σ} {r : B256}
    (h : messagePasserStorageRoot evm db = .ok r db') :
    StorageRootOf evm db l2ToL1MessagePasserAddress r := by
  unfold messagePasserStorageRoot at h
  split at h
  · next hs =>
    obtain ⟨hr, -⟩ := liftExcept_eq_ok.1 h
    exact .inl (hs.trans (congrArg some (okOr_eq_ok.1 hr)))
  · next hs =>
    simp only [EStateM.bind_eq_ok, liftDb_eq_ok, liftExcept_eq_ok] at h
    obtain ⟨account, db₁, hget, hr, -⟩ := h
    obtain ⟨a, ha, rfl⟩ := except_map_eq_ok.1 hr
    exact .inr ⟨hs, a, db₁, okOr_eq_ok.1 ha ▸ hget, rfl⟩

/-- A successful `compute_output_root` hashed the version byte, the parent's
state root, the storage root of the `L2ToL1MessagePasser` in the executor's
database and the parent's hash; it leaves the configuration and the parent
header as they were. -/
theorem computeOutputRoot_eq_ok {ex ex' : StatelessL2BlockExecutor σ} {o : B256}
    (h : computeOutputRoot codec evm ex = .ok o ex') :
    ∃ storageRoot, StorageRootOf evm ex.db l2ToL1MessagePasserAddress storageRoot ∧
      o = codec.keccak256 (List.replicate 31 0 ++ [outputRootVersion] ++
        ex.parent.header.stateRoot.toList ++ storageRoot.toList ++ ex.parent.hash.toList) ∧
      ex'.config = ex.config ∧ ex'.parent = ex.parent := by
  unfold computeOutputRoot at h
  split at h <;> cases h
  exact ⟨_, storageRootOf_of_messagePasserStorageRoot ‹_›, by rw [rawOutput_toList], rfl, rfl⟩

/-- A failed `compute_output_root` leaves the configuration and the parent
header as they were. -/
theorem computeOutputRoot_eq_error {ex ex' : StatelessL2BlockExecutor σ} {e : Fault}
    (h : computeOutputRoot codec evm ex = .error e ex') :
    ex'.config = ex.config ∧ ex'.parent = ex.parent := by
  unfold computeOutputRoot at h
  split at h <;> cases h
  exact ⟨rfl, rfl⟩

/-- A successful `execute_payload` returns a header whose parent hash is the
old parent's seal and whose number is one more (as a `u64`), and makes its
sealed form the parent. -/
theorem executePayload_header {payload : L2PayloadAttributes}
    {ex ex' : StatelessL2BlockExecutor σ} {H : Header}
    (h : executePayload codec evm payload ex = .ok H ex') :
    H.parentHash = ex.parent.hash ∧ H.number = ex.parent.header.number + 1 ∧
      ex'.parent = sealSlow codec H ∧ ex'.config = ex.config := by
  obtain ⟨db, hb, rfl⟩ := executePayload_eq_ok.1 h
  obtain ⟨env, -, -, -, -, -, -, henv, -, -, -, -, rfl⟩ := buildHeader_eq_ok hb
  obtain ⟨-, -, -, rfl⟩ := prepareBlockEnv_eq_ok henv
  exact ⟨rfl, u64_ofNat_toNat _, rfl, rfl⟩

end Execute

/-! ## A sample instance

Concrete library functions and a concrete database, at which the theorems of
the following modules are instantiated: every raw transaction decodes as a
deposit whose gas limit is its length, hashes and roots are zero, and the
database counts the transactions it has committed, which it also reports as
every account's nonce. A committed system deposit uses no gas, any other
transaction all of its gas. -/

/-- The sample codec. -/
def sampleCodec : Codec where
  decode2718 := fun raw => .ok (.deposit ⟨FixedBytes.zero 32, FixedBytes.zero 20, .create, none, 0,
    raw.length, false, raw⟩)
  recoverSigner := fun _ => .ok (FixedBytes.zero 20)
  encodeReceipt2718 := fun _ => []
  orderedTrieRoot := fun _ => FixedBytes.zero 32
  hashSlow := fun _ => FixedBytes.zero 32
  keccak256 := fun _ => FixedBytes.zero 32
  logsBloom := fun _ => FixedBytes.zero 256

/-- The sample database. -/
def sampleEvm : Evm Nat Unit where
  preBlockBeaconRootContractCall := fun _ _ _ _ _ _ => pure ()
  ensureCreate2DeployerCanyon := fun _ _ _ => pure ()
  loadCacheAccount := fun _ n => .ok (some ⟨UInt64.ofNat n⟩) n
  transactCommit := fun _ _ _ env n =>
    .ok (.success (if env.optimism.isSystemTransaction = some true then 0 else env.gasLimit) [])
      (n + 1)
  mergeTransitions := id
  takeBundle := fun n => ((), n)
  stateRoot := fun _ => pure (FixedBytes.zero 32)
  storageRoots := fun _ _ => none
  getTrieAccount := fun _ => pure (some ⟨FixedBytes.zero 32⟩)

/-- A configuration with every fork active from genesis and the OP mainnet
base-fee parameters. -/
def sampleConfig : RollupConfig :=
  ⟨10, some 0, some 0, some 0, some 0, ⟨50, 6⟩, some ⟨250, 6⟩⟩

/-- A parent header: block 0 of an Ecotone chain, with a 30M gas limit, base
fee 1 and no blob gas. -/
def sampleParent : SealedHeader :=
  ⟨{ parentHash := FixedBytes.zero 32, ommersHash := emptyOmmerRootHash,
     beneficiary := FixedBytes.zero 20, stateRoot := FixedBytes.zero 32,
     transactionsRoot := FixedBytes.zero 32, receiptsRoot := FixedBytes.zero 32,
     withdrawalsRoot := some emptyRootHash, logsBloom := FixedBytes.zero 256, difficulty := 0,
     number := 0, gasLimit := 30000000, gasUsed := 0, timestamp := 0, extraData := [],
     mixHash := FixedBytes.zero 32, nonce := FixedBytes.zero 8, baseFeePerGas := some 1,
     blobGasUsed := some 0, excessBlobGas := some 0, parentBeaconBlockRoot := none,
     requestsRoot := none }, FixedBytes.zero 32⟩

/-- The sample executor, on `sampleParent` with nothing committed. -/
def sampleExecutor : StatelessL2BlockExecutor Nat := ⟨sampleConfig, sampleParent, 0⟩

/-- Payload attributes for the next block: two raw transactions and the given
gas limit. -/
def samplePayload (gasLimit : Option UInt64) : L2PayloadAttributes :=
  ⟨2, FixedBytes.zero 32, FixedBytes.zero 20, none, [[1, 2, 3], [4, 5]], gasLimit⟩

/-! ## The output-root preimage -/

/-- **The output-root preimage is unambiguous.** Two 128-byte preimages of
`compute_output_root` are equal only when their state roots, message-passer
storage roots and block hashes are: each sits at its own fixed offset. -/
theorem rawOutput_inj {P P' : SealedHeader} {r r' : B256} (h : rawOutput P r = rawOutput P' r') :
    P.header.stateRoot = P'.header.stateRoot ∧ r = r' ∧ P.hash = P'.hash := by
  have hl := congrArg FixedBytes.toList h
  rw [rawOutput_toList, rawOutput_toList] at hl
  obtain ⟨hl, hh⟩ := List.append_inj hl (by simp)
  obtain ⟨hl, hr⟩ := List.append_inj hl (by simp)
  obtain ⟨-, hs⟩ := List.append_inj hl (by simp)
  exact ⟨FixedBytes.ext_toList hs, FixedBytes.ext_toList hr, FixedBytes.ext_toList hh⟩

theorem rawOutput_inj_sampleParent :
    rawOutput sampleParent (FixedBytes.zero 32) = rawOutput sampleParent (FixedBytes.zero 32) ∧
      sampleParent.header.stateRoot = sampleParent.header.stateRoot ∧
      FixedBytes.zero 32 = FixedBytes.zero 32 ∧ sampleParent.hash = sampleParent.hash :=
  ⟨rfl, rawOutput_inj rfl⟩

end Kona.Executor

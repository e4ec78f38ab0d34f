import Kona.Executor.Execute

/-!
# How `execute_payload` fails

`execute_payload` stops in one of two ways: with an `Err` through `?`, which
the caller can handle, or with a panic. Almost every step of it can only
produce the first: the database calls map their errors into `anyhow` errors,
decoding and `prepare_tx_env` return theirs, and the transaction loop rejects
a transaction over the remaining block gas and an EIP-4844 transaction with
`bail!`. `NoPanic` says this of a stateful computation, and the lemmas after it
carry it through `>>=`, the left fold of the loop, and the other combinators
the executor is written with.

The one step that panics is the first: `prepare_block_env`, which `expect`s
the Canyon base-fee parameters and the payload's gas limit and divides by the
elasticity multiplier and the gas target. `executePayload_failures` puts this
together with `executePayload_eq_error`: every failure leaves the executor's
configuration and parent header as they were, every panic is one of
`prepare_block_env`'s three, and a block that executes has neither a
transaction that fails to decode nor an EIP-4844 transaction.
-/

namespace Kona.Executor

/-! ## Computations that do not panic -/

section NoPanic

variable {σ α β : Type}

/-- A stateful computation that stops only with an `Err`, never with a panic. -/
def NoPanic (m : EStateM Fault σ α) : Prop :=
  ∀ s e s', m s = .error e s' → ∃ msg, e = .err msg

theorem NoPanic.pure (a : α) : NoPanic (pure a : EStateM Fault σ α) := by
  intro _ _ _ h
  simp at h

theorem NoPanic.bind {m : EStateM Fault σ α} {f : α → EStateM Fault σ β} (hm : NoPanic m)
    (hf : ∀ a, NoPanic (f a)) : NoPanic (m >>= f) := by
  intro s e s' h
  rcases EStateM.bind_eq_error.1 h with h | ⟨a, _, -, h⟩
  · exact hm _ _ _ h
  · exact hf a _ _ _ h

theorem NoPanic.throw (msg : String) : NoPanic (throw (.err msg) : EStateM Fault σ α) := by
  intro _ _ _ h
  cases h
  exact ⟨_, rfl⟩

theorem NoPanic.liftExcept {x : Except Fault α} (hx : ∀ e, x = .error e → ∃ msg, e = .err msg) :
    NoPanic (liftExcept x : EStateM Fault σ α) :=
  fun _ e _ h => hx e (liftExcept_eq_error.1 h).1

theorem NoPanic.liftDb (msg : String → String) (m : EStateM String σ α) :
    NoPanic (liftDb msg m) := by
  intro _ _ _ h
  obtain ⟨s, -, rfl⟩ := liftDb_eq_error.1 h
  exact ⟨_, rfl⟩

theorem NoPanic.modify (f : σ → σ) : NoPanic (modify f : EStateM Fault σ PUnit) := by
  intro _ _ _ h
  simp at h

theorem NoPanic.modifyGet (f : σ → α × σ) : NoPanic (modifyGet f : EStateM Fault σ α) := by
  intro _ _ _ h
  simp at h

theorem NoPanic.foldlM {f : β → α → EStateM Fault σ β} (hf : ∀ b a, NoPanic (f b a)) :
    ∀ (l : List α) (b : β), NoPanic (l.foldlM f b)
  | [], b => NoPanic.pure b
  | a :: l, b => by
    rw [List.foldlM_cons]
    exact NoPanic.bind (hf b a) fun b' => NoPanic.foldlM hf l b'

end NoPanic

/-! ## The steps of `execute_payload` -/

section Steps

variable {σ β : Type} {codec : Codec} {evm : Evm σ β}

theorem recoverCaller_eq_error {transaction : OpTxEnvelope} {e : Fault}
    (h : recoverCaller codec transaction = .error e) : ∃ msg, e = .err msg := by
  unfold recoverCaller at h
  split at h <;> cases h
  exact ⟨_, rfl⟩

/-- `prepare_tx_env` fails only with an `Err`: a signer that does not recover,
or an EIP-4844 transaction. -/
theorem prepareTxEnv_eq_error {transaction : OpTxEnvelope} {raw : Bytes} {e : Fault}
    (h : prepareTxEnv codec transaction raw = .error e) : ∃ msg, e = .err msg := by
  cases transaction with
  | legacy | eip2930 | eip1559 =>
    rcases except_bind_eq_error.1 h with h | ⟨_, -, h⟩
    · exact recoverCaller_eq_error h
    · cases h
  | deposit => cases h
  | eip4844 => cases h; exact ⟨_, rfl⟩

/-- Decoding fails only with the `Err` of the first transaction that does not
decode. -/
theorem decodeTransactions_eq_error :
    ∀ {raws : List Bytes} {e : Fault}, decodeTransactions codec raws = .error e →
      ∃ msg, e = .err msg
  | [], _, h => by cases h
  | raw :: raws, _, h => by
    simp only [decodeTransactions, List.mapM_cons, except_bind_eq_error] at h
    rcases h with h | ⟨_, -, h | ⟨_, -, h⟩⟩
    · split at h <;> cases h
      exact ⟨_, rfl⟩
    · exact decodeTransactions_eq_error h
    · cases h

/-- The depositor snapshot never fails: a failed load is a missing snapshot. -/
theorem loadDepositor_noPanic (isRegolith : Bool) (transaction : OpTxEnvelope) :
    NoPanic (loadDepositor evm isRegolith transaction) := by
  intro db _ _ h
  unfold loadDepositor at h
  split at h
  · split at h
    · split at h <;> cases h
    · cases h
  · cases h

/-- An iteration of the transaction loop fails only with an `Err`: the block
gas check, the EIP-4844 rejection, `prepare_tx_env` and the EVM call. -/
theorem executeTransaction_noPanic (config : RollupConfig) (timestamp : UInt64)
    (parent : SealedHeader) (cfg : CfgEnvWithHandlerCfg) (blockEnv : BlockEnv)
    (gasLimit : UInt64) (isRegolith : Bool) (st : LoopState) (txRaw : OpTxEnvelope × Bytes) :
    NoPanic (executeTransaction codec evm config timestamp parent cfg blockEnv gasLimit isRegolith
      st txRaw) := by
  unfold executeTransaction
  dsimp only
  split <;> split <;>
    repeat' first
      | exact NoPanic.pure _ | exact NoPanic.throw _ | exact NoPanic.liftDb _ _
      | exact loadDepositor_noPanic _ _ | exact prepareTxEnv_eq_error ‹_›
      | apply NoPanic.bind | apply NoPanic.liftExcept | intro _

theorem okOr_err_eq_error {α : Type} {o : Option α} {msg : String} {e : Fault}
    (h : okOr o (.err msg) = .error e) : ∃ msg, e = .err msg := by
  cases o <;> cases h
  exact ⟨_, rfl⟩

/-- Everything `execute_payload` does after `prepare_block_env` fails only with
an `Err`. -/
theorem buildHeader_eq_error {config : RollupConfig} {parent : SealedHeader}
    {payload : L2PayloadAttributes} {db db' : σ} {e : Fault}
    (h : buildHeader codec evm config parent payload db = .error e db') :
    prepareBlockEnv (revmSpecId config payload.timestamp) config parent.header payload =
        .error e ∨ ∃ msg, e = .err msg := by
  unfold buildHeader at h
  rcases EStateM.bind_eq_error.1 h with h | ⟨_, _, -, h⟩
  · exact .inl (liftExcept_eq_error.1 h).1
  refine .inr ((?_ : NoPanic _) _ _ _ h)
  dsimp only
  repeat' first
    | exact NoPanic.pure _ | exact NoPanic.liftDb _ _ | exact NoPanic.modify _
    | exact NoPanic.modifyGet _ | exact decodeTransactions_eq_error ‹_›
    | exact okOr_err_eq_error ‹_› | exact executeTransaction_noPanic _ _ _ _ _ _ _ _ _
    | apply NoPanic.bind | apply NoPanic.liftExcept | apply NoPanic.foldlM | intro _

end Steps

/-! ## The panics of `prepare_block_env` -/

theorem checkedDiv_eq_error {a b : Nat} {e : Fault} (h : checkedDiv a b = .error e) :
    e = .panic "attempt to divide by zero" := by
  unfold checkedDiv at h
  split at h <;> cases h
  rfl

/-- The EIP-1559 base fee panics only on a zero divisor. -/
theorem calcNextBlockBaseFee_eq_error {gasUsed gasLimit baseFee : Nat} {p : BaseFeeParams}
    {e : Fault} (h : calcNextBlockBaseFee gasUsed gasLimit baseFee p = .error e) :
    e = .panic "attempt to divide by zero" := by
  rcases except_bind_eq_error.1 h with h | ⟨_, -, h⟩
  · exact checkedDiv_eq_error h
  split at h
  · cases h
  all_goals
    rcases except_bind_eq_error.1 h with h | ⟨_, -, h⟩
    · exact checkedDiv_eq_error h
    · cases h

/-- `prepare_block_env` panics on missing Canyon base-fee parameters, on a
zero divisor in the parent's next base fee, or on a missing gas limit. -/
theorem prepareBlockEnv_eq_error {specId : SpecId} {config : RollupConfig}
    {parentHeader : Header} {payloadAttrs : L2PayloadAttributes} {e : Fault}
    (h : prepareBlockEnv specId config parentHeader payloadAttrs = .error e) :
    e = .panic "Canyon base fee params not provided" ∨ e = .panic "attempt to divide by zero" ∨
      e = .panic "Gas limit not provided" := by
  rcases except_bind_eq_error.1 h with h | ⟨_, -, h⟩
  · unfold baseFeeParams at h
    split at h
    · unfold expect at h
      split at h <;> cases h
      exact .inl rfl
    · cases h
  rcases except_bind_eq_error.1 h with h | ⟨_, -, h⟩
  · unfold Header.nextBlockBaseFee at h
    split at h
    · cases h
    · rcases except_bind_eq_error.1 h with h | ⟨_, -, h⟩
      · exact .inr (.inl (calcNextBlockBaseFee_eq_error h))
      · cases h
  rcases except_bind_eq_error.1 h with h | ⟨_, -, h⟩
  · unfold expect at h
    split at h <;> cases h
    exact .inr (.inr rfl)
  · cases h

section Block

variable {σ β : Type} (codec : Codec) (evm : Evm σ β)

/-- **How `execute_payload` fails.** For every executor and payload: a failed
call leaves the configuration and the parent header as they were, and if it
panicked, `prepare_block_env` panicked with the same message, which is one of
its three; every other failure, including the rejection of a transaction that
does not decode, of one over the remaining block gas and of an EIP-4844
transaction, is an `Err`. A call that succeeds executed a payload each of whose
transactions decodes, and none to an EIP-4844 transaction. -/
theorem executePayload_failures (ex : StatelessL2BlockExecutor σ)
    (payload : L2PayloadAttributes) :
    (∀ e ex', executePayload codec evm payload ex = .error e ex' →
      ex'.config = ex.config ∧ ex'.parent = ex.parent ∧
      ∀ msg, e = .panic msg →
        prepareBlockEnv (revmSpecId ex.config payload.timestamp) ex.config ex.parent.header
          payload = .error (.panic msg) ∧
        (msg = "Canyon base fee params not provided" ∨ msg = "attempt to divide by zero" ∨
          msg = "Gas limit not provided")) ∧
    ∀ H ex', executePayload codec evm payload ex = .ok H ex' →
      ∀ raw ∈ payload.transactions, ∃ tx, codec.decode2718 raw = .ok tx ∧ tx.isEip4844 = false := by
  constructor
  · intro e ex' h
    obtain ⟨hb, hc, hp⟩ := executePayload_eq_error h
    refine ⟨hc, hp, fun msg hmsg => ?_⟩
    subst hmsg
    rcases buildHeader_eq_error hb with hpre | ⟨_, hne⟩
    · exact ⟨hpre, by simpa using prepareBlockEnv_eq_error hpre⟩
    · cases hne
  · intro H ex' h raw hraw
    obtain ⟨db, hb, -⟩ := executePayload_eq_ok.1 h
    obtain ⟨_, _, txs, _, _, _, _, -, -, -, hdec, hloop, -⟩ := buildHeader_eq_ok hb
    obtain ⟨hraws, hdecode⟩ := decodeTransactions_eq_ok hdec
    rw [← hraws] at hraw
    obtain ⟨txRaw, htx, rfl⟩ := List.mem_map.1 hraw
    obtain ⟨_, _, _, _, hstep⟩ := EStateM.foldlM_ok_mem hloop txRaw htx
    exact ⟨txRaw.1, hdecode txRaw htx, (executeTransaction_eq_ok hstep).2.1⟩

end Block

end Kona.Executor

import Kona.Primitives

/-!
# The calldata data source

`src/crates/derive/src/sources/calldata.rs`. A `CalldataSource` yields, one
`next()` at a time, the input data of the transactions of one L1 block that a
batcher sent to the batch inbox. It starts closed and empty. The first `next()`
that gets the block's transactions from the chain provider filters them once
(`load_calldata`), stores the result in `calldata` and sets `open`; from then on
the provider is not asked again and `next()` pops `calldata` until it is empty,
after which every call answers `Eof`. A call whose provider request fails
answers a temporary `Provider` error and leaves the source as it was, so the
caller can retry.

The chain provider is the environment: `next fetched s` is given what the
provider would answer if asked, `none` for an error, and reads it only when it
asks. A run is a list of such answers, one per call (`run`).

The source's job is `batcherCalldata`, stated as the spec describes it: the
inputs of the block's Legacy, EIP-2930 and EIP-1559 transactions to the inbox
whose signer recovers to the batcher, in block order. `filterMap_calldataOf`
shows `load_calldata`'s filter computes exactly that.

`Inv F yielded s` ties the source's state to what it has yielded so far:
closed, empty and nothing yielded, or open with `yielded ++ calldata = F`.
`next_inv` is the step; `run_spec` carries it over every run, and
`calldataSource_next_run` is the whole contract, for every transaction list,
every filter outcome and every pattern of provider failures.
-/

namespace Kona.Derive

/-- The fields of a signed transaction that `load_calldata` reads; `signature`
stands for the rest of the signed payload, from which the signer is recovered. -/
structure TxFields where
  txKind : TxKind
  input : Bytes
  signature : Bytes
deriving DecidableEq

/-- `alloy_consensus::TxEnvelope`. -/
inductive TxEnvelope
  | legacy (tx : TxFields)
  | eip2930 (tx : TxFields)
  | eip1559 (tx : TxFields)
  | eip4844 (tx : TxFields)
deriving DecidableEq

namespace TxEnvelope

/-- The signed fields of any variant. -/
def fields : TxEnvelope → TxFields
  | .legacy t | .eip2930 t | .eip1559 t | .eip4844 t => t

/-- Whether the envelope is an EIP-4844 transaction. -/
def isEip4844 : TxEnvelope → Bool
  | .eip4844 _ => true
  | _ => false

end TxEnvelope

/-- `PipelineError`, the two cases the calldata source raises. -/
inductive PipelineError
  | eof
  | provider (msg : String)
deriving DecidableEq

/-- `PipelineErrorKind`; the calldata source raises only `Temporary` errors (`.temp()`). -/
inductive PipelineErrorKind
  | temporary (e : PipelineError)
deriving DecidableEq

/-- `PipelineResult<T>`. -/
abbrev PipelineResult (α : Type) := Except PipelineErrorKind α

/-- `PipelineError::Eof.temp()`. -/
def eofError : PipelineErrorKind := .temporary .eof

/-- `CalldataSource`, without its chain provider (the environment of `next`). -/
structure CalldataSource where
  batchInboxAddress : Address
  blockRef : BlockInfo
  signer : Address
  calldata : List Bytes
  «open» : Bool

section Source

variable (recoverSigner : TxEnvelope → Option Address)

/-- The closure of `load_calldata`'s `filter_map`: the input of a Legacy,
EIP-2930 or EIP-1559 transaction calling the inbox, signed by the batcher. -/
def calldataOf (batchInboxAddress signer : Address) (tx : TxEnvelope) : Option Bytes :=
  match tx with
  | .legacy t | .eip2930 t | .eip1559 t =>
    match t.txKind with
    | .call «to» =>
      if «to» ≠ batchInboxAddress then none
      else match recoverSigner tx with
        | some s => if s ≠ signer then none else some t.input
        | none => none
    | .create => none
  | _ => none

/-- The spec's calldata of a block: the inputs of the Legacy, EIP-2930 and
EIP-1559 transactions whose destination is `Call(a)` and whose signer recovers
to `s`, in block order. -/
def batcherCalldata (a s : Address) (txs : List TxEnvelope) : List Bytes :=
  (txs.filter fun tx =>
      !tx.isEip4844 && tx.fields.txKind == .call a && recoverSigner tx == some s).map
    fun tx => tx.fields.input

/-- One transaction through `load_calldata`'s closure: kept, with its input,
exactly when it passes the spec's filter. -/
theorem calldataOf_eq (a s : Address) (tx : TxEnvelope) :
    calldataOf recoverSigner a s tx =
      if !tx.isEip4844 && tx.fields.txKind == .call a && recoverSigner tx == some s
      then some tx.fields.input else none := by
  cases tx with
  | eip4844 t => rfl
  | legacy t | eip2930 t | eip1559 t =>
    rcases t with ⟨_ | addr, input, sig⟩
    · rfl
    · simp only [calldataOf, TxEnvelope.fields, TxEnvelope.isEip4844, Bool.not_false,
        Bool.true_and, ne_eq, beq_iff_eq, TxKind.call.injEq, Bool.and_eq_true, decide_eq_true_eq]
      by_cases haddr : addr = a
      · simp only [haddr, not_true_eq_false, if_false, true_and]
        split <;> rename_i hr <;> simp only [hr, Option.some.injEq, reduceCtorEq, if_false]
        split <;> simp_all [eq_comm]
      · simp [haddr]

/-- `load_calldata`'s filter computes the spec's calldata. -/
theorem filterMap_calldataOf (a s : Address) (txs : List TxEnvelope) :
    txs.filterMap (calldataOf recoverSigner a s) = batcherCalldata recoverSigner a s txs := by
  induction txs with
  | nil => rfl
  | cons tx txs ih =>
    rw [batcherCalldata] at ih
    rw [List.filterMap_cons, batcherCalldata, List.filter_cons, calldataOf_eq]
    by_cases hc : (!tx.isEip4844 && tx.fields.txKind == .call a && recoverSigner tx == some s) = true
    · rw [if_pos hc, if_pos hc, List.map_cons, ih]
    · rw [if_neg hc, if_neg hc, ih]

namespace CalldataSource

/-- `CalldataSource::new`. -/
def new (batchInboxAddress : Address) (blockRef : BlockInfo) (signer : Address) : CalldataSource :=
  ⟨batchInboxAddress, blockRef, signer, [], false⟩

/-- `load_calldata`, given the provider's answer `fetched` (`none` for an
error), read only when the source is closed. `none` is the provider's error. -/
def loadCalldata (fetched : Option (List TxEnvelope)) (s : CalldataSource) :
    Option CalldataSource :=
  if s.open then some s
  else fetched.map fun txs =>
    { s with
      calldata := txs.filterMap (calldataOf recoverSigner s.batchInboxAddress s.signer)
      «open» := true }

/-- The `Provider` error of a failed load. -/
def providerError (s : CalldataSource) : PipelineErrorKind :=
  .temporary (.provider ("Failed to load calldata for block " ++ hexString s.blockRef.hash.toList))

/-- `AsyncIterator::next`: load, then pop the front of `calldata` or answer `Eof`. -/
def next (fetched : Option (List TxEnvelope)) (s : CalldataSource) :
    PipelineResult Bytes × CalldataSource :=
  match loadCalldata recoverSigner fetched s with
  | none => (.error s.providerError, s)
  | some s' =>
    match s'.calldata with
    | [] => (.error eofError, s')
    | d :: rest => (.ok d, { s' with calldata := rest })

/-- The results of successive `next()` calls, the `k`-th given the provider's
`k`-th answer. -/
def run (s : CalldataSource) : List (Option (List TxEnvelope)) → List (PipelineResult Bytes)
  | [] => []
  | fetched :: rest => (next recoverSigner fetched s).1 :: run (next recoverSigner fetched s).2 rest

variable {recoverSigner}

/-- A load either finds the source open and leaves it, or gets the block's
transactions and opens the source on their filtered calldata. -/
theorem loadCalldata_cases {fetched : Option (List TxEnvelope)} {s s' : CalldataSource}
    (h : loadCalldata recoverSigner fetched s = some s') :
    (s.open = true ∧ s' = s) ∨
    (s.open = false ∧ ∃ txs, fetched = some txs ∧
      s' = { s with
        calldata := txs.filterMap (calldataOf recoverSigner s.batchInboxAddress s.signer)
        «open» := true }) := by
  unfold loadCalldata at h
  cases hs : s.open
  · rw [hs] at h
    cases fetched with
    | none => cases h
    | some txs => exact .inr ⟨rfl, txs, rfl, (Option.some.inj h).symm⟩
  · rw [hs, if_pos rfl] at h
    exact .inl ⟨rfl, (Option.some.inj h).symm⟩

/-- What one `next()` can do: fail to load and change nothing, or load and
answer `Eof` on empty calldata, or load and pop the front. -/
theorem next_cases (fetched : Option (List TxEnvelope)) (s : CalldataSource) :
    (loadCalldata recoverSigner fetched s = none ∧ next recoverSigner fetched s = (.error s.providerError, s)) ∨
    (∃ s', loadCalldata recoverSigner fetched s = some s' ∧
      ((s'.calldata = [] ∧ next recoverSigner fetched s = (.error eofError, s')) ∨
       (∃ d rest, s'.calldata = d :: rest ∧
          next recoverSigner fetched s = (.ok d, { s' with calldata := rest })))) := by
  unfold next
  cases hl : loadCalldata recoverSigner fetched s with
  | none => exact .inl ⟨rfl, rfl⟩
  | some s' =>
    refine .inr ⟨s', rfl, ?_⟩
    cases hc : s'.calldata with
    | nil => exact .inl ⟨rfl, by simp only [hc]⟩
    | cons d rest => exact .inr ⟨d, rest, rfl, by simp only [hc]⟩

@[simp] theorem next_batchInboxAddress (fetched : Option (List TxEnvelope)) (s : CalldataSource) :
    (next recoverSigner fetched s).2.batchInboxAddress = s.batchInboxAddress := by
  rcases next_cases fetched s with ⟨-, h⟩ | ⟨s', hl, ⟨-, h⟩ | ⟨d, rest, -, h⟩⟩ <;> rw [h] <;>
    try rcases loadCalldata_cases hl with ⟨-, rfl⟩ | ⟨-, txs, -, rfl⟩ <;> rfl

@[simp] theorem next_signer (fetched : Option (List TxEnvelope)) (s : CalldataSource) :
    (next recoverSigner fetched s).2.signer = s.signer := by
  rcases next_cases fetched s with ⟨-, h⟩ | ⟨s', hl, ⟨-, h⟩ | ⟨d, rest, -, h⟩⟩ <;> rw [h] <;>
    try rcases loadCalldata_cases hl with ⟨-, rfl⟩ | ⟨-, txs, -, rfl⟩ <;> rfl

/-- The calldata a source over the block's transactions `txs` must yield. -/
def frames (recoverSigner : TxEnvelope → Option Address) (txs : List TxEnvelope)
    (s : CalldataSource) : List Bytes :=
  txs.filterMap (calldataOf recoverSigner s.batchInboxAddress s.signer)

theorem frames_next (txs : List TxEnvelope) (fetched : Option (List TxEnvelope))
    (s : CalldataSource) :
    frames recoverSigner txs (next recoverSigner fetched s).2 = frames recoverSigner txs s := by
  simp only [frames, next_batchInboxAddress, next_signer]

/-- The state of a source against what it has yielded: closed and empty with
nothing yielded, or open with the yielded calldata followed by the pending
calldata equal to the block's frames. -/
def Inv (recoverSigner : TxEnvelope → Option Address) (txs : List TxEnvelope)
    (yielded : List Bytes) (s : CalldataSource) : Prop :=
  (s.open = false ∧ s.calldata = [] ∧ yielded = []) ∨
  (s.open = true ∧ yielded ++ s.calldata = frames recoverSigner txs s)

/-- A fresh source satisfies the invariant with nothing yielded. -/
theorem inv_new (txs : List TxEnvelope) (a : Address) (blockRef : BlockInfo) (signer : Address) :
    Inv recoverSigner txs [] (new a blockRef signer) :=
  .inl ⟨rfl, rfl, rfl⟩

/-- A successful load leaves an open source whose pending calldata completes
what was yielded to the block's frames. -/
theorem loadCalldata_inv {txs : List TxEnvelope} {fetched : Option (List TxEnvelope)}
    (hf : fetched = none ∨ fetched = some txs) {yielded : List Bytes} {s s' : CalldataSource}
    (hinv : Inv recoverSigner txs yielded s) (h : loadCalldata recoverSigner fetched s = some s') :
    s'.open = true ∧ yielded ++ s'.calldata = frames recoverSigner txs s := by
  rcases loadCalldata_cases h with ⟨ho, rfl⟩ | ⟨ho, txs', rfl, rfl⟩
  · rcases hinv with ⟨hc, -⟩ | hinv
    · rw [ho] at hc; cases hc
    · exact hinv
  · rcases hinv with ⟨-, -, rfl⟩ | ⟨hc, -⟩
    · obtain rfl : txs' = txs := by simpa using hf
      exact ⟨rfl, rfl⟩
    · rw [ho] at hc; cases hc

/-- One `next()` keeps the invariant, with its item (if any) appended to what
was yielded, for every answer the provider can give. -/
theorem next_inv {txs : List TxEnvelope} {fetched : Option (List TxEnvelope)}
    (hf : fetched = none ∨ fetched = some txs) {yielded : List Bytes} {s : CalldataSource}
    (hinv : Inv recoverSigner txs yielded s) :
    Inv recoverSigner txs (yielded ++ (next recoverSigner fetched s).1.toOption.toList)
      (next recoverSigner fetched s).2 := by
  have hfr : frames recoverSigner txs (next recoverSigner fetched s).2 =
      frames recoverSigner txs s := frames_next txs fetched s
  rcases next_cases fetched s with ⟨-, h⟩ | ⟨s', hl, ⟨hc, h⟩ | ⟨d, rest, hc, h⟩⟩ <;>
    rw [h] at hfr ⊢ <;> simp only [Except.toOption, Option.toList, List.append_nil]
  · exact hinv
  · exact .inr ⟨(loadCalldata_inv hf hinv hl).1, hfr ▸ (loadCalldata_inv hf hinv hl).2⟩
  · obtain ⟨ho, hy⟩ := loadCalldata_inv hf hinv hl
    rw [hc] at hy
    exact .inr ⟨ho, by simpa [hfr] using hy⟩

/-- A load always leaves the source open. -/
theorem loadCalldata_open {fetched : Option (List TxEnvelope)} {s s' : CalldataSource}
    (h : loadCalldata recoverSigner fetched s = some s') : s'.open = true := by
  rcases loadCalldata_cases h with ⟨ho, rfl⟩ | ⟨-, -, -, rfl⟩
  · exact ho
  · rfl

/-- An open source does not ask the provider: its `next()` is the same
whatever the provider would answer, and it stays open. -/
theorem next_of_open {s : CalldataSource} (h : s.open = true) (fetched fetched' : Option (List TxEnvelope)) :
    next recoverSigner fetched s = next recoverSigner fetched' s ∧
      (next recoverSigner fetched s).2.open = true := by
  have hl : ∀ f, loadCalldata recoverSigner f s = some s := fun f => by simp [loadCalldata, h]
  refine ⟨by simp only [next, hl], ?_⟩
  rcases next_cases fetched s with ⟨h', -⟩ | ⟨s', hs', ⟨-, h'⟩ | ⟨d, rest, -, h'⟩⟩
  · rw [hl] at h'; cases h'
  · rw [h']; exact loadCalldata_open hs'
  · rw [h']; show s'.open = true; exact loadCalldata_open hs'

/-- A closed source whose provider fails answers the `Provider` error and stays as it was. -/
theorem next_of_fetch_failed {s : CalldataSource} (h : s.open = false) :
    next recoverSigner none s = (.error s.providerError, s) := by
  simp [next, loadCalldata, h]

/-- `Eof` comes only from an open source with nothing left. -/
theorem next_eof {fetched : Option (List TxEnvelope)} {s : CalldataSource}
    (h : (next recoverSigner fetched s).1 = .error eofError) :
    (next recoverSigner fetched s).2.open = true ∧ (next recoverSigner fetched s).2.calldata = [] := by
  rcases next_cases fetched s with ⟨-, h'⟩ | ⟨s', hl, ⟨hc, h'⟩ | ⟨d, rest, -, h'⟩⟩ <;> rw [h'] at h ⊢
  · cases h
  · exact ⟨loadCalldata_open hl, hc⟩
  · cases h

theorem filterMap_toOption_cons {α ε : Type} (r : Except ε α) (rs : List (Except ε α)) :
    (r :: rs).filterMap Except.toOption = r.toOption.toList ++ rs.filterMap Except.toOption := by
  cases r <;> rfl

/-- An open source with nothing left answers `Eof` forever. -/
theorem run_of_exhausted {s : CalldataSource} (ho : s.open = true) (hc : s.calldata = []) :
    ∀ (answers : List (Option (List TxEnvelope))), ∀ r ∈ run recoverSigner s answers,
      r = .error eofError
  | [], r, hr => by cases hr
  | a :: as, r, hr => by
    have hn : next recoverSigner a s = (.error eofError, s) := by simp [next, loadCalldata, ho, hc]
    rw [run, hn] at hr
    rcases List.mem_cons.mp hr with rfl | hr
    · rfl
    · exact run_of_exhausted ho hc as r hr

/-- **The run lemma.** From a state satisfying the invariant, over any answers
of a provider that returns `txs` whenever it succeeds: the items yielded extend
what was yielded to a prefix of the block's frames, and an `Eof` at call `k`
comes after all the frames and is followed by `Eof` only. -/
theorem run_spec {txs : List TxEnvelope} :
    ∀ {answers : List (Option (List TxEnvelope))} {yielded : List Bytes} {s : CalldataSource},
      (∀ a ∈ answers, a = none ∨ a = some txs) → Inv recoverSigner txs yielded s →
      (yielded ++ (run recoverSigner s answers).filterMap Except.toOption <+:
          frames recoverSigner txs s) ∧
      ∀ k, (run recoverSigner s answers)[k]? = some (.error eofError) →
        yielded ++ ((run recoverSigner s answers).take k).filterMap Except.toOption =
            frames recoverSigner txs s ∧
          ∀ r ∈ (run recoverSigner s answers).drop k, r = .error eofError
  | [], yielded, s, _, hinv => by
    refine ⟨?_, fun k h => by simp [run] at h⟩
    rcases hinv with ⟨-, -, rfl⟩ | ⟨-, hy⟩
    · exact List.nil_prefix
    · simp [run, ← hy]
  | a :: as, yielded, s, hans, hinv => by
    have hinv' := next_inv (hans a (List.mem_cons_self a as)) hinv
    obtain ⟨ih₁, ih₂⟩ := run_spec (fun b hb => hans b (List.mem_cons_of_mem a hb)) hinv'
    rw [frames_next] at ih₁ ih₂
    rw [run, filterMap_toOption_cons, ← List.append_assoc]
    refine ⟨ih₁, fun k hk => ?_⟩
    cases k with
    | zero =>
      rw [List.getElem?_cons_zero, Option.some.injEq] at hk
      obtain ⟨ho, hc⟩ := next_eof hk
      rcases hinv' with ⟨ho', -⟩ | ⟨-, hy⟩
      · rw [ho] at ho'; cases ho'
      · rw [hk, hc, frames_next] at hy
        refine ⟨by simpa [Except.toOption] using hy, fun r hr => ?_⟩
        rw [List.drop_zero, List.mem_cons] at hr
        rcases hr with rfl | hr
        · exact hk
        · exact run_of_exhausted ho hc as r hr
    | succ k =>
      rw [List.getElem?_cons_succ] at hk
      rw [List.take_succ_cons, filterMap_toOption_cons, ← List.append_assoc, List.drop_succ_cons]
      exact ih₂ k hk

/-- **The calldata source's contract.** Over every run of `next()` calls from
a new source, for every transaction list and every pattern of provider
failures (the provider returns `txs` whenever it succeeds): the items returned
form, in order, a prefix of the block's batcher calldata, nothing skipped or
repeated; `Eof` comes only after all of it and is then answered forever; a
closed source whose provider fails answers a temporary `Provider` error and is
left as it was; and an open source never asks the provider again. -/
theorem calldataSource_next_run (txs : List TxEnvelope) (inbox signer : Address)
    (blockRef : BlockInfo) (answers : List (Option (List TxEnvelope)))
    (hans : ∀ a ∈ answers, a = none ∨ a = some txs) :
    (run recoverSigner (new inbox blockRef signer) answers).filterMap Except.toOption <+:
        batcherCalldata recoverSigner inbox signer txs ∧
    (∀ k, (run recoverSigner (new inbox blockRef signer) answers)[k]? = some (.error eofError) →
      ((run recoverSigner (new inbox blockRef signer) answers).take k).filterMap Except.toOption =
          batcherCalldata recoverSigner inbox signer txs ∧
        ∀ r ∈ (run recoverSigner (new inbox blockRef signer) answers).drop k, r = .error eofError) ∧
    (∀ s : CalldataSource, s.open = false →
      next recoverSigner none s = (.error (.temporary (.provider
        ("Failed to load calldata for block " ++ hexString s.blockRef.hash.toList))), s)) ∧
    (∀ s : CalldataSource, s.open = true → ∀ fetched fetched',
      next recoverSigner fetched s = next recoverSigner fetched' s ∧
        (next recoverSigner fetched s).2.open = true) := by
  have hF : frames recoverSigner txs (new inbox blockRef signer) =
      batcherCalldata recoverSigner inbox signer txs :=
    filterMap_calldataOf recoverSigner inbox signer txs
  obtain ⟨h₁, h₂⟩ := run_spec hans (inv_new txs inbox blockRef signer)
  rw [hF, List.nil_append] at h₁
  refine ⟨h₁, fun k hk => ?_, fun s hs => next_of_fetch_failed hs,
    fun s hs => next_of_open hs⟩
  rw [← hF]
  simpa using h₂ k hk

end CalldataSource

/-- A batcher transaction to the inbox. -/
def inboxTx : TxEnvelope := .legacy ⟨.call (FixedBytes.zero 20), [1], []⟩

theorem calldataSource_next_run_inboxTx :
    (∀ a ∈ [none, some [inboxTx], none, some [inboxTx]], a = none ∨ a = some [inboxTx]) ∧
    (CalldataSource.run (fun _ => some (FixedBytes.zero 20))
        (CalldataSource.new (FixedBytes.zero 20) ⟨FixedBytes.zero 32, 0⟩
          (FixedBytes.zero 20)) [none, some [inboxTx], none, some [inboxTx]]).filterMap
        Except.toOption <+:
      batcherCalldata (fun _ => some (FixedBytes.zero 20)) (FixedBytes.zero 20) (FixedBytes.zero 20)
        [inboxTx] :=
  ⟨by decide, (CalldataSource.calldataSource_next_run [inboxTx] _ _ _ _ (by decide)).1⟩

end Source

end Kona.Derive

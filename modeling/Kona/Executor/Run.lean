import Kona.Executor.Execute

/-!
# Runs of the executor

A client drives one executor through a sequence of calls: `execute_payload`
for each block, `compute_output_root` when it needs the output root (`run`).
Whatever the calls and however many of them fail, the headers the successful
`execute_payload` calls return form a chain from the executor's first parent:
each names the seal of the one before as its parent hash and has the next
block number (`Chain`); the last of them, sealed, is the executor's parent; and
every output root a call returns commits to that parent's state root and hash
(`executor_run_chain`).

The step is `call_spec`, what one call does to the parent header: a
successful `execute_payload` replaces it by its new header, every other call
leaves it alone. `executePayload_eq_error` is the part of it that holds on
failure: `execute_payload` sets the parent only after everything that can fail.

`execute_payload` is also meant to report a payload without a gas limit as an
`Err` (`ok_or(..)?`), but `prepare_block_env`, which runs first, `expect`s the
gas limit and panics (`executePayload_panics_without_gasLimit`).
-/

namespace Kona.Executor

/-- A call a client makes on the executor. -/
inductive Call
  | executePayload (payload : L2PayloadAttributes)
  | computeOutputRoot

/-- What a call returned. -/
inductive Reply
  | header (result : Except Fault Header)
  | outputRoot (result : Except Fault B256)

/-- The header of a successful `execute_payload` reply. -/
def Reply.header? : Reply → Option Header
  | .header (.ok h) => some h
  | _ => none

section Run

variable {σ β : Type} (codec : Codec) (evm : Evm σ β)

/-- One call on the executor. -/
def call (ex : StatelessL2BlockExecutor σ) : Call → Reply × StatelessL2BlockExecutor σ
  | .executePayload payload =>
    match executePayload codec evm payload ex with
    | .ok h ex' => (.header (.ok h), ex')
    | .error e ex' => (.header (.error e), ex')
  | .computeOutputRoot =>
    match computeOutputRoot codec evm ex with
    | .ok o ex' => (.outputRoot (.ok o), ex')
    | .error e ex' => (.outputRoot (.error e), ex')

/-- A run: the calls made one after another, their replies and the executor
they leave. -/
def run (ex : StatelessL2BlockExecutor σ) : List Call → List Reply × StatelessL2BlockExecutor σ
  | [] => ([], ex)
  | c :: cs =>
    let step := call codec evm ex c
    let rest := run step.2 cs
    (step.1 :: rest.1, rest.2)

/-- The headers the successful `execute_payload` calls returned, in order. -/
def headersOf (rs : List Reply) : List Header := rs.filterMap Reply.header?

/-- The parent header after executing `hs` from parent `p`: the last header
sealed, or `p` itself. -/
def lastSealed : SealedHeader → List Header → SealedHeader
  | p, [] => p
  | _, h :: hs => lastSealed (sealSlow codec h) hs

/-- `hs` extends the chain from `p`: each header names the seal of the one
before it as its parent and carries the next block number, as a `u64`. -/
def Chain : SealedHeader → List Header → Prop
  | _, [] => True
  | p, h :: hs => h.parentHash = p.hash ∧ h.number = p.header.number + 1 ∧
      Chain (sealSlow codec h) hs

/-- On a chain whose numbers stay below `2^64`, the `k`-th header has number
`p.number + k + 1`. -/
theorem Chain.number_toNat : ∀ {p : SealedHeader} {hs : List Header}, Chain codec p hs →
    p.header.number.toNat + hs.length < 2 ^ 64 →
    ∀ k (hk : k < hs.length), hs[k].number.toNat = p.header.number.toNat + k + 1
  | _, [], _, _, _, hk => absurd hk (Nat.not_lt_zero _)
  | p, h :: hs, ⟨_, hnum, hc⟩, hlen, k, hk => by
    have hh : h.number.toNat = p.header.number.toNat + 1 := by
      rw [hnum, u64_toNat_add]
      simp only [List.length_cons] at hlen
      exact Nat.mod_eq_of_lt (by simp; omega)
    cases k with
    | zero => exact hh
    | succ k =>
      have := Chain.number_toNat hc (by simp only [sealSlow, List.length_cons] at hlen ⊢; omega)
        k (by simpa using hk)
      simp only [List.getElem_cons_succ, this, sealSlow, hh]
      omega

/-- What one call does to the parent header: a successful `execute_payload`
returns the next header of the chain and makes it the parent; every other call
leaves the parent alone, and a successful `compute_output_root` commits to it. -/
theorem call_spec (ex : StatelessL2BlockExecutor σ) (c : Call) :
    (∀ H, (call codec evm ex c).1.header? = some H →
      H.parentHash = ex.parent.hash ∧ H.number = ex.parent.header.number + 1 ∧
        (call codec evm ex c).2.parent = sealSlow codec H) ∧
    ((call codec evm ex c).1.header? = none → (call codec evm ex c).2.parent = ex.parent) ∧
    (∀ o, (call codec evm ex c).1 = .outputRoot (.ok o) →
      ∃ storageRoot, StorageRootOf evm ex.db l2ToL1MessagePasserAddress storageRoot ∧
        o = codec.keccak256 (List.replicate 31 0 ++ [outputRootVersion] ++
          ex.parent.header.stateRoot.toList ++ storageRoot.toList ++ ex.parent.hash.toList)) := by
  cases c with
  | executePayload payload =>
    simp only [call]
    split
    · rename_i H ex' h
      obtain ⟨h₁, h₂, h₃, -⟩ := executePayload_header h
      refine ⟨fun _ hH => ?_, (fun h => nomatch h), (fun _ h => nomatch h)⟩
      cases hH
      exact ⟨h₁, h₂, h₃⟩
    · rename_i h
      exact ⟨(fun _ h => nomatch h), fun _ => (executePayload_eq_error h).2.2, (fun _ h => nomatch h)⟩
  | computeOutputRoot =>
    simp only [call]
    split
    · rename_i h
      obtain ⟨r, hr, ho, -, hp⟩ := computeOutputRoot_eq_ok h
      refine ⟨(fun _ h => nomatch h), fun _ => hp, fun _ h => ?_⟩
      cases h
      exact ⟨r, hr, ho⟩
    · rename_i h
      exact ⟨(fun _ h => nomatch h), fun _ => (computeOutputRoot_eq_error h).2, (fun _ h => nomatch h)⟩

@[simp] theorem run_nil (ex : StatelessL2BlockExecutor σ) : run codec evm ex [] = ([], ex) := rfl

@[simp] theorem run_cons (ex : StatelessL2BlockExecutor σ) (c : Call) (cs : List Call) :
    run codec evm ex (c :: cs) =
      ((call codec evm ex c).1 :: (run codec evm (call codec evm ex c).2 cs).1,
        (run codec evm (call codec evm ex c).2 cs).2) := rfl

/-- A run answers every call. -/
theorem length_run : ∀ (calls : List Call) (ex : StatelessL2BlockExecutor σ),
    (run codec evm ex calls).1.length = calls.length
  | [], _ => rfl
  | _ :: cs, ex => by simp [length_run cs]

/-- The replies to a prefix of the calls are a prefix of the replies. -/
theorem run_take : ∀ (calls : List Call) (ex : StatelessL2BlockExecutor σ) (n : Nat),
    (run codec evm ex (calls.take n)).1 = (run codec evm ex calls).1.take n
  | [], _, _ => by simp
  | _ :: _, _, 0 => rfl
  | _ :: cs, ex, n + 1 => by simp [run_take cs _ n]

/-- The run invariant: the headers returned so far extend the chain from the
first parent, the last of them is the parent, and every output root commits to
the parent at the time of its call. -/
theorem run_spec : ∀ (calls : List Call) (ex : StatelessL2BlockExecutor σ),
    Chain codec ex.parent (headersOf (run codec evm ex calls).1) ∧
    (run codec evm ex calls).2.parent =
      lastSealed codec ex.parent (headersOf (run codec evm ex calls).1) ∧
    ∀ j o, (run codec evm ex calls).1[j]? = some (.outputRoot (.ok o)) →
      ∃ storageRoot, StorageRootOf evm (run codec evm ex (calls.take j)).2.db
          l2ToL1MessagePasserAddress storageRoot ∧
        o = codec.keccak256 (List.replicate 31 0 ++ [outputRootVersion] ++
          (lastSealed codec ex.parent (headersOf ((run codec evm ex calls).1.take j))).header.stateRoot.toList ++
          storageRoot.toList ++
          (lastSealed codec ex.parent (headersOf ((run codec evm ex calls).1.take j))).hash.toList)
  | [], ex => ⟨trivial, rfl, fun j o h => by simp at h⟩
  | c :: cs, ex => by
    obtain ⟨hc₁, hc₂, hc₃⟩ := call_spec codec evm ex c
    obtain ⟨ih₁, ih₂, ih₃⟩ := run_spec cs (call codec evm ex c).2
    simp only [run_cons]
    cases hr : (call codec evm ex c).1.header? with
    | none =>
      rw [hc₂ hr] at ih₁ ih₂ ih₃
      refine ⟨by simpa [headersOf, hr] using ih₁, by simpa [headersOf, hr] using ih₂, fun j o h => ?_⟩
      cases j with
      | zero => simpa [headersOf, lastSealed] using hc₃ o (by simpa using h)
      | succ j => simpa [headersOf, hr] using ih₃ j o (by simpa using h)
    | some H =>
      obtain ⟨h₁, h₂, h₃⟩ := hc₁ H hr
      rw [h₃] at ih₁ ih₂ ih₃
      refine ⟨by simpa [headersOf, hr, Chain, h₁, h₂] using ih₁,
        by simpa [headersOf, hr, lastSealed] using ih₂, fun j o h => ?_⟩
      cases j with
      | zero => simp at h; simp [h, Reply.header?] at hr
      | succ j => simpa [headersOf, hr, lastSealed] using ih₃ j o (by simpa using h)

/-- **The executor's chain of headers.** For every executor and every sequence
of calls on it, each of which may fail, whose block numbers stay below `2^64`:
the headers the successful `execute_payload` calls return form a chain from
the executor's first parent `P₀`, each naming the seal of the one before as its
parent hash, the `k`-th with number `P₀.number + k + 1`; after any prefix of
the calls the executor's parent is the last header returned so far, sealed
(`P₀` if none); and every output root `o` a `compute_output_root` call returns
is `keccak256(0^31 ‖ 0x00 ‖ state_root ‖ r ‖ seal)` of that parent, `r` being
the storage root of the `L2ToL1MessagePasser` account `0x4200…0016` in the
executor's database as the calls before it left it. -/
theorem executor_run_chain (ex : StatelessL2BlockExecutor σ) (calls : List Call)
    (hnum : ex.parent.header.number.toNat + calls.length < 2 ^ 64) :
    Chain codec ex.parent (headersOf (run codec evm ex calls).1) ∧
    (∀ k (hk : k < (headersOf (run codec evm ex calls).1).length),
      (headersOf (run codec evm ex calls).1)[k].number.toNat =
        ex.parent.header.number.toNat + k + 1) ∧
    (∀ n, (run codec evm ex (calls.take n)).2.parent =
      lastSealed codec ex.parent (headersOf ((run codec evm ex calls).1.take n))) ∧
    ∀ j o, (run codec evm ex calls).1[j]? = some (.outputRoot (.ok o)) →
      ∃ storageRoot, StorageRootOf evm (run codec evm ex (calls.take j)).2.db
          l2ToL1MessagePasserAddress storageRoot ∧
        o = codec.keccak256 (List.replicate 31 0 ++ [outputRootVersion] ++
          (lastSealed codec ex.parent (headersOf ((run codec evm ex calls).1.take j))).header.stateRoot.toList ++
          storageRoot.toList ++
          (lastSealed codec ex.parent (headersOf ((run codec evm ex calls).1.take j))).hash.toList) := by
  obtain ⟨hchain, -, hroot⟩ := run_spec codec evm calls ex
  have hlen : (headersOf (run codec evm ex calls).1).length ≤ calls.length :=
    length_run codec evm calls ex ▸ List.length_filterMap_le _ _
  refine ⟨hchain, Chain.number_toNat codec hchain (by omega), fun n => ?_, hroot⟩
  rw [(run_spec codec evm (calls.take n) ex).2.1, run_take]

end Run

/-- Two blocks and an output root, on the sample executor. -/
def sampleCalls : List Call :=
  [.executePayload (samplePayload (some 1000)), .computeOutputRoot,
    .executePayload (samplePayload (some 1000))]

theorem executor_run_chain_sampleCalls :
    sampleParent.header.number.toNat + sampleCalls.length < 2 ^ 64 ∧
    Chain sampleCodec sampleParent
      (headersOf (run sampleCodec sampleEvm sampleExecutor sampleCalls).1) :=
  ⟨by decide, (executor_run_chain sampleCodec sampleEvm sampleExecutor sampleCalls
    (by decide)).1⟩

section Failures

variable {σ β : Type} (codec : Codec) (evm : Evm σ β)

/-- A payload without a gas limit makes `execute_payload` panic on the
`expect` of `prepare_block_env`, which runs before the `ok_or` meant to report
it as an `Err`, as soon as the base-fee parameters and the parent's next base
fee are computed (as they are with the Canyon parameters present and a parent
whose gas target is not zero). -/
theorem executePayload_panics_without_gasLimit {payload : L2PayloadAttributes}
    {ex : StatelessL2BlockExecutor σ} {p : BaseFeeParams} {fee : Option Nat}
    (hg : payload.gasLimit = none) (hp : baseFeeParams ex.config payload.timestamp = .ok p)
    (hfee : ex.parent.header.nextBlockBaseFee p = .ok fee) :
    executePayload codec evm payload ex = .error (.panic "Gas limit not provided") ex := by
  have hb : buildHeader codec evm ex.config ex.parent payload ex.db =
      .error (.panic "Gas limit not provided") ex.db := by
    simp only [buildHeader, EStateM.bind_apply, liftExcept, prepareBlockEnv_gasLimit_none hg hp hfee]
  simp only [executePayload, hb]

end Failures

theorem executePayload_panics_without_gasLimit_samplePayload :
    (samplePayload none).gasLimit = none ∧ baseFeeParams sampleConfig 2 = .ok ⟨250, 6⟩ ∧
    sampleParent.header.nextBlockBaseFee ⟨250, 6⟩ = .ok (some 1) ∧
    executePayload sampleCodec sampleEvm (samplePayload none) sampleExecutor =
      .error (.panic "Gas limit not provided") sampleExecutor :=
  ⟨rfl, rfl, rfl, executePayload_panics_without_gasLimit sampleCodec sampleEvm rfl rfl rfl⟩

end Kona.Executor

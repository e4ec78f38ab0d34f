import Kona.Executor.Execute
import Kona.Preimage.Integrity

/-!
# The zkVM client program

`src/bin/programs/zkvm-client/src/main.rs`, as compiled for the zkVM. The
program reads its boot information and commits it as the proof's public
values, reads the serialized preimage map and verifies it, builds a derivation
driver over the map and has it produce the disputed payload, executes that
payload with a `StatelessL2BlockExecutor` on the driver's L2 safe head,
computes the output root, and asserts that the block number and the output
root are the ones the boot information claims. Every failure on the way is a
panic (`unwrap`, `expect`, `assert_eq!`), so a run that reaches the end is the
only one that yields a proof, and what a proof attests is what such a run
implies.

The derivation driver, the bincode decoding of the map, the rollup
configuration registry and the `TrieDB` the executor opens are outside the
sources: they enter as a `ZkvmEnv`, and every result holds for all of them.
The digest functions are those of the executor's `Codec`, so the `keccak256`
that `verify` checks the map with is the one that hashes the output root.

`zkvmMain_eq_ok` says exactly when the program runs to the end.
`zkvmMain_sound` is what a proof attests, for every input: the committed boot
information is the one read, every entry of the preimage map satisfies its
integrity rule, and the claimed output root is the output root of the block
that the disputed payload produces on the safe head, whose number is the
claimed block number.

Mirroring notes. The boot information is converted with `.into()`, which
keeps the claim and its block number and looks the rollup configuration up by
chain id (`boot.rs`, not in the sources). The online branch of the program
(`CachingOracle`, hints) is left out. Panic texts are given without their
formatted arguments.
-/

namespace Kona.Client

open Kona.Executor Kona.Preimage

/-- `BootInfoWithoutRollupConfig`: the boot information the program reads and
commits. -/
structure BootInfoWithoutRollupConfig where
  l2Claim : B256
  l2ClaimBlock : UInt64
  chainId : UInt64

/-- `BootInfo`: the fields of the boot information the program reads. -/
structure BootInfo where
  l2Claim : B256
  l2ClaimBlock : UInt64
  rollupConfig : RollupConfig

/-- What the program calls outside the sources: the derivation driver over a
preimage map (of state `δ`), the bincode decoding of the map, the rollup
configuration of a chain id, and the `TrieDB` state database (`σ`) that
`StatelessL2BlockExecutor::new` opens on a parent header over the map. -/
structure ZkvmEnv (δ σ : Type) where
  rollupConfigOf : UInt64 → RollupConfig
  fromRawBytes : Bytes → Option InMemoryOracle
  newDriver : BootInfo → InMemoryOracle → Except String δ
  produceDisputedPayload : δ → Except String (L2PayloadAttributes × δ)
  takeL2SafeHeadHeader : δ → SealedHeader
  stateDb : InMemoryOracle → SealedHeader → σ

/-- `impl From<BootInfoWithoutRollupConfig> for BootInfo`. -/
def BootInfoWithoutRollupConfig.into (rollupConfigOf : UInt64 → RollupConfig)
    (bootInfo : BootInfoWithoutRollupConfig) : BootInfo :=
  ⟨bootInfo.l2Claim, bootInfo.l2ClaimBlock, rollupConfigOf bootInfo.chainId⟩

/-! ## How the program stops -/

/-- The message of `Result::unwrap` on an `Err`. -/
def unwrapMsg : String := "called Result::unwrap() on an Err value"

/-- `Result::expect` on a result of the model: an `Err` becomes a panic with
the message, a panic stays the panic it was. -/
def expectOk {α : Type} (x : Except Fault α) (msg : String) : Except Fault α :=
  match x with
  | .ok a => .ok a
  | .error (.err _) => .error (.panic msg)
  | .error (.panic m) => .error (.panic m)

/-- `Result::unwrap` on a call outside the sources. -/
def unwrap {α : Type} (x : Except String α) : Except Fault α :=
  match x with
  | .ok a => .ok a
  | .error _ => .error (.panic unwrapMsg)

/-- A method call on a value the program owns, then `.unwrap()`: the result
and the value after the call. -/
def callUnwrap {S α : Type} (m : EStateM Fault S α) (s : S) : Except Fault (α × S) :=
  match m s with
  | .ok a s' => .ok (a, s')
  | .error e _ => expectOk (.error e) unwrapMsg

/-- `assert_eq!(left, right)`. -/
def assertEq {α : Type} [DecidableEq α] (left right : α) : Except Fault Unit :=
  if left = right then .ok () else .error (.panic "assertion left == right failed")

@[simp] theorem expectOk_eq_ok {α : Type} {x : Except Fault α} {msg : String} {a : α} :
    expectOk x msg = .ok a ↔ x = .ok a := by
  unfold expectOk; split <;> simp

@[simp] theorem unwrap_eq_ok {α : Type} {x : Except String α} {a : α} :
    unwrap x = .ok a ↔ x = .ok a := by
  unfold unwrap; split <;> simp

@[simp] theorem callUnwrap_eq_ok {S α : Type} {m : EStateM Fault S α} {s : S} {p : α × S} :
    callUnwrap m s = .ok p ↔ m s = .ok p.1 p.2 := by
  unfold callUnwrap
  split <;> rename_i h <;> rw [h]
  · cases p; simp [eq_comm]
  · rename_i e _; cases e <;> simp [expectOk]

@[simp] theorem assertEq_eq_ok {α : Type} [DecidableEq α] {left right : α} {u : Unit} :
    assertEq left right = .ok u ↔ left = right := by
  unfold assertEq; split <;> simp [*]

/-! ## `main` -/

section Main

variable {σ β δ : Type} (codec : Codec) (evm : Evm σ β) (sha256 : Bytes → B256) {P : Type}
  (precompileFromBytes : Bytes → Option P) (execute : P → Bytes) (env : ZkvmEnv δ σ)

/-- The zkVM program's `main` on the boot information and the serialized
preimage map it reads: the boot information it commits when it runs to the
end, or the panic that stops it. -/
def zkvmMain (bootInfo : BootInfoWithoutRollupConfig) (kvStoreBytes : Bytes) :
    Except Fault BootInfoWithoutRollupConfig := do
  let boot := bootInfo.into env.rollupConfigOf
  let oracle ← okOr (env.fromRawBytes kvStoreBytes) (.panic unwrapMsg)
  expectOk (verify codec.keccak256 sha256 precompileFromBytes execute oracle)
    "key value verification failed"
  let driver ← unwrap (env.newDriver boot oracle)
  let produced ← unwrap (env.produceDisputedPayload driver)
  let safeHead := env.takeL2SafeHeadHeader produced.2
  let executor : StatelessL2BlockExecutor σ :=
    ⟨boot.rollupConfig, safeHead, env.stateDb oracle safeHead⟩
  let executed ← callUnwrap (executePayload codec evm produced.1) executor
  let computed ← callUnwrap (computeOutputRoot codec evm) executed.2
  assertEq executed.1.number boot.l2ClaimBlock
  assertEq computed.1 boot.l2Claim
  pure bootInfo

variable {codec evm sha256 precompileFromBytes execute env}

/-- The program runs to the end exactly when the map decodes and verifies, the
driver produces a payload, the executor executes it on the safe head and
computes the output root, and the block number and the output root are the
claimed ones; it then commits the boot information it read. -/
theorem zkvmMain_eq_ok {bootInfo committed : BootInfoWithoutRollupConfig} {kvStoreBytes : Bytes} :
    zkvmMain codec evm sha256 precompileFromBytes execute env bootInfo kvStoreBytes =
        .ok committed ↔
      committed = bootInfo ∧
      ∃ oracle driver attributes driver' H ex' outputRoot ex'',
        env.fromRawBytes kvStoreBytes = some oracle ∧
        verify codec.keccak256 sha256 precompileFromBytes execute oracle = .ok () ∧
        env.newDriver (bootInfo.into env.rollupConfigOf) oracle = .ok driver ∧
        env.produceDisputedPayload driver = .ok (attributes, driver') ∧
        executePayload codec evm attributes
            ⟨env.rollupConfigOf bootInfo.chainId, env.takeL2SafeHeadHeader driver',
              env.stateDb oracle (env.takeL2SafeHeadHeader driver')⟩ = .ok H ex' ∧
        computeOutputRoot codec evm ex' = .ok outputRoot ex'' ∧
        H.number = bootInfo.l2ClaimBlock ∧ outputRoot = bootInfo.l2Claim := by
  simp only [zkvmMain, except_bind_eq_ok, okOr_eq_ok, expectOk_eq_ok, unwrap_eq_ok,
    callUnwrap_eq_ok, assertEq_eq_ok, BootInfoWithoutRollupConfig.into]
  constructor
  · rintro ⟨oracle, ho, _, hv, driver, hd, ⟨attributes, driver'⟩, hp, ⟨H, ex'⟩, he, ⟨o, ex''⟩, hc,
      _, hn, _, hr, hpure⟩
    exact ⟨(Except.ok.inj hpure).symm, oracle, driver, attributes, driver', H, ex', o, ex'', ho, hv,
      hd, hp, he, hc, hn, hr⟩
  · rintro ⟨rfl, oracle, driver, attributes, driver', H, ex', o, ex'', ho, hv, hd, hp, he, hc, hn,
      hr⟩
    exact ⟨oracle, ho, (), hv, driver, hd, (attributes, driver'), hp, (H, ex'), he, (o, ex''), hc,
      (), hn, (), hr, rfl⟩

/-- **What a zkVM proof attests.** For every input and every environment: if
the program runs to the end, it commits the boot information it read; the
preimage map decodes, and each of its entries satisfies the integrity rule of
its key's type; the disputed payload the driver produced, executed on the
driver's L2 safe head, returns a header that extends the safe head by one block
and has the claimed number; and the claimed output root is the hash of the
version byte, that header's state root, the storage root of the
`L2ToL1MessagePasser` account in the database the block left, and that header's
hash. -/
theorem zkvmMain_sound {bootInfo committed : BootInfoWithoutRollupConfig} {kvStoreBytes : Bytes}
    (h : zkvmMain codec evm sha256 precompileFromBytes execute env bootInfo kvStoreBytes =
      .ok committed) :
    committed = bootInfo ∧
    ∃ (oracle : InMemoryOracle) (safeHead : SealedHeader) (attributes : L2PayloadAttributes)
      (H : Header) (ex' : StatelessL2BlockExecutor σ) (storageRoot : B256),
      env.fromRawBytes kvStoreBytes = some oracle ∧
      (∀ key value, (key, value) ∈ oracle.cache →
        Integrity codec.keccak256 sha256 precompileFromBytes execute oracle key value) ∧
      (∃ driver driver', env.newDriver (bootInfo.into env.rollupConfigOf) oracle = .ok driver ∧
        env.produceDisputedPayload driver = .ok (attributes, driver') ∧
        safeHead = env.takeL2SafeHeadHeader driver') ∧
      executePayload codec evm attributes
          ⟨env.rollupConfigOf bootInfo.chainId, safeHead, env.stateDb oracle safeHead⟩ =
        .ok H ex' ∧
      H.parentHash = safeHead.hash ∧ H.number = safeHead.header.number + 1 ∧
      H.number = bootInfo.l2ClaimBlock ∧
      StorageRootOf evm ex'.db l2ToL1MessagePasserAddress storageRoot ∧
      bootInfo.l2Claim = codec.keccak256 (List.replicate 31 0 ++ [outputRootVersion] ++
        H.stateRoot.toList ++ storageRoot.toList ++ (codec.hashSlow H).toList) := by
  obtain ⟨rfl, oracle, driver, attributes, driver', H, ex', o, ex'', ho, hv, hd, hp, he, hc, hn,
    hr⟩ := zkvmMain_eq_ok.1 h
  obtain ⟨hparent, hnum, hsealed, -⟩ := executePayload_header he
  obtain ⟨storageRoot, hs, ho', -, -⟩ := computeOutputRoot_eq_ok hc
  refine ⟨rfl, oracle, _, attributes, H, ex', storageRoot, ho, integrity_of_verify hv,
    ⟨driver, driver', hd, hp, rfl⟩, he, hparent, hnum, hn, hs, ?_⟩
  rw [← hr, ho', hsealed]
  rfl

end Main

/-- A sample environment: the map decodes to `localKeccakOracle`, and the
driver produces the sample payload on the sample parent. -/
def sampleEnv : ZkvmEnv Unit Nat where
  rollupConfigOf := fun _ => sampleConfig
  fromRawBytes := fun _ => some localKeccakOracle
  newDriver := fun _ _ => .ok ()
  produceDisputedPayload := fun d => .ok (samplePayload (some 1000), d)
  takeL2SafeHeadHeader := fun _ => sampleParent
  stateDb := fun _ _ => 0

/-- A claim of block 1 with the output root the sample codec computes. -/
def sampleBootInfo : BootInfoWithoutRollupConfig := ⟨FixedBytes.zero 32, 1, 10⟩

theorem zkvmMain_sound_sampleBootInfo :
    zkvmMain sampleCodec sampleEvm (fun _ => FixedBytes.zero 32) (fun _ => (none : Option Unit))
        (fun _ => []) sampleEnv sampleBootInfo [] = .ok sampleBootInfo ∧
    sampleBootInfo = sampleBootInfo ∧
    ∃ (oracle : InMemoryOracle) (safeHead : SealedHeader) (attributes : L2PayloadAttributes)
      (H : Header) (ex' : StatelessL2BlockExecutor Nat) (storageRoot : B256),
      sampleEnv.fromRawBytes [] = some oracle ∧
      (∀ key value, (key, value) ∈ oracle.cache →
        Integrity sampleCodec.keccak256 (fun _ => FixedBytes.zero 32)
          (fun _ => (none : Option Unit)) (fun _ => []) oracle key value) ∧
      (∃ driver driver',
        sampleEnv.newDriver (sampleBootInfo.into sampleEnv.rollupConfigOf) oracle = .ok driver ∧
        sampleEnv.produceDisputedPayload driver = .ok (attributes, driver') ∧
        safeHead = sampleEnv.takeL2SafeHeadHeader driver') ∧
      executePayload sampleCodec sampleEvm attributes
          ⟨sampleEnv.rollupConfigOf sampleBootInfo.chainId, safeHead,
            sampleEnv.stateDb oracle safeHead⟩ = .ok H ex' ∧
      H.parentHash = safeHead.hash ∧ H.number = safeHead.header.number + 1 ∧
      H.number = sampleBootInfo.l2ClaimBlock ∧
      StorageRootOf sampleEvm ex'.db l2ToL1MessagePasserAddress storageRoot ∧
      sampleBootInfo.l2Claim = sampleCodec.keccak256 (List.replicate 31 0 ++ [outputRootVersion] ++
        H.stateRoot.toList ++ storageRoot.toList ++ (sampleCodec.hashSlow H).toList) :=
  ⟨rfl, zkvmMain_sound rfl⟩

end Kona.Client

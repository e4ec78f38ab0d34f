import Kona.Preimage.Key
import Mathlib.Data.List.Nodup

/-!
# The in-memory oracle of the zkVM client and its `verify`

`src/bin/programs/zkvm-client/src/oracle.rs`. In zkVM mode the client does not
talk to a host: it is handed a serialized `HashMap<PreimageKey, Vec<u8>>`,
calls `verify()` on it once, and from then on answers every `get` and
`get_exact` from the map. Whatever `verify` lets through is what derivation
and execution read, so `verify` is the zkVM's whole soundness argument for
the preimages.

The map is an `InMemoryOracle`: its entries listed in the `HashMap`'s
iteration order, each key once. A theorem over every `InMemoryOracle` is a
theorem over every map and every iteration order.

`verify`'s first loop is `verifyEntries`, a left fold of `verifyEntry` over the
entries; its state is the `HashMap<FixedBytes<48>, Blob>` of blobs being
reassembled (`BlobTable`). One branch per key type, as in the source:

* `Local`: nothing is checked.
* `Keccak256` and `Sha256`: `assert_eq!` of the key against the key of the
  value's digest.
* `GlobalGeneric`: `unimplemented!()`.
* `Blob`: look up the `Keccak256` sibling (same body), split its preimage into
  a 48-byte commitment and a big-endian `u64` index at bytes `72..80`, and store
  the value in the commitment's `Blob` (`storeBlobValue`).
* `Precompile`: look up the `Keccak256` sibling, decode it, run the precompile
  and `assert_eq!` its output against the value.

The second loop, over the reassembled blobs, has an empty body: the KZG call in
it is commented out.

Mirroring notes vs the Rust:
- `element as usize` and the two shifts are evaluated in the zkVM target's
  32-bit `usize` with release-mode wrapping (`slotRange`).
- The slot write is `data.get_mut(lo..hi).map(|slice| ...)`. The closure's
  `return Err(..)` returns from the closure, and the `Option<Result<..>>` that
  `.map` produces is dropped, so an occupied slot is skipped, not reported
  (`writeSlot`).
- `Blob::data` is a `FixedBytes<4096>`: 128 slots of 32 bytes.
- Panic texts are given without their formatted arguments.
-/

namespace Kona.Preimage

open PreimageKey

/-- `InMemoryOracle`: the entries of its `cache` in iteration order, each key once. -/
structure InMemoryOracle where
  cache : List (PreimageKey × Bytes)
  nodup : (cache.map Prod.fst).Nodup

/-- `copy_from_slice` between slices of different lengths. -/
def copyPanic : Fault :=
  .panic "source slice length does not match destination slice length"

namespace InMemoryOracle

/-- `self.cache.get(&key)`. -/
def lookup (O : InMemoryOracle) (key : PreimageKey) : Option Bytes :=
  O.cache.lookup key

/-- `PreimageOracleClient::get`. -/
def get (O : InMemoryOracle) (key : PreimageKey) : Except Fault Bytes :=
  match O.lookup key with
  | some value => .ok value
  | none => .error (.err "Key not found in cache")

/-- `PreimageOracleClient::get_exact` into an `n`-byte buffer. -/
def getExact (O : InMemoryOracle) (key : PreimageKey) (n : Nat) : Except Fault (FixedBytes n) :=
  match O.lookup key with
  | none => .error (.err "Key not found in cache")
  | some value => if h : value.length = n then .ok ⟨value, h⟩ else .error copyPanic

/-- A value found under `key` is one of the map's entries. -/
theorem mem_of_lookup {O : InMemoryOracle} {key : PreimageKey} {v : Bytes}
    (h : O.lookup key = some v) : (key, v) ∈ O.cache := by
  obtain ⟨l₁, l₂, hl, -⟩ := List.lookup_eq_some_iff.mp h
  simp [hl]

/-- In a list with distinct keys, each entry is what `lookup` returns for its key. -/
theorem lookup_of_mem_of_nodup {key : PreimageKey} {v : Bytes} :
    ∀ {l : List (PreimageKey × Bytes)}, (l.map Prod.fst).Nodup → (key, v) ∈ l →
      l.lookup key = some v
  | [], _, h => by cases h
  | (k, w) :: es, hnd, h => by
    simp only [List.map_cons, List.nodup_cons, List.mem_map] at hnd
    rcases List.mem_cons.mp h with he | he
    · cases he; simp [List.lookup_cons]
    · have hk : k ≠ key := fun hk => hnd.1 ⟨(key, v), he, hk.symm⟩
      simp [List.lookup_cons, beq_false_of_ne hk.symm, lookup_of_mem_of_nodup hnd.2 he]

/-- Each entry of the map is what `lookup` returns for its key. -/
theorem lookup_of_mem {O : InMemoryOracle} {key : PreimageKey} {v : Bytes}
    (h : (key, v) ∈ O.cache) : O.lookup key = some v :=
  lookup_of_mem_of_nodup O.nodup h

theorem get_eq_ok {O : InMemoryOracle} {key : PreimageKey} {v : Bytes} :
    O.get key = .ok v ↔ O.lookup key = some v := by
  unfold get; split <;> simp_all

/-- `get_exact` succeeds exactly on a stored value of the buffer's length, and
fills the buffer with it. -/
theorem getExact_eq_ok {O : InMemoryOracle} {key : PreimageKey} {n : Nat} {b : FixedBytes n} :
    O.getExact key n = .ok b ↔ O.lookup key = some b.toList := by
  unfold getExact
  split
  · simp_all
  · next v hv =>
    rw [hv, Option.some.injEq]
    constructor
    · intro h; split at h
      · cases h; rfl
      · cases h
    · rintro rfl; simp

end InMemoryOracle

/-! ## The blob table -/

/-- `Blob` of `verify`: what is gathered per commitment. -/
structure Blob where
  commitment : FixedBytes 48
  data : FixedBytes 4096
  kzgProof : FixedBytes 48

/-- `Blob::default()`. -/
def Blob.default : Blob := ⟨.zero 48, .zero 4096, .zero 48⟩

@[simp] theorem Blob.default_data : Blob.default.data = FixedBytes.zero 4096 :=
  rfl

/-- `HashMap<FixedBytes<48>, Blob>`; an absent commitment reads `none`. -/
def BlobTable : Type := FixedBytes 48 → Option Blob

namespace BlobTable

/-- The empty table, `HashMap::new()`. -/
def empty : BlobTable := fun _ => none

/-- `blobs.entry(c).or_insert(Blob::default())`, read. -/
def entry (t : BlobTable) (c : FixedBytes 48) : Blob := (t c).getD Blob.default

@[simp] theorem entry_empty (c : FixedBytes 48) : empty.entry c = Blob.default :=
  rfl

/-- Store `b` as the entry of `c`. -/
def insert (t : BlobTable) (c : FixedBytes 48) (b : Blob) : BlobTable :=
  Function.update t c (some b)

@[simp] theorem insert_self (t : BlobTable) (c : FixedBytes 48) (b : Blob) :
    t.insert c b c = some b := by
  simp [insert]

theorem insert_ne (t : BlobTable) {c c' : FixedBytes 48} (b : Blob) (h : c' ≠ c) :
    t.insert c b c' = t c' := by
  simp [insert, Function.update_noteq h]

end BlobTable

/-- Width of `usize` on the zkVM target (32-bit RISC-V). -/
def usizeBits : Nat := 32

/-- `(element as usize) << 5 .. (element as usize + 1) << 5`, in release-mode
`usize` arithmetic. -/
def slotRange (element : Nat) : Nat × Nat :=
  let e := element % 2 ^ usizeBits
  (e * 32 % 2 ^ usizeBits, (e + 1) % 2 ^ usizeBits * 32 % 2 ^ usizeBits)

/-- `data.get_mut(lo..hi).map(|slice| ...)`: an in-range all-zero window gets
the value; a window with a non-zero byte is left alone, its `Err` discarded by
`.map`; an out-of-range window (`get_mut` is `None`) is skipped. -/
def writeSlot (data : FixedBytes 4096) (lo hi : Nat) (value : Bytes) :
    Except Fault (FixedBytes 4096) :=
  if lo ≤ hi ∧ hi ≤ 4096 then
    if (data.slice lo hi).all (· == 0) then
      if value.length = hi - lo then .ok (data.write lo value) else .error copyPanic
    else .ok data
  else .ok data

/-- `blob_data[..48].try_into().unwrap()`. -/
def blobCommitment (blobData : Bytes) : Except Fault (FixedBytes 48) :=
  if h : 48 ≤ blobData.length then .ok ⟨blobData.take 48, by simp; omega⟩
  else .error (.panic "range end index 48 out of range")

/-- `u64::from_be_bytes(blob_data[72..].try_into().unwrap())`. -/
def blobElement (blobData : Bytes) : Except Fault Nat :=
  if 72 ≤ blobData.length then
    if blobData.length - 72 = 8 then .ok (fromBeBytes (blobData.drop 72))
    else .error (.panic "called Result::unwrap() on an Err value: TryFromSliceError")
  else .error (.panic "range start index 72 out of range")

/-- The `Blob` branch of `verify`, after the sibling lookup: file `value` under
the commitment and index its sibling preimage names. -/
def storeBlobValue (blobs : BlobTable) (blobData value : Bytes) : Except Fault BlobTable := do
  let commitment ← blobCommitment blobData
  let element ← blobElement blobData
  let blob := blobs.entry commitment
  if element = 4096 then
    -- the first half of the proof: `kzg_proof[..32].copy_from_slice(value)`
    if value.length = 32 then
      pure (blobs.insert commitment { blob with kzgProof := blob.kzgProof.write 0 value })
    else throw copyPanic
  else if element = 4097 then
    -- the second half: `kzg_proof[32..].copy_from_slice(&value[..16])`
    if 16 ≤ value.length then
      pure (blobs.insert commitment { blob with kzgProof := blob.kzgProof.write 32 (value.take 16) })
    else throw (.panic "range end index 16 out of range")
  else
    let data ← writeSlot blob.data (slotRange element).1 (slotRange element).2 value
    pure (blobs.insert commitment { blob with data })

section Verify

variable (keccak256 sha256 : Bytes → B256) {P : Type} (precompileFromBytes : Bytes → Option P)
  (execute : P → Bytes)

/-- The `Keccak256` sibling of a key: same body, `PreimageKey::new(key.into(), Keccak256)`. -/
def sibling (key : PreimageKey) : PreimageKey := new key.toBytes .keccak256

@[simp] theorem sibling_new (key : B256) (t : PreimageKeyType) :
    sibling (new key t) = new key .keccak256 :=
  rfl

/-- One iteration of `verify`'s first loop, on the entry `(key, value)`. -/
def verifyEntry (O : InMemoryOracle) (blobs : BlobTable) : PreimageKey × Bytes → Except Fault BlobTable
  | (key, value) =>
    match key.keyType with
    | .local => .ok blobs
    | .keccak256 =>
      if key = new (keccak256 value) .keccak256 then .ok blobs
      else .error (.panic "zkvm keccak constraint failed!")
    | .globalGeneric => .error (.panic "not implemented")
    | .sha256 =>
      if key = new (sha256 value) .sha256 then .ok blobs
      else .error (.panic "zkvm sha256 constraint failed!")
    | .blob =>
      match O.lookup (sibling key) with
      | some blobData => storeBlobValue blobs blobData value
      | none => .error (.err "blob data not found")
    | .precompile =>
      match O.lookup (sibling key) with
      | some hintData =>
        match precompileFromBytes hintData with
        | some precompile =>
          if value = execute precompile then .ok blobs
          else .error (.panic "zkvm precompile constraint failed!")
        | none => .error (.panic "called Result::unwrap() on an Err value")
      | none => .error (.err "precompile hint data not found")

/-- `verify`'s first loop: every entry in iteration order, from an empty table. -/
def verifyEntries (O : InMemoryOracle) : Except Fault BlobTable :=
  O.cache.foldlM (verifyEntry keccak256 sha256 precompileFromBytes execute O) BlobTable.empty

/-- `InMemoryOracle::verify`. Its second loop, over the gathered blobs, does nothing. -/
def verify (O : InMemoryOracle) : Except Fault Unit := do
  let _ ← verifyEntries keccak256 sha256 precompileFromBytes execute O
  pure ()

theorem verify_eq_ok {O : InMemoryOracle} :
    verify keccak256 sha256 precompileFromBytes execute O = .ok () ↔
      ∃ t, verifyEntries keccak256 sha256 precompileFromBytes execute O = .ok t := by
  unfold verify
  cases verifyEntries keccak256 sha256 precompileFromBytes execute O <;>
    simp [bind, Except.bind, pure, Except.pure]

end Verify

end Kona.Preimage

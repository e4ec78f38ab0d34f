import Kona.Preimage.InMemory

/-!
# The oracle-backed blob provider

`src/bin/programs/zkvm-client/src/l1/blob_provider.rs`. A blob is fetched in
two steps: its 48-byte KZG commitment under the `Sha256` key of the blob's
versioned hash, then 4096 field elements of 32 bytes, element `i` under the
`Blob` key of `keccak256(commitment ‖ 0^24 ‖ u64_be(i))` (`fieldElementKey`).

The source has two near-identical bodies: one for the `CachingOracle`, which
first sends an `L1Blob` hint so the host can fetch the blob, and one for the
`InMemoryOracle`, which sends no hint but asserts that the SHA-256 digest of the
commitment equals the blob hash. Their common part is `readBlob`, the loop over
the field elements, parametric in the oracle's `get_exact`; each variant keeps
its own definition (`getBlobCaching`, `getBlobInMemory`).

`getBlobInMemory_eq_caching` relates the two: whenever the in-memory variant
returns a blob, the caching variant over the same contents returns the same
blob. The assertion is the one place they differ, and `getBlobInMemory_panics`
shows it fires on every commitment whose digest does not equal the blob hash
byte for byte, including byte 0, which `verify`'s `Sha256` check never looks at.

The element loop is a refinement of the plain definition of a blob, the 4096
requested elements concatenated (`toList_readBlob`). Over the in-memory map this
makes `get_blob` and `get_blobs` exact: `getBlobsInMemory_eq_ok` says which
lists of blobs the zkVM's `get_blobs` returns, slot by slot, and
`getBlobsCaching_of_inMemory` lifts the agreement of the two bodies to whole
`get_blobs` calls.
-/

namespace Kona.Client

open Kona.Preimage PreimageKey

/-- `IndexedBlobHash`: a blob's versioned hash and its index in the block. -/
structure IndexedBlobHash where
  index : Nat
  hash : B256

/-- `FIELD_ELEMENTS_PER_BLOB`. -/
def fieldElementsPerBlob : Nat := 4096

/-- `alloy_consensus::Blob`: 4096 field elements of 32 bytes. -/
abbrev Blob4844 := FixedBytes 131072

/-- `blob_req_meta`: the blob hash, its index and the block timestamp, big-endian. -/
def blobReqMeta (blockRef : BlockInfo) (blobHash : IndexedBlobHash) : Bytes :=
  blobHash.hash.toList ++ toBeBytes 8 blobHash.index ++ toBeBytes 8 blockRef.timestamp

/-- `field_element_key` for element `i`: the commitment, 24 reserved zero bytes,
and `i` as a big-endian `u64`. -/
def fieldElementKey (commitment : FixedBytes 48) (i : Nat) : Bytes :=
  commitment.toList ++ List.replicate 24 0 ++ toBeBytes 8 i

@[simp] theorem length_fieldElementKey (commitment : FixedBytes 48) (i : Nat) :
    (fieldElementKey commitment i).length = 80 := by
  simp [fieldElementKey]

section GetBlob

variable (keccak256 : Bytes → B256)

/-- The `Blob` key under which element `i` of `commitment` is requested. -/
def fieldElementPreimageKey (commitment : FixedBytes 48) (i : Nat) : PreimageKey :=
  new (keccak256 (fieldElementKey commitment i)) .blob

/-- The loop of `get_blob`: request every field element into a 32-byte buffer
and copy it to its slot of a zeroed blob. `getExact key n` is the oracle's
`get_exact` into an `n`-byte buffer. -/
def readBlob (getExact : PreimageKey → (n : Nat) → Except Fault (FixedBytes n))
    (commitment : FixedBytes 48) : Except Fault Blob4844 :=
  (List.range fieldElementsPerBlob).foldlM
    (fun blob i => do
      let fieldElement ← getExact (fieldElementPreimageKey keccak256 commitment i) 32
      pure (blob.write (i * 32) fieldElement.toList))
    (FixedBytes.zero 131072)

/-- `OracleBlobProvider<CachingOracle>::get_blob`: send the `L1Blob` hint built
from `blob_req_meta` (`writeHint`), fetch the commitment, then the elements. -/
def getBlobCaching (getExact : PreimageKey → (n : Nat) → Except Fault (FixedBytes n))
    (writeHint : Bytes → Except Fault Unit) (blockRef : BlockInfo)
    (blobHash : IndexedBlobHash) : Except Fault Blob4844 := do
  writeHint (blobReqMeta blockRef blobHash)
  let commitment ← getExact (new blobHash.hash .sha256) 48
  readBlob keccak256 getExact commitment

variable (sha256 : Bytes → B256)

/-- `OracleBlobProvider<InMemoryOracle>::get_blob`: fetch the commitment, assert
`sha256(commitment) == blob_hash.hash`, then fetch the elements. -/
def getBlobInMemory (O : InMemoryOracle) (_blockRef : BlockInfo) (blobHash : IndexedBlobHash) :
    Except Fault Blob4844 := do
  let commitment ← O.getExact (new blobHash.hash .sha256) 48
  if sha256 commitment.toList = blobHash.hash then
    readBlob keccak256 O.getExact commitment
  else throw (.panic "get_blob - zkvm constraint failed")

/-- Whenever the in-memory `get_blob` returns a blob, the caching `get_blob`
reading the same contents returns the same blob, whatever hint sink it writes to
as long as the hint is accepted. -/
theorem getBlobInMemory_eq_caching {O : InMemoryOracle} {writeHint : Bytes → Except Fault Unit}
    (hhint : ∀ meta, writeHint meta = .ok ()) {blockRef : BlockInfo} {blobHash : IndexedBlobHash}
    {blob : Blob4844} (h : getBlobInMemory keccak256 sha256 O blockRef blobHash = .ok blob) :
    getBlobCaching keccak256 O.getExact writeHint blockRef blobHash = .ok blob := by
  unfold getBlobInMemory at h
  unfold getBlobCaching
  rw [hhint]
  cases hc : O.getExact (new blobHash.hash .sha256) 48 with
  | error e => rw [hc] at h; cases h
  | ok commitment =>
    rw [hc] at h
    simp only [bind, Except.bind] at h ⊢
    split at h
    · exact h
    · cases h

/-- The in-memory `get_blob` panics on its assertion exactly when the stored
commitment's SHA-256 digest differs from the requested blob hash. -/
theorem getBlobInMemory_panics {O : InMemoryOracle} {blockRef : BlockInfo}
    {blobHash : IndexedBlobHash} {commitment : FixedBytes 48}
    (hc : O.lookup (new blobHash.hash .sha256) = some commitment.toList)
    (hne : sha256 commitment.toList ≠ blobHash.hash) :
    getBlobInMemory keccak256 sha256 O blockRef blobHash =
      .error (.panic "get_blob - zkvm constraint failed") := by
  have hg := InMemoryOracle.getExact_eq_ok.mpr hc
  simp only [getBlobInMemory, hg, bind, Except.bind, if_neg hne]
  rfl

end GetBlob

/-! ## The element loop assembles the elements in order

`readBlob` copies element `i` into bytes `[32 i, 32 i + 32)` of a zeroed blob.
Run on indices `k, …, k + m - 1` from a blob whose bytes are a prefix `p`
followed by `m` zero slots, it leaves `p` followed by the elements, in order
(`foldlM_write_range'`). From the whole range this is `toList_readBlob`: the loop
computes the plain definition, every element requested in order and the 32-byte
buffers concatenated, and fails with the first failing request's error. Over the
in-memory map this reads back as one lookup per slot (`readBlob_eq_ok`). -/

/-- Gluing back the 32-byte chunks of `l` from chunk `k` on. -/
theorem flatten_chunks {l : Bytes} : ∀ (n k : Nat), l.length = (k + n) * 32 →
    ((List.range' k n).map fun i => (l.drop (i * 32)).take 32).flatten = l.drop (k * 32)
  | 0, k, hl => by simp [List.drop_eq_nil_of_le (show l.length ≤ k * 32 by omega)]
  | n + 1, k, hl => by
    rw [List.range'_succ, List.map_cons, List.flatten_cons, flatten_chunks n (k + 1) (by omega),
      Nat.succ_mul, ← List.drop_drop, List.take_append_drop]

/-- The `i`-th 32-byte window of concatenated 32-byte buffers is the `i`-th buffer. -/
theorem slice_flatten : ∀ (fes : List (FixedBytes 32)) (i : Nat) (hi : i < fes.length),
    ((fes.map FixedBytes.toList).flatten.drop (i * 32)).take 32 = (fes.get ⟨i, hi⟩).toList
  | fe :: _, 0, _ => by simp
  | fe :: fes, i + 1, hi => by
    rw [List.map_cons, List.flatten_cons, Nat.succ_mul, Nat.add_comm, ← List.drop_drop,
      List.drop_left' (by simp)]
    exact slice_flatten fes i (by simpa using hi)

/-- Slot `i` of a blob: 32 bytes from byte `32 i`. -/
theorem slice_slot (blob : Blob4844) (i : Nat) :
    blob.slice (i * 32) (i * 32 + 32) = (blob.toList.drop (i * 32)).take 32 := by
  simp [FixedBytes.slice]

section Assembly

variable (keccak256 : Bytes → B256)

/-- The step-by-step form of the element loop, from element `k` on. -/
theorem foldlM_write_range' (fetch : Nat → Except Fault (FixedBytes 32)) :
    ∀ (m k : Nat) (blob : FixedBytes 131072) (p : Bytes),
      blob.toList = p ++ List.replicate (m * 32) 0 → p.length = k * 32 →
      FixedBytes.toList <$> (List.range' k m).foldlM
          (fun blob i => do let fe ← fetch i; pure (blob.write (i * 32) fe.toList)) blob =
        (fun fes => p ++ (fes.map FixedBytes.toList).flatten) <$> (List.range' k m).mapM fetch
  | 0, k, blob, p, hb, _ => by
    rw [List.range'_zero, List.foldlM_nil, List.mapM_nil]
    simp [hb]
  | m + 1, k, blob, p, hb, hp => by
    rw [List.range'_succ, List.foldlM_cons, List.mapM_cons]
    cases hf : fetch k with
    | error e => rfl
    | ok fe =>
      have hw : (blob.write (k * 32) fe.toList).toList =
          (p ++ fe.toList) ++ List.replicate (m * 32) 0 := by
        rw [← hp, FixedBytes.toList_write_append hb
          (by simp only [FixedBytes.length_toList, List.length_replicate]; omega)]
        simp [List.drop_replicate, Nat.succ_mul]
      have ih := foldlM_write_range' fetch m (k + 1) _ _ hw (by simp [hp, Nat.succ_mul])
      simp only [bind, Except.bind, pure, Except.pure] at ih ⊢
      rw [ih]
      cases (List.range' (k + 1) m).mapM fetch <;> simp [Functor.map, Except.map]

/-- The zeroed blob is no prefix followed by 4096 zero slots. -/
theorem toList_zero_blob : (FixedBytes.zero 131072).toList = [] ++ List.replicate (4096 * 32) 0 := by
  rw [List.nil_append]; rfl

/-- The element loop, over the indices as `List.range'` counts them. -/
theorem readBlob_eq_range' (getExact : PreimageKey → (n : Nat) → Except Fault (FixedBytes n))
    (commitment : FixedBytes 48) :
    readBlob keccak256 getExact commitment = (List.range' 0 4096).foldlM
      (fun blob i => do
        let fe ← getExact (fieldElementPreimageKey keccak256 commitment i) 32
        pure (blob.write (i * 32) fe.toList))
      (FixedBytes.zero 131072) := by
  rw [readBlob, List.range_eq_range']
  rfl

/-- **The element loop of `get_blob`.** Copying each requested field element into
its slot of a zeroed blob computes the blob made of the 4096 elements, requested in
order and concatenated; a failed request stops the loop with that request's error. -/
theorem toList_readBlob (getExact : PreimageKey → (n : Nat) → Except Fault (FixedBytes n))
    (commitment : FixedBytes 48) :
    FixedBytes.toList <$> readBlob keccak256 getExact commitment =
      (fun fes => (fes.map FixedBytes.toList).flatten) <$>
        (List.range fieldElementsPerBlob).mapM
          fun i => getExact (fieldElementPreimageKey keccak256 commitment i) 32 := by
  rw [readBlob_eq_range', fieldElementsPerBlob, List.range_eq_range']
  exact foldlM_write_range' _ 4096 0 _ [] toList_zero_blob rfl

/-- The element loop returns `blob` exactly when every request returns, the
blob's bytes being the returned elements end to end. -/
theorem readBlob_eq_ok_iff {getExact : PreimageKey → (n : Nat) → Except Fault (FixedBytes n)}
    {commitment : FixedBytes 48} {blob : Blob4844} :
    readBlob keccak256 getExact commitment = .ok blob ↔
      ∃ fes, (List.range fieldElementsPerBlob).mapM
          (fun i => getExact (fieldElementPreimageKey keccak256 commitment i) 32) = .ok fes ∧
        (fes.map FixedBytes.toList).flatten = blob.toList := by
  have hr := foldlM_write_range' (fun i => getExact (fieldElementPreimageKey keccak256 commitment i) 32)
    4096 0 _ [] toList_zero_blob rfl
  rw [← readBlob_eq_range', ← List.range_eq_range'] at hr
  rw [fieldElementsPerBlob]
  constructor
  · intro h
    rw [h] at hr
    exact except_map_eq_ok.mp hr.symm
  · rintro ⟨fes, hm, hf⟩
    rw [hm] at hr
    obtain ⟨blob', hb', hl⟩ := except_map_eq_ok.mp hr
    rw [hb', FixedBytes.ext_toList (hl.trans hf)]

/-- Over the in-memory map, the element loop returns `blob` exactly when each element
of the commitment is stored under its key and is the blob's 32 bytes at its slot. -/
theorem readBlob_eq_ok {O : InMemoryOracle} {commitment : FixedBytes 48} {blob : Blob4844} :
    readBlob keccak256 O.getExact commitment = .ok blob ↔
      ∀ i < fieldElementsPerBlob, O.lookup (fieldElementPreimageKey keccak256 commitment i) =
        some (blob.slice (i * 32) (i * 32 + 32)) := by
  rw [readBlob_eq_ok_iff]
  constructor
  · rintro ⟨fes, hm, hf⟩ i hi
    obtain ⟨hlen, hget⟩ := List.forall₂_iff_get.mp (mapM_eq_ok.mp hm)
    have hi' : i < fes.length := by simpa [← hlen] using hi
    have he := hget i (by simpa using hi) hi'
    simp only [List.get_eq_getElem, List.getElem_range] at he
    rw [InMemoryOracle.getExact_eq_ok.mp he, slice_slot, ← hf, slice_flatten fes i hi']
    rfl
  · intro h
    have hlen : ∀ i < fieldElementsPerBlob, (blob.slice (i * 32) (i * 32 + 32)).length = 32 := by
      intro i hi
      simp only [fieldElementsPerBlob] at hi
      simp [slice_slot]
      omega
    obtain ⟨fes, hm, hf⟩ := @mapM_ok_of_forall _ _ _ _
      (fun i => O.getExact (fieldElementPreimageKey keccak256 commitment i) 32) FixedBytes.toList
      (fun i => blob.slice (i * 32) (i * 32 + 32)) (List.range fieldElementsPerBlob) fun i hi => by
        have hi := List.mem_range.mp hi
        exact ⟨⟨_, hlen i hi⟩, InMemoryOracle.getExact_eq_ok.mpr (h i hi), rfl⟩
    have hc := @flatten_chunks blob.toList 4096 0 (by rw [FixedBytes.length_toList])
    rw [Nat.zero_mul, List.drop_zero, ← List.range_eq_range'] at hc
    refine ⟨fes, hm, ?_⟩
    simp only [hf, slice_slot]
    exact hc

variable (sha256 : Bytes → B256)

/-- The in-memory `get_blob` returns `blob` exactly when the map holds a commitment
under the blob hash's `Sha256` key whose digest is the blob hash, and each element
of that commitment is the blob's 32 bytes at its slot. -/
theorem getBlobInMemory_eq_ok {O : InMemoryOracle} {blockRef : BlockInfo}
    {blobHash : IndexedBlobHash} {blob : Blob4844} :
    getBlobInMemory keccak256 sha256 O blockRef blobHash = .ok blob ↔
      ∃ commitment : FixedBytes 48, O.lookup (new blobHash.hash .sha256) = some commitment.toList ∧
        sha256 commitment.toList = blobHash.hash ∧
        ∀ i < fieldElementsPerBlob, O.lookup (fieldElementPreimageKey keccak256 commitment i) =
          some (blob.slice (i * 32) (i * 32 + 32)) := by
  simp only [getBlobInMemory, except_bind_eq_ok, InMemoryOracle.getExact_eq_ok]
  refine exists_congr fun commitment => and_congr_right fun _ => ?_
  split
  · next hs => simp [hs, readBlob_eq_ok]
  · next hs => simp [hs, throw, throwThe, MonadExceptOf.throw]

end Assembly

/-! ## `get_blobs`

Both providers have the same `get_blobs`: a `Vec` filled by `get_blob` on each
hash in turn, `?` returning the first failure. It is one definition, `getBlobs`,
over the provider's `get_blob`. In zkVM mode the caching provider's global
`HINT_WRITER` is the `NoopHintWriter`. -/

/-- The `get_blobs` loop, `blobs.push(self.get_blob(block_ref, hash).await?)` for
every hash in order. -/
def getBlobs (getBlob : BlockInfo → IndexedBlobHash → Except Fault Blob4844)
    (blockRef : BlockInfo) (blobHashes : List IndexedBlobHash) : Except Fault (List Blob4844) :=
  blobHashes.foldlM (fun blobs hash => do
    let blob ← getBlob blockRef hash
    pure (blobs ++ [blob])) []

/-- `NoopHintWriter::write` (`noop_hint_writer.rs`): every hint is accepted. -/
def NoopHintWriter.write (_hint : Bytes) : Except Fault Unit := pure ()

section GetBlobs

variable (keccak256 sha256 : Bytes → B256)

/-- `OracleBlobProvider<CachingOracle>::get_blobs`. -/
def getBlobsCaching (getExact : PreimageKey → (n : Nat) → Except Fault (FixedBytes n))
    (writeHint : Bytes → Except Fault Unit) :
    BlockInfo → List IndexedBlobHash → Except Fault (List Blob4844) :=
  getBlobs (getBlobCaching keccak256 getExact writeHint)

/-- `OracleBlobProvider<InMemoryOracle>::get_blobs`. -/
def getBlobsInMemory (O : InMemoryOracle) :
    BlockInfo → List IndexedBlobHash → Except Fault (List Blob4844) :=
  getBlobs (getBlobInMemory keccak256 sha256 O)

/-- `get_blobs` returns exactly when `get_blob` returns on every hash, one blob per
hash, in order. -/
theorem getBlobs_eq_ok {getBlob : BlockInfo → IndexedBlobHash → Except Fault Blob4844}
    {blockRef : BlockInfo} {blobHashes : List IndexedBlobHash} {blobs : List Blob4844} :
    getBlobs getBlob blockRef blobHashes = .ok blobs ↔
      List.Forall₂ (fun hash blob => getBlob blockRef hash = .ok blob) blobHashes blobs := by
  simpa using foldlM_push_eq_ok (getBlob blockRef) blobHashes [] blobs

/-- **What the zkVM's `get_blobs` returns.** The in-memory provider returns `blobs`
exactly when they are one per hash, in order, each made of the field elements the
map holds for a commitment stored under its hash's `Sha256` key and hashing to it. -/
theorem getBlobsInMemory_eq_ok {O : InMemoryOracle} {blockRef : BlockInfo}
    {blobHashes : List IndexedBlobHash} {blobs : List Blob4844} :
    getBlobsInMemory keccak256 sha256 O blockRef blobHashes = .ok blobs ↔
      List.Forall₂ (fun blobHash blob => ∃ commitment : FixedBytes 48,
          O.lookup (new blobHash.hash .sha256) = some commitment.toList ∧
          sha256 commitment.toList = blobHash.hash ∧
          ∀ i < fieldElementsPerBlob, O.lookup (fieldElementPreimageKey keccak256 commitment i) =
            some (blob.slice (i * 32) (i * 32 + 32)))
        blobHashes blobs := by
  simp only [getBlobsInMemory, getBlobs_eq_ok, getBlobInMemory_eq_ok]

/-- **The two providers agree.** Whenever the in-memory provider returns blobs, the
caching provider reading the same preimages, with the zkVM's no-op hint writer,
returns the same blobs. -/
theorem getBlobsCaching_of_inMemory {O : InMemoryOracle} {blockRef : BlockInfo}
    {blobHashes : List IndexedBlobHash} {blobs : List Blob4844}
    (h : getBlobsInMemory keccak256 sha256 O blockRef blobHashes = .ok blobs) :
    getBlobsCaching keccak256 O.getExact NoopHintWriter.write blockRef blobHashes = .ok blobs :=
  getBlobs_eq_ok.mpr ((getBlobs_eq_ok.mp h).imp fun _ _ hb =>
    getBlobInMemory_eq_caching keccak256 sha256 (fun _ => rfl) hb)

end GetBlobs

/-- A map whose digests are constant: one commitment of zeros under the `Sha256` key
of the zero hash, and 32 bytes of ones under the one `Blob` key every element
request of it collapses onto. -/
def constantBlobOracle : InMemoryOracle :=
  ⟨[(new (FixedBytes.zero 32) .sha256, List.replicate 48 0),
    (new (FixedBytes.zero 32) .blob, List.replicate 32 1)], by decide⟩

theorem getBlobsCaching_of_inMemory_constantBlobOracle :
    getBlobsInMemory (fun _ => FixedBytes.zero 32) (fun _ => FixedBytes.zero 32)
        constantBlobOracle ⟨FixedBytes.zero 32, 0⟩
        [⟨0, FixedBytes.zero 32⟩] = .ok [⟨List.replicate 131072 1, List.length_replicate _ _⟩] ∧
    getBlobsCaching (fun _ => FixedBytes.zero 32) constantBlobOracle.getExact
        NoopHintWriter.write ⟨FixedBytes.zero 32, 0⟩
        [⟨0, FixedBytes.zero 32⟩] = .ok [⟨List.replicate 131072 1, List.length_replicate _ _⟩] := by
  have hslot : ∀ i < fieldElementsPerBlob,
      constantBlobOracle.lookup (fieldElementPreimageKey (fun _ => FixedBytes.zero 32)
        ⟨List.replicate 48 0, List.length_replicate _ _⟩ i) =
        some ((⟨List.replicate 131072 1, List.length_replicate _ _⟩ : Blob4844).slice (i * 32) (i * 32 + 32)) := by
    intro i hi
    simp only [fieldElementsPerBlob] at hi
    rw [slice_slot]
    show _ = some (((List.replicate 131072 1).drop (i * 32)).take 32)
    rw [List.drop_replicate, List.take_replicate, Nat.min_eq_left (by omega)]
    rfl
  have h : getBlobsInMemory (fun _ => FixedBytes.zero 32) (fun _ => FixedBytes.zero 32)
      constantBlobOracle ⟨FixedBytes.zero 32, 0⟩
      [⟨0, FixedBytes.zero 32⟩] = .ok [⟨List.replicate 131072 1, List.length_replicate _ _⟩] :=
    getBlobs_eq_ok.mpr (.cons ((getBlobInMemory_eq_ok _ _).mpr ⟨⟨List.replicate 48 0, List.length_replicate _ _⟩, rfl, rfl, hslot⟩) .nil)
  exact ⟨h, getBlobsCaching_of_inMemory (fun _ => FixedBytes.zero 32) (fun _ => FixedBytes.zero 32) h⟩

end Kona.Client

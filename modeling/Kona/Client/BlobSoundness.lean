import Kona.Client.BlobProvider
import Kona.Preimage.Integrity
import Kona.Sha256

/-!
# What `verify` establishes about the blobs the derivation reads

In zkVM mode a blob reaches the derivation through
`OracleBlobProvider<InMemoryOracle>::get_blob`, which reads the field elements
straight out of the in-memory map. The only thing standing between a prover's
map and those reads is `verify`'s `Blob` branch, which is meant to gather every
field element into a per-commitment `Blob` so that a KZG proof can be checked
against the whole blob after the loop. This file relates the two paths.

The decoding lemmas come first: the sibling preimage of element `i` of a
commitment `c` is `fieldElementKey c i`, from which `verify` reads back `c`
and `i` (`blobCommitment_fieldElementKey`, `blobElement_fieldElementKey`);
for `i + 1 < 2^27` the slot window is `[32 i, 32 i + 32)` (`slotRange_of_lt`); and
`storeBlobValue_fieldElementKey` says what one `Blob` entry does to the table.

The results are about concrete maps, each built for an arbitrary digest
function:

* `verify_skips_slot_past_128`: the element at slot 128 of a commitment is
  accepted by `verify` but never reaches the table, whose `data` ends at byte
  4096;
* `verify_accepts_tampered_element`: replacing a field element's value by any
  other 32-byte value still passes `verify`;
* `emptyBlob_getBlob_panics`: for the all-zero blob, with its real commitment
  and versioned hash, `verify` passes and the in-memory `get_blob` panics on its
  own assertion, because the assertion compares the raw SHA-256 digest with a
  versioned hash whose first byte is `0x01`.
-/

namespace Kona.Client

open Kona.Preimage PreimageKey InMemoryOracle

/-! ## Decoding a field element's sibling preimage -/

theorem blobCommitment_fieldElementKey (c : FixedBytes 48) (i : Nat) :
    blobCommitment (fieldElementKey c i) = .ok c := by
  have h : 48 ≤ (fieldElementKey c i).length := by simp
  simp only [blobCommitment, dif_pos h]
  congr
  simp [fieldElementKey, List.take_append_eq_append_take]

theorem blobElement_fieldElementKey (c : FixedBytes 48) (i : Nat) :
    blobElement (fieldElementKey c i) = .ok (i % 2 ^ 64) := by
  have hd : (fieldElementKey c i).drop 72 = toBeBytes 8 i := by
    simp [fieldElementKey, List.drop_append_eq_append_drop]
  simp [blobElement, hd, fromBeBytes_toBeBytes]

/-- Below `2^27 - 1` the shifted `usize` bounds do not wrap. -/
theorem slotRange_of_lt {i : Nat} (h : i + 1 < 2 ^ 27) : slotRange i = (i * 32, i * 32 + 32) := by
  replace h : i + 1 < 134217728 := h
  have hw : 2 ^ usizeBits = 4294967296 := rfl
  show (i % 2 ^ usizeBits * 32 % 2 ^ usizeBits,
    (i % 2 ^ usizeBits + 1) % 2 ^ usizeBits * 32 % 2 ^ usizeBits) = _
  have h1 : i % 4294967296 = i := Nat.mod_eq_of_lt (by omega)
  have h2 : (i + 1) % 4294967296 = i + 1 := Nat.mod_eq_of_lt (by omega)
  have h3 : i * 32 % 4294967296 = i * 32 := Nat.mod_eq_of_lt (show i * 32 < 4294967296 by omega)
  have h4 : (i + 1) * 32 % 4294967296 = i * 32 + 32 := by
    rw [Nat.mod_eq_of_lt (show (i + 1) * 32 < 4294967296 by omega)]; omega
  rw [hw, h1, h2, h3, h4]

/-- A 32-byte value never makes a slot write panic. -/
theorem writeSlot_length {data : FixedBytes 4096} {lo : Nat} {value : Bytes}
    (hv : value.length = 32) : ∃ d, writeSlot data lo (lo + 32) value = .ok d := by
  unfold writeSlot
  split
  · split
    · exact ⟨_, if_pos (by omega)⟩
    · exact ⟨_, rfl⟩
  · exact ⟨_, rfl⟩

/-- A slot window that ends past byte 4096 is skipped: the data is unchanged. -/
theorem writeSlot_of_gt {data : FixedBytes 4096} {lo hi : Nat} {value : Bytes}
    (h : 4096 < hi) : writeSlot data lo hi value = .ok data := by
  simp [writeSlot, show ¬ hi ≤ 4096 by omega]

/-- One `Blob` entry for element `i < 4096` of `c` with a 32-byte value leaves
every commitment but `c` alone, and gives `c` the result of the slot write. -/
theorem storeBlobValue_fieldElementKey (t : BlobTable) (c : FixedBytes 48) {i : Nat}
    (hi : i < 4096) (value : Bytes) :
    storeBlobValue t (fieldElementKey c i) value =
      (writeSlot (t.entry c).data (i * 32) (i * 32 + 32) value).map
        fun data => t.insert c { t.entry c with data } := by
  have hmod : i % 2 ^ 64 = i := Nat.mod_eq_of_lt (by omega)
  simp only [storeBlobValue, blobCommitment_fieldElementKey, blobElement_fieldElementKey, hmod,
    slotRange_of_lt (show i + 1 < 2 ^ 27 from Nat.lt_of_lt_of_le (Nat.succ_lt_succ hi) (by decide)), if_neg (show i ≠ 4096 by omega),
    if_neg (show i ≠ 4097 by omega), bind, Except.bind]
  cases writeSlot (t.entry c).data (i * 32) (i * 32 + 32) value <;> rfl

/-! ## One field element, as `verify` sees it -/

section OneElement

variable (keccak256 sha256 : Bytes → B256) {P : Type} (precompileFromBytes : Bytes → Option P)
  (execute : P → Bytes)

/-- Keys of different types are different keys. -/
theorem new_ne_new {a b : B256} {s t : PreimageKeyType} (h : s ≠ t) : new a s ≠ new b t :=
  fun he => h (congrArg PreimageKey.keyType he)

/-- The map holding element `i` of commitment `c` with value `v`: the
`Keccak256` entry of the element's key preimage and the `Blob` entry. -/
def singleElementOracle (c : FixedBytes 48) (i : Nat) (v : Bytes) : InMemoryOracle :=
  ⟨[(new (keccak256 (fieldElementKey c i)) .keccak256, fieldElementKey c i),
    (fieldElementPreimageKey keccak256 c i, v)], by
      simp [fieldElementPreimageKey, new_ne_new]⟩

/-- `verify`'s first loop on a single element `i < 4096`: the `Keccak256` entry
passes, and the `Blob` entry becomes one slot write into a fresh blob. -/
theorem verifyEntries_singleElementOracle (c : FixedBytes 48) {i : Nat} (hi : i < 4096)
    (v : Bytes) :
    verifyEntries keccak256 sha256 precompileFromBytes execute
        (singleElementOracle keccak256 c i v) =
      (writeSlot (FixedBytes.zero 4096) (i * 32) (i * 32 + 32) v).map
        fun data => BlobTable.empty.insert c { Blob.default with data } := by
  simp only [verifyEntries, singleElementOracle, List.foldlM_cons, List.foldlM_nil, verifyEntry,
    new_keyType, fieldElementPreimageKey, if_pos, lookup, sibling_new, List.lookup_cons,
    beq_self_eq_true, storeBlobValue_fieldElementKey _ c hi, BlobTable.entry_empty,
    Blob.default_data, bind, Except.bind]
  cases writeSlot (FixedBytes.zero 4096) (i * 32) (i * 32 + 32) v <;> rfl

/-- A single element `i < 4096` with a 32-byte value passes `verify`, whatever
the value. -/
theorem verify_singleElementOracle (c : FixedBytes 48) {i : Nat} (hi : i < 4096) {v : Bytes}
    (hv : v.length = 32) :
    verify keccak256 sha256 precompileFromBytes execute (singleElementOracle keccak256 c i v) =
      .ok () := by
  obtain ⟨d, hd⟩ := @writeSlot_length (FixedBytes.zero 4096) (i * 32) _ hv
  rw [verify_eq_ok, verifyEntries_singleElementOracle _ _ _ _ _ hi, hd]
  exact ⟨_, rfl⟩

theorem lookup_singleElementOracle (c : FixedBytes 48) (i : Nat) (v : Bytes) :
    (singleElementOracle keccak256 c i v).lookup (fieldElementPreimageKey keccak256 c i) =
      some v :=
  lookup_of_mem (by simp [singleElementOracle])

/-- **Slot 128 is accepted and dropped.** The element at index 128 of any
commitment, under exactly the key `get_blob` requests for it, passes `verify`,
but the table `verify` builds for the KZG check has no bytes `[4096, 4128)` in
the commitment's data: the value is in the map the derivation reads and in no
blob that could be checked. -/
theorem verify_skips_slot_past_128 (c : FixedBytes 48) :
    verify keccak256 sha256 precompileFromBytes execute
        (singleElementOracle keccak256 c 128 (List.replicate 32 0xff)) = .ok () ∧
    (singleElementOracle keccak256 c 128 (List.replicate 32 0xff)).lookup
        (fieldElementPreimageKey keccak256 c 128) = some (List.replicate 32 0xff) ∧
    ∀ t, verifyEntries keccak256 sha256 precompileFromBytes execute
        (singleElementOracle keccak256 c 128 (List.replicate 32 0xff)) = .ok t →
      (t.entry c).data.slice (128 * 32) (128 * 32 + 32) ≠ List.replicate 32 0xff := by
  refine ⟨verify_singleElementOracle _ _ _ _ c (by decide) (by simp),
    lookup_singleElementOracle _ c 128 _, fun t ht => ?_⟩
  rw [verifyEntries_singleElementOracle _ _ _ _ c (by decide),
    writeSlot_of_gt (show 4096 < 128 * 32 + 32 by decide)] at ht
  cases ht
  rw [FixedBytes.slice_eq_nil _ _ (by decide)]
  simp

/-- **No tamper evidence for blob data.** The map holding element 0 of a
commitment with value `0^32` and the map holding `1^32` instead both pass
`verify`: nothing in `verify` ties a field element to its commitment. -/
theorem verify_accepts_tampered_element (c : FixedBytes 48) :
    verify keccak256 sha256 precompileFromBytes execute
        (singleElementOracle keccak256 c 0 (List.replicate 32 0)) = .ok () ∧
    verify keccak256 sha256 precompileFromBytes execute
        (singleElementOracle keccak256 c 0 (List.replicate 32 1)) = .ok () ∧
    List.replicate 32 (0 : UInt8) ≠ List.replicate 32 1 :=
  ⟨verify_singleElementOracle _ _ _ _ c (by decide) (by simp),
    verify_singleElementOracle _ _ _ _ c (by decide) (by simp), by decide⟩

end OneElement



/-! ## The all-zero blob -/

namespace EmptyBlob

open Kona.Sha256 (digest)

/-- Modelled from the spec: the versioned hash of a commitment (§3), its
SHA-256 digest with the first byte overwritten by the KZG version tag `0x01`. -/
def kzgToVersionedHash (sha256 : Bytes → B256) (c : FixedBytes 48) : B256 :=
  ⟨0x01 :: (sha256 c.toList).tail.toList, by simp⟩

/-- A versioned hash agrees with the commitment's digest past the first byte. -/
theorem tail_kzgToVersionedHash (sha256 : Bytes → B256) (c : FixedBytes 48) :
    (kzgToVersionedHash sha256 c).tail = (sha256 c.toList).tail :=
  FixedBytes.ext_toList rfl

/-- The KZG commitment of the all-zero blob: the compressed point at infinity. -/
def commitment : FixedBytes 48 := ⟨0xc0 :: List.replicate 47 0, rfl⟩

/-- `keccak256` gives the element keys of `c` pairwise different bodies: two
element keys of one type collide only for one index. -/
def SeparatesElements (keccak256 : Bytes → B256) (c : FixedBytes 48) : Prop :=
  ∀ i j, i < fieldElementsPerBlob → j < fieldElementsPerBlob →
    (keccak256 (fieldElementKey c i)).tail = (keccak256 (fieldElementKey c j)).tail → i = j

variable (keccak256 : Bytes → B256)

/-- The two entries of element `i`: the `Keccak256` preimage of its key and its
value `0^32`. -/
def elementEntries (i : Nat) : List (PreimageKey × Bytes) :=
  [(new (keccak256 (fieldElementKey commitment i)) .keccak256, fieldElementKey commitment i),
   (fieldElementPreimageKey keccak256 commitment i, List.replicate 32 0)]

/-- The entries of the zkVM map for the all-zero blob: the commitment under the
`Sha256` key of its versioned hash, then both entries of every element. -/
def entries : List (PreimageKey × Bytes) :=
  (new (kzgToVersionedHash digest commitment) .sha256, commitment.toList) ::
    (List.range fieldElementsPerBlob).flatMap (elementEntries keccak256)

theorem keys_nodup (hk : SeparatesElements keccak256 commitment) :
    ((entries keccak256).map Prod.fst).Nodup := by
  have hinj : ∀ {i j s t}, i < fieldElementsPerBlob → j < fieldElementsPerBlob →
      new (keccak256 (fieldElementKey commitment i)) s =
        new (keccak256 (fieldElementKey commitment j)) t → i = j :=
    fun hi hj h => hk _ _ hi hj (congrArg PreimageKey.data h)
  rw [entries, List.map_cons, List.nodup_cons, List.map_flatMap, List.nodup_flatMap]
  refine ⟨?_, fun i _ => ?_, (List.nodup_range _).imp_of_mem fun hi hj hij => ?_⟩
  · simp [elementEntries, fieldElementPreimageKey, new_ne_new]
  · simp [elementEntries, fieldElementPreimageKey, new_ne_new]
  · simp only [List.mem_range] at hi hj
    simp only [Function.onFun, elementEntries, fieldElementPreimageKey, List.map_cons,
      List.map_nil, List.disjoint_cons_left, List.mem_cons, List.mem_singleton,
      List.disjoint_nil_left, List.not_mem_nil, or_false, and_true]
    refine ⟨not_or.mpr ⟨fun h => hij (hinj hi hj h), new_ne_new (by decide)⟩,
      not_or.mpr ⟨new_ne_new (by decide), fun h => hij (hinj hi hj h)⟩⟩

/-- The zkVM map for the all-zero blob. -/
def oracle (hk : SeparatesElements keccak256 commitment) : InMemoryOracle :=
  ⟨entries keccak256, keys_nodup keccak256 hk⟩

/-- The SHA-256 digest of the commitment. Its first byte is `0x5f`, so the
versioned hash is `0x010657f3…3c444014`. -/
theorem digest_commitment : (digest commitment.toList).toList =
    [0x5f, 0x06, 0x57, 0xf3, 0x75, 0x54, 0xc7, 0x81, 0x40, 0x2a, 0x22, 0x91, 0x7d, 0xee, 0x2f, 0x75,
     0xde, 0xf7, 0xab, 0x96, 0x6d, 0x7b, 0x77, 0x09, 0x05, 0x39, 0x8e, 0xba, 0x3c, 0x44, 0x40, 0x14] := by
  set_option maxRecDepth 10000 in decide

variable {keccak256}

/-- Every entry of the map passes its iteration of `verify`, from any table. -/
theorem verifyEntry_ok (hk : SeparatesElements keccak256 commitment) {P : Type}
    (precompileFromBytes : Bytes → Option P) (execute : P → Bytes) (t : BlobTable)
    {e : PreimageKey × Bytes} (he : e ∈ entries keccak256) :
    ∃ t', verifyEntry keccak256 digest precompileFromBytes execute (oracle keccak256 hk) t e =
      .ok t' := by
  rcases List.mem_cons.mp he with rfl | he
  · refine ⟨t, ?_⟩
    simp only [verifyEntry, new_keyType]
    rw [if_pos (new_inj_iff.mpr (tail_kzgToVersionedHash digest commitment))]
  obtain ⟨i, hi, he⟩ := List.mem_flatMap.mp he
  rcases List.mem_cons.mp he with rfl | he
  · exact ⟨t, if_pos rfl⟩
  rw [List.mem_singleton] at he
  subst he
  have hsib : (oracle keccak256 hk).lookup (new (keccak256 (fieldElementKey commitment i)) .keccak256)
      = some (fieldElementKey commitment i) :=
    lookup_of_mem (List.mem_cons_of_mem _ (List.mem_flatMap.mpr ⟨i, hi, List.mem_cons_self _ _⟩))
  obtain ⟨d, hd⟩ := @writeSlot_length (t.entry commitment).data (i * 32) _
    (show (List.replicate 32 (0 : UInt8)).length = 32 by simp)
  refine ⟨t.insert commitment { t.entry commitment with data := d }, ?_⟩
  have hi' : i < 4096 := List.mem_range.mp hi
  simp only [verifyEntry, fieldElementPreimageKey, new_keyType, sibling_new, hsib]
  rw [storeBlobValue_fieldElementKey t commitment hi', hd]
  rfl

/-- **The in-memory `get_blob` panics on a verified all-zero blob.** Take the
map of the all-zero blob: its commitment under the `Sha256` key of its real
versioned hash (first byte `0x01`), and all 4096 field elements `0^32` under
the keys `get_blob` requests, each with its `Keccak256` sibling. `verify`
returns `Ok` on it, for any `keccak256` that gives the 4096 element keys
different bodies. Yet `get_blob` panics on its assertion
`sha256(commitment) == blob_hash.hash`: the raw digest starts with `0x5f`. -/
theorem getBlob_panics_on_verified_empty_blob (hk : SeparatesElements keccak256 commitment)
    {P : Type} (precompileFromBytes : Bytes → Option P) (execute : P → Bytes)
    (blockRef : BlockInfo) (index : Nat) :
    verify keccak256 digest precompileFromBytes execute (oracle keccak256 hk) = .ok () ∧
    (kzgToVersionedHash digest commitment).head = 0x01 ∧
    (oracle keccak256 hk).lookup (new (kzgToVersionedHash digest commitment) .sha256) =
      some commitment.toList ∧
    (∀ i < fieldElementsPerBlob, (oracle keccak256 hk).lookup
      (fieldElementPreimageKey keccak256 commitment i) = some (List.replicate 32 0)) ∧
    getBlobInMemory keccak256 digest (oracle keccak256 hk) blockRef
        ⟨index, kzgToVersionedHash digest commitment⟩ =
      .error (.panic "get_blob - zkvm constraint failed") := by
  have hc : (oracle keccak256 hk).lookup (new (kzgToVersionedHash digest commitment) .sha256) =
      some commitment.toList :=
    lookup_of_mem (List.mem_cons_self _ _)
  have hne : digest commitment.toList ≠ kzgToVersionedHash digest commitment := by
    intro heq
    have h0 := congrArg (fun b : B256 => b.toList.head?) heq
    simp only [digest_commitment] at h0
    simp [kzgToVersionedHash] at h0
  refine ⟨(verify_eq_ok _ _ _ _).mpr (foldlM_ok_of_forall _ fun s x hx =>
      verifyEntry_ok hk precompileFromBytes execute s hx), rfl, hc, fun i hi => ?_,
    getBlobInMemory_panics keccak256 digest hc hne⟩
  exact lookup_of_mem (List.mem_cons_of_mem _
    (List.mem_flatMap.mpr ⟨i, List.mem_range.mpr hi, by simp [elementEntries]⟩))

/-- A stand-in digest that keeps bytes `49..80` of its input: on the element
keys of one commitment it is 23 zero bytes and the index, big-endian. -/
def indexDigest (bs : Bytes) : B256 :=
  ⟨(0 :: (bs.drop 49 ++ List.replicate 31 0)).take 32, by simp⟩

theorem separates_indexDigest : SeparatesElements indexDigest commitment := by
  intro i j hi hj h
  have h' := congrArg FixedBytes.toList h
  simp [indexDigest, FixedBytes.tail, fieldElementKey, commitment, List.drop_append_eq_append_drop,
    List.take_append_eq_append_take] at h'
  have := toBeBytes_inj h'
  simp only [fieldElementsPerBlob] at hi hj
  omega

theorem getBlob_panics_on_verified_empty_blob_instance :
    getBlobInMemory indexDigest digest (oracle indexDigest separates_indexDigest)
        ⟨FixedBytes.zero 32, 0⟩
        ⟨0, kzgToVersionedHash digest commitment⟩ =
      .error (.panic "get_blob - zkvm constraint failed") :=
  (getBlob_panics_on_verified_empty_blob separates_indexDigest (fun _ : Bytes => (none : Option Unit))
    (fun _ => []) ⟨FixedBytes.zero 32, 0⟩ 0).2.2.2.2

end EmptyBlob
end Kona.Client

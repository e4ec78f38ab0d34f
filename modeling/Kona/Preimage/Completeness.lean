import Kona.Preimage.Integrity

/-!
# What `verify` accepts: every well-formed map, in every iteration order

`Integrity.lean` bounds `verify` from above: a map it accepts satisfies the
integrity rule at each of its entries. This file bounds it from below. An
entry is well formed (`wellFormedEntry`) when it passes its own check whatever
the rest of the map holds: a `Keccak256` or `Sha256` key is the key of its
value's digest, a `Blob` entry has an 80-byte sibling preimage and a value of
the width its slot is copied into, a `Precompile` value is the output of the
call its sibling decodes to, and no key is `GlobalGeneric`. A map whose every
entry is well formed passes `verify` (`verify_complete`). The hypothesis is
about membership only, so the result holds for every order the `HashMap`
iterates in: an honest host's map is never rejected.

The one check of `verify`'s loop that reads the state the earlier entries
left is the slot write, which panics on a value of the wrong length only when
the slot is still all zero. A 32-byte value never reaches that panic: whenever
the wrapped `usize` bounds of a window are in order, the window is exactly 32
bytes wide (`slotRange_snd_of_le`), so `writeSlot_slotRange_ok` holds in every
blob table, and the step lemma `verifyEntry_ok_of_wellFormed` with it.
-/

namespace Kona.Preimage

open PreimageKey InMemoryOracle

/-! ## The slot write of a `Blob` entry -/

/-- Whenever the wrapped window bounds of an element are in order, the window is
one 32-byte slot. -/
theorem slotRange_snd_of_le {element : Nat} (h : (slotRange element).1 ≤ (slotRange element).2) :
    (slotRange element).2 = (slotRange element).1 + 32 := by
  simp only [slotRange, usizeBits] at h ⊢
  omega

/-- A 32-byte value never makes the slot write fail, whatever the blob holds. -/
theorem writeSlot_slotRange_ok (data : FixedBytes 4096) (element : Nat) {value : Bytes}
    (hv : value.length = 32) :
    ∃ d, writeSlot data (slotRange element).1 (slotRange element).2 value = .ok d := by
  unfold writeSlot
  split
  · next h =>
    have hw := slotRange_snd_of_le h.1
    split
    · exact ⟨_, if_pos (by omega)⟩
    · exact ⟨_, rfl⟩
  · exact ⟨_, rfl⟩

/-- The shape of a `Blob` entry that `storeBlobValue` files in every table: an
80-byte sibling preimage, and a value of at least 16 bytes for element 4097 (the
proof's second half) and of 32 bytes otherwise. -/
def blobValueFits (blobData value : Bytes) : Bool :=
  blobData.length == 80 &&
    if fromBeBytes (blobData.drop 72) = 4097 then decide (16 ≤ value.length)
    else value.length == 32

theorem storeBlobValue_ok (blobs : BlobTable) {blobData value : Bytes}
    (h : blobValueFits blobData value = true) :
    ∃ t, storeBlobValue blobs blobData value = .ok t := by
  simp only [blobValueFits, Bool.and_eq_true, beq_iff_eq] at h
  obtain ⟨h80, hv⟩ := h
  simp only [storeBlobValue, blobCommitment, dif_pos (show 48 ≤ blobData.length by omega),
    blobElement, if_pos (show 72 ≤ blobData.length by omega),
    if_pos (show blobData.length - 72 = 8 by omega), bind, Except.bind]
  split
  · rw [if_neg (by omega), beq_iff_eq] at hv
    exact ⟨_, if_pos hv⟩
  · split
    · next h4097 =>
      rw [if_pos h4097, decide_eq_true_eq] at hv
      exact ⟨_, if_pos hv⟩
    · next h4097 =>
      rw [if_neg h4097, beq_iff_eq] at hv
      obtain ⟨d, hd⟩ := writeSlot_slotRange_ok (blobs.entry _).data _ hv
      rw [hd]
      exact ⟨_, rfl⟩

/-! ## Well-formed entries -/

section Complete

variable (keccak256 sha256 : Bytes → B256) {P : Type} (precompileFromBytes : Bytes → Option P)
  (execute : P → Bytes)

/-- An entry that passes `verify`'s check for its key type whatever the blob table
holds, one case per key type as in `verifyEntry`. -/
def wellFormedEntry (O : InMemoryOracle) : PreimageKey × Bytes → Bool
  | (key, value) =>
    match key.keyType with
    | .local => true
    | .keccak256 => key == new (keccak256 value) .keccak256
    | .globalGeneric => false
    | .sha256 => key == new (sha256 value) .sha256
    | .blob =>
      match O.lookup (sibling key) with
      | some blobData => blobValueFits blobData value
      | none => false
    | .precompile =>
      match O.lookup (sibling key) with
      | some hintData =>
        match precompileFromBytes hintData with
        | some precompile => value == execute precompile
        | none => false
      | none => false

variable {keccak256 sha256 precompileFromBytes execute}

/-- The step: a well-formed entry passes its iteration from every blob table. -/
theorem verifyEntry_ok_of_wellFormed {O : InMemoryOracle} {e : PreimageKey × Bytes}
    (h : wellFormedEntry keccak256 sha256 precompileFromBytes execute O e = true)
    (blobs : BlobTable) :
    ∃ t, verifyEntry keccak256 sha256 precompileFromBytes execute O blobs e = .ok t := by
  obtain ⟨key, value⟩ := e
  simp only [wellFormedEntry] at h
  simp only [verifyEntry]
  cases hk : key.keyType <;> simp only [hk] at h ⊢
  case «local» => exact ⟨_, rfl⟩
  case keccak256 => exact ⟨_, if_pos (beq_iff_eq.mp h)⟩
  case globalGeneric => cases h
  case sha256 => exact ⟨_, if_pos (beq_iff_eq.mp h)⟩
  case blob =>
    cases hl : O.lookup (sibling key) <;> simp only [hl] at h ⊢
    · cases h
    · exact storeBlobValue_ok blobs h
  case precompile =>
    cases hl : O.lookup (sibling key) <;> simp only [hl] at h ⊢
    · cases h
    · next hintData =>
      cases hp : precompileFromBytes hintData <;> simp only [hp] at h ⊢
      · cases h
      · exact ⟨_, if_pos (beq_iff_eq.mp h)⟩

variable (keccak256 sha256 precompileFromBytes execute)

/-- **Completeness of `verify`.** A map whose every entry is well formed passes
`verify`, whichever order the `HashMap` iterates its entries in. -/
theorem verify_complete {O : InMemoryOracle}
    (h : ∀ e ∈ O.cache, wellFormedEntry keccak256 sha256 precompileFromBytes execute O e = true) :
    verify keccak256 sha256 precompileFromBytes execute O = .ok () :=
  (verify_eq_ok _ _ _ _).mpr
    (foldlM_ok_of_forall _ fun s e he => verifyEntry_ok_of_wellFormed (h e he) s)

end Complete

/-- A map holding one field element: its 80-byte key preimage under a `Keccak256`
key and a 32-byte value under the `Blob` key with the same body. -/
def blobElementOracle : InMemoryOracle :=
  ⟨[(new (FixedBytes.zero 32) .keccak256, List.replicate 80 0),
    (new (FixedBytes.zero 32) .blob, List.replicate 32 1)], by decide⟩

theorem verify_complete_blobElementOracle :
    (∀ e ∈ blobElementOracle.cache, wellFormedEntry (fun _ => FixedBytes.zero 32)
      (fun _ => FixedBytes.zero 32) (fun _ => (none : Option Unit)) (fun _ => [])
      blobElementOracle e = true) ∧
    verify (fun _ => FixedBytes.zero 32) (fun _ => FixedBytes.zero 32)
      (fun _ => (none : Option Unit)) (fun _ => []) blobElementOracle = .ok () :=
  ⟨by decide, verify_complete _ _ _ _ (by decide)⟩

end Kona.Preimage

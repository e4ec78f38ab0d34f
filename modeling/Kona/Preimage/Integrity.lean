import Kona.Preimage.InMemory

/-!
# What a successful `verify` guarantees about every value the oracle hands out

`Integrity O key value` is the spec's integrity rule (§4.2) for one entry of
the in-memory map, one case per key type: a `Keccak256` key is the key of its
value's digest, a `Sha256` key agrees with its value's SHA-256 digest past the
first byte, a `Precompile` value is the output of the precompile call stored
under its `Keccak256` sibling, a `Blob` key has a `Keccak256` sibling, and no
value may sit under a `GlobalGeneric` key.

The proof has the shape of the loop. `verifyEntry_integrity` is the step: an
iteration that returns `Ok` has checked its entry's rule, whatever blob table it
started from. `foldlM_ok_step` turns a successful left fold into a successful
step on every element, so a successful `verify` has checked every entry, in
every iteration order (`verify_integrity`). Since `get` and `get_exact` only
ever return an entry of the map, the rule holds for whatever they return.
-/

namespace Kona.Preimage

open PreimageKey InMemoryOracle

/-- A left fold in `Except` that succeeds took a successful step on every element. -/
theorem foldlM_ok_step {α β ε : Type} {f : β → α → Except ε β} :
    ∀ {l : List α} {init r : β}, l.foldlM f init = .ok r →
      ∀ x ∈ l, ∃ s t, f s x = .ok t
  | [], _, _, _, x, hx => by cases hx
  | y :: ys, init, r, h, x, hx => by
    rw [List.foldlM_cons] at h
    cases hy : f init y with
    | error e => rw [hy] at h; cases h
    | ok s =>
      rw [hy] at h
      rcases List.mem_cons.mp hx with rfl | hx
      · exact ⟨init, s, hy⟩
      · exact foldlM_ok_step h x hx

section Verify

variable (keccak256 sha256 : Bytes → B256) {P : Type} (precompileFromBytes : Bytes → Option P)
  (execute : P → Bytes)

/-- The integrity rule of §4.2 for `value` under `key`, in the map `O`. -/
def Integrity (O : InMemoryOracle) (key : PreimageKey) (value : Bytes) : Prop :=
  match key.keyType with
  | .local => True
  | .keccak256 => new (keccak256 value) .keccak256 = key
  | .globalGeneric => False
  | .sha256 => (sha256 value).tail = key.data
  | .blob => ∃ blobData, O.lookup (sibling key) = some blobData
  | .precompile => ∃ hintData precompile, O.lookup (sibling key) = some hintData ∧
      precompileFromBytes hintData = some precompile ∧ execute precompile = value

variable {keccak256 sha256 precompileFromBytes execute}

/-- No value satisfies the rule under a `GlobalGeneric` key. -/
theorem Integrity.keyType_ne {O : InMemoryOracle} {key : PreimageKey} {value : Bytes}
    (h : Integrity keccak256 sha256 precompileFromBytes execute O key value) :
    key.keyType ≠ .globalGeneric := by
  intro hk
  simp [Integrity, hk] at h

/-- One iteration of `verify` that returns `Ok` has checked its entry's rule. -/
theorem verifyEntry_integrity {O : InMemoryOracle} {t t' : BlobTable} {key : PreimageKey}
    {value : Bytes}
    (h : verifyEntry keccak256 sha256 precompileFromBytes execute O t (key, value) = .ok t') :
    Integrity keccak256 sha256 precompileFromBytes execute O key value := by
  unfold verifyEntry at h
  unfold Integrity
  cases hk : key.keyType <;> simp only [hk] at h ⊢
  case keccak256 =>
    split at h
    · exact (‹key = _›).symm
    · cases h
  case globalGeneric => cases h
  case sha256 =>
    split at h
    · next he => rw [he]; rfl
    · cases h
  case blob =>
    split at h
    · exact ⟨_, ‹_›⟩
    · cases h
  case precompile =>
    split at h
    · next hintData hd =>
      split at h
      · next p hp =>
        split at h
        · exact ⟨hintData, p, hd, hp, (‹value = _›).symm⟩
        · cases h
      · cases h
    · cases h

/-- After `verify` returns `Ok`, every entry of the map satisfies the rule of
its key's type, whatever the iteration order. -/
theorem integrity_of_verify {O : InMemoryOracle}
    (hv : verify keccak256 sha256 precompileFromBytes execute O = .ok ()) :
    ∀ key value, (key, value) ∈ O.cache →
      Integrity keccak256 sha256 precompileFromBytes execute O key value := by
  obtain ⟨t, ht⟩ := (verify_eq_ok keccak256 sha256 precompileFromBytes execute).mp hv
  intro key value hkv
  obtain ⟨s, s', hs⟩ := foldlM_ok_step ht _ hkv
  exact verifyEntry_integrity hs

/-- **Integrity of the in-memory oracle.** After `verify` returns `Ok`, the map
holds no `GlobalGeneric` key, and every value `get` or `get_exact` returns
satisfies the integrity rule of its key's type, for every map and every
iteration order. -/
theorem verify_integrity (O : InMemoryOracle)
    (hv : verify keccak256 sha256 precompileFromBytes execute O = .ok ()) :
    (∀ key ∈ O.cache.map Prod.fst, key.keyType ≠ .globalGeneric) ∧
    (∀ key value, O.get key = .ok value →
      Integrity keccak256 sha256 precompileFromBytes execute O key value) ∧
    (∀ key n (buf : FixedBytes n), O.getExact key n = .ok buf →
      Integrity keccak256 sha256 precompileFromBytes execute O key buf.toList) := by
  have hmem := integrity_of_verify hv
  refine ⟨?_, fun key value h => hmem _ _ (mem_of_lookup (get_eq_ok.mp h)),
    fun key n buf h => hmem _ _ (mem_of_lookup (getExact_eq_ok.mp h))⟩
  intro key hkey
  obtain ⟨⟨k, v⟩, hkv, rfl⟩ := List.mem_map.mp hkey
  exact (hmem k v hkv).keyType_ne

end Verify

/-- A map with a `Local` entry and the `Keccak256` entry of `[1, 2, 3]` under
the all-zero digest. -/
def localKeccakOracle : InMemoryOracle :=
  ⟨[(⟨FixedBytes.zero 31, .local⟩, [7]), (new (FixedBytes.zero 32) .keccak256, [1, 2, 3])],
    by decide⟩

theorem verify_integrity_localKeccakOracle :
    verify (fun _ => FixedBytes.zero 32) (fun _ => FixedBytes.zero 32) (fun _ => (none : Option Unit))
        (fun _ => []) localKeccakOracle = .ok () ∧
    (∀ key ∈ localKeccakOracle.cache.map Prod.fst, key.keyType ≠ .globalGeneric) ∧
    (∀ key value, localKeccakOracle.get key = .ok value →
      Integrity (fun _ => FixedBytes.zero 32) (fun _ => FixedBytes.zero 32)
        (fun _ => (none : Option Unit)) (fun _ => []) localKeccakOracle key value) ∧
    (∀ key n (buf : FixedBytes n), localKeccakOracle.getExact key n = .ok buf →
      Integrity (fun _ => FixedBytes.zero 32) (fun _ => FixedBytes.zero 32)
        (fun _ => (none : Option Unit)) (fun _ => []) localKeccakOracle key buf.toList) :=
  ⟨rfl, verify_integrity localKeccakOracle rfl⟩

end Kona.Preimage

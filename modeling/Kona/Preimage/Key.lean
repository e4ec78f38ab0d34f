import Kona.Primitives

/-!
# Typed preimage keys

Every request to the preimage oracle names a 32-byte key: one byte of key type
and a 31-byte body. `PreimageKey::new(digest, type)` keeps bytes `1..32` of a
digest and tags them, so the first digest byte is lost, and the type decides
which integrity rule a value under the key must satisfy (`Integrity.lean`).

`kona_preimage` is not part of the sources, so the key type is modelled from
the spec's §3. The one fact the oracle code leans on is `new_toBytes`:
re-typing a key through `Into<[u8; 32]>` and `PreimageKey::new` keeps its body,
which is how `verify` finds the `Keccak256` sibling of a `Blob` or
`Precompile` key.
-/

namespace Kona.Preimage

/-- Modelled from the spec: `PreimageKeyType` (§3), the closed set of key types.
The tag bytes are the crate's `repr(u8)` discriminants. -/
inductive PreimageKeyType
  | «local»
  | keccak256
  | globalGeneric
  | sha256
  | blob
  | precompile
deriving DecidableEq, Repr

/-- The tag byte of a key type, `key_type as u8`. -/
def PreimageKeyType.toByte : PreimageKeyType → UInt8
  | .local => 1
  | .keccak256 => 2
  | .globalGeneric => 3
  | .sha256 => 4
  | .blob => 5
  | .precompile => 6

/-- Modelled from the spec: `PreimageKey` (§3), a 31-byte body under a type. -/
structure PreimageKey where
  data : FixedBytes 31
  keyType : PreimageKeyType
deriving DecidableEq

namespace PreimageKey

/-- Modelled from the spec: `PreimageKey::new`, the digest with its top byte
replaced by the type. -/
def new (key : B256) (keyType : PreimageKeyType) : PreimageKey :=
  ⟨key.tail, keyType⟩

/-- Modelled from the spec: `Into<[u8; 32]>`, the type byte followed by the body. -/
def toBytes (k : PreimageKey) : B256 :=
  ⟨k.keyType.toByte :: k.data.toList, by simp⟩

@[simp] theorem new_data (key : B256) (t : PreimageKeyType) : (new key t).data = key.tail :=
  rfl

@[simp] theorem new_keyType (key : B256) (t : PreimageKeyType) : (new key t).keyType = t :=
  rfl

@[simp] theorem tail_toBytes (k : PreimageKey) : k.toBytes.tail = k.data :=
  rfl

/-- Re-typing a key keeps its body. -/
@[simp] theorem new_toBytes (k : PreimageKey) (t : PreimageKeyType) :
    new k.toBytes t = { k with keyType := t } :=
  rfl

/-- A key is `new key t` exactly when its body is bytes `1..32` of `key` and its
type is `t`. -/
theorem new_eq_iff {key : B256} {t : PreimageKeyType} {k : PreimageKey} :
    new key t = k ↔ key.tail = k.data ∧ t = k.keyType := by
  obtain ⟨d, t'⟩ := k
  simp [new]

/-- Two digests give the same key of one type exactly when they agree past
their first byte. -/
theorem new_inj_iff {a b : B256} {t : PreimageKeyType} : new a t = new b t ↔ a.tail = b.tail := by
  simp [new]

end PreimageKey

end Kona.Preimage

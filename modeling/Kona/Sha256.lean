import Kona.Primitives

/-!
# SHA-256

The client hashes KZG commitments with SHA-256 (`sha2::Sha256::digest` in
`verify`, `sha256::digest` in `get_blob`). Every theorem of the oracle model
holds for an arbitrary digest function; this executable FIPS 180-4 digest is
what those theorems are instantiated with when a statement is about a fixed
commitment and must be evaluated.

The message schedule is built by structural recursion on the number of words
still to add, the blocks by structural recursion on their count, so `decide`
evaluates a digest of a short message directly.
-/

namespace Kona.Sha256

/-- The round constants. -/
def roundConstants : List UInt32 := [
  0x428a2f98, 0x71374491, 0xb5c0fbcf, 0xe9b5dba5, 0x3956c25b, 0x59f111f1, 0x923f82a4, 0xab1c5ed5,
  0xd807aa98, 0x12835b01, 0x243185be, 0x550c7dc3, 0x72be5d74, 0x80deb1fe, 0x9bdc06a7, 0xc19bf174,
  0xe49b69c1, 0xefbe4786, 0x0fc19dc6, 0x240ca1cc, 0x2de92c6f, 0x4a7484aa, 0x5cb0a9dc, 0x76f988da,
  0x983e5152, 0xa831c66d, 0xb00327c8, 0xbf597fc7, 0xc6e00bf3, 0xd5a79147, 0x06ca6351, 0x14292967,
  0x27b70a85, 0x2e1b2138, 0x4d2c6dfc, 0x53380d13, 0x650a7354, 0x766a0abb, 0x81c2c92e, 0x92722c85,
  0xa2bfe8a1, 0xa81a664b, 0xc24b8b70, 0xc76c51a3, 0xd192e819, 0xd6990624, 0xf40e3585, 0x106aa070,
  0x19a4c116, 0x1e376c08, 0x2748774c, 0x34b0bcb5, 0x391c0cb3, 0x4ed8aa4a, 0x5b9cca4f, 0x682e6ff3,
  0x748f82ee, 0x78a5636f, 0x84c87814, 0x8cc70208, 0x90befffa, 0xa4506ceb, 0xbef9a3f7, 0xc67178f2]

/-- The eight working variables. -/
structure State where
  a : UInt32
  b : UInt32
  c : UInt32
  d : UInt32
  e : UInt32
  f : UInt32
  g : UInt32
  h : UInt32

/-- The initial hash value. -/
def initial : State :=
  ⟨0x6a09e667, 0xbb67ae85, 0x3c6ef372, 0xa54ff53a, 0x510e527f, 0x9b05688c, 0x1f83d9ab, 0x5be0cd19⟩

/-- Rotate right. -/
def rotr (x n : UInt32) : UInt32 := (x >>> n) ||| (x <<< (32 - n))

/-- Big-endian words of a block. -/
def words : Bytes → List UInt32
  | b0 :: b1 :: b2 :: b3 :: rest =>
    ((b0.toUInt32 <<< 24) ||| (b1.toUInt32 <<< 16) ||| (b2.toUInt32 <<< 8) ||| b3.toUInt32) ::
      words rest
  | _ => []

/-- The big-endian bytes of a word. -/
def wordBytes (w : UInt32) : Bytes :=
  [(w >>> 24).toUInt8, (w >>> 16).toUInt8, (w >>> 8).toUInt8, w.toUInt8]

/-- Extend the message schedule by `n` words. -/
def schedule : Nat → List UInt32 → List UInt32
  | 0, w => w
  | n + 1, w =>
    let l := w.length
    let w15 := w.getD (l - 15) 0
    let w2 := w.getD (l - 2) 0
    let s0 := rotr w15 7 ^^^ rotr w15 18 ^^^ (w15 >>> 3)
    let s1 := rotr w2 17 ^^^ rotr w2 19 ^^^ (w2 >>> 10)
    schedule n (w ++ [w.getD (l - 16) 0 + s0 + w.getD (l - 7) 0 + s1])

/-- One compression round with round constant `k` and schedule word `w`. -/
def round (s : State) (k w : UInt32) : State :=
  let t1 := s.h + (rotr s.e 6 ^^^ rotr s.e 11 ^^^ rotr s.e 25) +
    ((s.e &&& s.f) ^^^ ((~~~ s.e) &&& s.g)) + k + w
  let t2 := (rotr s.a 2 ^^^ rotr s.a 13 ^^^ rotr s.a 22) +
    ((s.a &&& s.b) ^^^ (s.a &&& s.c) ^^^ (s.b &&& s.c))
  ⟨t1 + t2, s.a, s.b, s.c, s.d + t1, s.e, s.f, s.g⟩

/-- Compress one 64-byte block into the hash value. -/
def compress (hv : State) (block : Bytes) : State :=
  let s := (roundConstants.zip (schedule 48 (words block))).foldl (fun s kw => round s kw.1 kw.2) hv
  ⟨hv.a + s.a, hv.b + s.b, hv.c + s.c, hv.d + s.d, hv.e + s.e, hv.f + s.f, hv.g + s.g, hv.h + s.h⟩

/-- The padded message: a one bit, zeros, and the bit length as a 64-bit word. -/
def pad (msg : Bytes) : Bytes :=
  msg ++ [0x80] ++ List.replicate ((119 - msg.length % 64) % 64) 0 ++ toBeBytes 8 (msg.length * 8)

/-- The first `n` 64-byte blocks. -/
def blocks : Nat → Bytes → List Bytes
  | 0, _ => []
  | n + 1, bs => bs.take 64 :: blocks n (bs.drop 64)

/-- The 32 bytes of a final hash value. -/
def State.toBytes (s : State) : B256 :=
  ⟨wordBytes s.a ++ wordBytes s.b ++ wordBytes s.c ++ wordBytes s.d ++ wordBytes s.e ++
    wordBytes s.f ++ wordBytes s.g ++ wordBytes s.h, by simp [wordBytes]⟩

/-- The SHA-256 digest of a message. -/
def digest (msg : Bytes) : B256 :=
  ((blocks ((pad msg).length / 64) (pad msg)).foldl compress initial).toBytes

set_option maxRecDepth 10000 in
example : (digest [0x61, 0x62, 0x63]).toList =
    [0xba, 0x78, 0x16, 0xbf, 0x8f, 0x01, 0xcf, 0xea, 0x41, 0x41, 0x40, 0xde, 0x5d, 0xae, 0x22, 0x23,
     0xb0, 0x03, 0x61, 0xa3, 0x96, 0x17, 0x7a, 0x9c, 0xb4, 0x10, 0xff, 0x61, 0xf2, 0x00, 0x15, 0xad] := by
  decide

end Kona.Sha256

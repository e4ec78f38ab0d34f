import Mathlib.Data.List.Basic
import Mathlib.Algebra.Group.Nat.Basic
import Mathlib.Data.List.Forall2

/-!
# Byte strings, big-endian words and the two ways Rust code stops early

The kona client moves bytes around: 32-byte preimage keys and digests, 48-byte
KZG commitments, 80-byte field-element keys, 4096-byte and 131072-byte blob
buffers. Every buffer of the source whose length is fixed by its Rust type
(`[u8; n]`, `FixedBytes<n>`, `B256`, `Address`) is a `FixedBytes n` here: a
list of bytes carrying the proof of its length, so a key or a blob of the wrong
size cannot be built. Growable buffers (`Vec<u8>`, `Bytes`) are plain lists.

`copy_from_slice` into a window is `FixedBytes.write`; reading a window
`buf[lo..hi]` is `FixedBytes.slice`. `toBeBytes`/`fromBeBytes` are
`u64::to_be_bytes`/`u64::from_be_bytes`, and `fromBeBytes_toBeBytes` is their
round trip, which the blob code relies on when it writes a slot index into a
key and reads it back out of the key's preimage.

`Fault` separates a Rust `Err` returned through `?` from a panic (`assert_eq!`,
`unwrap`, `expect`, `unimplemented!`, an out-of-range slice): both stop the
computation, but only the first is a value the caller can handle.
-/

namespace Kona

/-- `Bytes` / `Vec<u8>`: a byte string of any length. -/
abbrev Bytes := List UInt8

/-- `[u8; n]` / `FixedBytes<n>`: a byte string whose length is part of its type. -/
structure FixedBytes (n : Nat) where
  toList : List UInt8
  length_toList : toList.length = n
deriving DecidableEq

/-- `B256`: digests, roots and preimage keys. -/
abbrev B256 := FixedBytes 32

/-- `Address`: a 20-byte account address. -/
abbrev Address := FixedBytes 20

/-- `TxKind`: a transaction either creates a contract or calls an address. -/
inductive TxKind
  | create
  | call (address : Address)
deriving DecidableEq

/-- `BlockInfo`, with the two fields of a block reference the modelled code
reads: the hash (in the calldata source's error) and the timestamp (in a blob
request's key). -/
structure BlockInfo where
  hash : B256
  timestamp : Nat

/-- `Display` of a byte string: `0x` and two lowercase hex digits a byte. -/
def hexString (bs : Bytes) : String :=
  "0x" ++ String.mk (bs.flatMap fun b => [Nat.digitChar (b.toNat / 16), Nat.digitChar (b.toNat % 16)])

/-- How a Rust computation stops early: an `Err` propagated by `?`, or a panic. -/
inductive Fault
  | err (msg : String)
  | panic (msg : String)
deriving DecidableEq, Repr

namespace FixedBytes

variable {n : Nat}

attribute [simp] length_toList

theorem ext_toList {a b : FixedBytes n} (h : a.toList = b.toList) : a = b := by
  cases a; cases b; cases h; rfl

/-- The all-zero buffer, `[0u8; n]` / `Default::default()`. -/
def zero (n : Nat) : FixedBytes n := ⟨List.replicate n 0, List.length_replicate n 0⟩

/-- `self[1..]` of a buffer: everything after the first byte. -/
def tail (b : FixedBytes (n + 1)) : FixedBytes n :=
  ⟨b.toList.tail, by simp⟩

/-- The first byte, `self[0]`. -/
def head (b : FixedBytes (n + 1)) : UInt8 :=
  b.toList.headD 0

/-- A buffer is its first byte followed by its tail. -/
theorem toList_eq_head_cons_tail (b : FixedBytes (n + 1)) :
    b.toList = b.head :: b.tail.toList := by
  obtain ⟨_ | ⟨x, xs⟩, h⟩ := b
  · simp at h
  · rfl

/-- Two buffers are equal when their first bytes and their tails are. -/
theorem eq_of_head_tail {a b : FixedBytes (n + 1)} (hh : a.head = b.head)
    (ht : a.tail = b.tail) : a = b :=
  ext_toList (by rw [toList_eq_head_cons_tail a, toList_eq_head_cons_tail b, hh, ht])

/-- Read the window `self[lo..hi]`. -/
def slice (b : FixedBytes n) (lo hi : Nat) : Bytes :=
  (b.toList.drop lo).take (hi - lo)

/-- A window that starts at or past the end of the buffer is empty. -/
theorem slice_eq_nil (b : FixedBytes n) {lo : Nat} (hi : Nat) (h : n ≤ lo) : b.slice lo hi = [] := by
  simp [slice, List.drop_eq_nil_of_le (show b.toList.length ≤ lo by simp [h])]

/-- `self[lo..lo + src.len()].copy_from_slice(src)`. Every call site writes an
in-range window; out of range the buffer is left as it is. -/
def write (b : FixedBytes n) (lo : Nat) (src : Bytes) : FixedBytes n :=
  if h : lo + src.length ≤ n then
    ⟨b.toList.take lo ++ src ++ b.toList.drop (lo + src.length), by
      simp only [List.length_append, List.length_take, List.length_drop, length_toList]
      omega⟩
  else b

/-- Writing a window and reading it back gives what was written. -/
theorem slice_write_self (b : FixedBytes n) (lo : Nat) (src : Bytes)
    (h : lo + src.length ≤ n) : (b.write lo src).slice lo (lo + src.length) = src := by
  have hlo : lo ≤ b.toList.length := by simp; omega
  simp only [write, dif_pos h, slice, Nat.add_sub_cancel_left, List.append_assoc,
    List.drop_append_eq_append_drop, List.length_take, List.drop_take,
    Nat.min_eq_left hlo, Nat.sub_self, List.drop_zero, List.take_nil, List.nil_append]
  simp

/-- Writing `src` over the bytes right after a prefix `p` keeps `p` and the
bytes past the window. -/
theorem toList_write_append {b : FixedBytes n} {p q src : Bytes} (hb : b.toList = p ++ q)
    (hs : src.length ≤ q.length) :
    (b.write p.length src).toList = p ++ src ++ q.drop src.length := by
  have hn : n = p.length + q.length := by rw [← b.length_toList, hb, List.length_append]
  simp [write, show p.length + src.length ≤ n by omega, hb, List.drop_append_eq_append_drop]

end FixedBytes

/-! ## Big-endian words -/

/-- The `k` low-order bytes of `n`, most significant first: `u64::to_be_bytes`
for `k = 8`. -/
def toBeBytes : Nat → Nat → Bytes
  | 0, _ => []
  | k + 1, n => toBeBytes k (n / 256) ++ [UInt8.ofNat (n % 256)]

/-- `u64::from_be_bytes`: a big-endian byte string as a number. -/
def fromBeBytes (bs : Bytes) : Nat :=
  bs.foldl (fun acc b => acc * 256 + b.toNat) 0

@[simp] theorem length_toBeBytes : ∀ k n, (toBeBytes k n).length = k
  | 0, _ => rfl
  | k + 1, n => by simp [toBeBytes, length_toBeBytes k]

theorem fromBeBytes_append_single (bs : Bytes) (b : UInt8) :
    fromBeBytes (bs ++ [b]) = fromBeBytes bs * 256 + b.toNat := by
  simp [fromBeBytes, List.foldl_append]

/-- Reading back `k` big-endian bytes recovers `n mod 256^k`. -/
theorem fromBeBytes_toBeBytes : ∀ k n, fromBeBytes (toBeBytes k n) = n % 256 ^ k
  | 0, _ => by simp [toBeBytes, fromBeBytes, Nat.mod_one]
  | k + 1, n => by
    rw [toBeBytes, fromBeBytes_append_single, fromBeBytes_toBeBytes k, Nat.pow_succ',
      Nat.mod_mul, UInt8.toNat_ofNat_of_lt (Nat.mod_lt _ (by decide))]
    simp only [UInt8.size]
    omega

/-- Two big-endian encodings of the same length agree exactly when the numbers
agree modulo `256^k`. -/
theorem toBeBytes_inj {k m n : Nat} (h : toBeBytes k m = toBeBytes k n) :
    m % 256 ^ k = n % 256 ^ k := by
  rw [← fromBeBytes_toBeBytes, h, fromBeBytes_toBeBytes]

/-! ## `u64` arithmetic

`u64` values are `UInt64`, whose `+` and `-` wrap as a release build does.
These lemmas move a statement about them to `Nat`, where `omega` decides it.
They are stated through `BitVec` rather than by `rfl`, so that `simp` rewrites
with them instead of leaving the kernel to unfold `Nat` arithmetic. -/

theorem u64_toNat_add (a b : UInt64) : (a + b).toNat = (a.toNat + b.toNat) % 2 ^ 64 :=
  BitVec.toNat_add a.toBitVec b.toBitVec

theorem u64_toNat_ofNat (n : Nat) : (UInt64.ofNat n).toNat = n % 2 ^ 64 := BitVec.toNat_ofNat n 64

theorem u64_le_iff (a b : UInt64) : a ≤ b ↔ a.toNat ≤ b.toNat := Iff.rfl

theorem u64_lt_iff (a b : UInt64) : a < b ↔ a.toNat < b.toNat := Iff.rfl

theorem u64_toNat_lt (a : UInt64) : a.toNat < 2 ^ 64 := UInt64.toNat_lt_size a

@[simp] theorem u64_ofNat_toNat (a : UInt64) : UInt64.ofNat a.toNat = a :=
  UInt64.toNat.inj (by rw [u64_toNat_ofNat]; exact Nat.mod_eq_of_lt (u64_toNat_lt a))

/-! ## Stateful code

A `&mut self` method that can fail is a computation in `EStateM Fault S`: it
returns a value or a `Fault`, and in both cases the state it leaves behind. The
lemmas below evaluate the monad's operations, so that a proof peels a `do`
block apart one `←` at a time (`bind_eq_ok`, `bind_eq_error`). -/

/-- `Option::expect`: the value, or a panic with the message. -/
def expect {α : Type} (o : Option α) (msg : String) : Except Fault α :=
  match o with
  | some a => .ok a
  | none => .error (.panic msg)

/-- `Option::ok_or`: the value, or the given error. -/
def okOr {α : Type} (o : Option α) (e : Fault) : Except Fault α :=
  match o with
  | some a => .ok a
  | none => .error e

@[simp] theorem okOr_eq_ok {α : Type} {o : Option α} {e : Fault} {a : α} :
    okOr o e = .ok a ↔ o = some a := by
  cases o <;> simp [okOr]

/-- A pure `Result` propagated through `?` inside a stateful method. -/
def liftExcept {S α : Type} (x : Except Fault α) : EStateM Fault S α := fun s =>
  match x with
  | .ok a => .ok a s
  | .error e => .error e s

/-- A pure `do` block returns when its first step returns and the rest
returns from there. -/
theorem except_bind_eq_ok {ε α β : Type} {x : Except ε α} {f : α → Except ε β} {b : β} :
    x >>= f = .ok b ↔ ∃ a, x = .ok a ∧ f a = .ok b := by
  cases x <;> simp [bind, Except.bind]

/-- A pure `do` block fails when its first step fails, or when the rest fails
after it. -/
theorem except_bind_eq_error {ε α β : Type} {x : Except ε α} {f : α → Except ε β} {e : ε} :
    x >>= f = .error e ↔ x = .error e ∨ ∃ a, x = .ok a ∧ f a = .error e := by
  cases x <;> simp [bind, Except.bind]

/-- A left fold in `Except` whose every step succeeds, from every state, succeeds. -/
theorem foldlM_ok_of_forall {α β ε : Type} {f : β → α → Except ε β} :
    ∀ {l : List α} (init : β), (∀ s, ∀ x ∈ l, ∃ t, f s x = .ok t) →
      ∃ r, l.foldlM f init = .ok r
  | [], init, _ => ⟨init, rfl⟩
  | y :: ys, init, h => by
    obtain ⟨s, hs⟩ := h init y (List.mem_cons_self y ys)
    rw [List.foldlM_cons, hs]
    exact foldlM_ok_of_forall s fun s' x hx => h s' x (List.mem_cons_of_mem y hx)

/-- A mapped result returns when the computation returns. -/
theorem except_map_eq_ok {ε α β : Type} {x : Except ε α} {g : α → β} {b : β} :
    g <$> x = .ok b ↔ ∃ a, x = .ok a ∧ g a = b := by
  cases x <;> simp [Functor.map, Except.map]

/-- `mapM` in `Except` returns exactly when every call returns, the results in order. -/
theorem mapM_eq_ok {α β ε : Type} {f : α → Except ε β} :
    ∀ {l : List α} {bs : List β}, l.mapM f = .ok bs ↔ List.Forall₂ (fun a b => f a = .ok b) l bs
  | [], bs => by rw [List.mapM_nil]; cases bs <;> simp [pure, Except.pure]
  | a :: l, bs => by
    have ih : ∀ bs, l.mapM f = .ok bs ↔ _ := fun bs => @mapM_eq_ok α β ε f l bs
    simp only [List.mapM_cons, except_bind_eq_ok, ih, List.forall₂_cons_left_iff]
    simp [pure, Except.pure, eq_comm]

/-- A `mapM` in `Except` whose every call returns a result read by `g` as `h` of its
argument returns a list read as the arguments' images. -/
theorem mapM_ok_of_forall {α β γ ε : Type} {f : α → Except ε β} {g : β → γ} {h : α → γ} :
    ∀ {l : List α}, (∀ a ∈ l, ∃ b, f a = .ok b ∧ g b = h a) →
      ∃ bs, l.mapM f = .ok bs ∧ bs.map g = l.map h
  | [], _ => ⟨[], rfl, rfl⟩
  | a :: l, hl => by
    obtain ⟨b, hb, hg⟩ := hl a (List.mem_cons_self a l)
    obtain ⟨bs, hbs, hgs⟩ := mapM_ok_of_forall fun a' ha' => hl a' (List.mem_cons_of_mem a ha')
    refine ⟨b :: bs, ?_, by simp [hg, hgs]⟩
    rw [List.mapM_cons, hb, hbs]
    rfl

/-- The `Vec::push` loop: a left fold appending each step's result to the accumulator
returns exactly when every step returns, the results appended in order. -/
theorem foldlM_push_eq_ok {α β ε : Type} (step : α → Except ε β) :
    ∀ (l : List α) (acc r : List β),
      l.foldlM (fun bs a => do let b ← step a; pure (bs ++ [b])) acc = .ok r ↔
        ∃ bs, r = acc ++ bs ∧ List.Forall₂ (fun a b => step a = .ok b) l bs
  | [], acc, r => by simp [pure, Except.pure, eq_comm]
  | a :: l, acc, r => by
    rw [List.foldlM_cons]
    cases hs : step a with
    | error e => simp [bind, Except.bind, hs, List.forall₂_cons_left_iff]
    | ok b =>
      have hb : (do let b ← Except.ok b; pure (acc ++ [b]) : Except ε (List β)) =
          pure (acc ++ [b]) := rfl
      rw [hb, pure_bind, foldlM_push_eq_ok step l]
      simp only [hs, List.forall₂_cons_left_iff, Except.ok.injEq, exists_eq_left', List.append_assoc,
        List.singleton_append]
      constructor
      · rintro ⟨bs, hr, h⟩
        exact ⟨_, hr, b, bs, rfl, h, rfl⟩
      · rintro ⟨_, hr, _, bs, rfl, h, rfl⟩
        exact ⟨bs, hr, h⟩

namespace EStateM

variable {ε S α β : Type}

@[simp] theorem pure_apply (a : α) (s : S) : (pure a : EStateM ε S α) s = .ok a s := rfl

@[simp] theorem throw_apply (e : ε) (s : S) : (throw e : EStateM ε S α) s = .error e s := rfl

@[simp] theorem get_apply (s : S) : (get : EStateM ε S S) s = .ok s s := rfl

@[simp] theorem modify_apply (f : S → S) (s : S) :
    (modify f : EStateM ε S PUnit) s = .ok ⟨⟩ (f s) := rfl

@[simp] theorem modifyGet_apply (f : S → α × S) (s : S) :
    (modifyGet f : EStateM ε S α) s = .ok (f s).1 (f s).2 := rfl

theorem bind_apply (x : EStateM ε S α) (f : α → EStateM ε S β) (s : S) :
    (x >>= f) s = match x s with
      | .ok a s₁ => f a s₁
      | .error e s₁ => .error e s₁ := rfl

/-- A `do` block returns when its first step returns and the rest returns from there. -/
theorem bind_eq_ok {x : EStateM ε S α} {f : α → EStateM ε S β} {s s' : S} {b : β} :
    (x >>= f) s = .ok b s' ↔ ∃ a s₁, x s = .ok a s₁ ∧ f a s₁ = .ok b s' := by
  rw [bind_apply]
  cases h : x s with
  | ok a s₁ => exact ⟨fun hf => ⟨a, s₁, rfl, hf⟩, fun ⟨_, _, he, hf⟩ => by cases he; exact hf⟩
  | error e s₁ => simp

/-- A `do` block fails when its first step fails, or when the rest fails after it. -/
theorem bind_eq_error {x : EStateM ε S α} {f : α → EStateM ε S β} {s s' : S} {e : ε} :
    (x >>= f) s = .error e s' ↔
      x s = .error e s' ∨ ∃ a s₁, x s = .ok a s₁ ∧ f a s₁ = .error e s' := by
  rw [bind_apply]
  cases h : x s with
  | ok a s₁ => exact ⟨fun hf => .inr ⟨a, s₁, rfl, hf⟩, fun
      | .inl he => by cases he
      | .inr ⟨_, _, he, hf⟩ => by cases he; exact hf⟩
  | error e₁ s₁ => simp [and_comm]

/-- A successful left fold ran its step successfully on every element. -/
theorem foldlM_ok_mem {f : β → α → EStateM ε S β} :
    ∀ {l : List α} {b b' : β} {s s' : S}, l.foldlM f b s = .ok b' s' →
      ∀ x ∈ l, ∃ b₀ s₀ b₁ s₁, f b₀ x s₀ = .ok b₁ s₁
  | [], _, _, _, _, _, _, hx => absurd hx (List.not_mem_nil _)
  | y :: l, _, _, _, _, h, x, hx => by
    rw [List.foldlM_cons, bind_eq_ok] at h
    obtain ⟨b₁, s₁, h₁, h₂⟩ := h
    rcases List.mem_cons.1 hx with rfl | hx
    · exact ⟨_, _, _, _, h₁⟩
    · exact foldlM_ok_mem h₂ x hx

end EStateM

@[simp] theorem liftExcept_eq_ok {S α : Type} {x : Except Fault α} {s s' : S} {a : α} :
    (liftExcept x : EStateM Fault S α) s = .ok a s' ↔ x = .ok a ∧ s' = s := by
  cases x <;> simp [liftExcept, eq_comm]

@[simp] theorem liftExcept_eq_error {S α : Type} {x : Except Fault α} {s s' : S} {e : Fault} :
    (liftExcept x : EStateM Fault S α) s = .error e s' ↔ x = .error e ∧ s' = s := by
  cases x <;> simp [liftExcept, eq_comm]

end Kona

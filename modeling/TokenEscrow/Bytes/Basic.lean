/-!
# Byte strings

A byte string is a list of bytes. Two operations carry everything that is read
from and written to the wire:

* `Bytes.split?` — the first `n` bytes and the rest, refused when there are
  fewer than `n`;
* `LittleEndian.encode` / `LittleEndian.decode` — numbers as words of a fixed
  width, least significant byte first.

Decoding a word of `k` bytes gives back the number modulo `256 ^ k`
(`LittleEndian.decode_encode`), and every byte string is the word of its own
value (`LittleEndian.encode_decode`).
-/

namespace TokenEscrow

/-- A byte string. -/
abbrev Bytes := List UInt8

namespace Bytes

/-- The first `n` bytes and the rest; `none` when there are fewer than `n`. -/
def split? : Nat → Bytes → Option (Bytes × Bytes)
  | 0, bs => some ([], bs)
  | _ + 1, [] => none
  | n + 1, b :: bs => (split? n bs).map fun (front, rest) => (b :: front, rest)

/-- Splitting a concatenation at the length of its first part. -/
theorem split?_append (front rest : Bytes) :
    split? front.length (front ++ rest) = some (front, rest) := by
  induction front with
  | nil => rfl
  | cons b front ih => simp [split?, ih]

/-- What was split is the two parts in order, and the front has the length asked for. -/
theorem of_split?_eq_some {n : Nat} {bs front rest : Bytes}
    (h : split? n bs = some (front, rest)) : bs = front ++ rest ∧ front.length = n := by
  induction n generalizing bs front with
  | zero => simp_all [split?]
  | succ n ih =>
    cases bs with
    | nil => simp [split?] at h
    | cons b bs =>
      simp only [split?, Option.map_eq_some_iff, Prod.mk.injEq] at h
      obtain ⟨⟨front', rest'⟩, hs, rfl, rfl⟩ := h
      obtain ⟨rfl, rfl⟩ := ih hs
      simp

end Bytes

namespace LittleEndian

/-- The number `n` as a word of `width` bytes, least significant byte first. -/
def encode : Nat → Nat → Bytes
  | 0, _ => []
  | width + 1, n => UInt8.ofNat n :: encode width (n / 256)

/-- The value of a word, least significant byte first. -/
def decode : Bytes → Nat
  | [] => 0
  | b :: bs => b.toNat + 256 * decode bs

@[simp] theorem length_encode (width n : Nat) : (encode width n).length = width := by
  induction width generalizing n with
  | zero => rfl
  | succ width ih => simp [encode, ih]

/-- A word holds its number modulo the size of the word. -/
theorem decode_encode (width n : Nat) : decode (encode width n) = n % Nat.pow 256 width := by
  induction width generalizing n with
  | zero => simp [encode, decode, Nat.mod_one]
  | succ width ih =>
    have hb : (UInt8.ofNat n).toNat = n % 256 := UInt8.toNat_ofNat'
    simp only [encode, decode, ih, hb]
    rw [Nat.pow_eq, Nat.pow_eq, Nat.pow_succ', Nat.mod_mul]

/-- Every byte string is the word of its own value. -/
theorem encode_decode (bs : Bytes) : encode bs.length (decode bs) = bs := by
  induction bs with
  | nil => rfl
  | cons b bs ih =>
    have hb : b.toNat < 256 := b.toNat_lt
    simp only [List.length_cons, encode, decode]
    rw [Nat.add_mul_div_left _ _ (by decide), Nat.div_eq_of_lt hb, Nat.zero_add, ih]
    congr 1
    apply UInt8.toNat_inj.1
    simp

/-- The value of a word fits in its width. -/
theorem decode_lt (bs : Bytes) : decode bs < Nat.pow 256 bs.length := by
  induction bs with
  | nil => simp [decode]
  | cons b bs ih =>
    have hb : b.toNat < 256 := b.toNat_lt
    simp only [List.length_cons, decode, Nat.pow_eq, Nat.pow_succ] at ih ⊢
    omega

end LittleEndian

/-- The bytes of a number, most significant first. -/
def bigEndian (width n : Nat) : Bytes := (LittleEndian.encode width n).reverse

/-- Cuts a list into consecutive pieces of `size` elements; the last piece may be shorter. -/
def chunksOf {α : Type} (size : Nat) (xs : List α) : List (List α) :=
  if _h : xs.length ≤ size ∨ size = 0 then (if xs.isEmpty then [] else [xs])
  else xs.take size :: chunksOf size (xs.drop size)
termination_by xs.length
decreasing_by simp only [List.length_drop]; omega

end TokenEscrow

import TokenEscrow.Bytes.Basic

/-!
# Byte strings of a fixed length

Addresses, block hashes and signatures are byte strings whose length is part of
their type, so no operation on them has to ask for it.
-/

namespace TokenEscrow

/-- A byte string of length `n`. -/
@[ext] structure ByteVec (n : Nat) where
  /-- the bytes -/
  bytes : Bytes
  /-- their number -/
  length_bytes : bytes.length = n
  deriving DecidableEq

/-- An account address (an ed25519 point or a derived address). -/
abbrev Address := ByteVec 32

/-- A block hash. -/
abbrev Hash := ByteVec 32

/-- An ed25519 signature. -/
abbrev Signature := ByteVec 64

namespace ByteVec

variable {n : Nat}

/-- The bytes as a vector, when there are `n` of them. -/
def ofBytes? (n : Nat) (bs : Bytes) : Option (ByteVec n) :=
  if h : bs.length = n then some ⟨bs, h⟩ else none

@[simp] theorem ofBytes?_bytes (v : ByteVec n) : ofBytes? n v.bytes = some v := by
  simp [ofBytes?, v.length_bytes]

theorem bytes_of_ofBytes? {bs : Bytes} {v : ByteVec n} (h : ofBytes? n bs = some v) :
    v.bytes = bs := by
  unfold ofBytes? at h
  split at h
  · rw [← Option.some.inj h]
  · contradiction

/-- `n` copies of one byte. -/
def replicate (n : Nat) (b : UInt8) : ByteVec n := ⟨List.replicate n b, by simp⟩

/-- All bytes zero. -/
def zero (n : Nat) : ByteVec n := replicate n 0

/-- The `n` bytes of a number, least significant first. -/
def ofNatLE (n value : Nat) : ByteVec n := ⟨LittleEndian.encode n value, by simp⟩

/-- The number whose bytes these are, least significant first. -/
def toNatLE (v : ByteVec n) : Nat := LittleEndian.decode v.bytes

/-- Lexicographic order of the bytes. -/
def le (a b : ByteVec n) : Bool := decide (a.bytes ≤ b.bytes)

end ByteVec

end TokenEscrow

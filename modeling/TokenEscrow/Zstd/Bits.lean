import TokenEscrow.Bytes.Basic

/-!
# Streams of bits

Zipped data are read as bits. Some streams are read from their first byte on, each
byte from its lowest bit (`Bits.forwards`). Others are read from their end: the
highest bit that is set in the last byte marks the end, and reading goes back to the
first byte (`Bits.backwards?`). A number has its lowest bit first in the former and
its highest bit first in the latter.
-/

namespace TokenEscrow

/-- Bits in the order in which they are read. -/
abbrev Bits := List Bool

namespace Bits

/-- The bits of a byte string, from its start on. -/
def forwards (bs : Bytes) : Bits := bs.flatMap fun b => (List.range 8).map b.toNat.testBit

/-- The bits of a byte string before the mark at its end, from the last on; `none` when there is no
mark in the last byte. -/
def backwards? (bs : Bytes) : Option Bits :=
  if bs.getLast?.getD 0 = 0 then none else some ((forwards bs).reverse.dropWhile (! ·)).tail

end Bits

/-- Reads a value off the front of a stream of bits. -/
abbrev BitReader (α : Type) := StateT Bits Option α

namespace BitReader

/-- The next bit. -/
def bit : BitReader Bool
  | [] => none
  | b :: bits => some (b, bits)

/-- A number of `width` bits, lowest bit first. -/
def lowFirst : Nat → BitReader Nat
  | 0 => return 0
  | width + 1 => do
    let low ← bit
    return low.toNat + 2 * (← lowFirst width)

/-- A number of `width` bits, highest bit first. -/
def highFirst : Nat → BitReader Nat
  | 0 => return 0
  | width + 1 => do
    let high ← bit
    return high.toNat * Nat.pow 2 width + (← highFirst width)

/-- Reads from the start of a byte string. What is left are the bytes after the last one that a
bit was read of. -/
def fromBytes {α : Type} (reader : BitReader α) (bs : Bytes) : Option (α × Bytes) := do
  let bits := Bits.forwards bs
  let (a, left) ← reader bits
  return (a, bs.drop ((bits.length - left.length + 7) / 8))

end BitReader

end TokenEscrow

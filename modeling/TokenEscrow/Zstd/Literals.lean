import TokenEscrow.Zstd.Huffman

/-!
# Literals

A compressed block begins with its literals: bytes as they are, one byte a number of
times, or symbols of a prefix code whose tree stands in front of them, or is that of
an earlier block.
-/

namespace TokenEscrow

namespace Zstd

/-- Most bytes of a block. -/
def maxBlock : Nat := 131072

/-- The low `width` bits of a number, and the others. -/
def cutLow (width n : Nat) : Nat × Nat := (n % Nat.pow 2 width, n / Nat.pow 2 width)

/-- Literals that are not coded: their number, and what follows it. The number has five bits in one
byte, or twelve in two, or twenty in three. -/
def plainCount (bs : Bytes) : Option (Nat × Bytes) := do
  let first ← bs.head?
  let format := first.toNat / 4 % 4
  let width := if format = 1 then 2 else if format = 3 then 3 else 1
  let (header, rest) ← Bytes.split? width bs
  let n := LittleEndian.decode header
  return (if width = 1 then n / 8 else n / 16, rest)

/-- Literals that are coded, and how long their code is. -/
structure CodedCount where
  count : Nat
  /-- bytes of the code -/
  zipped : Nat
  /-- whether there is one stream, and not four -/
  single : Bool
  deriving DecidableEq, Repr

/-- The numbers in front of coded literals: of 10, 14 or 18 bits each. -/
def codedCount (bs : Bytes) : Option (CodedCount × Bytes) := do
  let first ← bs.head?
  let format := first.toNat / 4 % 4
  let width := if format ≤ 1 then 3 else format + 2
  let (header, rest) ← Bytes.split? width bs
  let (count, zipped) := cutLow (4 * width - 2) (LittleEndian.decode header / 16)
  return ({ count, zipped, single := format = 0 }, rest)

/-- Reads literals that are coded by a tree. -/
def codedLiterals (t : HuffmanTree) (c : CodedCount) (bs : Bytes) : Option Bytes :=
  if c.single then t.stream c.count bs else t.fourStreams c.count bs

/-- Reads the literals of a block, and the tree that later blocks may use again. -/
def literals (tree : Option HuffmanTree) (bs : Bytes) :
    Option ((Bytes × Option HuffmanTree) × Bytes) := do
  let first ← bs.head?
  match first.toNat % 4 with
  | 0 =>
    let (count, bs) ← plainCount bs
    let (plain, rest) ← Bytes.split? count bs
    return ((plain, tree), rest)
  | 1 =>
    let (count, bs) ← plainCount bs
    let (one, rest) ← Bytes.split? 1 bs
    guard (count ≤ maxBlock)
    return ((one.flatMap (List.replicate count), tree), rest)
  | kind =>
    let (c, bs) ← codedCount bs
    let (zipped, rest) ← Bytes.split? c.zipped bs
    guard (c.count ≤ maxBlock)
    let (tree, zipped) ←
      if kind = 2 then HuffmanTree.read zipped else tree.map fun t => (t, zipped)
    return ((← codedLiterals tree c zipped, some tree), rest)

end Zstd

end TokenEscrow

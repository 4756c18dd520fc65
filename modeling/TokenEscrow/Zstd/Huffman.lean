import TokenEscrow.Zstd.Fse

/-!
# Prefix codes

A literal byte is coded by the way to its leaf in a tree (`HuffmanTree`). Symbols are
given weights: from weight to weight the code gets one bit shorter, and weight 0 means
that a symbol does not occur. The tree is made from the weights alone
(`HuffmanTree.ofWeights?`), and the weight of the last symbol is not written down,
since it has to fill the tree.
-/

namespace TokenEscrow

namespace Zstd

/-- A tree of prefix codes. -/
inductive HuffmanTree
  | leaf (symbol : UInt8)
  | node (zero one : HuffmanTree)
  deriving DecidableEq, Repr

namespace HuffmanTree

/-! ## Trees and weights -/

/-- The longest code. -/
def maxWidth : Nat := 12

/-- The leaves of a weight. -/
def leaves (weights : List Nat) (weight : Nat) : List HuffmanTree :=
  (weights.zipIdx.filter (·.1 == weight)).map fun p => leaf (UInt8.ofNat p.2)

/-- Joins trees in pairs. -/
def pairs? : List HuffmanTree → Option (List HuffmanTree)
  | [] => some []
  | [_] => none
  | zero :: one :: rest => do return node zero one :: (← pairs? rest)

/-- The trees of one level: those of two trees of the level below, and then the leaves. -/
def level? (weights : List Nat) : Nat → Option (List HuffmanTree)
  | 0 => some []
  | weight + 1 => do return (← pairs? (← level? weights weight)) ++ leaves weights (weight + 1)

/-- The number of longest codes that a weight is worth. -/
def worth (weight : Nat) : Nat := if weight = 0 then 0 else Nat.pow 2 (weight - 1)

/-- The tree of some weights, to which the last one is added that fills it up. -/
def ofWeights? (weights : List Nat) : Option HuffmanTree := do
  let total := weights.foldl (fun total weight => total + worth weight) 0
  guard (total ≠ 0)
  let width := Nat.log2 total + 1
  let rest := Nat.pow 2 width - total
  guard (width ≤ maxWidth ∧ rest = Nat.pow 2 (Nat.log2 rest))
  let weights := weights ++ [Nat.log2 rest + 1]
  guard (2 ≤ weights.count 1)
  match ← pairs? (← level? weights width) with
  | [tree] => some tree
  | _ => none

/-! ## Reading trees -/

/-- Most weights that are written down. -/
def maxWeights : Nat := 255

/-- Weights that are told by two states in turn, until there are no bits left for the next state;
the other state tells the last one. At most `room + 1` weights are read. -/
def weightsFrom (t : FseTable) : Nat → Nat → Nat → Bits → Option (List Nat)
  | 0, _, _, _ => none
  | room + 1, state, other, bits => do
    let cell ← t.cells[state]?
    match cell.next bits with
    | some (next, bits) => return cell.symbol :: (← weightsFrom t room other next bits)
    | none => return [cell.symbol, (← t.cells[other]?).symbol]

/-- Weights that are compressed themselves. -/
def unzipWeights (bs : Bytes) : Option (List Nat) := do
  let (t, rest) ← FseTable.read 6 256 bs
  let (state, bits) ← t.start (← Bits.backwards? rest)
  let (other, bits) ← t.start bits
  weightsFrom t (maxWeights - 1) state other bits

/-- Reads a tree. Its first byte tells how many bytes the weights take, or else how many weights
there are in half a byte each. -/
def read : Bytes → Option (HuffmanTree × Bytes)
  | [] => none
  | header :: bs => do
    if header < 128 then
      let (zipped, rest) ← Bytes.split? header.toNat bs
      return (← ofWeights? (← unzipWeights zipped), rest)
    else
      let count := header.toNat - 127
      let (packed, rest) ← Bytes.split? ((count + 1) / 2) bs
      let weights := packed.flatMap fun b => [b.toNat / 16, b.toNat % 16]
      return (← ofWeights? (weights.take count), rest)

/-! ## Reading literals -/

/-- The next symbol. -/
def symbol : HuffmanTree → Bits → Option (UInt8 × Bits)
  | leaf s, bits => some (s, bits)
  | node _ _, [] => none
  | node zero one, b :: bits => if b then one.symbol bits else zero.symbol bits

/-- Reads `count` symbols that are all there is, in front of which others were read already. -/
def symbolsFrom (t : HuffmanTree) : Nat → Bytes → Bits → Option Bytes
  | 0, before, [] => some before.reverse
  | 0, _, _ :: _ => none
  | count + 1, before, bits => do
    let (s, bits) ← t.symbol bits
    t.symbolsFrom count (s :: before) bits

/-- Reads a stream of `count` symbols. -/
def stream (t : HuffmanTree) (count : Nat) (bs : Bytes) : Option Bytes := do
  t.symbolsFrom count [] (← Bits.backwards? bs)

/-- Reads four streams for `count` symbols together. The lengths of the first three stand in
front. -/
def fourStreams (t : HuffmanTree) (count : Nat) (bs : Bytes) : Option Bytes := do
  let part := (count + 3) / 4
  guard (count ≠ 0 ∧ 3 * part ≤ count)
  let (a, bs) ← Bytes.split? 2 bs
  let (b, bs) ← Bytes.split? 2 bs
  let (c, bs) ← Bytes.split? 2 bs
  let (first, bs) ← Bytes.split? (LittleEndian.decode a) bs
  let (second, bs) ← Bytes.split? (LittleEndian.decode b) bs
  let (third, fourth) ← Bytes.split? (LittleEndian.decode c) bs
  return (← t.stream part first) ++ (← t.stream part second) ++ (← t.stream part third)
    ++ (← t.stream (count - 3 * part) fourth)

end HuffmanTree

end Zstd

end TokenEscrow

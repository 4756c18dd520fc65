import TokenEscrow.Zstd.Literals

/-!
# Sequences

The rest of a compressed block says how its bytes are put together. A sequence takes
some of the literals, and then goes back by an offset and copies from there
(`Sequence`); literals that no sequence takes come last. The three numbers of a
sequence have a state table each, whose symbols stand for ranges of numbers
(`Ranges`). An offset may also be one of the last three (`Offsets`).
-/

namespace TokenEscrow

namespace Zstd

/-! ## Ranges -/

/-- Ranges of numbers, each beginning where the one before it ends. -/
structure Ranges where
  first : Nat
  /-- the bits of a number within its range -/
  widths : List Nat
  deriving DecidableEq, Repr

namespace Ranges

/-- The ranges of numbers of literals. -/
def literals : Ranges := ⟨0, List.replicate 16 0 ++ [1, 1, 1, 1, 2, 2, 3, 3, 4, 6]
  ++ (List.range 10).map (· + 7)⟩

/-- The ranges of numbers of bytes to copy. -/
def copied : Ranges := ⟨3, List.replicate 32 0 ++ [1, 1, 1, 1, 2, 2, 3, 3, 4, 4, 5]
  ++ (List.range 10).map (· + 7)⟩

/-- The ranges of offsets as they are written. -/
def offsets : Ranges := ⟨1, List.range 32⟩

/-- A number in a range. -/
def read (r : Ranges) (symbol : Nat) : BitReader Nat := do
  let width ← r.widths[symbol]?
  let base := ((r.widths.take symbol).map (Nat.pow 2)).foldl (· + ·) r.first
  return base + (← BitReader.highFirst width)

end Ranges

/-! ## Tables -/

/-- How the states of one of the numbers are told. -/
structure TableRule where
  ranges : Ranges
  /-- most bits of a state -/
  maxLog : Nat
  /-- the table that need not be written down -/
  usual : FseTable

namespace TableRule

/-- Shares of the symbols in a table that need not be written down: some, and then rare ones. -/
def shares (often : List Nat) (rare : Nat) : List Share :=
  often.map Share.states ++ List.replicate rare Share.rare

def literals : TableRule where
  ranges := .literals
  maxLog := 9
  usual := .ofShares 6 (shares ([4, 3] ++ List.replicate 11 2 ++ [1, 1, 1] ++ List.replicate 9 2
    ++ [3, 2] ++ List.replicate 5 1) 4)

def copied : TableRule where
  ranges := .copied
  maxLog := 9
  usual := .ofShares 6 (shares ([1, 4, 3] ++ List.replicate 6 2 ++ List.replicate 37 1) 7)

def offsets : TableRule where
  ranges := .offsets
  maxLog := 8
  usual := .ofShares 5 (shares (List.replicate 6 1 ++ [2, 2, 2] ++ List.replicate 15 1) 5)

/-- Reads a table: the usual one, one with a single symbol, one that is written down, or the
last one that was used. -/
def read (rule : TableRule) (last : Option FseTable) (mode : Nat) (bs : Bytes) :
    Option (FseTable × Bytes) :=
  match mode, bs with
  | 0, _ => some (rule.usual, bs)
  | 1, symbol :: rest =>
    if symbol.toNat < rule.ranges.widths.length then some (.ofSymbol symbol.toNat, rest) else none
  | 1, [] => none
  | 2, _ => FseTable.read rule.maxLog rule.ranges.widths.length bs
  | _, _ => last.map fun t => (t, bs)

end TableRule

/-- Something for each of the three numbers of a sequence. -/
structure Triple (α : Type) where
  literals : α
  copied : α
  offsets : α

/-- The tables of the sequences of a block. -/
abbrev Tables := Triple FseTable

/-- Reads the tables of a block. The first byte tells how each of them is told. -/
def Tables.read (last : Option Tables) : Bytes → Option (Tables × Bytes)
  | [] => none
  | modes :: bs => do
    let n := modes.toNat
    let (literals, bs) ← TableRule.literals.read (last.map Triple.literals) (n / 64) bs
    let (offsets, bs) ← TableRule.offsets.read (last.map Triple.offsets) (n / 16 % 4) bs
    let (copied, bs) ← TableRule.copied.read (last.map Triple.copied) (n / 4 % 4) bs
    return (⟨literals, copied, offsets⟩, bs)

/-! ## Reading sequences -/

/-- Some literals, and a copy of what is further back. -/
structure Sequence where
  literals : Nat
  copied : Nat
  /-- the offset as it is written -/
  offset : Nat
  deriving DecidableEq, Repr

/-- The number of sequences, in one byte, two or three. -/
def sequenceCount : Bytes → Option (Nat × Bytes)
  | [] => none
  | first :: bs => do
    if first < 128 then return (first.toNat, bs)
    else if first < 255 then
      let (second, rest) ← Bytes.split? 1 bs
      return ((first.toNat - 128) * 256 + LittleEndian.decode second, rest)
    else
      let (both, rest) ← Bytes.split? 2 bs
      return (LittleEndian.decode both + 0x7F00, rest)

namespace Tables

/-- The first states. -/
def start (t : Tables) : BitReader (Triple Nat) := do
  let literals ← t.literals.start
  let offsets ← t.offsets.start
  let copied ← t.copied.start
  return ⟨literals, copied, offsets⟩

/-- The cells of states. -/
def cells? (t : Tables) (states : Triple Nat) : Option (Triple FseCell) := do
  return ⟨← t.literals.cells[states.literals]?, ← t.copied.cells[states.copied]?,
    ← t.offsets.cells[states.offsets]?⟩

/-- Reads the sequence that cells tell. -/
def sequence (cells : Triple FseCell) : BitReader Sequence := do
  let offset ← Ranges.offsets.read cells.offsets.symbol
  let copied ← Ranges.copied.read cells.copied.symbol
  let literals ← Ranges.literals.read cells.literals.symbol
  return { literals, copied, offset }

/-- The states after cells. -/
def next (cells : Triple FseCell) : BitReader (Triple Nat) := do
  let literals ← cells.literals.next
  let copied ← cells.copied.next
  let offsets ← cells.offsets.next
  return ⟨literals, copied, offsets⟩

/-- Reads `count + 1` sequences that are all there is, after some others. Behind the last one there
is no further state. -/
def sequencesFrom (t : Tables) :
    Nat → List Sequence → Triple Nat → Bits → Option (List Sequence)
  | count, before, states, bits => do
    let cells ← t.cells? states
    let (s, bits) ← sequence cells bits
    match count with
    | 0 => if bits.isEmpty then some (s :: before).reverse else none
    | count + 1 =>
      let (states, bits) ← next cells bits
      t.sequencesFrom count (s :: before) states bits

end Tables

/-- Reads the sequences of a block, which take the rest of it, and the tables that later blocks may
use again. -/
def sequences (last : Option Tables) (bs : Bytes) : Option (List Sequence × Option Tables) := do
  let (count, bs) ← sequenceCount bs
  match count with
  | 0 => if bs.isEmpty then some ([], last) else none
  | count + 1 =>
    let (t, bs) ← Tables.read last bs
    let (states, bits) ← t.start (← Bits.backwards? bs)
    return (← t.sequencesFrom count [] states bits, some t)

/-! ## Carrying out sequences -/

/-- The last three offsets, the very last one first. -/
structure Offsets where
  first : Nat
  second : Nat
  third : Nat
  deriving DecidableEq, Repr

namespace Offsets

/-- The offsets before the first sequence of all. -/
def initial : Offsets := ⟨1, 4, 8⟩

/-- The offset that a number stands for, and the last three after it. Numbers up to three stand for
one of the last three, or, after no literals, for the second, the third, or one less than the
first. -/
def resolve (o : Offsets) (written : Nat) (noLiterals : Bool) : Offsets :=
  if 3 < written then ⟨written - 3, o.first, o.second⟩
  else match (if noLiterals then written + 1 else written) with
    | 1 => o
    | 2 => ⟨o.second, o.first, o.third⟩
    | 3 => ⟨o.third, o.first, o.second⟩
    | _ => ⟨o.first - 1, o.first, o.second⟩

end Offsets

/-- Copies bytes from an offset back, one at a time, so that a copy may go on into itself. -/
def copyBack (offset : Nat) : Nat → Array UInt8 → Option (Array UInt8)
  | 0, out => some out
  | count + 1, out =>
    if offset = 0 ∨ out.size < offset then none
    else copyBack offset count (out.push (out.getD (out.size - offset) 0))

/-- Where carrying out sequences stands. -/
structure Progress where
  /-- literals that are left -/
  literals : Bytes
  offsets : Offsets
  /-- what was put together, from the start of the frame -/
  out : Array UInt8

/-- Carries out one sequence. -/
def Progress.step (p : Progress) (s : Sequence) : Option Progress := do
  let (taken, literals) ← Bytes.split? s.literals p.literals
  let offsets := p.offsets.resolve s.offset (s.literals = 0)
  return { literals, offsets, out := ← copyBack offsets.first s.copied (p.out ++ taken.toArray) }

end Zstd

end TokenEscrow

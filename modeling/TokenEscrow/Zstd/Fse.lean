import TokenEscrow.Zstd.Bits

/-!
# State tables

A symbol is coded by a state. The state tells the symbol, and the next state after
some further bits (`FseCell`). Which share of the states a symbol has follows how
often it occurs (`Share`), and the table is made from the shares alone
(`FseTable.ofShares`): first the states that rare symbols have at the end of the
table, then all others, in strides through the rest of it.
-/

namespace TokenEscrow

namespace Zstd

/-! ## Shares -/

/-- The share of a symbol in the states of a table. -/
inductive Share
  /-- less than one state; it gets one at the end of the table -/
  | rare
  | states (count : Nat)
  deriving DecidableEq, Repr

namespace Share

/-- The number of states. -/
def size : Share → Nat
  | rare => 1
  | states count => count

/-- Whether a share is less than one state. -/
def isRare (s : Share) : Bool := s == rare

/-- The share that a number stands for. -/
def ofNumber : Nat → Share
  | 0 => rare
  | count + 1 => states count

/-- A share of at most `left` states. The lower numbers take one bit less, as far as there are
numbers to spare. -/
def read (left : Nat) : BitReader Share := do
  let width := Nat.log2 (left + 1)
  let spare := Nat.pow 2 (width + 1) - 2 - left
  let low ← BitReader.lowFirst width
  if low < spare then return ofNumber low
  else return ofNumber (if ← BitReader.bit then low + Nat.pow 2 width - spare else low)

/-- How many more symbols have no share, after one that has none. -/
def readAbsent : Bits → Option (Nat × Bits)
  | true :: true :: bits => do
    let (n, bits) ← readAbsent bits
    return (n + 3, bits)
  | low :: high :: bits => some (low.toNat + 2 * high.toNat, bits)
  | _ => none

/-- The shares of symbols in `left` states, as long as not more than `room` of them are written
down. -/
def readAll : Nat → Nat → BitReader (List Share)
  | _, 0 => return []
  | 0, _ => failure
  | room + 1, left => do
    let share ← read left
    let absent ← if share = states 0 then readAbsent else pure 0
    return share :: List.replicate absent (states 0) ++ (← readAll room (left - share.size))

end Share

/-! ## Tables -/

/-- What a state tells. -/
structure FseCell where
  symbol : Nat
  /-- the bits to be read for the next state -/
  width : Nat
  /-- the next state, when these bits are zero -/
  base : Nat
  deriving DecidableEq, Repr

/-- A table of states. -/
structure FseTable where
  /-- the bits of a state -/
  log : Nat
  cells : Array FseCell
  deriving DecidableEq, Repr

namespace FseTable

/-- The table with one state, which tells one symbol. -/
def ofSymbol (symbol : Nat) : FseTable := ⟨0, #[⟨symbol, 0, 0⟩]⟩

/-- The states of a table in the order in which symbols get them: strides through all but the
last ones, which rare symbols have. -/
def order (log rare : Nat) : List Nat :=
  let size := Nat.pow 2 log
  let stride := size / 2 + size / 8 + 3
  let strides := (List.range size).map fun i => i * stride % size
  strides.filter (· < size - rare) ++ (List.range rare).map fun i => size - 1 - i

/-- The symbols of the states in order. -/
def symbols (log : Nat) (shares : List Share) : List Nat :=
  let numbered := shares.zipIdx
  let often := numbered.filter (!·.1.isRare)
  let rare := numbered.filter (·.1.isRare)
  let owners := often.flatMap (fun p => List.replicate p.1.size p.2) ++ rare.map Prod.snd
  let placed := ((order log rare.length).zip owners).foldl
    (fun places p => places.setIfInBounds p.1 p.2) (Array.replicate (Nat.pow 2 log) 0)
  placed.toList

/-- The cell of a state that is number `n` of those of its symbol, counted from the share on. The
numbers are spread over all states by as many bits as it takes. -/
def cell (log symbol n : Nat) : FseCell :=
  let width := log - Nat.log2 n
  ⟨symbol, width, n * Nat.pow 2 width - Nat.pow 2 log⟩

/-- The table in which symbols have their shares. -/
def ofShares (log : Nat) (shares : List Share) : FseTable :=
  let number (acc : Array Nat × Array FseCell) (symbol : Nat) : Array Nat × Array FseCell :=
    let n := acc.1.getD symbol 0
    (acc.1.setIfInBounds symbol (n + 1), acc.2.push (cell log symbol n))
  let counts := (shares.map Share.size).toArray
  ⟨log, ((symbols log shares).foldl number (counts, #[])).2⟩

/-- Fewest bits of a state in a table that is written down. -/
def minLog : Nat := 5

/-- Reads a table for at most `count` symbols with states of at most `maxLog` bits. -/
def read (maxLog count : Nat) (bs : Bytes) : Option (FseTable × Bytes) := do
  let shares : BitReader (Nat × List Share) := do
    let log := minLog + (← BitReader.lowFirst 4)
    guard (log ≤ maxLog)
    return (log, ← Share.readAll count (Nat.pow 2 log))
  let ((log, shares), rest) ← shares.fromBytes bs
  guard (shares.length ≤ count)
  return (ofShares log shares, rest)

/-- The first state. -/
def start (t : FseTable) : BitReader Nat := BitReader.highFirst t.log

end FseTable

/-- The state after a cell. -/
def FseCell.next (c : FseCell) : BitReader Nat := do
  return c.base + (← BitReader.highFirst c.width)

end Zstd

end TokenEscrow

import TokenEscrow.Hash.XxHash64
import TokenEscrow.Zstd.Sequences

/-!
# Zipped data

Zipped data are frames one after the other, of which some hold nothing and are
skipped. A frame is a header, blocks, and perhaps a checksum of what was put together.
A block holds bytes as they are, one byte a number of times, or literals and
sequences. What is put together is the content of the frames in order
(`Zstd.decode?`).

Nothing is left over on the way: a stream of bits ends with its last code, a block
with its last sequence, and the data with the last frame. Some readers overlook bits
that are missing or left over in four streams, and a wrong length of the content in
front of an empty last block; here such data have no content.
-/

namespace TokenEscrow

namespace Zstd

/-! ## Headers -/

/-- The first four bytes of a frame with content. -/
def magic : Bytes := [0x28, 0xB5, 0x2F, 0xFD]

/-- What the header of a frame says. -/
structure Header where
  /-- how far back offsets may go -/
  window : Nat
  /-- the length of the content, if it is told -/
  size : Option Nat
  /-- whether there is a checksum -/
  checked : Bool
  deriving DecidableEq, Repr

/-- The largest window. -/
def maxWindow : Nat := Nat.pow 2 27 + 1

/-- The window that a byte tells: a power of two, and some eighths of it. -/
def windowOf (b : UInt8) : Nat :=
  let base := Nat.pow 2 (b.toNat / 8 + 10)
  base + base / 8 * (b.toNat % 8)

/-- Reads the header of a frame behind its first four bytes. A dictionary must not be asked for.
-/
def Header.read : Bytes → Option (Header × Bytes)
  | [] => none
  | flags :: bs => do
    let n := flags.toNat
    let single := n.testBit 5
    guard (!n.testBit 3)
    let (window, bs) ← Bytes.split? (if single then 0 else 1) bs
    let (dictionary, bs) ← Bytes.split? ([0, 1, 2, 4].getD (n % 4) 0) bs
    guard (LittleEndian.decode dictionary = 0)
    let sizeWidth := [if single then 1 else 0, 2, 4, 8].getD (n / 64) 0
    let (size, bs) ← Bytes.split? sizeWidth bs
    let size := if sizeWidth = 0 then none
      else some (LittleEndian.decode size + if sizeWidth = 2 then 256 else 0)
    let window := (window.head?.map windowOf).getD (size.getD 0)
    guard (window ≤ maxWindow)
    return ({ window, size, checked := n.testBit 2 }, bs)

/-! ## Blocks -/

/-- What blocks leave to those after them. -/
structure Context where
  tree : Option HuffmanTree := none
  tables : Option Tables := none
  offsets : Offsets := .initial
  /-- the content so far -/
  out : Array UInt8 := #[]

/-- Adds the content of a compressed block. One without bytes has no content. -/
def Context.unzip (c : Context) (bs : Bytes) : Option Context := do
  if bs.isEmpty then return c
  let ((plain, tree), bs) ← literals c.tree bs
  let (sequences, tables) ← sequences c.tables bs
  let p ← sequences.foldlM Progress.step { literals := plain, offsets := c.offsets, out := c.out }
  return { tree, tables, offsets := p.offsets, out := p.out ++ p.literals.toArray }

/-- The kinds of block. -/
inductive BlockKind
  | stored
  | repeated
  | zipped
  deriving DecidableEq, Repr

/-- Adds the content of a block with some bytes; `size` is the number in its header. -/
def Context.add (c : Context) (kind : BlockKind) (size : Nat) (bs : Bytes) : Option Context :=
  match kind with
  | .stored => some { c with out := c.out ++ bs.toArray }
  | .repeated => some { c with out := c.out ++ (bs.flatMap (List.replicate size)).toArray }
  | .zipped => c.unzip bs

/-- The header of a block. -/
structure BlockHeader where
  /-- whether no block follows -/
  final : Bool
  kind : BlockKind
  size : Nat
  deriving DecidableEq, Repr

/-- Reads the header of a block. -/
def BlockHeader.read (bs : Bytes) : Option (BlockHeader × Bytes) := do
  let (header, rest) ← Bytes.split? 3 bs
  let n := LittleEndian.decode header
  let kind ← match n / 2 % 4 with
    | 0 => some BlockKind.stored
    | 1 => some .repeated
    | 2 => some .zipped
    | _ => none
  return ({ final := n % 2 = 1, kind, size := n / 8 }, rest)

/-- The number of bytes of a block. -/
def BlockHeader.length (b : BlockHeader) : Nat := if b.kind = .repeated then 1 else b.size

/-- Reads blocks up to a final one, at most `room` of them. Neither a block nor its content is
longer than `limit`. -/
def blocks (limit : Nat) : Nat → Context → Bytes → Option (Context × Bytes)
  | 0, _, _ => none
  | room + 1, c, bs => do
    let (b, bs) ← BlockHeader.read bs
    guard (b.length ≤ limit)
    let (bytes, rest) ← Bytes.split? b.length bs
    let after ← c.add b.kind b.size bytes
    guard (after.out.size ≤ c.out.size + limit)
    if b.final then return (after, rest) else blocks limit room after rest

/-! ## Frames -/

/-- Reads the checksum behind some content. -/
def checksum (content : Bytes) (bs : Bytes) : Option Bytes := do
  let (sum, rest) ← Bytes.split? 4 bs
  guard (sum = LittleEndian.encode 4 (XxHash64.digest content).toNat)
  return rest

/-- Reads a frame with content. -/
def frame (bs : Bytes) : Option (Bytes × Bytes) := do
  let (h, bs) ← Header.read bs
  let (c, rest) ← blocks (min h.window maxBlock) bs.length {} bs
  let content := c.out.toList
  guard (∀ size ∈ h.size, content.length = size)
  return (content, ← if h.checked then checksum content rest else some rest)

/-- Skips a frame without content: its length, and that many bytes. -/
def skip (bs : Bytes) : Option Bytes := do
  let (size, bs) ← Bytes.split? 4 bs
  let (_, rest) ← Bytes.split? (LittleEndian.decode size) bs
  return rest

/-- Reads a frame of either kind. -/
def anyFrame (bs : Bytes) : Option (Bytes × Bytes) := do
  let (start, bs) ← Bytes.split? 4 bs
  if start = magic then frame bs
  else if LittleEndian.decode start / 16 = 0x184D2A5 then return ([], ← skip bs)
  else none

/-- Reads frames, at most `room` of them. -/
def frames : Nat → Bytes → Option Bytes
  | 0, _ => none
  | room + 1, bs => do
    let (content, rest) ← anyFrame bs
    if rest.isEmpty then return content else return content ++ (← frames room rest)

/-- The content of zipped data; `none` when they are not frames, and at least one. -/
def decode? (bs : Bytes) : Option Bytes := frames bs.length bs

end Zstd

end TokenEscrow

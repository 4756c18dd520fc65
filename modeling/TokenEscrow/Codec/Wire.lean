import TokenEscrow.Bytes.Fixed
import TokenEscrow.Text.Utf8

/-!
# The wire form of values

A type with a wire form can be written to bytes and read off the front of them
(`Wire`). Composite values are their parts one after the other:

* numbers are little-endian words,
* texts and lists carry their count as a 32-bit word in front,
* addresses and other byte strings of fixed length stand as they are.

Reading (`Wire.decode`) leaves the rest of the input; `Wire.read` wants no rest.
A reader stops at its first fault (`DecodeError`), and faults come in the order
of the bytes: a count before the contents, all bytes of a text before the check
that they are one.
-/

namespace TokenEscrow

/-! ## Faults -/

/-- Why bytes are not the wire form of a value. -/
inductive DecodeError
  /-- the input ends too early -/
  | unexpectedEnd
  /-- a value was read, and bytes are left over -/
  | trailingBytes
  /-- a tag that belongs to no alternative -/
  | unknownVariant (tag : UInt8)
  /-- the bytes of a text are not UTF-8 -/
  | notText (fault : Utf8.Fault)
  deriving DecidableEq, Repr

/-- The two kinds of fault: the input is unfit, or what it holds is. -/
inductive DecodeError.Kind
  | invalidInput
  | invalidData
  deriving DecidableEq, Repr

namespace DecodeError

/-- The kind of a fault. -/
def kind : DecodeError → Kind
  | unexpectedEnd | unknownVariant _ => .invalidInput
  | trailingBytes | notText _ => .invalidData

/-- The wording of a fault. -/
def message : DecodeError → String
  | unexpectedEnd => "Unexpected length of input"
  | trailingBytes => "Not all bytes read"
  | unknownVariant tag => s!"Unexpected variant index: {tag.toNat}"
  | notText fault => fault.message

end DecodeError

/-! ## Readers -/

/-- Reads a value off the front of the input. -/
abbrev Decoder (α : Type) := StateT Bytes (Except DecodeError) α

namespace Decoder

/-- The next `n` bytes. -/
def bytes (n : Nat) : Decoder Bytes := fun input =>
  match Bytes.split? n input with
  | some (front, rest) => .ok (front, rest)
  | none => .error .unexpectedEnd

/-- The next byte. -/
def byte : Decoder UInt8 := fun input =>
  match input with
  | b :: rest => .ok (b, rest)
  | [] => .error .unexpectedEnd

/-- A little-endian word of `width` bytes, as a number. -/
def word (width : Nat) : Decoder Nat := do
  return LittleEndian.decode (← bytes width)

/-- The same reader `n` times. -/
def times {α : Type} (d : Decoder α) : Nat → Decoder (List α)
  | 0 => pure []
  | n + 1 => do
    let x ← d
    let xs ← times d n
    return x :: xs

end Decoder

/-! ## Types with a wire form -/

/-- A type whose values have a wire form. -/
class Wire (α : Type) where
  /-- the bytes of a value -/
  encode : α → Bytes
  /-- reads a value off the front of the input -/
  decode : Decoder α

namespace Wire

/-- Reads a value that takes up the whole input. -/
def read {α : Type} [Wire α] (input : Bytes) : Except DecodeError α :=
  match (decode : Decoder α) input with
  | .ok (x, []) => .ok x
  | .ok (_, _ :: _) => .error .trailingBytes
  | .error e => .error e

/-- A 64-bit number is a word of eight bytes. -/
instance : Wire UInt64 where
  encode n := LittleEndian.encode 8 n.toNat
  decode := return UInt64.ofNat (← Decoder.word 8)

/-- A byte string of fixed length stands as it is. -/
instance {n : Nat} : Wire (ByteVec n) where
  encode v := v.bytes
  decode := do
    match ByteVec.ofBytes? n (← Decoder.bytes n) with
    | some v => return v
    | none => throw .unexpectedEnd

/-- A text is the number of its UTF-8 bytes and the bytes. -/
instance : Wire String where
  encode text := LittleEndian.encode 4 (Utf8.encode text).length ++ Utf8.encode text
  decode := do
    let count ← Decoder.word 4
    match Utf8.decode (← Decoder.bytes count) with
    | .ok text => return text
    | .error fault => throw (.notText fault)

/-- A list is the number of its elements and the elements. -/
instance {α : Type} [Wire α] : Wire (List α) where
  encode xs := LittleEndian.encode 4 xs.length ++ xs.flatMap encode
  decode := do
    let count ← Decoder.word 4
    Decoder.times decode count

end Wire

end TokenEscrow

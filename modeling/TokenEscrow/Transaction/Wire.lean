import TokenEscrow.Transaction.Message

/-!
# Transactions on the wire

A transaction is its signatures and its message. Every list is preceded by its
length in one to three bytes of seven bits (`CompactLength`), which can count to
65535: a longer list has no wire form, so writing can fail. Reading accepts only
what writing produces.
-/

namespace TokenEscrow

/-! ## Lengths -/

namespace CompactLength

/-- One more than the longest length. -/
def bound : Nat := 65536

/-- A length in seven-bit groups, least significant first; the top bit says that more follow. -/
def encode? (n : Nat) : Option Bytes :=
  if n < 128 then some [UInt8.ofNat n]
  else if n < 16384 then some [UInt8.ofNat (n % 128 + 128), UInt8.ofNat (n / 128)]
  else if n < bound then
    some [UInt8.ofNat (n % 128 + 128), UInt8.ofNat (n / 128 % 128 + 128),
      UInt8.ofNat (n / 16384)]
  else none

/-- Reads a length; `none` when it is not in its shortest form. -/
def decode? : Bytes → Option (Nat × Bytes)
  | [] => none
  | a :: rest =>
    if a < 128 then some (a.toNat, rest)
    else match rest with
      | [] => none
      | b :: rest =>
        if b = 0 then none
        else if b < 128 then some (a.toNat - 128 + b.toNat * 128, rest)
        else match rest with
          | [] => none
          | c :: rest =>
            if c = 0 ∨ 3 < c then none
            else some (a.toNat - 128 + (b.toNat - 128) * 128 + c.toNat * 16384, rest)

end CompactLength

/-! ## Transactions -/

/-- A message with its signatures. -/
structure Transaction where
  signatures : List Signature
  message : Message
  deriving DecidableEq

/-- The wire form of a list whose elements are written by `item?`. -/
def encodeList? {α : Type} (item? : α → Option Bytes) (xs : List α) : Option Bytes := do
  let count ← CompactLength.encode? xs.length
  let items ← xs.mapM item?
  return count ++ items.flatten

/-- Reads `n` elements with `item?`. -/
def decodeTimes? {α : Type} (item? : Bytes → Option (α × Bytes)) :
    Nat → Bytes → Option (List α × Bytes)
  | 0, bs => some ([], bs)
  | n + 1, bs => do
    let (x, bs) ← item? bs
    let (xs, bs) ← decodeTimes? item? n bs
    return (x :: xs, bs)

/-- Reads a list whose elements are read by `item?`. -/
def decodeList? {α : Type} (item? : Bytes → Option (α × Bytes)) (bs : Bytes) :
    Option (List α × Bytes) := do
  let (count, bs) ← CompactLength.decode? bs
  decodeTimes? item? count bs

/-- Reads one byte. -/
def decodeByte? : Bytes → Option (UInt8 × Bytes)
  | [] => none
  | b :: bs => some (b, bs)

/-- Reads a byte string of fixed length. -/
def decodeFixed? (n : Nat) (bs : Bytes) : Option (ByteVec n × Bytes) := do
  let (front, bs) ← Bytes.split? n bs
  return (← ByteVec.ofBytes? n front, bs)

namespace CompiledInstruction

/-- The wire form of an instruction. -/
def encode? (i : CompiledInstruction) : Option Bytes := do
  let accounts ← encodeList? (fun index => some [index]) i.accounts
  let count ← CompactLength.encode? i.data.length
  return i.program :: accounts ++ count ++ i.data

/-- Reads an instruction. -/
def decode? (bs : Bytes) : Option (CompiledInstruction × Bytes) := do
  let (program, bs) ← decodeByte? bs
  let (accounts, bs) ← decodeList? decodeByte? bs
  let (count, bs) ← CompactLength.decode? bs
  let (data, bs) ← Bytes.split? count bs
  return ({ program, accounts, data }, bs)

end CompiledInstruction

namespace Message

/-- The wire form of a message: what is signed. -/
def encode? (m : Message) : Option Bytes := do
  let keys ← encodeList? (fun key => some key.bytes) m.keys
  let instructions ← encodeList? CompiledInstruction.encode? m.instructions
  return m.header.requiredSignatures :: m.header.readonlySigned :: m.header.readonlyUnsigned
    :: keys ++ m.blockhash.bytes ++ instructions

/-- Reads a message. -/
def decode? (bs : Bytes) : Option (Message × Bytes) := do
  let (requiredSignatures, bs) ← decodeByte? bs
  let (readonlySigned, bs) ← decodeByte? bs
  let (readonlyUnsigned, bs) ← decodeByte? bs
  let (keys, bs) ← decodeList? (decodeFixed? 32) bs
  let (blockhash, bs) ← decodeFixed? 32 bs
  let (instructions, bs) ← decodeList? CompiledInstruction.decode? bs
  let header := { requiredSignatures, readonlySigned, readonlyUnsigned }
  return ({ header, keys, blockhash, instructions }, bs)

end Message

namespace Transaction

/-- The wire form of a transaction. -/
def encode? (t : Transaction) : Option Bytes := do
  let signatures ← encodeList? (fun signature => some signature.bytes) t.signatures
  let message ← t.message.encode?
  return signatures ++ message

/-- Reads a transaction that takes up the whole input. -/
def decode? (bs : Bytes) : Option Transaction := do
  let (signatures, bs) ← decodeList? (decodeFixed? 64) bs
  match ← Message.decode? bs with
  | (message, []) => some { signatures, message }
  | (_, _ :: _) => none

end Transaction

end TokenEscrow

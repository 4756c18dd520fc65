import TokenEscrow.Instruction.Basic

/-!
# Messages

A message is what a transaction signs: a list of distinct account keys, a block
hash, and instructions that refer to accounts by their index in the list. The
keys stand in four groups, and three counts in the header tell the groups apart:

1. the payer and the other keys that sign and are written,
2. keys that sign and are only read,
3. keys that are written,
4. keys that are only read.

`Message.compile` finds the groups. A key that occurs several times has the
flags of all its occurrences, and the program of an instruction counts as an
occurrence without flags. Within a group keys are ordered by their bytes.
-/

namespace TokenEscrow

/-- An instruction that refers to accounts by index. -/
structure CompiledInstruction where
  /-- index of the program -/
  program : UInt8
  /-- indices of the accounts -/
  accounts : List UInt8
  /-- discriminator and arguments -/
  data : Bytes
  deriving DecidableEq

/-- The counts that tell the groups of keys apart. -/
structure MessageHeader where
  /-- keys that sign -/
  requiredSignatures : UInt8
  /-- keys that sign and are only read -/
  readonlySigned : UInt8
  /-- keys that neither sign nor are written -/
  readonlyUnsigned : UInt8
  deriving DecidableEq

/-- What a transaction signs. -/
structure Message where
  header : MessageHeader
  /-- distinct account keys, the payer first -/
  keys : List Address
  /-- a recent block hash -/
  blockhash : Hash
  instructions : List CompiledInstruction
  deriving DecidableEq

namespace Message

/-! ## Compiling -/

/-- Every occurrence of a key: the payer, the programs and the accounts. -/
def occurrences (payer : Address) (instructions : List Instruction) : List AccountRef :=
  ⟨payer, true, true⟩ :: instructions.flatMap fun i => ⟨i.program, false, false⟩ :: i.accounts

/-- Whether some occurrence of a key signs. -/
def signs (refs : List AccountRef) (key : Address) : Bool :=
  refs.any fun r => r.signer && r.address == key

/-- Whether some occurrence of a key is written. -/
def writes (refs : List AccountRef) (key : Address) : Bool :=
  refs.any fun r => r.writable && r.address == key

/-- The distinct keys other than the payer, ordered by their bytes. -/
def otherKeys (payer : Address) (refs : List AccountRef) : List Address :=
  (((refs.map AccountRef.address).filter (· != payer)).eraseDups).mergeSort ByteVec.le

/-- The keys other than the payer with these flags. -/
def group (payer : Address) (refs : List AccountRef) (signer writable : Bool) : List Address :=
  (otherKeys payer refs).filter fun key =>
    signs refs key == signer && writes refs key == writable

/-- Index of a key; past the end when it does not occur. -/
def indexOf (keys : List Address) (key : Address) : UInt8 := UInt8.ofNat (keys.idxOf key)

/-- The instruction with keys replaced by their indices. -/
def compileInstruction (keys : List Address) (i : Instruction) : CompiledInstruction where
  program := indexOf keys i.program
  accounts := i.accounts.map fun r => indexOf keys r.address
  data := i.data

/-- The message of some instructions paid for by `payer`. -/
def compile (payer : Address) (instructions : List Instruction) (blockhash : Hash) : Message :=
  let refs := occurrences payer instructions
  let readonlySigned := group payer refs true false
  let readonlyUnsigned := group payer refs false false
  let signed := payer :: group payer refs true true ++ readonlySigned
  let keys := signed ++ group payer refs false true ++ readonlyUnsigned
  { header := {
      requiredSignatures := UInt8.ofNat signed.length
      readonlySigned := UInt8.ofNat readonlySigned.length
      readonlyUnsigned := UInt8.ofNat readonlyUnsigned.length }
    keys
    blockhash
    instructions := instructions.map (compileInstruction keys) }

/-! ## Flags by position -/

/-- Whether the key at an index signs, by the header alone. -/
def isSigner (m : Message) (index : Nat) : Bool :=
  decide (index < m.header.requiredSignatures.toNat)

/-- Whether the key at an index is written, by the header alone. -/
def isWritable (m : Message) (index : Nat) : Bool :=
  let signed := m.header.requiredSignatures.toNat
  decide (index < signed - m.header.readonlySigned.toNat) ||
    (decide (signed ≤ index) &&
      decide (index < m.keys.length - m.header.readonlyUnsigned.toNat))

end Message

end TokenEscrow

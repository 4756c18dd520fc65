import TokenEscrow.Codec.Wire
import TokenEscrow.Instruction.Schema

/-!
# Escrow instructions

The six instructions with their arguments (`EscrowInstruction`), their wire form
(`pack`, `unpack`) and the instruction that a transaction carries
(`EscrowInstruction.toInstruction`).

The first byte of the wire form says which instruction follows. It is looked at
before anything else: an unknown first byte is reported whatever comes after it,
and any fault behind a known one is the same error.
-/

namespace TokenEscrow

/-! ## Constraints -/

/-- What a constraint admits. -/
inductive ConstraintRule
  /-- any token -/
  | none
  /-- members of one verified collection -/
  | collection (mint : Address)
  /-- the listed mints -/
  | tokens (mints : List Address)
  deriving DecidableEq

/-- One constraint of a constraint model. -/
structure Constraint where
  /-- name of the constraint -/
  name : String
  /-- most tokens it may hold -/
  tokenLimit : UInt64
  /-- which tokens it admits -/
  rule : ConstraintRule
  deriving DecidableEq

namespace ConstraintRule

/-- The name of a rule. -/
def name : ConstraintRule → String
  | none => "None"
  | collection _ => "Collection"
  | tokens _ => "Tokens"

/-- A rule is a tag and what belongs to it. -/
instance : Wire ConstraintRule where
  encode
    | .none => [0]
    | .collection mint => 1 :: Wire.encode mint
    | .tokens mints => 2 :: Wire.encode mints
  decode := do
    let tag ← Decoder.byte
    if tag = 0 then return .none
    else if tag = 1 then return .collection (← Wire.decode)
    else if tag = 2 then return .tokens (← Wire.decode)
    else throw (.unknownVariant tag)

end ConstraintRule

/-- A constraint is its name, limit and rule. -/
instance : Wire Constraint where
  encode c := Wire.encode c.name ++ Wire.encode c.tokenLimit ++ Wire.encode c.rule
  decode := do
    let name ← Wire.decode
    let tokenLimit ← Wire.decode
    let rule ← Wire.decode
    return { name, tokenLimit, rule }

/-! ## Arguments -/

/-- Arguments of a transfer into an escrow. -/
structure TransferInArgs where
  /-- tokens to move -/
  amount : UInt64 := 1
  /-- constraint of the model that the deposit is checked against -/
  index : UInt64 := 1
  deriving DecidableEq

/-- Amount and index, one after the other. -/
instance : Wire TransferInArgs where
  encode args := Wire.encode args.amount ++ Wire.encode args.index
  decode := do
    let amount ← Wire.decode
    let index ← Wire.decode
    return { amount, index }

/-- Tokens that a transfer moves unless told otherwise. -/
def defaultAmount : UInt64 := ({} : TransferInArgs).amount

/-- Constraint that a deposit is checked against unless told otherwise. -/
def defaultIndex : UInt64 := ({} : TransferInArgs).index

/-! ## Instructions -/

/-- The escrow instructions with their arguments. -/
inductive EscrowInstruction
  /-- creates the escrow attached to a token -/
  | createEscrow
  /-- closes an empty escrow -/
  | closeEscrow
  /-- moves tokens out of an escrow -/
  | transferOut (amount : UInt64)
  /-- moves tokens into an escrow -/
  | transferIn (args : TransferInArgs)
  /-- creates an empty, named constraint model -/
  | createConstraintModel (name : String)
  /-- appends a constraint to a model -/
  | addConstraint (constraint : Constraint)
  deriving DecidableEq

/-- An instruction as a transaction carries it. -/
structure Instruction where
  /-- program that runs it -/
  program : Address
  /-- accounts in the order in which the program reads them -/
  accounts : List AccountRef
  /-- discriminator and arguments -/
  data : Bytes
  deriving DecidableEq

namespace EscrowInstruction

/-- The account table of an instruction. -/
def schema : EscrowInstruction → Schema
  | createEscrow => .createEscrow
  | closeEscrow => .closeEscrow
  | transferOut _ => .transferOut
  | transferIn _ => .transferIn
  | createConstraintModel _ => .createConstraintModel
  | addConstraint _ => .addConstraint

/-- The wire form of the arguments. -/
def packArgs : EscrowInstruction → Bytes
  | createEscrow | closeEscrow => []
  | transferOut amount => Wire.encode amount
  | transferIn args => Wire.encode args
  | createConstraintModel name => Wire.encode name
  | addConstraint constraint => Wire.encode constraint

/-- The wire form of an instruction. -/
def pack (i : EscrowInstruction) : Bytes := i.schema.discriminator :: i.packArgs

/-- Reads arguments that take up the whole input. -/
def readArgs {α : Type} [Wire α] (make : α → EscrowInstruction) (input : Bytes) :
    Except EscrowError EscrowInstruction :=
  match (Wire.read input : Except DecodeError α) with
  | .ok args => .ok (make args)
  | .error _ => .error .invalidInstructionData

/-- Accepts an instruction without arguments when nothing follows its discriminator. -/
def readNothing (i : EscrowInstruction) : Bytes → Except EscrowError EscrowInstruction
  | [] => .ok i
  | _ :: _ => .error .invalidInstructionData

/-- Reads an instruction from its wire form. -/
def unpack : Bytes → Except EscrowError EscrowInstruction
  | [] => .error .invalidInstructionData
  | discriminator :: rest =>
    if discriminator = Schema.createEscrow.discriminator then readNothing createEscrow rest
    else if discriminator = Schema.closeEscrow.discriminator then readNothing closeEscrow rest
    else if discriminator = Schema.transferOut.discriminator then readArgs transferOut rest
    else if discriminator = Schema.transferIn.discriminator then readArgs transferIn rest
    else if discriminator = Schema.createConstraintModel.discriminator then
      readArgs createConstraintModel rest
    else if discriminator = Schema.addConstraint.discriminator then readArgs addConstraint rest
    else .error .unknownInstruction

/-- The instruction for a program, with keys in the order of the account table. -/
def toInstruction (i : EscrowInstruction) (program : Address) (keys : List Address) :
    Except EscrowError Instruction := do
  return { program, accounts := ← i.schema.accounts keys, data := i.pack }

end EscrowInstruction

end TokenEscrow

import TokenEscrow.Address.Nft
import TokenEscrow.Instruction.Basic

/-!
# Building escrow instructions

One function for each instruction, which finds the key of every slot and puts
the keys against the account table. The two that take a name check its length
first, because a longer name fits in no seed: with the check in front, deriving
the address of a constraint model cannot fail for its name.
-/

namespace TokenEscrow

/-- Why an instruction could not be built. -/
inductive BuildError
  /-- the arguments are not acceptable -/
  | escrow (error : EscrowError)
  /-- some address could not be derived -/
  | noAddress
  deriving DecidableEq, Repr

/-- The wording for an address that cannot be derived. -/
def noAddressMessage : String := "Unable to find a viable program address bump seed"

namespace Instruction

/-- Longest name of a constraint or constraint model, in UTF-8 bytes. -/
def maxNameLength : Nat := 32

/-- Refuses names that fit in no seed. -/
def checkName (name : String) : Except BuildError Unit :=
  if maxNameLength < (Utf8.encode name).length then .error (.escrow .nameTooLong) else .ok ()

/-- The address of a derivation. -/
def derive (d : Derivation) : Except BuildError Address :=
  match d.address? with
  | some address => .ok address
  | none => .error .noAddress

theorem derive_some {d : Derivation} {address : Address} (h : d.address? = some address) :
    derive d = .ok address := by
  rw [derive, h]

theorem derive_none {d : Derivation} (h : d.address? = none) : derive d = .error .noAddress := by
  rw [derive, h]

/-- The instruction for a program with these keys in its slots. -/
def assemble (i : EscrowInstruction) (program : Address) (keys : List Address) :
    Except BuildError Instruction :=
  match i.toInstruction program keys with
  | .ok instruction => .ok instruction
  | .error e => .error (.escrow e)

/-- Creates the escrow of a token. -/
def createEscrow (program : Address) (nft : Nft) (payer : Address) :
    Except BuildError Instruction := do
  let escrow ← derive (.escrow program nft.mint)
  assemble .createEscrow program
    [escrow, nft.metadata, nft.mint, nft.edition, payer, Known.systemProgram]

/-- Closes the escrow of a token. -/
def closeEscrow (program : Address) (nft : Nft) (payer : Address) :
    Except BuildError Instruction := do
  let escrow ← derive (.escrow program nft.mint)
  let tokenAccount ← derive (.tokenAccount payer nft.mint)
  assemble .closeEscrow program
    [escrow, nft.metadata, nft.mint, tokenAccount, nft.edition, payer, Known.systemProgram]

/-- Moves tokens of the mint of `held` from the payer into an escrow. The address of the escrow is
taken as given. -/
def transferIn (program : Address) (nft : Nft) (escrow : Address) (held : Nft)
    (constraintModel payer : Address) (args : TransferInArgs) :
    Except BuildError Instruction := do
  let source ← derive (.tokenAccount payer held.mint)
  let destination ← derive (.tokenAccount escrow held.mint)
  let escrowAccount ← derive (.tokenAccount payer nft.mint)
  assemble (.transferIn args) program
    [escrow, payer, held.mint, source, destination, held.metadata, nft.mint,
      escrowAccount, constraintModel, Known.systemProgram, Known.associatedTokenProgram,
      Known.tokenProgram, Known.rent]

/-- Moves tokens of another mint from the escrow of a token back to the payer. -/
def transferOut (program : Address) (nft : Nft) (attributeMint payer : Address)
    (amount : UInt64) : Except BuildError Instruction := do
  let escrow ← derive (.escrow program nft.mint)
  let source ← derive (.tokenAccount escrow attributeMint)
  let destination ← derive (.tokenAccount payer attributeMint)
  let escrowAccount ← derive (.tokenAccount payer nft.mint)
  assemble (.transferOut amount) program
    [escrow, nft.metadata, payer, attributeMint, source, destination, nft.mint, escrowAccount,
      Known.systemProgram, Known.associatedTokenProgram, Known.tokenProgram, Known.instructions]

/-- Creates a constraint model under a name. -/
def createConstraintModel (program payer authority : Address) (name : String) :
    Except BuildError Instruction := do
  checkName name
  let model ← derive (.constraintModel program authority name)
  assemble (.createConstraintModel name) program
    [model, payer, authority, Known.systemProgram]

/-- Appends a constraint to a model. -/
def addConstraint (program model payer authority : Address) (constraint : Constraint) :
    Except BuildError Instruction := do
  checkName constraint.name
  assemble (.addConstraint constraint) program [model, payer, authority, Known.systemProgram]

end Instruction

end TokenEscrow

import TokenEscrow.Client.Basic

/-!
# Sequencing escrow operations

A `Sequencer` carries out escrow operations for one fee payer. Every operation
on chain fetches a fresh block hash, signs with the payer and hands over a single
transaction (`Sequencer.submit`). Nothing is retried, nothing is kept from one
operation to the next, and nothing waits for the transaction to take effect.

Each operation says what it is about to do before it does it. Creating a
constraint model builds its instruction before that, since building refuses
names from which no address can be derived.
-/

namespace TokenEscrow

/-- Carries out operations under one program for one payer. -/
structure Sequencer (σ ε : Type) where
  client : Client σ ε
  /-- program of the instructions -/
  program : Address
  /-- pays for and signs every transaction -/
  payer : Signer

namespace Sequencer

variable {σ ε : Type}

/-- Program and payer, for people to read. -/
def describe (s : Sequencer σ ε) : String :=
  "Escrow \x7b program_id: " ++ s.program.toText ++ ", payer: " ++ s.payer.address.toText ++ " \x7d"

/-- Address of the escrow attached to a mint. -/
def escrowAddress (s : Sequencer σ ε) (mint : Address) : Session σ ε Address :=
  .derive (.escrow s.program mint)

/-- Handle of the token with a mint. -/
def nft (s : Sequencer σ ε) (mint : Address) : Session σ ε Nft :=
  match Nft.ofMint? s.program mint with
  | some nft => pure nft
  | none => throw (.aborted .noAddress)

/-- The transaction for one instruction, before there is a block hash. -/
def draft (s : Sequencer σ ε) (instruction : Instruction) : Transaction :=
  .unsigned (Message.compile s.payer.address [instruction] (ByteVec.zero 32))

/-- Signs a transaction for a block hash. -/
def sign (s : Sequencer σ ε) (t : Transaction) (blockhash : Hash) : Session σ ε Transaction :=
  match t.signFor s.payer blockhash with
  | .ok t => pure t
  | .error (.signer e) => throw (.signer e)
  | .error .noWireForm => throw (.aborted .noWireForm)

/-- Hands over one transaction with one instruction. -/
def submit (s : Sequencer σ ε) (instruction : Instruction) (options : SendOptions) :
    Session σ ε Signature := do
  let blockhash ← Session.request .latestBlockhash s.client.latestBlockhash
  let transaction ← s.sign (s.draft instruction) blockhash
  let signature ← Session.request (.send transaction options) (s.client.send transaction options)
  Session.log (.submitted signature blockhash)
  return signature

/-- Creates the escrow attached to a token, and returns its address. -/
def createEscrow (s : Sequencer σ ε) (nft : Nft) : Session σ ε Address := do
  let escrow ← s.escrowAddress nft.mint
  Session.log (.creatingEscrow escrow nft.mint)
  let instruction ← Session.ofBuild (Instruction.createEscrow s.program nft s.payer.address)
  let _ ← s.submit instruction {}
  return escrow

/-- Deposits tokens into an escrow. The node is told not to simulate the transaction. -/
def transferIn (s : Sequencer σ ε) (nft : Nft) (escrow : Address) (held : Nft)
    (constraintModel : Address) (args : TransferInArgs) : Session σ ε Signature := do
  Session.log (.transferringIn args.amount held.mint escrow args.index)
  let instruction ← Session.ofBuild
    (Instruction.transferIn s.program nft escrow held constraintModel s.payer.address args)
  s.submit instruction { skipPreflight := true }

/-- Withdraws tokens from the escrow of a token. -/
def transferOut (s : Sequencer σ ε) (nft : Nft) (attributeMint : Address) (amount : UInt64) :
    Session σ ε Signature := do
  let escrow ← s.escrowAddress nft.mint
  Session.log (.transferringOut amount attributeMint escrow)
  let instruction ← Session.ofBuild
    (Instruction.transferOut s.program nft attributeMint s.payer.address amount)
  s.submit instruction {}

/-- Closes the escrow of a token. -/
def closeEscrow (s : Sequencer σ ε) (nft : Nft) : Session σ ε Signature := do
  let escrow ← s.escrowAddress nft.mint
  Session.log (.closingEscrow escrow)
  let instruction ← Session.ofBuild (Instruction.closeEscrow s.program nft s.payer.address)
  s.submit instruction {}

/-- Creates a constraint model with the payer as its update authority. Returns the address of the
model and the signature of the transaction. -/
def createConstraintModel (s : Sequencer σ ε) (name : String) :
    Session σ ε (Address × Signature) := do
  let payer := s.payer.address
  let instruction ← Session.ofBuild (Instruction.createConstraintModel s.program payer payer name)
  let model ← Session.derive (.constraintModel s.program payer name)
  Session.log (.creatingModel model name)
  let signature ← s.submit instruction {}
  return (model, signature)

/-- Appends a constraint to a model. -/
def addConstraint (s : Sequencer σ ε) (model : Address) (constraint : Constraint) :
    Session σ ε Signature := do
  let payer := s.payer.address
  Session.log (.addingConstraint constraint.name model)
  let instruction ← Session.ofBuild
    (Instruction.addConstraint s.program model payer payer constraint)
  s.submit instruction {}

/-- The escrow account attached to a mint. -/
def escrowAccount (s : Sequencer σ ε) (mint : Address) : Session σ ε Account := do
  let address ← s.escrowAddress mint
  match ← Session.request (.account address) (s.client.account address) with
  | some account => return account
  | none => throw .accountNotFound

end Sequencer

end TokenEscrow

import TokenEscrow.Client.Sequencer

/-!
# Operations as data

An `Operation` is one of the six that end in a transaction, with its arguments.
A `Step` of a session is an operation or a look at an escrow account.

`Sequencer.perform` and `Sequencer.take` carry them out, and `Sequencer.trace`
carries out steps one after the other: each starts from the state in which the
one before left the client, whether that one succeeded or not, and leaves a
`Record` of what happened.

What an operation amounts to is said apart from how it is carried out: the
instruction that it builds (`Operation.build`), the addresses that it derives for
that (`Operation.derivations`), how the transaction is handed over
(`Operation.options`), what is announced (`Operation.notice?`) and what comes
out (`Operation.answer?`).
-/

namespace TokenEscrow

/-! ## Operations -/

/-- An operation that ends in a transaction. -/
inductive Operation
  | createEscrow (nft : Nft)
  | closeEscrow (nft : Nft)
  | transferIn (nft : Nft) (escrow : Address) (held : Nft) (constraintModel : Address)
      (args : TransferInArgs)
  | transferOut (nft : Nft) (attributeMint : Address) (amount : UInt64)
  | createConstraintModel (name : String)
  | addConstraint (model : Address) (constraint : Constraint)
  deriving DecidableEq

/-- What a step of a session answers with. -/
inductive Answer
  /-- a derived address -/
  | address (address : Address)
  /-- the signature of a transaction -/
  | signature (signature : Signature)
  /-- the address of a constraint model and the signature of a transaction -/
  | model (address : Address) (signature : Signature)
  /-- an account -/
  | account (account : Account)
  deriving DecidableEq

namespace Operation

/-- The escrow instruction of an operation. -/
def instruction : Operation → EscrowInstruction
  | createEscrow _ => .createEscrow
  | closeEscrow _ => .closeEscrow
  | transferIn _ _ _ _ args => .transferIn args
  | transferOut _ _ amount => .transferOut amount
  | createConstraintModel name => .createConstraintModel name
  | addConstraint _ constraint => .addConstraint constraint

/-- The slots that the operation fills. -/
def slots (op : Operation) : List Slot := op.instruction.schema.slots

/-- The instruction data of an operation. -/
def data (op : Operation) : Bytes := op.instruction.pack

/-- Builds the instruction under a program and for a payer, who is the update authority too. -/
def build (program payer : Address) : Operation → Except BuildError Instruction
  | createEscrow nft => Instruction.createEscrow program nft payer
  | closeEscrow nft => Instruction.closeEscrow program nft payer
  | transferIn nft escrow held constraintModel args =>
    Instruction.transferIn program nft escrow held constraintModel payer args
  | transferOut nft attributeMint amount =>
    Instruction.transferOut program nft attributeMint payer amount
  | createConstraintModel name => Instruction.createConstraintModel program payer payer name
  | addConstraint model constraint =>
    Instruction.addConstraint program model payer payer constraint

/-- The addresses that have to be derived to build the instruction. -/
def derivations (program payer : Address) : Operation → List Derivation
  | createEscrow nft => [.escrow program nft.mint]
  | closeEscrow nft => [.escrow program nft.mint, .tokenAccount payer nft.mint]
  | transferIn nft escrow held _ _ =>
    [.tokenAccount payer held.mint, .tokenAccount escrow held.mint, .tokenAccount payer nft.mint]
  | transferOut nft attributeMint _ =>
    let escrow := Derivation.escrow program nft.mint
    escrow :: .tokenAccount payer attributeMint :: .tokenAccount payer nft.mint ::
      escrow.address?.toList.map (.tokenAccount · attributeMint)
  | createConstraintModel name => [.constraintModel program payer name]
  | addConstraint .. => []

/-- How the transaction of an operation is handed over. -/
def options : Operation → SendOptions
  | transferIn .. => { skipPreflight := true }
  | _ => {}

/-- What an operation announces. -/
def notice? (program payer : Address) : Operation → Option LogMessage
  | createEscrow nft =>
    (Derivation.escrow program nft.mint).address?.map (.creatingEscrow · nft.mint)
  | closeEscrow nft => (Derivation.escrow program nft.mint).address?.map .closingEscrow
  | transferIn _ escrow held _ args =>
    some (.transferringIn args.amount held.mint escrow args.index)
  | transferOut nft attributeMint amount =>
    (Derivation.escrow program nft.mint).address?.map (.transferringOut amount attributeMint)
  | createConstraintModel name =>
    (Derivation.constraintModel program payer name).address?.map (.creatingModel · name)
  | addConstraint model constraint => some (.addingConstraint constraint.name model)

/-- What an operation answers with, given the signature that came back. -/
def answer? (program payer : Address) : Operation → Option (Signature → Answer)
  | createEscrow nft =>
    (Derivation.escrow program nft.mint).address?.map fun escrow _ => .address escrow
  | createConstraintModel name =>
    (Derivation.constraintModel program payer name).address?.map .model
  | closeEscrow _ | transferIn .. | transferOut .. | addConstraint .. => some .signature

end Operation

/-- A step of a session. -/
inductive Step
  /-- an operation that ends in a transaction -/
  | operation (op : Operation)
  /-- a look at the escrow account attached to a mint -/
  | account (mint : Address)
  deriving DecidableEq

/-- The addresses that have to be derived in a step. -/
def Step.derivations (program payer : Address) : Step → List Derivation
  | operation op => op.derivations program payer
  | account mint => [.escrow program mint]

/-! ## Carrying out -/

/-- A step that was taken. -/
structure Record (σ ε : Type) where
  step : Step
  /-- state of the client before -/
  before : σ
  /-- what came out -/
  result : Except (Failure ε) Answer
  /-- what happened meanwhile, in order -/
  events : List (Event ε)
  /-- state of the client afterwards -/
  after : σ

namespace Sequencer

variable {σ ε : Type}

/-- Carries out an operation. -/
def perform (s : Sequencer σ ε) : Operation → Session σ ε Answer
  | .createEscrow nft => .address <$> s.createEscrow nft
  | .closeEscrow nft => .signature <$> s.closeEscrow nft
  | .transferIn nft escrow held constraintModel args =>
    .signature <$> s.transferIn nft escrow held constraintModel args
  | .transferOut nft attributeMint amount => .signature <$> s.transferOut nft attributeMint amount
  | .createConstraintModel name =>
    (fun (model, signature) => .model model signature) <$> s.createConstraintModel name
  | .addConstraint model constraint => .signature <$> s.addConstraint model constraint

/-- Takes a step. -/
def take (s : Sequencer σ ε) : Step → Session σ ε Answer
  | .operation op => s.perform op
  | .account mint => .account <$> s.escrowAccount mint

/-- Takes a step from a state of the client. -/
def record (s : Sequencer σ ε) (step : Step) (client : σ) : Record σ ε :=
  let (result, run) := (s.take step).start client
  { step, before := client, result, events := run.events, after := run.client }

/-- Takes steps one after the other. -/
def trace (s : Sequencer σ ε) : List Step → σ → List (Record σ ε)
  | [], _ => []
  | step :: steps, client =>
    let r := s.record step client
    r :: s.trace steps r.after

end Sequencer

end TokenEscrow

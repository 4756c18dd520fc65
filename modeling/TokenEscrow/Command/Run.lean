import TokenEscrow.Client.Sequencer
import TokenEscrow.Command.Basic
import TokenEscrow.Config.Keypair
import TokenEscrow.Config.Settings
import TokenEscrow.Report.Records

/-!
# Carrying out commands

`Command.run` carries out a command against a client and answers with the text
of a report. Every command that needs the keypair asks for it before it does
anything else; `address` with an owner never does.

A missing escrow account is an answer, not a failure; every other failure of a
request ends the command.
-/

namespace TokenEscrow

/-! ## Failures -/

/-- Why a command was not carried out. -/
inductive CommandFailure (ε : Type)
  /-- the command line lacks something -/
  | incomplete (lacking : Incomplete)
  | keypair (path : String) (error : KeypairError)
  /-- an operation stopped -/
  | operation (failure : Failure ε)

/-- The wording of a failure, given that of the client's errors. -/
def CommandFailure.message {ε : Type} (clientMessage : ε → String) : CommandFailure ε → String
  | incomplete lacking => lacking.message
  | keypair path e => s!"failed to read keypair `{path}`: " ++ e.message
  | operation f => f.message clientMessage

/-- A command under way. -/
abbrev CommandSession (σ ε : Type) := ExceptT (CommandFailure ε) (StateM (Run σ ε))

/-! ## The bench -/

/-- What commands work with. -/
structure Workbench (σ ε : Type) where
  settings : Settings
  client : Client σ ε
  /-- the keypair, if there is one -/
  signer : Except KeypairError Signer

namespace Workbench

variable {σ ε : Type}

/-- An operation as a part of a command. -/
def perform {α : Type} (session : Session σ ε α) : CommandSession σ ε α :=
  ExceptT.adapt CommandFailure.operation session

/-- The keypair. -/
def payer (b : Workbench σ ε) : CommandSession σ ε Signer :=
  match b.signer with
  | .ok signer => pure signer
  | .error e => throw (.keypair b.settings.keypairPath e)

/-- What carries out operations. -/
def sequencer (b : Workbench σ ε) : CommandSession σ ε (Sequencer σ ε) := do
  return { client := b.client, program := b.settings.program, payer := ← b.payer }

/-- The text of a report. -/
def answer {α : Type} [Report α] (b : Workbench σ ε) (report : α) : String :=
  Report.render b.settings.format report

end Workbench

/-! ## Reports -/

/-- The report on an account that may be missing. -/
def AccountReport.ofAccount (escrow : Address) : Option Account → AccountReport
  | none => {
      escrow := escrow.toText
      exists? := false
      owner := none
      lamports := 0
      dataLen := 0 }
  | some account => {
      escrow := escrow.toText
      exists? := true
      owner := some account.owner.toText
      lamports := account.lamports
      dataLen := UInt64.ofNat account.data.length }

/-- The account of a session, or that there is none. -/
def Session.orMissing {σ ε : Type} (session : Session σ ε Account) :
    Session σ ε (Option Account) :=
  tryCatch (some <$> session) fun failure =>
    match failure with
    | .accountNotFound => pure none
    | failure => throw failure

/-- The report on the addresses around an escrow. -/
def AddressesReport.derive {σ ε : Type} (program mint : Address) (attributeMint : Option Address)
    (owner : Address) : Session σ ε AddressesReport := do
  let metadata ← Session.derive (.metadata program mint)
  let edition ← Session.derive (.edition program mint)
  let escrow ← Session.derive (.escrow program mint)
  let account ← Session.derive (.tokenAccount owner mint)
  let source ← attributeMint.mapM fun m => Session.derive (.tokenAccount owner m)
  let destination ← attributeMint.mapM fun m => Session.derive (.tokenAccount escrow m)
  return {
    mint := mint.toText
    escrow := escrow.toText
    metadata := metadata.toText
    edition := edition.toText
    owner := owner.toText
    escrowTokenAccount := account.toText
    attributeMint := attributeMint.map ByteVec.toText
    attributeSource := source.map ByteVec.toText
    attributeDestination := destination.map ByteVec.toText }

/-! ## Commands -/

namespace Command

open Workbench (perform)

variable {σ ε : Type}

/-- Carries out a command. -/
def run (b : Workbench σ ε) : Command → CommandSession σ ε String
  | create amount => do
    let s ← b.sequencer
    perform do
      if let some n := amount then Session.log (.amountUnused n)
      Session.log (.clientReady s.payer.address b.settings.jsonRpcUrl)
    return b.answer ({
      payer := s.payer.address.toText
      jsonRpcUrl := b.settings.jsonRpcUrl
      programId := s.program.toText
      ignoredAmount := amount } : ClientReport)
  | createEscrow mint => do
    let s ← b.sequencer
    let escrow ← perform do s.createEscrow (← s.nft mint)
    return b.answer ({ mint := mint.toText, escrow := escrow.toText } : EscrowReport)
  | transferIn mint attributeMint constraintModel args => do
    let s ← b.sequencer
    let (escrow, signature) ← perform do
      let nft ← s.nft mint
      let escrow ← s.escrowAddress mint
      let held ← s.nft attributeMint
      return (escrow, ← s.transferIn nft escrow held constraintModel args)
    return b.answer ({
      escrow := escrow.toText
      attributeMint := attributeMint.toText
      amount := args.amount
      index := some args.index
      signature := signature.toText } : TransferReport)
  | transferOut mint attributeMint amount => do
    let s ← b.sequencer
    let (escrow, signature) ← perform do
      let signature ← s.transferOut (← s.nft mint) attributeMint amount
      return (← s.escrowAddress mint, signature)
    return b.answer ({
      escrow := escrow.toText
      attributeMint := attributeMint.toText
      amount
      index := none
      signature := signature.toText } : TransferReport)
  | closeEscrow mint => do
    let s ← b.sequencer
    let signature ← perform do s.closeEscrow (← s.nft mint)
    return b.answer ({ signature := signature.toText } : SignatureReport)
  | createConstraintModel name => do
    let s ← b.sequencer
    let (model, signature) ← perform (s.createConstraintModel name)
    return b.answer ({
      name, address := model.toText, signature := signature.toText } : ModelReport)
  | addConstraint model constraint => do
    let s ← b.sequencer
    let signature ← perform (s.addConstraint model constraint)
    return b.answer ({ signature := signature.toText } : SignatureReport)
  | address mint attributeMint owner => do
    let owner ← match owner with
      | some owner => pure owner
      | none => Signer.address <$> b.payer
    let report ← perform (AddressesReport.derive b.settings.program mint attributeMint owner)
    return b.answer report
  | showEscrow mint => do
    let s ← b.sequencer
    let (escrow, account) ← perform do
      return (← s.escrowAddress mint, ← (s.escrowAccount mint).orMissing)
    return b.answer (AccountReport.ofAccount escrow account)

/-- Runs a command from a state of the client. -/
def start (b : Workbench σ ε) (command : Command) (client : σ) :
    Except (CommandFailure ε) String × Run σ ε :=
  StateT.run (ExceptT.run (command.run b)) { client, events := [] }

end Command

end TokenEscrow

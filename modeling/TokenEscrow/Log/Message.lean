import TokenEscrow.Bytes.Base58

/-!
# Log records

Everything the library reports while it works is one of the messages below. A
message determines its level, the part of the program it comes from and its
text, so a run can be described by the messages alone.
-/

namespace TokenEscrow

/-! ## Levels -/

/-- Severity of a record. -/
inductive LogLevel
  | error
  | warn
  | info
  | debug
  | trace
  deriving DecidableEq, Repr

namespace LogLevel

/-- The name in capitals. -/
def name : LogLevel → String
  | error => "ERROR"
  | warn => "WARN"
  | info => "INFO"
  | debug => "DEBUG"
  | trace => "TRACE"

/-- Rank: the more talkative, the higher. -/
def rank : LogLevel → Nat
  | error => 1
  | warn => 2
  | info => 3
  | debug => 4
  | trace => 5

end LogLevel

/-! ## Messages -/

/-- What is reported. -/
inductive LogMessage
  /-- an escrow is about to be created -/
  | creatingEscrow (escrow mint : Address)
  /-- tokens are about to go into an escrow -/
  | transferringIn (amount : UInt64) (mint escrow : Address) (index : UInt64)
  /-- tokens are about to leave an escrow -/
  | transferringOut (amount : UInt64) (mint escrow : Address)
  /-- an escrow is about to be closed -/
  | closingEscrow (escrow : Address)
  /-- a constraint model is about to be created -/
  | creatingModel (model : Address) (name : String)
  /-- a constraint is about to be appended -/
  | addingConstraint (name : String) (model : Address)
  /-- a transaction was handed over -/
  | submitted (signature : Signature) (blockhash : Hash)
  /-- the command line gave an amount that has no use -/
  | amountUnused (amount : UInt64)
  /-- a client is set up -/
  | clientReady (payer : Address) (url : String)
  deriving DecidableEq

namespace LogMessage

/-- The level of a message. -/
def level : LogMessage → LogLevel
  | submitted _ _ => .debug
  | amountUnused _ => .warn
  | _ => .info

/-- The part of the program a message comes from. -/
def target : LogMessage → String
  | amountUnused _ | clientReady _ _ => "bundt_cake_cli::command"
  | _ => "bundt_cake_client::escrow"

/-- The text of a message. -/
def text : LogMessage → String
  | creatingEscrow escrow mint => s!"Creating escrow {escrow.toText} for mint {mint.toText}"
  | transferringIn amount mint escrow index =>
    s!"Transferring {amount.toNat} of {mint.toText} into escrow {escrow.toText} " ++
      s!"(constraint {index.toNat})"
  | transferringOut amount mint escrow =>
    s!"Transferring {amount.toNat} of {mint.toText} out of escrow {escrow.toText}"
  | closingEscrow escrow => s!"Closing escrow {escrow.toText}"
  | creatingModel model name => s!"Creating escrow constraint model {model.toText} ({name})"
  | addingConstraint name model => s!"Adding constraint {name} to model {model.toText}"
  | submitted signature blockhash =>
    s!"submitted {signature.toText} with blockhash {blockhash.toText}"
  | amountUnused amount => s!"amount {amount.toNat} is not used by create"
  | clientReady payer url => s!"Client ready for {payer.toText} on {url}"

end LogMessage

end TokenEscrow

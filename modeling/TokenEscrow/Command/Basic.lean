import TokenEscrow.Bytes.Base58
import TokenEscrow.Command.Names
import TokenEscrow.CommandLine.Matches
import TokenEscrow.Instruction.Basic
import TokenEscrow.Text.Unsigned

/-!
# Commands

A `Command` is a request to the program with everything it needs, already read
from the texts of the command line. `Command.ofMatches` reads it. A command line
that was accepted always has what its command needs; for any other the outcome
says what is missing.
-/

namespace TokenEscrow

/-- A request to the program. -/
inductive Command
  /-- set up a client; the amount has no use -/
  | create (amount : Option UInt64)
  | createEscrow (mint : Address)
  | transferIn (mint attributeMint constraintModel : Address) (args : TransferInArgs)
  | transferOut (mint attributeMint : Address) (amount : UInt64)
  | closeEscrow (mint : Address)
  | createConstraintModel (name : String)
  | addConstraint (model : Address) (constraint : Constraint)
  /-- show the addresses around an escrow, for an owner or else for the keypair -/
  | address (mint : Address) (attributeMint owner : Option Address)
  | showEscrow (mint : Address)
  deriving DecidableEq

/-- What a command line lacks. -/
inductive Incomplete
  /-- an option, by its word -/
  | option (long : String)
  /-- mints to admit -/
  | tokens
  deriving DecidableEq, Repr

/-- The wording of what is missing. -/
def Incomplete.message : Incomplete → String
  | option long => s!"--{long} is required"
  | tokens => "at least one --token is required"

namespace Matches

/-- The address that an option denotes. -/
def address? (ms : Matches) (name : String) : Option Address := do
  (Address.read (← ms.value? name)).toOption

/-- The number that an option denotes. -/
def number? (ms : Matches) (name : String) : Option UInt64 := do
  (Unsigned.read (← ms.value? name)).toOption

/-- The addresses that a repeated option denotes. -/
def addresses? (ms : Matches) (name : String) : Option (List Address) :=
  if ms.has name then (ms.values name).mapM fun text => (Address.read text).toOption else none

end Matches

namespace Command

/-- Something that has to be there, or what is lacking. -/
def need {α : Type} (lacking : Incomplete) : Option α → Except Incomplete α
  | some a => .ok a
  | none => .error lacking

/-- The mint of the token that carries the escrow. -/
def mintOf (ms : Matches) : Except Incomplete Address := need (.option "mint") (ms.address? "mint")

/-- The mint of a token inside the escrow. -/
def attributeMintOf (ms : Matches) : Except Incomplete Address :=
  need (.option "attribute-mint") (ms.address? "attribute_mint")

/-- The rule of a constraint. -/
def ruleOf (ms : Matches) : Except Incomplete ConstraintRule := do
  match ← need (.option "constraint-type")
      ((ms.value? "constraint_type").bind ConstraintKind.ofName?) with
  | .none => return .none
  | .collection => return .collection (← need (.option "collection") (ms.address? "collection"))
  | .tokens => return .tokens (← need .tokens (ms.addresses? "token"))

/-- A constraint. -/
def constraintOf (ms : Matches) : Except Incomplete Constraint := do
  return {
    name := ← need (.option "name") (ms.value? "name")
    tokenLimit := ← need (.option "token-limit") (ms.number? "token_limit")
    rule := ← ruleOf ms }

/-- The command of a name with the options of a command line. -/
def ofMatches (name : CommandName) (ms : Matches) : Except Incomplete Command := do
  match name with
  | .create => return .create (ms.number? "amount")
  | .createEscrow => return .createEscrow (← mintOf ms)
  | .transferIn =>
    let model ← need (.option "constraint-model") (ms.address? "constraint_model")
    return .transferIn (← mintOf ms) (← attributeMintOf ms) model {
      amount := (ms.number? "amount").getD defaultAmount
      index := (ms.number? "index").getD defaultIndex }
  | .transferOut =>
    let amount := (ms.number? "amount").getD defaultAmount
    return .transferOut (← mintOf ms) (← attributeMintOf ms) amount
  | .closeEscrow => return .closeEscrow (← mintOf ms)
  | .createConstraintModel =>
    return .createConstraintModel (← need (.option "name") (ms.value? "name"))
  | .addConstraint =>
    return .addConstraint (← need (.option "model") (ms.address? "model")) (← constraintOf ms)
  | .address => return .address (← mintOf ms) (ms.address? "attribute_mint") (ms.address? "owner")
  | .showEscrow => return .showEscrow (← mintOf ms)

end Command

end TokenEscrow

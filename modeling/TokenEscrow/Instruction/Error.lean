/-!
# Errors of the escrow instructions

What can be wrong with an instruction before it reaches a network. Each error
has a code, which is how it travels inside a program error.
-/

namespace TokenEscrow

/-- Errors of building or decoding escrow instructions. -/
inductive EscrowError
  /-- the first byte belongs to no escrow instruction -/
  | unknownInstruction
  /-- the bytes after the first are no arguments -/
  | invalidInstructionData
  /-- the number of keys is not that of the account table -/
  | accountCountMismatch
  /-- the name does not fit in a seed -/
  | nameTooLong
  deriving DecidableEq, Repr

namespace EscrowError

/-- All errors in the order of their codes. -/
def all : List EscrowError :=
  [unknownInstruction, invalidInstructionData, accountCountMismatch, nameTooLong]

/-- The code of the first error. -/
def firstCode : Nat := 0x0e5c0000

/-- The code of an error. -/
def code : EscrowError → Nat
  | unknownInstruction => firstCode
  | invalidInstructionData => firstCode + 1
  | accountCountMismatch => firstCode + 2
  | nameTooLong => firstCode + 3

/-- The error with a code. -/
def ofCode? (n : Int) : Option EscrowError := all.find? fun e => decide ((e.code : Int) = n)

/-- The name of an error. -/
def name : EscrowError → String
  | unknownInstruction => "UnknownInstruction"
  | invalidInstructionData => "InvalidInstructionData"
  | accountCountMismatch => "AccountCountMismatch"
  | nameTooLong => "NameTooLong"

/-- The wording of an error. -/
def message : EscrowError → String
  | unknownInstruction => "Unknown escrow instruction"
  | invalidInstructionData => "Malformed escrow instruction data"
  | accountCountMismatch => "Incorrect number of accounts for escrow instruction"
  | nameTooLong => "Escrow name is too long"

/-- The wording of the program error that carries the code. -/
def programMessage (e : EscrowError) : String :=
  "Custom program error: 0x" ++ String.ofList (Nat.toDigits 16 e.code)

/-- Every error is found under its code. -/
theorem ofCode?_code (e : EscrowError) : ofCode? e.code = some e := by
  cases e <;> decide

end EscrowError

end TokenEscrow

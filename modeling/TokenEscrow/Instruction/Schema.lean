import TokenEscrow.Bytes.Fixed
import TokenEscrow.Instruction.Error

/-!
# Account tables

An instruction names its accounts by position. Its `Schema` is the table of
those positions: for each slot a name and whether the account is written to and
has to sign. Builders never list accounts by hand; they put keys against the
table (`Schema.accounts`), which also decides the flags.

The six tables stand in order of their discriminator byte in `Schema.all`.
-/

namespace TokenEscrow

/-! ## Slots -/

/-- One slot of an account table. -/
structure Slot where
  /-- what the account is for -/
  name : String
  /-- whether the program writes to it -/
  writable : Bool
  /-- whether it has to sign -/
  signer : Bool
  deriving DecidableEq, Repr

/-- An account as an instruction refers to it. -/
structure AccountRef where
  address : Address
  signer : Bool
  writable : Bool
  deriving DecidableEq

namespace Slot

/-- A slot that is only read. -/
def readonly (name : String) : Slot := ⟨name, false, false⟩

/-- A slot that is written. -/
def written (name : String) : Slot := ⟨name, true, false⟩

/-- A slot that signs and is only read. -/
def signing (name : String) : Slot := ⟨name, false, true⟩

/-- A slot that signs and is written. -/
def writtenSigning (name : String) : Slot := ⟨name, true, true⟩

@[simp] theorem signer_readonly (name : String) : (readonly name).signer = false := rfl

@[simp] theorem signer_written (name : String) : (written name).signer = false := rfl

@[simp] theorem signer_signing (name : String) : (signing name).signer = true := rfl

@[simp] theorem signer_writtenSigning (name : String) : (writtenSigning name).signer = true := rfl

/-- An address placed in the slot. -/
def place (s : Slot) (address : Address) : AccountRef :=
  { address, signer := s.signer, writable := s.writable }

end Slot

/-! ## Tables -/

/-- The account table of one instruction. -/
structure Schema where
  /-- name of the instruction -/
  name : String
  /-- first byte of its data -/
  discriminator : UInt8
  /-- its accounts in the order in which the program reads them -/
  slots : List Slot
  deriving DecidableEq, Repr

namespace Schema

/-- Puts keys against the table. -/
def accounts (s : Schema) (keys : List Address) : Except EscrowError (List AccountRef) :=
  if keys.length = s.slots.length then .ok (List.zipWith Slot.place s.slots keys)
  else .error .accountCountMismatch

/-- Position of the slot with a name. -/
def position? (s : Schema) (name : String) : Option Nat :=
  s.slots.findIdx? fun slot => slot.name == name

/-- Creates the escrow attached to a token. -/
def createEscrow : Schema where
  name := "CreateEscrowAccount"
  discriminator := 38
  slots := [
    .written "escrow",
    .written "metadata",
    .readonly "mint",
    .readonly "edition",
    .writtenSigning "payer",
    .readonly "system_program"]

/-- Closes an empty escrow. -/
def closeEscrow : Schema where
  name := "CloseEscrowAccount"
  discriminator := 39
  slots := [
    .written "escrow",
    .written "metadata",
    .readonly "mint",
    .readonly "token_account",
    .readonly "edition",
    .writtenSigning "payer",
    .readonly "system_program"]

/-- Moves tokens out of an escrow. -/
def transferOut : Schema where
  name := "TransferOutOfEscrow"
  discriminator := 40
  slots := [
    .readonly "escrow",
    .written "metadata",
    .writtenSigning "payer",
    .readonly "attribute_mint",
    .written "attribute_src",
    .written "attribute_dst",
    .readonly "escrow_mint",
    .readonly "escrow_account",
    .readonly "system_program",
    .readonly "ata_program",
    .readonly "token_program",
    .readonly "sysvar_instructions"]

/-- Moves tokens into an escrow. -/
def transferIn : Schema where
  name := "TransferIntoEscrow"
  discriminator := 41
  slots := [
    .written "escrow",
    .writtenSigning "payer",
    .readonly "attribute_mint",
    .written "attribute_src",
    .written "attribute_dst",
    .readonly "attribute_metadata",
    .readonly "escrow_mint",
    .readonly "escrow_account",
    .readonly "constraint_model",
    .readonly "system_program",
    .readonly "ata_program",
    .readonly "token_program",
    .readonly "rent"]

/-- Creates an empty constraint model. -/
def createConstraintModel : Schema where
  name := "CreateEscrowConstraintModelAccount"
  discriminator := 42
  slots := [
    .written "escrow_constraint_model",
    .writtenSigning "payer",
    .signing "update_authority",
    .readonly "system_program"]

/-- Appends a constraint to a model. -/
def addConstraint : Schema where
  name := "AddConstraintToEscrowConstraintModel"
  discriminator := 43
  slots := [
    .written "escrow_constraint_model",
    .writtenSigning "payer",
    .signing "update_authority",
    .readonly "system_program"]

/-- All tables, ordered by discriminator. -/
def all : List Schema :=
  [createEscrow, closeEscrow, transferOut, transferIn, createConstraintModel, addConstraint]

/-- The table that owns a discriminator. -/
def find? (discriminator : UInt8) : Option Schema :=
  all.find? fun s => s.discriminator == discriminator

end Schema

end TokenEscrow

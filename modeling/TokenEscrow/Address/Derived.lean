import TokenEscrow.Address.Known
import TokenEscrow.Curve.Point
import TokenEscrow.Hash.Sha256
import TokenEscrow.Text.Utf8

/-!
# Derived addresses

A derived address is the SHA-256 digest of some seeds, one bump byte, a program
and a fixed marker, for the largest bump whose digest is *not* a point of the
curve: so nobody holds a key for it. The bump 0 is never tried. A seed has at most
32 bytes.

`Derivation` lists the addresses that escrows use, each with its seeds. What is
hashed is the plain concatenation `Derivation.preimage`; that no two derivations
share a preimage rests on the bound on the length of a seed.
-/

namespace TokenEscrow

/-! ## The search -/

/-- What ends every preimage. -/
def derivationMarker : Bytes := Utf8.encode "ProgramDerivedAddress"

/-- Longest seed. -/
def maxSeedLength : Nat := 32

/-- The addresses that escrows derive. -/
inductive Derivation
  /-- the metadata account of a mint -/
  | metadata (program mint : Address)
  /-- the master edition account of a mint -/
  | edition (program mint : Address)
  /-- the escrow account attached to a mint -/
  | escrow (program mint : Address)
  /-- the constraint model that an update authority creates under a name -/
  | constraintModel (program authority : Address) (name : String)
  /-- the associated token account of an owner for a mint -/
  | tokenAccount (owner mint : Address)
  deriving DecidableEq

namespace Derivation

/-- Seed that the metadata program's accounts share. -/
def metadataSeed : String := "metadata"

/-- Last seed of master edition accounts. -/
def editionSeed : String := "edition"

/-- Seed of escrows and of constraint models. -/
def escrowSeed : String := "escrow"

/-- The program an address is derived under. -/
def program : Derivation → Address
  | metadata program _ | edition program _ | escrow program _ | constraintModel program _ _ =>
    program
  | tokenAccount _ _ => Known.associatedTokenProgram

/-- The seeds of an address. -/
def seeds : Derivation → List Bytes
  | metadata program mint => [Utf8.encode metadataSeed, program.bytes, mint.bytes]
  | edition program mint =>
    [Utf8.encode metadataSeed, program.bytes, mint.bytes, Utf8.encode editionSeed]
  | escrow program mint =>
    [Utf8.encode metadataSeed, program.bytes, mint.bytes, Utf8.encode escrowSeed]
  | constraintModel _ authority name =>
    [Utf8.encode escrowSeed, authority.bytes, Utf8.encode name]
  | tokenAccount owner mint => [owner.bytes, Known.tokenProgram.bytes, mint.bytes]

/-- What is hashed for one bump: seeds, bump, program and marker without separators. -/
def preimage (d : Derivation) (bump : UInt8) : Bytes :=
  d.seeds.flatten ++ bump :: d.program.bytes ++ derivationMarker

/-- The digest for one bump. -/
def candidate (d : Derivation) (bump : UInt8) : Address := Sha256.digest (d.preimage bump)

/-- The first digest off the curve for the bumps from `n` down to 1. -/
def searchFrom (d : Derivation) : Nat → Option (Address × UInt8)
  | 0 => none
  | n + 1 =>
    let bump := UInt8.ofNat (n + 1)
    if isOnCurve (d.candidate bump) then searchFrom d n
    else some (d.candidate bump, bump)

/-- The largest bump. -/
def maxBump : Nat := 255

/-- The derived address and its bump. There is none when a seed is too long, or when the digests
for all bumps from 255 down to 1 are points of the curve. -/
def find? (d : Derivation) : Option (Address × UInt8) :=
  if d.seeds.all (·.length ≤ maxSeedLength) then d.searchFrom maxBump else none

/-- The derived address without its bump. -/
def address? (d : Derivation) : Option Address := d.find?.map Prod.fst

end Derivation

end TokenEscrow

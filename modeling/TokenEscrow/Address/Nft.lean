import TokenEscrow.Address.Derived

/-!
# Handles of non-fungible tokens

A token that can carry an escrow is known by three addresses: its mint, and the
metadata and master edition accounts derived from it.
-/

namespace TokenEscrow

/-- The addresses that identify a token to the metadata program. -/
structure Nft where
  /-- mint of the token -/
  mint : Address
  /-- metadata account of the mint -/
  metadata : Address
  /-- master edition account of the mint -/
  edition : Address
  deriving DecidableEq

/-- The handle of a mint under a program. -/
def Nft.ofMint? (program mint : Address) : Option Nft := do
  let metadata ← (Derivation.metadata program mint).address?
  let edition ← (Derivation.edition program mint).address?
  return { mint, metadata, edition }

end TokenEscrow

import TokenEscrow.Bytes.Base58

/-!
# Well-known addresses

The programs and system variables that the escrow instructions name, and the
program that the escrow instructions belong to unless told otherwise.
-/

namespace TokenEscrow

/-- The address written by a text; the zero address when the text is none. -/
def Address.ofText (text : String) : Address :=
  match Address.read text with
  | .ok address => address
  | .error _ => ByteVec.zero 32

namespace Known

/-- The token metadata program, home of the escrow instructions. -/
def metadataProgram : Address := Address.ofText "metaqbxxUerdq28cj1RbAWkYQm3ybzjb6a8bt518x1s"

/-- The token program. -/
def tokenProgram : Address := Address.ofText "TokenkegQfeZyiNwAJbNbGKPFXCWuBvf9Ss623VQ5DA"

/-- The associated token account program. -/
def associatedTokenProgram : Address :=
  Address.ofText "ATokenGPvbdGVxr1b2hvZbsiqW5xWH25efTNsLJA8knL"

/-- The system program, whose bytes are all zero. -/
def systemProgram : Address := ByteVec.zero 32

/-- The rent variable. -/
def rent : Address := Address.ofText "SysvarRent111111111111111111111111111111111"

/-- The variable that shows the instructions of the running transaction. -/
def instructions : Address := Address.ofText "Sysvar1nstructions1111111111111111111111111"

end Known

end TokenEscrow

import TokenEscrow.Files.Basic
import TokenEscrow.Json.ByteList
import TokenEscrow.Transaction.Sign

/-!
# Keypair files

A keypair file holds 64 bytes as a list of numbers: the seed, and the address
that belongs to it. The address is there to be checked, so a file that was
damaged is noticed.
-/

namespace TokenEscrow

/-- Why there is no keypair. -/
inductive KeypairError
  /-- the file cannot be read -/
  | file (error : FileError)
  /-- the text of the file is no list of bytes -/
  | notBytes (fault : Json.Fault) (text : List Char)
  | tooShort
  | tooLong
  /-- the address is no point of the curve -/
  | noPoint
  /-- the address belongs to another seed -/
  | otherAddress
  deriving DecidableEq, Repr

/-- The wording of the error. -/
def KeypairError.message : KeypairError → String
  | file error => error.message
  | notBytes fault text => fault.message text
  | tooShort => "signature error: candidate keypair byte array is too short"
  | tooLong => "signature error: PublicKey must be 32 bytes in length"
  | noPoint => "signature error: Cannot decompress Edwards point"
  | otherAddress =>
    "signature error: keypair bytes do not specify same pubkey as derived from their secret key"

namespace Keypair

/-- The seed of a keypair with these bytes. -/
def ofBytes (bytes : Bytes) : Except KeypairError (ByteVec 32) :=
  match ByteVec.ofBytes? 32 (bytes.take 32), ByteVec.ofBytes? 32 (bytes.drop 32) with
  | some seed, some address =>
    if !isOnCurve address then .error .noPoint
    else if Ed25519.publicKey seed = address then .ok seed
    else .error .otherAddress
  | _, _ => .error (if bytes.length < 64 then .tooShort else .tooLong)

/-- The signer of a keypair file, given the outcome of reading the file. -/
def signer (content : Except FileError String) : Except KeypairError Signer :=
  match content with
  | .error e => .error (.file e)
  | .ok text => match Json.parseBytes text with
    | .error fault => .error (.notBytes fault text.toList)
    | .ok bytes => (ofBytes bytes).map Signer.keypair

end Keypair

end TokenEscrow

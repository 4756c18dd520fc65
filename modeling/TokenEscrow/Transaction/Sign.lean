import TokenEscrow.Curve.Signature
import TokenEscrow.Transaction.Wire

/-!
# Signing

A `Signer` has an address and answers a request to sign, in any way it likes.
Three kinds are at hand: one that holds the seed, one that only knows the
address, and one that holds a signature made elsewhere. Of these only the first
ever completes a transaction, unless the signature made elsewhere happens to fit.

A transaction starts out unsigned, with an empty signature in every place that
needs one and without a block hash. Signing it for an address (`signFor`) finds
the place of the address, puts the block hash in, asks the signer, and refuses
the outcome when a signature is still empty. What is signed is the wire form of
the message with its block hash in place, so a message without a wire form
cannot be signed at all (`SignFault.noWireForm`).

For a message that only its payer signs all this comes to one step
(`Transaction.sign`).
-/

namespace TokenEscrow

/-! ## Signers -/

/-- Why a signer did not produce a complete transaction. -/
inductive SignerError
  /-- some signature is missing -/
  | notEnoughSigners
  /-- the signature at hand does not fit the message -/
  | unfitSignature
  /-- any other failure, in the words of the signer -/
  | other (message : String)
  deriving DecidableEq, Repr

/-- The wording of the error. -/
def SignerError.message : SignerError → String
  | .notEnoughSigners => "not enough signers"
  | .unfitSignature => "presigner error"
  | .other message => message

/-- Something that signs for an address. -/
structure Signer where
  /-- the address signed for -/
  address : Address
  /-- the signature of a message -/
  sign : Bytes → Except SignerError Signature

namespace Signer

/-- Signs with a seed. -/
def keypair (seed : ByteVec 32) : Signer where
  address := Ed25519.publicKey seed
  sign message := .ok (Ed25519.sign seed message)

/-- Knows an address and leaves the signature empty. -/
def absent (address : Address) : Signer where
  address
  sign _ := .ok (ByteVec.zero 64)

/-- Holds one signature, and hands it out for the message it fits. -/
def presigned (address : Address) (signature : Signature) : Signer where
  address
  sign message :=
    if Ed25519.verify address message signature then .ok signature else .error .unfitSignature

end Signer

/-! ## Transactions -/

/-- Why a message could not be signed. -/
inductive SignFault
  /-- the signer failed -/
  | signer (error : SignerError)
  /-- some list of the message is too long for the wire -/
  | noWireForm
  deriving DecidableEq, Repr

namespace Transaction

/-- A message that nobody signed yet: an empty signature in each place that needs one. -/
def unsigned (message : Message) : Transaction where
  signatures := List.replicate message.header.requiredSignatures.toNat (ByteVec.zero 64)
  message

/-- Puts a block hash in place. Signatures that were made for another block hash are dropped. -/
def withBlockhash (t : Transaction) (blockhash : Hash) : Transaction :=
  if blockhash = t.message.blockhash then t
  else {
    signatures := t.signatures.map fun _ => ByteVec.zero 64
    message := { t.message with blockhash } }

/-- The place for the signature of an address. -/
def placeOf (t : Transaction) (address : Address) : Except SignerError Nat :=
  let required := t.message.header.requiredSignatures.toNat
  if t.message.keys.length < required then .error (.other "transaction error")
  else match (t.message.keys.take required).idxOf? address with
    | some place => .ok place
    | none => .error (.other "keypair-pubkey mismatch")

/-- Whether no signature is empty. -/
def isSigned (t : Transaction) : Bool := t.signatures.all (· != ByteVec.zero 64)

/-- The transaction signed by one signer for a block hash. The outcome has no empty signature. -/
def signFor (t : Transaction) (signer : Signer) (blockhash : Hash) :
    Except SignFault Transaction :=
  match t.placeOf signer.address with
  | .error e => .error (.signer e)
  | .ok place =>
    let t := t.withBlockhash blockhash
    match t.message.encode? with
    | none => .error .noWireForm
    | some bytes => match signer.sign bytes with
      | .error e => .error (.signer e)
      | .ok signature =>
        let t := { t with signatures := t.signatures.set place signature }
        if t.isSigned then .ok t else .error (.signer .notEnoughSigners)

/-- The message signed by its payer alone. A transaction with an empty signature is never
produced. -/
def sign (message : Message) (signer : Signer) : Except SignFault Transaction :=
  match message.encode? with
  | none => .error .noWireForm
  | some bytes => match signer.sign bytes with
    | .error e => .error (.signer e)
    | .ok signature =>
      if signature = ByteVec.zero 64 then .error (.signer .notEnoughSigners)
      else .ok { signatures := [signature], message }

/-- Whether every signature fits the message under the key in its position. -/
def verify (t : Transaction) : Bool :=
  match t.message.encode? with
  | none => false
  | some bytes =>
    t.signatures.length == t.message.header.requiredSignatures.toNat &&
      (t.message.keys.zip t.signatures).all fun (key, signature) =>
        Ed25519.verify key bytes signature

end Transaction

end TokenEscrow

import TokenEscrow.Curve.Point
import TokenEscrow.Hash.Sha512

/-!
# Ed25519 signatures

Signing with a 32-byte seed, after RFC 8032, and the strict check of a
signature: the scalar is reduced, neither point has small order, and the
equation holds without clearing the cofactor.
-/

namespace TokenEscrow

namespace Ed25519

/-- The order of the generator. -/
def order : Nat := Nat.pow 2 252 + 27742317777372353535851937790883648493

/-- A secret seed expanded: the scalar, and the bytes that feed the nonce. -/
def expand (seed : ByteVec 32) : Nat × Bytes :=
  let digest := Sha512.digest seed.bytes
  let low := LittleEndian.decode (digest.take 32)
  -- The low three bits and the top bit are cleared, the second highest is set.
  let highest := Nat.pow 2 254
  let scalar := low / 8 * 8 % highest + highest
  (scalar, digest.drop 32)

/-- The address that belongs to a seed. -/
def publicKey (seed : ByteVec 32) : Address :=
  ((Point.generator.smul (expand seed).1)).compress

/-- The number that a SHA-512 digest stands for, modulo the order. -/
def scalarOf (message : Bytes) : Nat := LittleEndian.decode (Sha512.digest message) % order

/-- The signature of a message. -/
def sign (seed : ByteVec 32) (message : Bytes) : Signature :=
  let (secret, nonceKey) := expand seed
  let key := (Point.generator.smul secret).compress
  let nonce := scalarOf (nonceKey ++ message)
  let commitment := (Point.generator.smul nonce).compress
  let challenge := scalarOf (commitment.bytes ++ key.bytes ++ message)
  let response := ByteVec.ofNatLE 32 ((nonce + challenge * secret) % order)
  ⟨commitment.bytes ++ response.bytes, by
    simp [commitment.length_bytes, response.length_bytes]⟩

/-- Whether a signature fits a message under an address. -/
def verify (key : Address) (message : Bytes) (signature : Signature) : Bool :=
  let commitment := ByteVec.ofBytes? 32 (signature.bytes.take 32)
  let response := LittleEndian.decode (signature.bytes.drop 32)
  match commitment, commitment.bind Point.decompress?, Point.decompress? key with
  | some r, some rPoint, some keyPoint =>
    let challenge := scalarOf (r.bytes ++ key.bytes ++ message)
    decide (response < order) && !rPoint.isSmallOrder && !keyPoint.isSmallOrder
      && Point.same (Point.generator.smul response) (rPoint.add (keyPoint.smul challenge))
  | _, _, _ => false

end Ed25519

end TokenEscrow

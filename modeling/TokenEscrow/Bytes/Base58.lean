import TokenEscrow.Bytes.Fixed

/-!
# Base58 text

A byte string is read as one big-endian number and written with the 58 letters
and digits that are hard to confuse. Leading zero bytes carry no value, so each
is written as a leading `1`.

* `Base58.encode` / `Base58.decode?` — arbitrary byte strings;
* `Base58.read` — text for a byte string of known length, with the two ways in
  which it can fail (`TextError`).
-/

namespace TokenEscrow

/-! ## Numbers in a base -/

/-- The digits of `value`, most significant first, in front of `digits`. Zero has no digits. -/
def digitsOnto (base value : Nat) (digits : List Nat) : List Nat :=
  if _h : value = 0 ∨ base < 2 then digits
  else digitsOnto base (value / base) (value % base :: digits)
termination_by value
decreasing_by exact Nat.div_lt_self (by omega) (by omega)

/-- The digits of `value`, most significant first. Zero has no digits. -/
def digitsOf (base value : Nat) : List Nat := digitsOnto base value []

/-- The number with these digits, most significant first. -/
def ofDigits (base : Nat) (digits : List Nat) : Nat :=
  digits.foldl (fun value digit => value * base + digit) 0

namespace Base58

/-! ## Alphabet -/

/-- The 58 digits in order of their value: no zero, no capital I or O, no small l. -/
def alphabet : List Char :=
  "123456789ABCDEFGHJKLMNPQRSTUVWXYZabcdefghijkmnopqrstuvwxyz".toList

/-- The digit that stands for a value below 58. -/
def digit (value : Nat) : Char := alphabet.getD value '1'

/-- The value of a digit. -/
def value? (c : Char) : Option Nat := alphabet.idxOf? c

/-! ## Byte strings -/

/-- The text of a byte string. -/
def encode (bs : Bytes) : String :=
  let zeros := bs.takeWhile (· == 0)
  let digits := digitsOf 58 (ofDigits 256 (bs.map UInt8.toNat))
  String.ofList (zeros.map (fun _ => '1') ++ digits.map digit)

/-- The byte string of a text; `none` when a character is no digit. -/
def decode? (text : String) : Option Bytes := do
  let values ← text.toList.mapM value?
  let zeros := values.takeWhile (· == 0)
  let digits := digitsOf 256 (ofDigits 58 values)
  some (zeros.map (fun _ => 0) ++ digits.map UInt8.ofNat)

/-! ## Texts of a known length -/

/-- How a text fails to denote a byte string of the length wanted. -/
inductive TextError
  /-- the text is too long, or denotes another number of bytes -/
  | wrongSize
  /-- some character is no digit -/
  | invalid
  deriving DecidableEq, Repr

/-- Reads a byte string of length `n` from a text of at most `limit` UTF-8 bytes. -/
def read (n limit : Nat) (text : String) : Except TextError (ByteVec n) :=
  if limit < text.utf8ByteSize then .error .wrongSize
  else match decode? text with
    | none => .error .invalid
    | some bs => match ByteVec.ofBytes? n bs with
      | none => .error .wrongSize
      | some v => .ok v

end Base58

/-- The base58 text of a byte string of fixed length. -/
def ByteVec.toText {n : Nat} (v : ByteVec n) : String := Base58.encode v.bytes

/-! ## Addresses, hashes and signatures as text -/

/-- Reads an address. Thirty-two bytes never need more than 44 digits. -/
def Address.read (text : String) : Except Base58.TextError Address := Base58.read 32 44 text

/-- Reads a block hash. -/
def Hash.read (text : String) : Except Base58.TextError Hash := Base58.read 32 44 text

/-- Reads a signature. Sixty-four bytes never need more than 88 digits. -/
def Signature.read (text : String) : Except Base58.TextError Signature := Base58.read 64 88 text

/-- The wording for addresses. -/
def Address.errorMessage : Base58.TextError → String
  | .wrongSize => "String is the wrong size"
  | .invalid => "Invalid Base58 string"

/-- The wording for signatures. -/
def Signature.errorMessage : Base58.TextError → String
  | .wrongSize => "string decoded to wrong size for signature"
  | .invalid => "failed to decode string to signature"

end TokenEscrow

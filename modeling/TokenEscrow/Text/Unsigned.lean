/-!
# Unsigned 64-bit numbers as decimal text

One optional `+`, then at least one ASCII digit. Texts are read from the left,
and the first fault decides: a character that is no digit, or a value that no
longer fits.
-/

namespace TokenEscrow

namespace Unsigned

/-- Why a text denotes no unsigned 64-bit number. -/
inductive TextError
  /-- there is no text -/
  | empty
  /-- something other than a digit -/
  | invalidDigit
  /-- the value does not fit in 64 bits -/
  | overflow
  deriving DecidableEq, Repr

/-- The wording of the error. -/
def TextError.message : TextError → String
  | .empty => "cannot parse integer from empty string"
  | .invalidDigit => "invalid digit found in string"
  | .overflow => "number too large to fit in target type"

/-- Reads the digits that follow a value read so far. -/
def readDigits (value : Nat) : List Char → Except TextError Nat
  | [] => .ok value
  | c :: rest =>
    if c.isDigit then
      let next := value * 10 + (c.toNat - '0'.toNat)
      if next < UInt64.size then readDigits next rest else .error .overflow
    else .error .invalidDigit

/-- Reads a number. A sign alone is no number. -/
def read (text : String) : Except TextError UInt64 :=
  match text.toList with
  | [] => .error .empty
  | ['+'] => .error .invalidDigit
  | '+' :: rest => (readDigits 0 rest).map UInt64.ofNat
  | chars => (readDigits 0 chars).map UInt64.ofNat

end Unsigned

end TokenEscrow

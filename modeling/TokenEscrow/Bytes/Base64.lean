import TokenEscrow.Bytes.Basic

/-!
# Base64 text

Three bytes become four digits of six bits. The last group is padded with `=`
to four characters. Decoding is strict: padding has to be there, and the bits
that padding leaves over have to be zero, so each byte string has one text.
-/

namespace TokenEscrow

namespace Base64

/-- The 64 digits in order of their value. -/
def alphabet : List Char :=
  "ABCDEFGHIJKLMNOPQRSTUVWXYZabcdefghijklmnopqrstuvwxyz0123456789+/".toList

/-- The digit that stands for a value below 64. -/
def digit (value : Nat) : Char := alphabet.getD value 'A'

/-- The value of a digit. -/
def value? (c : Char) : Option Nat := alphabet.idxOf? c

/-- The digits of a byte string, padded. -/
def encodeChars : Bytes → List Char
  | [] => []
  | [a] =>
    let n := a.toNat * 16
    [digit (n / 64), digit (n % 64), '=', '=']
  | [a, b] =>
    let n := (a.toNat * 256 + b.toNat) * 4
    [digit (n / 4096), digit (n / 64 % 64), digit (n % 64), '=']
  | a :: b :: c :: rest =>
    let n := (a.toNat * 256 + b.toNat) * 256 + c.toNat
    digit (n / 262144) :: digit (n / 4096 % 64) :: digit (n / 64 % 64) :: digit (n % 64)
      :: encodeChars rest

/-- The text of a byte string. -/
def encode (bs : Bytes) : String := String.ofList (encodeChars bs)

/-- The bytes of a list of digits; `none` when it is not what `encodeChars` writes. -/
def decodeChars? : List Char → Option Bytes
  | [] => some []
  | [a, b, '=', '='] => do
    let n := (← value? a) * 64 + (← value? b)
    if n % 16 = 0 then some [UInt8.ofNat (n / 16)] else none
  | [a, b, c, '='] => do
    let n := ((← value? a) * 64 + (← value? b)) * 64 + (← value? c)
    if n % 4 = 0 then some [UInt8.ofNat (n / 1024), UInt8.ofNat (n / 4)] else none
  | a :: b :: c :: d :: rest => do
    let n := (((← value? a) * 64 + (← value? b)) * 64 + (← value? c)) * 64 + (← value? d)
    let bs ← decodeChars? rest
    some (UInt8.ofNat (n / 65536) :: UInt8.ofNat (n / 256) :: UInt8.ofNat n :: bs)
  | _ => none

/-- The byte string of a text; `none` when the text is not canonical. -/
def decode? (text : String) : Option Bytes := decodeChars? text.toList

end Base64

end TokenEscrow

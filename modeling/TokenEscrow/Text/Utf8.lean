import TokenEscrow.Bytes.Basic

/-!
# UTF-8

Text as bytes. Decoding accepts exactly the well-formed byte strings, and says
of any other where it stops being text (`Utf8.Fault`): the number of bytes that
are still text, and how many bytes after them form no character. When the input
ends inside a character that could still have been completed there is no such
number.
-/

namespace TokenEscrow

namespace Utf8

/-- Where a byte string stops being text. -/
structure Fault where
  /-- bytes before the fault, all of them text -/
  validUpTo : Nat
  /-- length of the bad sequence; `none` when the input ends inside a character -/
  length? : Option Nat
  deriving DecidableEq, Repr

/-- The wording of a fault. -/
def Fault.message (f : Fault) : String :=
  match f.length? with
  | some n => s!"invalid utf-8 sequence of {n} bytes from index {f.validUpTo}"
  | none => s!"incomplete utf-8 byte sequence from index {f.validUpTo}"

/-- A continuation byte. -/
def isContinuation (b : UInt8) : Bool := 0x80 ≤ b && b ≤ 0xBF

/-- Which second bytes may follow the first byte of a character of three or four bytes:
neither overlong forms nor surrogates nor values past the last character. -/
def isSecond (first second : UInt8) : Bool :=
  if first = 0xE0 then 0xA0 ≤ second && second ≤ 0xBF
  else if first = 0xED then 0x80 ≤ second && second ≤ 0x9F
  else if first = 0xF0 then 0x90 ≤ second && second ≤ 0xBF
  else if first = 0xF4 then 0x80 ≤ second && second ≤ 0x8F
  else isContinuation second

/-- Number of bytes of the character that starts with this byte; `0` when none does. -/
def width (first : UInt8) : Nat :=
  if first < 0x80 then 1
  else if 0xC2 ≤ first && first ≤ 0xDF then 2
  else if 0xE0 ≤ first && first ≤ 0xEF then 3
  else if 0xF0 ≤ first && first ≤ 0xF4 then 4
  else 0

/-- How many bytes of a character are there and fit, given how many it needs after the first:
`.ok` when all do, `.error none` when the input ends first, `.error (some n)` when the byte after
`n` bytes does not fit. -/
def tail (first : UInt8) : Nat → Nat → Bytes → Except (Option Nat) Unit
  | _, 0, _ => .ok ()
  | _, _ + 1, [] => .error none
  | seen, missing + 1, b :: rest =>
    if (if seen = 1 then isSecond first b else isContinuation b) then
      tail first (seen + 1) missing rest
    else .error (some seen)

/-- The first fault in a byte string that starts `pos` bytes into the input. -/
def firstFault (pos : Nat) : Bytes → Option Fault
  | [] => none
  | b :: rest =>
    match width b with
    | 0 => some ⟨pos, some 1⟩
    | n + 1 =>
      match tail b 1 n rest with
      | .error length? => some ⟨pos, length?⟩
      | .ok () => firstFault (pos + (n + 1)) (rest.drop n)
termination_by bs => bs.length
decreasing_by simp only [List.length_drop, List.length_cons]; omega

/-- The bytes of a text. -/
def encode (text : String) : Bytes := text.toUTF8.data.toList

/-- The text of a byte string, or where it fails to be one. -/
def decode (bs : Bytes) : Except Fault String :=
  match String.fromUTF8? ⟨bs.toArray⟩ with
  | some text => .ok text
  | none => .error ((firstFault 0 bs).getD ⟨0, none⟩)

/-- Every text is read back from its bytes. -/
theorem decode_encode (text : String) : decode (encode text) = .ok text := by
  have h : String.fromUTF8? ⟨text.toUTF8.data.toList.toArray⟩ = some text := by
    rw [Array.toArray_toList]
    unfold String.fromUTF8?
    rw [String.toUTF8_eq_toByteArray, dif_pos text.isValidUTF8]
    rfl
  simp only [decode, encode, h]

/-- Only the bytes of a text are read as that text. -/
theorem eq_encode_of_decode {bs : Bytes} {text : String} (h : decode bs = .ok text) :
    bs = encode text := by
  unfold decode at h
  split at h
  · next found hf =>
    obtain rfl := Except.ok.inj h
    unfold String.fromUTF8? at hf
    split at hf
    · obtain rfl := Option.some.inj hf
      rfl
    · contradiction
  · contradiction

end Utf8

end TokenEscrow

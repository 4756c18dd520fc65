import TokenEscrow.Json.Mismatch

/-!
# Faults in written documents

Where and why a text stops being a written document. A fault keeps the text that
was not read yet (`Fault.rest`) and how many bytes of that were looked at, so
that the place can be told as a line and a column; columns count bytes.
-/

namespace TokenEscrow

namespace Json

/-- What is wrong with a written document. -/
inductive FaultKind
  /-- the text ends where a value has to stand -/
  | endInValue
  | endInList
  | endInObject
  | endInString
  | noColon
  | noItemEnd
  | noFieldEnd
  /-- a word that is neither `null` nor `true` nor `false` -/
  | unknownWord
  | noValue
  | badEscape
  | badNumber
  /-- no fraction of double precision is that large -/
  | numberTooLarge
  | controlCharacter
  | noFieldName
  /-- half of a pair of escapes for one character -/
  | loneSurrogate
  /-- the second half of such a pair is missing -/
  | noSecondEscape
  | commaBeforeEnd
  | trailingText
  /-- the document is well written up to here, and holds something unwanted -/
  | mismatch (m : Mismatch)
  deriving DecidableEq, Repr

/-- The wording of a fault. -/
def FaultKind.message : FaultKind → String
  | endInValue => "EOF while parsing a value"
  | endInList => "EOF while parsing a list"
  | endInObject => "EOF while parsing an object"
  | endInString => "EOF while parsing a string"
  | noColon => "expected `:`"
  | noItemEnd => "expected `,` or `]`"
  | noFieldEnd => "expected `,` or `\x7d`"
  | unknownWord => "expected ident"
  | noValue => "expected value"
  | badEscape => "invalid escape"
  | badNumber => "invalid number"
  | numberTooLarge => "number out of range"
  | controlCharacter => "control character (\\u0000-\\u001F) found while parsing a string"
  | noFieldName => "key must be a string"
  | loneSurrogate => "lone leading surrogate in hex escape"
  | noSecondEscape => "unexpected end of hex escape"
  | commaBeforeEnd => "trailing comma"
  | trailingText => "trailing characters"
  | mismatch m => m.message

/-- A fault and where it was found. -/
structure Fault where
  kind : FaultKind
  /-- the text that was not read -/
  rest : List Char
  /-- how many bytes of it were looked at -/
  seen : Nat
  deriving DecidableEq, Repr

/-! ## Places -/

/-- A place in a text. -/
structure Position where
  /-- number of the line, from one -/
  line : Nat
  /-- bytes before the place on its line -/
  column : Nat
  deriving DecidableEq, Repr

/-- The place `bytes` bytes further on in a text. -/
def Position.advance (p : Position) : Nat → List Char → Position
  | 0, _ => p
  | _, [] => p
  | bytes + 1, c :: rest =>
    let step := min (bytes + 1) c.utf8Size
    let next := if c = '\n' then ⟨p.line + 1, 0⟩ else ⟨p.line, p.column + step⟩
    Position.advance next (bytes + 1 - step) rest
termination_by _ text => text.length

/-- Number of bytes of a text. -/
def byteCount (text : List Char) : Nat := text.foldl (fun n c => n + c.utf8Size) 0

/-- Where a fault is in the text it was found in. -/
def Fault.position (f : Fault) (text : List Char) : Position :=
  Position.advance ⟨1, 0⟩ (byteCount text - byteCount f.rest + f.seen) text

/-- The wording of a fault with its place. -/
def Fault.message (f : Fault) (text : List Char) : String :=
  let p := f.position text
  s!"{f.kind.message} at line {p.line} column {p.column}"

end Json

end TokenEscrow

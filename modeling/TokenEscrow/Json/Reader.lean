import TokenEscrow.Json.Fault

/-!
# Reading the parts of written documents

Readers for what documents are written with: blanks, words, numbers, texts, and
the commas between the items of a list. A reader takes the text in front of it
and returns what it read with the rest.

Numbers follow double precision arithmetic once they are not whole or do not fit
in 64 bits: as many digits as fit in 64 bits, times or divided by a power of ten.
-/

namespace TokenEscrow

namespace Json

namespace Reader

/-- What a reader returns. -/
abbrev Result (α : Type) := Except Fault (α × List Char)

/-- A fault at the next character, which was looked at. -/
def refuse {α : Type} (kind : FaultKind) (rest : List Char) : Except Fault α :=
  .error ⟨kind, rest, 1⟩

/-- A fault in front of the next character. -/
def refuseBefore {α : Type} (kind : FaultKind) (rest : List Char) : Except Fault α :=
  .error ⟨kind, rest, 0⟩

/-! ## Blanks and words -/

/-- The characters that may stand between the parts of a document. -/
def isBlank (c : Char) : Bool := c == ' ' || c == '\n' || c == '\t' || c == '\r'

/-- The text after its leading blanks. -/
def skipBlanks (text : List Char) : List Char := text.dropWhile isBlank

/-- The text after the characters of a word. -/
def word : List Char → List Char → Except Fault (List Char)
  | [], text => .ok text
  | _ :: _, [] => refuse .endInValue []
  | expected :: more, c :: rest =>
    if c = expected then word more rest else refuse .unknownWord (c :: rest)

/-! ## Numbers -/

/-- The value of a decimal digit. -/
def digitValue (c : Char) : Nat := c.toNat - '0'.toNat

/-- Appends digits to a number as long as it stays below a bound. Also returns how many it took. -/
def absorb (bound value : Nat) : List Char → Nat × Nat
  | [] => (value, 0)
  | c :: rest =>
    let next := value * 10 + digitValue c
    if next < bound then
      let (value, taken) := absorb bound next rest
      (value, taken + 1)
    else (value, 0)

/-- A power of ten up to `10 ^ 308`. -/
def powerOfTen (n : Nat) : Float := Float.ofScientific 1 false n

/-- A fraction times a power of ten; `none` when the result is too large. -/
def scale? (f : Float) (exponent : Int) : Option Float :=
  if 308 < exponent then (if f == 0 then some f else none)
  else if 0 ≤ exponent then
    let scaled := f * powerOfTen exponent.toNat
    if scaled.isInf then none else some scaled
  else if -308 ≤ exponent then some (f / powerOfTen (-exponent).toNat)
  else if f == 0 then some f
  else scale? (f / powerOfTen 308) (exponent + 308)
termination_by (-exponent).toNat

/-- The number with these digits times a power of ten, read up to `rest`. -/
def fraction (negative : Bool) (digits : Nat) (exponent : Int) (rest : List Char) :
    Result Number :=
  match scale? (UInt64.ofNat digits).toFloat exponent with
  | none => refuse .numberTooLarge rest
  | some f => .ok (.fraction (if negative then -f else f).toBits, rest)

/-- The number when an exponent follows, after its `e`. -/
def withExponent (negative : Bool) (digits : Nat) (start : Int) (text : List Char) :
    Result Number :=
  let (down, text) : Bool × List Char := match text with
    | '+' :: rest => (false, rest)
    | '-' :: rest => (true, rest)
    | _ => (false, text)
  match text with
  | [] => refuse .endInValue []
  | c :: _ =>
    if !c.isDigit then refuse .badNumber text
    else
      let shown := text.takeWhile Char.isDigit
      let rest := text.dropWhile Char.isDigit
      let (exponent, taken) := absorb (Nat.pow 2 31) 0 shown
      if taken < shown.length then
        if digits ≠ 0 ∧ !down then refuseBefore .numberTooLarge (text.drop (taken + 1))
        else .ok (.fraction (if negative then -0.0 else 0.0 : Float).toBits, rest)
      else fraction negative digits (if down then start - exponent else start + exponent) rest

/-- The number when a decimal point follows, after the point. -/
def withPlaces (negative : Bool) (digits : Nat) (start : Int) (text : List Char) :
    Result Number :=
  let shown := text.takeWhile Char.isDigit
  let rest := text.dropWhile Char.isDigit
  if shown.isEmpty then refuse (if rest.isEmpty then .endInValue else .badNumber) rest
  else
    let (digits, taken) := absorb UInt64.size digits shown
    match rest with
    | 'e' :: rest | 'E' :: rest => withExponent negative digits (start - taken) rest
    | _ => fraction negative digits (start - taken) rest

/-- A whole number that fits in 64 bits. Zero has no sign, so a negative zero is a fraction. -/
def whole (negative : Bool) (digits : Nat) : Number :=
  if !negative then .natural (UInt64.ofNat digits)
  else if 0 < digits ∧ digits ≤ Nat.pow 2 63 then .negative (Int64.ofInt (-digits))
  else .fraction (-(UInt64.ofNat digits).toFloat).toBits

/-- A number without its sign. -/
def magnitude (negative : Bool) : List Char → Result Number
  | [] => refuse .endInValue []
  | c :: text =>
    if !c.isDigit then refuse .badNumber (c :: text)
    else
      let shown := (c :: text).takeWhile Char.isDigit
      let rest := (c :: text).dropWhile Char.isDigit
      if c = '0' ∧ 1 < shown.length then refuse .badNumber text
      else
        let (digits, taken) := absorb UInt64.size 0 shown
        let left := shown.length - taken
        match rest with
        | '.' :: rest => withPlaces negative digits left rest
        | 'e' :: rest | 'E' :: rest => withExponent negative digits left rest
        | _ =>
          if left = 0 then .ok (whole negative digits, rest)
          else fraction negative digits left rest

/-- A number. -/
def number : List Char → Result Number
  | '-' :: rest => magnitude true rest
  | text => magnitude false text

/-! ## Texts -/

/-- The value of a hexadecimal digit. -/
def hexValue? (c : Char) : Option Nat :=
  if c.isDigit then some (c.toNat - '0'.toNat)
  else if 'a' ≤ c ∧ c ≤ 'f' then some (c.toNat - 'a'.toNat + 10)
  else if 'A' ≤ c ∧ c ≤ 'F' then some (c.toNat - 'A'.toNat + 10)
  else none

/-- The value of four hexadecimal digits. -/
def hexValue4? (a b c d : Char) : Option Nat := do
  return (((← hexValue? a) * 16 + (← hexValue? b)) * 16 + (← hexValue? c)) * 16 + (← hexValue? d)

/-- Four bytes were wanted that are hexadecimal digits. -/
def refuseHex {α : Type} (text : List Char) : Except Fault α :=
  if byteCount text < 4 then refuse .endInString [] else .error ⟨.badEscape, text, 4⟩

/-- The value of four hexadecimal digits in front. -/
def hex4 : List Char → Result Nat
  | a :: b :: c :: d :: rest =>
    match hexValue4? a b c d with
    | some n => .ok (n, rest)
    | none => refuseHex (a :: b :: c :: d :: rest)
  | text => refuseHex text

/-- The character of an escape whose first half had the value `high`. -/
def secondHalf (high : Nat) (text : List Char) : Result Char :=
  match text with
  | [] => refuse .endInString []
  | '\\' :: [] => refuse .endInString []
  | '\\' :: 'u' :: rest =>
    match hex4 rest with
    | .error fault => .error fault
    | .ok (low, rest) =>
      if 0xDC00 ≤ low ∧ low ≤ 0xDFFF then
        .ok (Char.ofNat ((high - 0xD800) * 0x400 + (low - 0xDC00) + 0x10000), rest)
      else refuseBefore .loneSurrogate rest
  | '\\' :: rest => refuse .noSecondEscape rest
  | rest => refuse .noSecondEscape rest

/-- The character of an escape by number, after its `\u`. -/
def numericEscape (text : List Char) : Result Char :=
  match hex4 text with
  | .error fault => .error fault
  | .ok (n, rest) =>
    if 0xDC00 ≤ n ∧ n ≤ 0xDFFF then refuseBefore .loneSurrogate rest
    else if 0xD800 ≤ n ∧ n ≤ 0xDBFF then secondHalf n rest
    else .ok (Char.ofNat n, rest)

/-- The character of an escape, after its backslash. -/
def escape : List Char → Result Char
  | [] => refuse .endInString []
  | '"' :: rest => .ok ('"', rest)
  | '\\' :: rest => .ok ('\\', rest)
  | '/' :: rest => .ok ('/', rest)
  | 'b' :: rest => .ok ('\x08', rest)
  | 'f' :: rest => .ok ('\x0c', rest)
  | 'n' :: rest => .ok ('\n', rest)
  | 'r' :: rest => .ok ('\r', rest)
  | 't' :: rest => .ok ('\t', rest)
  | 'u' :: rest => numericEscape rest
  | c :: rest => refuse .badEscape (c :: rest)

theorem length_of_hex4 {text rest : List Char} {n : Nat} (h : hex4 text = .ok (n, rest)) :
    rest.length < text.length := by
  unfold hex4 at h
  split at h
  · split at h
    · obtain ⟨-, rfl⟩ := Prod.mk.inj (Except.ok.inj h)
      simp only [List.length_cons]
      omega
    · unfold refuseHex at h
      split at h <;> simp [refuse] at h
  · unfold refuseHex at h
    split at h <;> simp [refuse] at h

theorem length_of_secondHalf {text rest : List Char} {high : Nat} {c : Char}
    (h : secondHalf high text = .ok (c, rest)) : rest.length < text.length := by
  unfold secondHalf at h
  split at h
  · simp [refuse] at h
  · simp [refuse] at h
  · next more =>
    split at h
    · simp at h
    · next low rest' hr =>
      have hlt := length_of_hex4 hr
      split at h
      · obtain ⟨-, rfl⟩ := Prod.mk.inj (Except.ok.inj h)
        simp only [List.length_cons]
        omega
      · simp [refuseBefore] at h
  · simp [refuse] at h
  · simp [refuse] at h

theorem length_of_numericEscape {text rest : List Char} {c : Char}
    (h : numericEscape text = .ok (c, rest)) : rest.length < text.length := by
  unfold numericEscape at h
  split at h
  · simp at h
  · next n rest' hr =>
    have hlt := length_of_hex4 hr
    split at h
    · simp [refuseBefore] at h
    · split at h
      · have := length_of_secondHalf h
        omega
      · obtain ⟨-, rfl⟩ := Prod.mk.inj (Except.ok.inj h)
        exact hlt

/-- An escape is at least one character long. -/
theorem length_of_escape {text rest : List Char} {c : Char}
    (h : escape text = .ok (c, rest)) : rest.length < text.length := by
  unfold escape at h
  split at h
  case h_10 more => exact Nat.lt_succ_of_lt (length_of_numericEscape h)
  all_goals simp [refuse] at h
  all_goals simp [← h.2]

/-- A text up to its closing quote, in front of which `done` was read, last character first. -/
def quotedOnto (done : List Char) : List Char → Result String
  | [] => refuse .endInString []
  | c :: rest =>
    if c = '"' then .ok (String.ofList done.reverse, rest)
    else if c = '\\' then
      match _h : escape rest with
      | .ok (e, rest') => quotedOnto (e :: done) rest'
      | .error fault => .error fault
    else if c.toNat < 0x20 then refuse .controlCharacter (c :: rest)
    else quotedOnto (c :: done) rest
termination_by text => text.length
decreasing_by
  · have := length_of_escape _h
    simp only [List.length_cons]
    omega
  · simp

/-- A text up to its closing quote. -/
def quoted (text : List Char) : Result String := quotedOnto [] text

/-! ## Between items -/

/-- Whether another item of a list follows. If so, the rest starts with it, otherwise the rest is
what follows the list. -/
def nextItem (first : Bool) (text : List Char) : Result Bool :=
  match skipBlanks text with
  | [] => refuse .endInList []
  | ']' :: rest => .ok (false, rest)
  | c :: rest =>
    if first then .ok (true, c :: rest)
    else if c = ',' then
      match skipBlanks rest with
      | [] => refuse .endInValue []
      | ']' :: rest => refuse .commaBeforeEnd (']' :: rest)
      | rest => .ok (true, rest)
    else refuse .noItemEnd (c :: rest)

/-- The name of the next field of an object, if another field follows. If so, the rest starts with
its value, otherwise the rest is what follows the object. -/
def nextField (first : Bool) (text : List Char) : Result (Option String) :=
  let named (text : List Char) : Result (Option String) :=
    match quoted text with
    | .error fault => .error fault
    | .ok (name, rest) =>
      match skipBlanks rest with
      | [] => refuse .endInObject []
      | ':' :: rest => .ok (some name, rest)
      | rest => refuse .noColon rest
  match skipBlanks text with
  | [] => refuse .endInObject []
  | '\x7d' :: rest => .ok (none, rest)
  | c :: rest =>
    if first then (if c = '"' then named rest else refuse .noFieldName (c :: rest))
    else if c = ',' then
      match skipBlanks rest with
      | [] => refuse .endInValue []
      | '"' :: rest => named rest
      | '\x7d' :: rest => refuse .commaBeforeEnd ('\x7d' :: rest)
      | rest => refuse .noFieldName rest
    else refuse .noFieldEnd (c :: rest)

/-- Accepts blanks up to the end of the text. -/
def finish (text : List Char) : Except Fault Unit :=
  match skipBlanks text with
  | [] => .ok ()
  | rest => refuse .trailingText rest

end Reader

end Json

end TokenEscrow

import TokenEscrow.Text.Quoted

/-!
# Versions of node software

A version is three numbers, then perhaps a pre-release label behind a hyphen and
build data behind a plus sign. Reading goes from left to right, and the first
fault decides (`VersionError`).

A pre-release comes before the version that it leads up to.
-/

namespace TokenEscrow

/-- A version. -/
structure Version where
  major : Nat
  minor : Nat
  patch : Nat
  /-- pre-release label; empty when there is none -/
  pre : String
  /-- build data; empty when there is none -/
  build : String
  deriving DecidableEq, Repr

/-- The part of a version that a fault is in. -/
inductive VersionPart
  | major
  | minor
  | patch
  | pre
  | build
  deriving DecidableEq, Repr

/-- Why a text is no version. -/
inductive VersionError
  | empty
  | unexpectedEnd (part : VersionPart)
  | unexpectedChar (part : VersionPart) (c : Char)
  | unexpectedCharAfter (part : VersionPart) (c : Char)
  | leadingZero (part : VersionPart)
  | tooLarge (part : VersionPart)
  | emptySegment (part : VersionPart)
  deriving DecidableEq, Repr

/-- The name of a part. -/
def VersionPart.name : VersionPart → String
  | major => "major version number"
  | minor => "minor version number"
  | patch => "patch version number"
  | pre => "pre-release identifier"
  | build => "build metadata"

/-- The wording of the error. -/
def VersionError.message : VersionError → String
  | empty => "empty string, expected a semver version"
  | unexpectedEnd part => s!"unexpected end of input while parsing {part.name}"
  | unexpectedChar part c =>
    s!"unexpected character {Quoted.encodeSingle c} while parsing {part.name}"
  | unexpectedCharAfter part c =>
    s!"unexpected character {Quoted.encodeSingle c} after {part.name}"
  | leadingZero part => s!"invalid leading zero in {part.name}"
  | tooLarge part => s!"value of {part.name} exceeds u64::MAX"
  | emptySegment part => s!"empty identifier segment in {part.name}"

namespace Version

/-! ## Reading -/

/-- The number in front, after digits of the given value; `any` says whether there were some. -/
def readNumber (part : VersionPart) (any : Bool) (value : Nat) :
    List Char → Except VersionError (Nat × List Char)
  | [] => if any then .ok (value, []) else .error (.unexpectedEnd part)
  | c :: rest =>
    if c.isDigit then
      if any ∧ value = 0 then .error (.leadingZero part)
      else
        let next := value * 10 + (c.toNat - '0'.toNat)
        if next < UInt64.size then readNumber part true next rest else .error (.tooLarge part)
    else if any then .ok (value, c :: rest)
    else .error (.unexpectedChar part c)

/-- The text after a point. -/
def readPoint (part : VersionPart) : List Char → Except VersionError (List Char)
  | '.' :: rest => .ok rest
  | c :: _ => .error (.unexpectedCharAfter part c)
  | [] => .error (.unexpectedEnd part)

/-- Whether a character may stand in a label. -/
def isLabelChar (c : Char) : Bool := c.isAlphanum || c == '-'

/-- Refuses segments that are empty and, before a release, numbers with a leading zero. -/
def checkSegments (part : VersionPart) : List (List Char) → Except VersionError Unit
  | [] => .ok ()
  | segment :: rest =>
    if segment.isEmpty then .error (.emptySegment part)
    else if part = .pre ∧ segment.all Char.isDigit ∧ 1 < segment.length ∧ segment.head? = some '0'
    then .error (.leadingZero part)
    else checkSegments part rest

/-- Cuts characters at points. -/
def segments : List Char → List (List Char)
  | [] => [[]]
  | '.' :: rest => [] :: segments rest
  | c :: rest => match segments rest with
    | [] => [[c]]
    | segment :: more => (c :: segment) :: more

/-- The label in front. -/
def readLabel (part : VersionPart) (text : List Char) :
    Except VersionError (String × List Char) := do
  let label := text.takeWhile fun c => isLabelChar c || c == '.'
  checkSegments part (segments label)
  return (String.ofList label, text.drop label.length)

/-- Reads a version. -/
def read (text : String) : Except VersionError Version := do
  if text.isEmpty then throw .empty
  let (major, rest) ← readNumber .major false 0 text.toList
  let rest ← readPoint .major rest
  let (minor, rest) ← readNumber .minor false 0 rest
  let rest ← readPoint .minor rest
  let (patch, rest) ← readNumber .patch false 0 rest
  let (part, pre, rest) ← match rest with
    | '-' :: rest => do
      let (label, rest) ← readLabel .pre rest
      pure (VersionPart.pre, label, rest)
    | _ => pure (VersionPart.patch, "", rest)
  let (part, build, rest) ← match rest with
    | '+' :: rest => do
      let (label, rest) ← readLabel .build rest
      pure (VersionPart.build, label, rest)
    | _ => pure (part, "", rest)
  match rest with
  | [] => return { major, minor, patch, pre, build }
  | c :: _ => throw (.unexpectedCharAfter part c)

/-! ## Order -/

/-- Whether a version comes before the release with these three numbers. -/
def precedes (v : Version) (major minor patch : Nat) : Bool :=
  if v.major ≠ major then v.major < major
  else if v.minor ≠ minor then v.minor < minor
  else if v.patch ≠ patch then v.patch < patch
  else v.pre ≠ ""

end Version

end TokenEscrow

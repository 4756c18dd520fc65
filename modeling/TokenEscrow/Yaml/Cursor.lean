import TokenEscrow.Yaml.Basic

/-!
# Places in written YAML

Reading goes from left to right and never back, except that blanks may be looked
at and left alone. A `Cursor` is the place reached, with the line and column
that layout depends on and the values that were given names so far. A `Reader`
is a step that moves the cursor, or finds that the text is no YAML.

Lines end with a line feed here: the other ways to end one are replaced before
reading starts.
-/

namespace TokenEscrow

namespace Yaml

/-- A place in the text. -/
structure Cursor where
  /-- the text from here -/
  rest : List Char
  line : Nat := 0
  /-- characters before the place on its line -/
  column : Nat := 0
  /-- named values, the last one first -/
  anchors : List (String × Yaml) := []

/-- A step of reading. -/
abbrev Reader := StateT Cursor Option

/-! ## Characters -/

/-- Characters that separate words on a line. -/
def isBlank (c : Char) : Bool := c == ' ' || c == '\t'

/-- Whether a word cannot go on with this text. -/
def isGap : List Char → Bool
  | [] => true
  | c :: _ => isBlank c || c == '\n'

/-- Characters that structure collections written in brackets. -/
def isFlowMark (c : Char) : Bool :=
  c == ',' || c == '[' || c == ']' || c == '\x7b' || c == '\x7d'

/-- Characters of the names of values. -/
def isNameChar (c : Char) : Bool := c.isAlphanum || c == '_' || c == '-'

/-- Characters that a text may contain at all. -/
def isPermitted (c : Char) : Bool :=
  let n := c.toNat
  n == 0x09 || n == 0x0A || n == 0x0D || (0x20 ≤ n && n ≤ 0x7E) || n == 0x85
    || (0xA0 ≤ n && n ≤ 0xFFFD && n != 0xFEFF) || 0x10000 ≤ n

/-- The text with all lines ended by a line feed. -/
def withLineFeeds : List Char → List Char
  | [] => []
  | '\r' :: '\n' :: rest => '\n' :: withLineFeeds rest
  | c :: rest => (if c == '\r' || c == '\x85' then '\n' else c) :: withLineFeeds rest

/-! ## Moving -/

namespace Cursor

/-- The place after one character. -/
def next (c : Cursor) : Cursor :=
  match c.rest with
  | [] => c
  | '\n' :: rest => { c with rest, line := c.line + 1, column := 0 }
  | _ :: rest => { c with rest, column := c.column + 1 }

/-- The place after some characters of one line. -/
def drop (c : Cursor) (count : Nat) : Cursor :=
  { c with rest := c.rest.drop count, column := c.column + count }

/-- Whether a line here separates documents. -/
def atMarker (c : Cursor) : Bool :=
  c.column == 0 && match c.rest with
    | '-' :: '-' :: '-' :: rest | '.' :: '.' :: '.' :: rest => isGap rest
    | _ => false

/-- Whether the document ends here. -/
def atEnd (c : Cursor) : Bool := c.rest.isEmpty || c.atMarker

/-- Whether a mark that needs a gap behind it stands here. -/
def atMark (c : Cursor) (mark : Char) : Bool :=
  match c.rest with
  | found :: rest => found == mark && isGap rest
  | [] => false

/-- The place after blanks, comments and line ends, where `comment` says whether it begins inside a
comment. Outside of brackets no line may be indented with tabs: such a tab is left where it is. -/
def skipFrom (inFlow fresh comment : Bool) (c : Cursor) : List Char → Cursor
  | [] => { c with rest := [] }
  | '\n' :: rest =>
    skipFrom inFlow (fresh || !inFlow) false { c with line := c.line + 1, column := 0 } rest
  | x :: rest =>
    let skipped := comment || x == ' ' || x == '#' || (x == '\t' && !fresh)
    if skipped then
      skipFrom inFlow fresh (comment || x == '#') { c with column := c.column + 1 } rest
    else { c with rest := x :: rest }

/-- The next place where something is written. Tabs count as blanks only when nothing may begin on
its own (`fresh`) here. -/
def skip (inFlow fresh : Bool) (c : Cursor) : Cursor :=
  c.skipFrom inFlow (fresh && !inFlow) false c.rest

/-- The place after blanks. -/
def skipBlanks (c : Cursor) : Cursor := c.drop (c.rest.takeWhile isBlank).length

end Cursor

namespace Reader

/-- Refuses the text. -/
def fail {α : Type} : Reader α := fun _ => none

/-- Goes on only if something holds. -/
def ensure (condition : Bool) : Reader Unit := if condition then pure () else fail

/-- Moves the cursor. -/
def move (f : Cursor → Cursor) : Reader Unit := modify f

end Reader

end Yaml

end TokenEscrow

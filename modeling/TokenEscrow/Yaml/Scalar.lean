import TokenEscrow.Yaml.Cursor

/-!
# Scalars

The ways to write a text in YAML: as it is (`plain`), in single or double quotes
(`quoted`), and as an indented block that keeps its lines or joins them
(`block`).

A text that goes on over several lines is folded: one line end stands for a
space, and of several the first is dropped (`Gap`).
-/

namespace TokenEscrow

namespace Yaml

/-! ## Folding -/

/-- What was passed since the last character of a text that is no blank. -/
inductive Gap
  /-- blanks of one line, the last one first -/
  | blanks (cs : List Char)
  /-- the ends of some lines; blanks around them do not count -/
  | lineEnds (count : Nat)
  /-- a line end that was escaped, and the ends of some lines after it -/
  | joined (count : Nat)

namespace Gap

/-- Nothing was passed. -/
def empty : Gap := blanks []

/-- What the gap stands for, last character first. -/
def folded : Gap → List Char
  | blanks cs => cs
  | lineEnds 1 => [' ']
  | lineEnds count => List.replicate (count - 1) '\n'
  | joined count => List.replicate count '\n'

/-- The gap after one more character. -/
def pass (c : Char) : Gap → Gap
  | blanks cs => if c == '\n' then lineEnds 1 else blanks (c :: cs)
  | lineEnds count => if c == '\n' then lineEnds (count + 1) else lineEnds count
  | joined count => if c == '\n' then joined (count + 1) else joined count

/-- Whether the gap crosses a line end. -/
def crossesLine : Gap → Bool
  | blanks _ => false
  | _ => true

/-- Whether anything was passed. -/
def isEmpty : Gap → Bool
  | blanks [] => true
  | _ => false

end Gap

/-! ## Plain scalars -/

/-- Whether a plain scalar can start with this text. -/
def startsPlain (inFlow : Bool) : List Char → Bool
  | [] => false
  | '-' :: rest => !isGap rest
  | '?' :: rest | ':' :: rest => !inFlow && !isGap rest
  | c :: _ => !isBlank c && !isFlowMark c && !"\n#&*!|>'\"%@\x60".toList.contains c

/-- A plain scalar, of which `done` was read, last character first, up to `stop`, and `gap` since
then. Outside of brackets it goes on only on lines indented by at least `low` characters. -/
def plainFrom (inFlow : Bool) (low : Nat) (done : List Char) (gap : Gap) (stop here : Cursor) :
    List Char → Option (String × Cursor)
  | [] => some (String.ofList done.reverse, stop)
  | c :: rest =>
    let finished := some (String.ofList done.reverse, stop)
    let here := { here with rest := c :: rest }
    if isBlank c || c == '\n' then
      if c == '\t' && gap.crossesLine && !inFlow && here.column < low then none
      else plainFrom inFlow low done (gap.pass c) stop here.next rest
    else if gap.crossesLine && (here.atMarker || (!inFlow && here.column < low)) then finished
    else if !gap.isEmpty && c == '#' then finished
    else if c == ':' && isGap rest then finished
    else if inFlow && c == ':' && (rest.head?.map isFlowMark).getD false then none
    else if inFlow && isFlowMark c then finished
    else plainFrom inFlow low (c :: (gap.folded ++ done)) .empty here.next here.next rest

/-- A plain scalar. -/
def plain (inFlow : Bool) (low : Nat) : Reader Yaml := fun c =>
  (plainFrom inFlow low [] .empty c c c.rest).map fun (text, stop) => (.scalar text true, stop)

/-! ## Quoted scalars -/

/-- The character that an escape of one letter stands for. -/
def escaped? : Char → Option Char
  | '0' => some '\x00'
  | 'a' => some '\x07'
  | 'b' => some '\x08'
  | 't' | '\t' => some '\t'
  | 'n' => some '\n'
  | 'v' => some '\x0b'
  | 'f' => some '\x0c'
  | 'r' => some '\r'
  | 'e' => some '\x1b'
  | ' ' => some ' '
  | '"' => some '"'
  | '/' => some '/'
  | '\\' => some '\\'
  | 'N' => some '\x85'
  | '_' => some '\xa0'
  | 'L' => some '\u2028'
  | 'P' => some '\u2029'
  | _ => none

/-- How many hexadecimal digits follow the letter of an escape by number. -/
def escapeDigits? : Char → Option Nat
  | 'x' => some 2
  | 'u' => some 4
  | 'U' => some 8
  | _ => none

/-- The value of hexadecimal digits. -/
def hexValue? (digits : List Char) : Option Nat :=
  digits.foldlM (fun n c => do
    let digit ←
      if c.isDigit then some (c.toNat - '0'.toNat)
      else if 'a' ≤ c ∧ c ≤ 'f' then some (c.toNat - 'a'.toNat + 10)
      else if 'A' ≤ c ∧ c ≤ 'F' then some (c.toNat - 'A'.toNat + 10)
      else none
    return n * 16 + digit) 0

/-- The character of an escape in double quotes, after its backslash, and the text behind it. -/
def escape? : List Char → Option (Char × List Char)
  | [] => none
  | c :: rest =>
    match escapeDigits? c with
    | some count => do
      if rest.length < count then none
      let n ← hexValue? (rest.take count)
      if n.isValidChar then some (Char.ofNat n, rest.drop count) else none
    | none => (escaped? c).map fun e => (e, rest)

/-- A quoted scalar up to its closing quote, of which `done` was read, last character first, and
`gap` since then. The fuel is the length of the text. -/
def quotedFrom (double : Bool) (done : List Char) (gap : Gap) :
    Nat → Cursor → Option (String × Cursor)
  | 0, _ => none
  | fuel + 1, here =>
    let add (c : Char) (here : Cursor) :=
      quotedFrom double (c :: (gap.folded ++ done)) .empty fuel here
    if here.atMarker then none
    else match here.rest with
    | [] => none
    | '\'' :: '\'' :: _ =>
      if double then add '\'' here.next else add '\'' here.next.next
    | '\\' :: '\n' :: _ =>
      if double then quotedFrom double (gap.folded ++ done) (.joined 0) fuel here.next.next
      else add '\\' here.next
    | '\\' :: rest =>
      if double then
        match escape? rest with
        | none => none
        | some (c, after) => add c (here.drop (here.rest.length - after.length))
      else add '\\' here.next
    | c :: _ =>
      if c == (if double then '"' else '\'') then
        some (String.ofList (gap.folded ++ done).reverse, here.next)
      else if isBlank c || c == '\n' then quotedFrom double done (gap.pass c) fuel here.next
      else add c here.next

/-- A quoted scalar, its opening quote included. -/
def quoted : Reader Yaml := fun c =>
  (quotedFrom (c.rest.head? == some '"') [] .empty (c.rest.length + 1) c.next).map
    fun (text, stop) => (.scalar text false, stop)

/-! ## Block scalars -/

/-- What becomes of the line ends after a block. -/
inductive Chomp
  /-- one is kept -/
  | clip
  | keep
  | strip
  deriving DecidableEq

/-- The marks in the first line of a block. -/
structure BlockHeader where
  chomp : Chomp := .clip
  /-- the indentation, counted from that of the collection around the block -/
  indent : Option Nat := none

/-- Reads the marks in the first line of a block. -/
def blockHeader? : List Char → BlockHeader → Option BlockHeader
  | [], header => some header
  | '+' :: rest, header =>
    if header.chomp = .clip then blockHeader? rest { header with chomp := .keep } else none
  | '-' :: rest, header =>
    if header.chomp = .clip then blockHeader? rest { header with chomp := .strip } else none
  | c :: rest, header =>
    if isBlank c then
      match rest.dropWhile isBlank with
      | [] => some header
      | '#' :: _ => some header
      | _ => none
    else if '1' ≤ c ∧ c ≤ '9' ∧ header.indent.isNone then
      blockHeader? rest { header with indent := some (c.toNat - '0'.toNat) }
    else none

/-- Number of spaces in front of a line. -/
def indentation (line : List Char) : Nat := (line.takeWhile (· == ' ')).length

/-- The indentation of a block that does not say it, from the lines up to its first text. -/
def detectIndent : List (List Char) → Nat
  | [] => 0
  | line :: rest =>
    if line.all (· == ' ') then max line.length (detectIndent rest) else indentation line

/-- A block of which something was read. -/
structure BlockText where
  /-- the text so far, last character first -/
  done : List Char := []
  /-- the last line of text had an end -/
  lineEnd : Bool := false
  /-- empty lines since then -/
  emptyLines : Nat := 0
  /-- the last line of text starts with a blank -/
  indented : Bool := false

/-- Adds a line of text. -/
def BlockText.add (b : BlockText) (fold : Bool) (text : List Char) (lineEnd : Bool) : BlockText :=
  let indented := (text.head?.map isBlank).getD false
  let between :=
    if fold && b.lineEnd && !b.indented && !indented then
      if b.emptyLines = 0 then [' '] else []
    else if b.lineEnd then ['\n'] else []
  { done := text.reverse ++ (List.replicate b.emptyLines '\n' ++ (between ++ b.done))
    lineEnd, emptyLines := 0, indented }

/-- The text of a block. -/
def BlockText.finish (b : BlockText) (chomp : Chomp) : String :=
  let clipped := if b.lineEnd && chomp != .strip then '\n' :: b.done else b.done
  let kept := if chomp = .keep then List.replicate b.emptyLines '\n' ++ clipped else clipped
  String.ofList kept.reverse

/-- Reads the lines of a block; also returns those after it. -/
def blockLines (fold : Bool) (indent : Nat) (b : BlockText) :
    List (List Char) → Option (BlockText × List (List Char))
  | [] => some (b, [])
  | line :: rest =>
    let spaces := min indent (indentation line)
    let text := line.drop spaces
    match text with
    | [] =>
      if rest.isEmpty then some (b, [])
      else blockLines fold indent { b with emptyLines := b.emptyLines + 1 } rest
    | c :: _ =>
      if spaces = indent then blockLines fold indent (b.add fold text (!rest.isEmpty)) rest
      else if c == '\t' then none
      else some (b, line :: rest)

/-- The lines of a text. -/
def lines (text : List Char) : List (List Char) := text.splitOn '\n'

/-- Lines as a text in which every line follows a line end. -/
def unlines (lines : List (List Char)) : List Char := lines.flatMap ('\n' :: ·)

/-- A block scalar inside a collection with some indentation, `-1` standing for none. -/
def block (parent : Int) : Reader Yaml := fun c =>
  match c.rest, lines c.rest with
  | mark :: _, first :: rest => do
    let header ← blockHeader? (first.drop 1) {}
    let indent := match header.indent with
      | some n => parent.toNat + n
      | none => max (detectIndent rest) (max (parent + 1).toNat 1)
    let (text, after) ← blockLines (mark == '>') indent {} rest
    let used := (lines c.rest).length - after.length
    return (.scalar (text.finish header.chomp) false,
      { c with rest := unlines after, line := c.line + used - 1 })
  | _, _ => none

end Yaml

end TokenEscrow

import TokenEscrow.Yaml.Scalar

/-!
# Reading YAML

`Yaml.read?` reads a text as one document. Collections are written in brackets
(`flowNode`) or by indentation (`blockNode`); an entry of a mapping begins with
its name, which has to fit on one line together with the colon behind it.

Of indentation only the column counts that a collection starts in: its entries
all start there, and it ends with the first line further left. A list inside a
mapping may start in the column of the mapping.
-/

namespace TokenEscrow

namespace Yaml

namespace Reader

/-! ## Names and tags -/

/-- What stands in front of a value. -/
structure Properties where
  anchor : Option String := none
  tagged : Bool := false

/-- The name of a value, without the mark in front of it. -/
def anchorName : Reader String := do
  let c ← get
  let name := c.rest.takeWhile isNameChar
  let rest := c.rest.drop name.length
  let ended := isGap rest || (rest.head?.map "?:,]\x7d%@\x60".toList.contains).getD false
  ensure (!name.isEmpty && ended)
  set (c.drop name.length)
  return String.ofList name

/-- Passes a tag. Only the two usual shorthands are known. -/
def tag (inFlow : Bool) : Reader Unit := do
  let c ← get
  let word := c.rest.takeWhile fun x =>
    !isBlank x && x != '\n' && !(inFlow && (x == ',' || x == ']' || x == '\x7d'))
  let afterMark := word.drop 1
  let ownShorthand := !afterMark.isEmpty && (afterMark.takeWhile isNameChar).length > 0
    && (afterMark.dropWhile isNameChar).head? == some '!'
  ensure (!ownShorthand)
  set (c.drop word.length)

/-- Passes names and tags that stand on one line. -/
def properties (inFlow : Bool) : Nat → Properties → Reader Properties
  | 0, p => pure p
  | fuel + 1, p => do
    match (← get).rest with
    | '&' :: _ =>
      ensure p.anchor.isNone
      move Cursor.next
      let name ← anchorName
      move Cursor.skipBlanks
      properties inFlow fuel { p with anchor := some name }
    | '!' :: _ =>
      ensure (!p.tagged)
      tag inFlow
      move Cursor.skipBlanks
      properties inFlow fuel { p with tagged := true }
    | _ => pure p

/-- Gives a value the name that stands in front of it. -/
def named (p : Properties) (value : Yaml) : Reader Yaml := do
  match p.anchor with
  | some name => modify fun c => { c with anchors := (name, value) :: c.anchors }
  | none => pure ()
  return value

/-- The value with a name, after the mark in front of it. -/
def reference : Reader Yaml := do
  let name ← anchorName
  match (← get).anchors.lookup name with
  | some value => return value
  | none => fail

/-! ## Brackets -/

/-- Goes to the next place inside brackets; documents cannot end there. -/
def skipFlow : Reader Unit := do
  move (·.skip true false)
  ensure !(← get).atEnd

/-- Whether a value is left out here. -/
def atOmitted : Reader Bool := do
  match (← get).rest with
  | c :: _ => return c == ',' || c == ']' || c == '\x7d' || c == ':'
  | [] => return true

mutual

/-- A value inside brackets. -/
def flowNode : Nat → Reader Yaml
  | 0 => fail
  | fuel + 1 => do
    skipFlow
    let p ← properties true 3 {}
    skipFlow
    if (← atOmitted) && (p.anchor.isSome || p.tagged) then named p nothing
    else named p (← collectionOrScalar fuel true 0)

/-- A value that starts here: in brackets, in quotes, a reference, or plain. -/
def collectionOrScalar : Nat → Bool → Nat → Reader Yaml
  | 0, _, _ => fail
  | fuel + 1, inFlow, low => do
    let c ← get
    match c.rest with
    | '[' :: _ =>
      move Cursor.next
      return .sequence (← flowItems fuel [])
    | '\x7b' :: _ =>
      move Cursor.next
      return .mapping (← flowEntries fuel [])
    | '"' :: _ | '\'' :: _ => quoted
    | '*' :: _ =>
      move Cursor.next
      reference
    | text => if startsPlain inFlow text then plain inFlow low else fail

/-- The rest of an entry after its name; without a colon on the same line the value is left out. -/
def flowValue : Nat → Nat → Reader (Option Yaml)
  | 0, _ => fail
  | fuel + 1, line => do
    move (·.skip true false)
    let c ← get
    match c.rest with
    | ':' :: _ =>
      ensure (c.line == line)
      move Cursor.next
      skipFlow
      if ← atOmitted then return some nothing else return some (← flowNode fuel)
    | _ => return none

/-- An entry: a value, and what follows a colon behind it. The mark `?` may stand in front. -/
def flowEntry : Nat → Reader (Yaml × Option Yaml)
  | 0 => fail
  | fuel + 1 => do
    let c ← get
    if c.rest.head? == some ':' then return (nothing, ← flowValue fuel c.line)
    else if c.atMark '?' then
      move Cursor.next
      skipFlow
      let name ← if ← atOmitted then pure nothing else flowNode fuel
      let here ← get
      return (name, some ((← flowValue fuel here.line).getD nothing))
    else
      let name ← flowNode fuel
      let value ← flowValue fuel c.line
      return (name, value)

/-- The items of a list up to its end. -/
def flowItems : Nat → List Yaml → Reader (List Yaml)
  | 0, _ => fail
  | fuel + 1, done => do
    skipFlow
    if (← get).rest.head? == some ']' then
      move Cursor.next
      return done.reverse
    let (name, value) ← flowEntry fuel
    let item := match value with
      | some value => .mapping [(name, value)]
      | none => name
    skipFlow
    if (← get).rest.head? == some ',' then move Cursor.next
    else ensure ((← get).rest.head? == some ']')
    flowItems fuel (item :: done)

/-- The entries of a mapping up to its end. -/
def flowEntries : Nat → List (Yaml × Yaml) → Reader (List (Yaml × Yaml))
  | 0, _ => fail
  | fuel + 1, done => do
    skipFlow
    if (← get).rest.head? == some '\x7d' then
      move Cursor.next
      return done.reverse
    let (name, value) ← flowEntry fuel
    skipFlow
    if (← get).rest.head? == some ',' then move Cursor.next
    else ensure ((← get).rest.head? == some '\x7d')
    flowEntries fuel ((name, value.getD nothing) :: done)

end

/-! ## Indentation -/

/-- Whether a collection that starts in a column goes on here, which has to be on a new line. Text
further right would belong to nothing. Otherwise the cursor stays. -/
def goesOn (column : Nat) : Reader Bool := do
  let before ← get
  let c := before.skip false false
  if c.atEnd || c.column < column then return false
  else
    ensure (c.column == column && before.line < c.line)
    set c
    return true

mutual

/-- A value inside a collection that starts in column `parent`, where `-1` stands for none. `fresh`
says whether a collection may start on this line, and `sameColumn` whether a list may start in that
very column. -/
def blockNode : Nat → Int → Bool → Bool → Reader Yaml
  | 0, _, _, _ => fail
  | fuel + 1, parent, fresh, sameColumn => do
    let before ← get
    let c := before.skip false fresh
    let fresh := fresh || before.line < c.line
    let asList := sameColumn && fresh && c.column == parent && c.atMark '-'
    if c.atEnd || (c.column ≤ parent && !asList) then return nothing
    set c
    let p ← properties false 3 {}
    let here ← get
    let bare := p.anchor.isNone && !p.tagged
    if !bare && (isGap here.rest || here.rest.head? == some '#') then
      -- The value itself starts further down.
      named p (← blockNode fuel parent false sameColumn)
    else match here.rest with
    | '|' :: _ | '>' :: _ => named p (← block parent)
    | _ =>
      if here.atMark '-' then
        ensure (fresh && bare)
        return .sequence (← blockItems fuel c.column asList [])
      else if here.atMark '?' then
        ensure (fresh && bare)
        return .mapping (← blockEntries fuel c.column [])
      else
        let value ← if here.atMark ':' then named p nothing
          else named p (← collectionOrScalar fuel false (parent + 1).toNat)
        let after ← get
        let colon := after.skipBlanks
        if colon.atMark ':' then
          ensure (fresh && colon.line == c.line)
          set colon.next
          let first ← blockNode fuel c.column false true
          return .mapping (← blockEntries fuel c.column [(value, first)])
        else return value

/-- The items of a list that starts in a column, after those in `done`. If the list stands in the
column of the mapping around it, something else in this column ends it. -/
def blockItems : Nat → Nat → Bool → List Yaml → Reader (List Yaml)
  | 0, _, _, _ => fail
  | fuel + 1, column, inMapping, done => do
    let before ← get
    let more ← if done.isEmpty then pure true else goesOn column
    if !more then return done.reverse
    else if (← get).atMark '-' then
      move Cursor.next
      let item ← blockNode fuel column true false
      blockItems fuel column inMapping (item :: done)
    else
      ensure inMapping
      set before
      return done.reverse

/-- The entries of a mapping that starts in a column, after those in `done`. -/
def blockEntries : Nat → Nat → List (Yaml × Yaml) → Reader (List (Yaml × Yaml))
  | 0, _, _ => fail
  | fuel + 1, column, done => do
    let more ← if done.isEmpty then pure true else goesOn column
    if !more then return done.reverse
    let c ← get
    if c.atMark '?' then
      move Cursor.next
      let name ← blockNode fuel column true true
      let colon := (← get).skip false false
      if !colon.atEnd && colon.column == column && colon.atMark ':' then
        set colon.next
        let value ← blockNode fuel column true true
        blockEntries fuel column ((name, value) :: done)
      else blockEntries fuel column ((name, nothing) :: done)
    else
      let p ← properties false 3 {}
      let name ← if (← get).atMark ':' then named p nothing
        else named p (← collectionOrScalar fuel false (column + 1))
      move Cursor.skipBlanks
      let colon ← get
      ensure (colon.atMark ':' && colon.line == c.line)
      set colon.next
      let value ← blockNode fuel column false true
      blockEntries fuel column ((name, value) :: done)

end

/-! ## Documents -/

/-- Passes the lines in front of a document that say how it is written. -/
def directives : Nat → Bool → Reader Unit
  | 0, _ => fail
  | fuel + 1, any => do
    move (·.skip false true)
    let c ← get
    if c.column == 0 && c.rest.head? == some '%' then
      let line := String.ofList (c.rest.takeWhile fun x => x != '\n' && x != '#')
      let words := (line.splitOn " ").filter (· != "")
      ensure (words == ["%YAML", "1.1"] || words == ["%YAML", "1.2"]
        || (words.head? == some "%TAG" && words.length == 3))
      move fun c => { c with rest := c.rest.dropWhile (· != '\n') }
      directives fuel true
    else if any then ensure c.atMarker
    else pure ()

/-- A text as one document. -/
def document (fuel : Nat) : Reader Yaml := do
  directives fuel false
  let c ← get
  let started := c.rest.take 3 == "---".toList && c.atMarker
  if started then set (c.drop 3)
  let value ← blockNode fuel (-1) (!started) false
  let c := (← get).skip false false
  if c.rest.isEmpty then return value
  ensure (c.atMarker && c.rest.head? == some '.')
  let rest := ((c.drop 3).skip false false).rest
  ensure rest.isEmpty
  return value

end Reader

/-- Reads a text as one document. Every step of the reader uses up a character or is one of a few
steps in a row that do, so a multiple of the length is enough fuel. -/
def read? (text : String) : Option Yaml := do
  let chars := match text.toList with
    | '\ufeff' :: rest => rest
    | chars => chars
  if !chars.all isPermitted then none
  let rest := withLineFeeds chars
  let (value, _) ← (Reader.document (6 * rest.length + 6)).run { rest }
  return value

end Yaml

end TokenEscrow

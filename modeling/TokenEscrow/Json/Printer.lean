import TokenEscrow.Json.Mismatch

/-!
# Writing documents

Two layouts of one document: `Json.compact` writes it without blanks, and
`Json.pretty` gives every item and field its own line, indented by two spaces
for each level. Empty lists and objects have no inside to lay out.

Only quotes, backslashes and control characters are escaped in texts.
-/

namespace TokenEscrow

namespace Json

/-! ## Texts -/

/-- One hexadecimal digit. -/
def hexDigit (n : Nat) : Char := "0123456789abcdef".toList.getD n '0'

/-- One character of a text. -/
def escapeChar (c : Char) : List Char :=
  if c = '"' ∨ c = '\\' then ['\\', c]
  else if c = '\x08' then ['\\', 'b']
  else if c = '\x0c' then ['\\', 'f']
  else if c = '\n' then ['\\', 'n']
  else if c = '\r' then ['\\', 'r']
  else if c = '\t' then ['\\', 't']
  else if c.toNat < 0x20 then
    ['\\', 'u', '0', '0', hexDigit (c.toNat / 16), hexDigit (c.toNat % 16)]
  else [c]

/-- A text between its quotes. -/
def quoteChars (s : String) : List Char := '"' :: s.toList.flatMap escapeChar ++ ['"']

/-! ## Layouts -/

/-- The text of a document that contains no others. -/
def Number.chars (n : Number) : List Char := n.text.toList

/-- A line break and the blanks in front of the next line. -/
def newline (depth : Nat) : List Char := '\n' :: List.replicate (2 * depth) ' '

mutual

/-- A document without blanks. -/
def compactChars : Json → List Char
  | null => "null".toList
  | bool b => (if b then "true" else "false").toList
  | number n => n.chars
  | string s => quoteChars s
  | array items => '[' :: compactItems items ++ [']']
  | object fields => '\x7b' :: compactFields fields ++ ['\x7d']

/-- The items of a list. -/
def compactItems : List Json → List Char
  | [] => []
  | [item] => compactChars item
  | item :: rest => compactChars item ++ ',' :: compactItems rest

/-- The fields of an object. -/
def compactFields : List (String × Json) → List Char
  | [] => []
  | [(name, value)] => quoteChars name ++ ':' :: compactChars value
  | (name, value) :: rest =>
    quoteChars name ++ ':' :: compactChars value ++ ',' :: compactFields rest

end

mutual

/-- A document at a depth of nesting, on lines of its own. -/
def prettyChars (depth : Nat) : Json → List Char
  | null => "null".toList
  | bool b => (if b then "true" else "false").toList
  | number n => n.chars
  | string s => quoteChars s
  | array [] => "[]".toList
  | array items => '[' :: prettyItems (depth + 1) items ++ newline depth ++ [']']
  | object [] => ['\x7b', '\x7d']
  | object fields => '\x7b' :: prettyFields (depth + 1) fields ++ newline depth ++ ['\x7d']

/-- The items of a list, each on a new line. -/
def prettyItems (depth : Nat) : List Json → List Char
  | [] => []
  | [item] => newline depth ++ prettyChars depth item
  | item :: rest => newline depth ++ prettyChars depth item ++ ',' :: prettyItems depth rest

/-- The fields of an object, each on a new line. -/
def prettyFields (depth : Nat) : List (String × Json) → List Char
  | [] => []
  | [(name, value)] => newline depth ++ quoteChars name ++ ':' :: ' ' :: prettyChars depth value
  | (name, value) :: rest =>
    newline depth ++ quoteChars name ++ ':' :: ' ' :: prettyChars depth value ++
      ',' :: prettyFields depth rest

end

/-- The document without blanks. -/
def compact (document : Json) : String := String.ofList (compactChars document)

/-- The document with one item or field to a line. -/
def pretty (document : Json) : String := String.ofList (prettyChars 0 document)

end Json

end TokenEscrow

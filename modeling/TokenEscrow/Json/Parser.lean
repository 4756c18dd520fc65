import TokenEscrow.Json.Reader

/-!
# Reading written documents

`Json.parse` reads a text as one document, or says where it stops being one.
-/

namespace TokenEscrow

namespace Json

namespace Reader

mutual

/-- A document, nested at most about half of `fuel` deep. -/
def value : Nat → List Char → Result Json
  | 0, text => refuseBefore .endInValue text
  | fuel + 1, text =>
    match skipBlanks text with
    | [] => refuse .endInValue []
    | c :: rest =>
      if c = 'n' then (word "ull".toList rest).map fun rest => (.null, rest)
      else if c = 't' then (word "rue".toList rest).map fun rest => (.bool true, rest)
      else if c = 'f' then (word "alse".toList rest).map fun rest => (.bool false, rest)
      else if c = '-' ∨ c.isDigit then
        (number (c :: rest)).map fun (n, rest) => (.number n, rest)
      else if c = '"' then (quoted rest).map fun (s, rest) => (.string s, rest)
      else if c = '[' then items fuel true [] rest
      else if c = '\x7b' then fields fuel true [] rest
      else refuse .noValue (c :: rest)

/-- The items of a list up to its end, after the items of `done`, which stand in reverse. -/
def items : Nat → Bool → List Json → List Char → Result Json
  | 0, _, _, text => refuseBefore .endInValue text
  | fuel + 1, first, done, text =>
    match nextItem first text with
    | .error fault => .error fault
    | .ok (false, rest) => .ok (.array done.reverse, rest)
    | .ok (true, rest) =>
      match value fuel rest with
      | .error fault => .error fault
      | .ok (item, rest) => items fuel false (item :: done) rest

/-- The fields of an object up to its end, after the fields of `done`, which stand in reverse. -/
def fields : Nat → Bool → List (String × Json) → List Char → Result Json
  | 0, _, _, text => refuseBefore .endInValue text
  | fuel + 1, first, done, text =>
    match nextField first text with
    | .error fault => .error fault
    | .ok (none, rest) => .ok (.object done.reverse, rest)
    | .ok (some name, rest) =>
      match value fuel rest with
      | .error fault => .error fault
      | .ok (item, rest) => fields fuel false ((name, item) :: done) rest

end

end Reader

/-- Reads a text as one document. Every step of the reader uses up a character or is one of two
steps that do, so twice the length of the text is enough fuel. -/
def parse (text : String) : Except Fault Json :=
  match Reader.value (2 * text.length + 2) text.toList with
  | .error fault => .error fault
  | .ok (document, rest) => (Reader.finish rest).map fun _ => document

end Json

end TokenEscrow

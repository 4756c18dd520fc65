import TokenEscrow.Json.Reader

/-!
# Lists of bytes

Reads a written document that has to be a list of bytes, without building the
document: the first thing that is something else is reported as soon as it can
be named. Of a number that means one byte later than its last digit, since
only then it is known to end.
-/

namespace TokenEscrow

namespace Json

namespace Reader

/-- The fault of finding something else in front of a text than was wanted. -/
def unwanted (wanted : String) (text : List Char) : Fault :=
  let named (seen : Nat) (found : Except Fault (Shape × List Char)) : Fault :=
    match found with
    | .ok (shape, rest) => ⟨.mismatch (.wrongType shape wanted), rest, seen⟩
    | .error fault => fault
  match text with
  | [] => ⟨.endInValue, [], 1⟩
  | c :: rest =>
    if c = 'n' then named 0 ((word "ull".toList rest).map fun rest => (.null, rest))
    else if c = 't' then named 0 ((word "rue".toList rest).map fun rest => (.bool true, rest))
    else if c = 'f' then named 0 ((word "alse".toList rest).map fun rest => (.bool false, rest))
    else if c = '-' ∨ c.isDigit then
      named 1 ((number (c :: rest)).map fun (n, rest) => (.number n, rest))
    else if c = '"' then named 0 ((quoted rest).map fun (s, rest) => (.string s, rest))
    else if c = '[' then ⟨.mismatch (.wrongType .sequence wanted), c :: rest, 1⟩
    else if c = '\x7b' then ⟨.mismatch (.wrongType .map wanted), c :: rest, 1⟩
    else ⟨.noValue, c :: rest, 1⟩

/-- A byte. -/
def byte (text : List Char) : Result UInt8 :=
  match text with
  | [] => refuse .endInValue []
  | c :: _ =>
    if c = '-' ∨ c.isDigit then
      match number text with
      | .error fault => .error fault
      | .ok (n, rest) => match n with
        | .natural value =>
          if value < 256 then .ok (value.toUInt8, rest)
          else refuse (.mismatch (.wrongValue (.number n) "u8")) rest
        | .negative _ => refuse (.mismatch (.wrongValue (.number n) "u8")) rest
        | .fraction _ => refuse (.mismatch (.wrongType (.number n) "u8")) rest
    else .error (unwanted "u8" text)

/-- The bytes of a list up to its end, after those of `done`, which stand in reverse. The fuel is
the length of the text. -/
def bytesOnto : Nat → Bool → List UInt8 → List Char → Result (List UInt8)
  | 0, _, _, text => refuse .endInList text
  | fuel + 1, first, done, text =>
    match nextItem first text with
    | .error fault => .error fault
    | .ok (false, rest) => .ok (done.reverse, rest)
    | .ok (true, rest) =>
      match byte rest with
      | .error fault => .error fault
      | .ok (b, rest) => bytesOnto fuel false (b :: done) rest

end Reader

/-- Reads a text as a list of bytes. -/
def parseBytes (text : String) : Except Fault (List UInt8) :=
  match Reader.skipBlanks text.toList with
  | '[' :: rest =>
    match Reader.bytesOnto (rest.length + 1) true [] rest with
    | .error fault => .error fault
    | .ok (bytes, rest) => (Reader.finish rest).map fun _ => bytes
  | rest => .error (Reader.unwanted "a sequence" rest)

end Json

end TokenEscrow

import TokenEscrow.Json.Mismatch

/-!
# Reading records from documents

A record is written as an object with a field for each of its parts, or as a
list of the parts in their order. A `RecordReader` describes the parts once and
reads both forms.

An object may hold several faults. Fields are met in the order of their names, so
a fault in the first of them counts; that a field is missing is noticed only when
all others were read, and then the part declared first counts. Fields that
belong to no part are passed over.
-/

namespace TokenEscrow

namespace Json

/-! ## Values without parts -/

/-- Reads a value from a document. -/
abbrev Reading (α : Type) := Json → Except Mismatch α

namespace Reading

/-- A text. -/
def text : Reading String
  | string s => .ok s
  | other => .error (.wrongType other.shape "a string")

/-- A truth value. -/
def flag : Reading Bool
  | bool b => .ok b
  | other => .error (.wrongType other.shape "a boolean")

/-- A whole number below a bound, of a type with the given name. -/
def wholeBelow (bound : Nat) (type : String) : Reading UInt64
  | number (.natural n) =>
    if n.toNat < bound then .ok n else .error (.wrongValue (.number (.natural n)) type)
  | number (.negative n) => .error (.wrongValue (.number (.negative n)) type)
  | other => .error (.wrongType other.shape type)

/-- A whole number of 64 bits. -/
def whole : Reading UInt64 := wholeBelow UInt64.size "u64"

/-- A length. -/
def length : Reading UInt64 := wholeBelow UInt64.size "usize"

/-- A value that may be `null`. -/
def optional {α : Type} (read : Reading α) : Reading (Option α)
  | null => .ok none
  | other => (read other).map some

/-- Anything at all. -/
def document : Reading Json := .ok

end Reading

/-! ## Parts -/

/-- A fault in an object. -/
inductive ObjectFault
  /-- a field holds something unwanted -/
  | field (name : String) (m : Mismatch)
  /-- a field is missing -/
  | missing (name : String)

/-- Which of two faults counts, the first one being of the part declared earlier. -/
def ObjectFault.first : ObjectFault → ObjectFault → ObjectFault
  | field a m, field b n => if b < a then field b n else field a m
  | field a m, missing _ => field a m
  | missing _, field b n => field b n
  | missing a, missing _ => missing a

/-- The mismatch that an object with the fault is reported as. -/
def ObjectFault.mismatch : ObjectFault → Mismatch
  | field _ m => m
  | missing name => .missingField name

/-- A fault in a list of parts. -/
inductive ListFault
  /-- an item is something unwanted -/
  | item (m : Mismatch)
  /-- the list ends before the last part -/
  | tooShort

/-- Reads some parts of a record. -/
structure RecordReader (α : Type) where
  /-- number of parts -/
  count : Nat
  /-- reads them from the fields of an object -/
  fromFields : List (String × Json) → Except ObjectFault α
  /-- reads them off the front of a list -/
  fromItems : List Json → Except ListFault (α × List Json)

namespace RecordReader

/-- A part under a name, given what a missing field means. -/
def part {α : Type} (name : String) (absent : Option α) (read : Reading α) : RecordReader α where
  count := 1
  fromFields fields :=
    match lastField? fields name, absent with
    | none, none => .error (.missing name)
    | none, some a => .ok a
    | some value, _ => match read value with
      | .ok a => .ok a
      | .error m => .error (.field name m)
  fromItems
    | [] => .error .tooShort
    | value :: rest => match read value with
      | .ok a => .ok (a, rest)
      | .error m => .error (.item m)

/-- A part that has to be there. -/
def field {α : Type} (name : String) (read : Reading α) : RecordReader α := part name none read

/-- A part that may be missing or `null`. -/
def optionalField {α : Type} (name : String) (read : Reading α) : RecordReader (Option α) :=
  part name (some none) read.optional

/-- No parts. -/
def nothing {α : Type} (a : α) : RecordReader α where
  count := 0
  fromFields _ := .ok a
  fromItems items := .ok (a, items)

/-- Some parts and then some more. -/
def andThen {α β : Type} (f : RecordReader (α → β)) (r : RecordReader α) : RecordReader β where
  count := f.count + r.count
  fromFields fields :=
    match f.fromFields fields, r.fromFields fields with
    | .ok g, .ok a => .ok (g a)
    | .error e, .ok _ | .ok _, .error e => .error e
    | .error e, .error e' => .error (e.first e')
  fromItems items :=
    match f.fromItems items with
    | .error e => .error e
    | .ok (g, items) => match r.fromItems items with
      | .error e => .error e
      | .ok (a, items) => .ok (g a, items)

/-- The parts of a record one after the other. -/
instance : Applicative RecordReader where
  pure := nothing
  seq f r := andThen f (r ())

/-- Reads a record. -/
def read {α : Type} (r : RecordReader α) (name : String) : Reading α
  | object fields =>
    match r.fromFields fields with
    | .ok a => .ok a
    | .error e => .error e.mismatch
  | array items =>
    match r.fromItems items with
    | .ok (a, []) => .ok a
    | .ok (_, _ :: _) => .error (.wrongLength items.length "fewer elements in array")
    | .error (.item m) => .error m
    | .error .tooShort =>
      let elements := if r.count = 1 then "1 element" else s!"{r.count} elements"
      .error (.wrongLength items.length s!"struct {name} with {elements}")
  | other => .error (.wrongType other.shape s!"struct {name}")

end RecordReader

end Json

end TokenEscrow

/-!
# Documents

`Json` is the type of structured documents. The fields of an object are kept in
the order in which they were written, and a name may occur more than once:
`Json.field?` looks for the last occurrence, and `Json.sortedFields` gives the
fields that count, ordered by name.

Whole numbers are kept exactly as far as 64 bits go; any other number is a
double precision fraction.
-/

namespace TokenEscrow

namespace Json

/-- A number. -/
inductive Number
  /-- a whole number that is not negative -/
  | natural (n : UInt64)
  /-- a negative whole number -/
  | negative (n : Int64)
  /-- any other number, by the bits of the fraction nearest to it -/
  | fraction (bits : UInt64)
  deriving DecidableEq, Repr

end Json

/-- A document. -/
inductive Json
  | null
  | bool (b : Bool)
  | number (n : Json.Number)
  | string (s : String)
  | array (items : List Json)
  | object (fields : List (String × Json))
  deriving Repr

namespace Json

/-- A whole number as a document. -/
def ofUInt64 (n : UInt64) : Json := number (.natural n)

/-- A small whole number as a document. -/
def ofNat (n : Nat) : Json := ofUInt64 (UInt64.ofNat n)

/-- The last field with a name. -/
def lastField? (fields : List (String × Json)) (name : String) : Option Json :=
  fields.reverse.lookup name

/-- The last field with a name; `none` when there is none or the document is no object. -/
def field? : Json → String → Option Json
  | object fields, name => lastField? fields name
  | _, _ => none

/-- Adds a field to fields ordered by name, in place of one with its name. -/
def insertField (name : String) (value : Json) : List (String × Json) → List (String × Json)
  | [] => [(name, value)]
  | (other, old) :: rest =>
    if name < other then (name, value) :: (other, old) :: rest
    else if name = other then (name, value) :: rest
    else (other, old) :: insertField name value rest

/-- The fields that count, ordered by name. -/
def sortedFields (fields : List (String × Json)) : List (String × Json) :=
  fields.foldl (fun sorted (name, value) => insertField name value sorted) []

end Json

end TokenEscrow

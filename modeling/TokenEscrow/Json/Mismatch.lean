import TokenEscrow.Decimal.Shortest
import TokenEscrow.Json.Basic
import TokenEscrow.Text.Quoted

/-!
# Mismatches

What a document holds where something else was wanted. A mismatch names what was
found by its `Shape`, so that a message can be given before the rest of a
composite value is read.
-/

namespace TokenEscrow

namespace Json

/-- What stands in some place of a document. -/
inductive Shape
  | null
  | bool (b : Bool)
  | number (n : Number)
  | string (s : String)
  | sequence
  | map
  deriving DecidableEq, Repr

/-- The text of a number. -/
def Number.text : Number → String
  | natural n => toString n.toNat
  | negative n => toString n.toInt
  | fraction bits => Decimal.text bits

/-- The wording for what was found. -/
def Shape.text : Shape → String
  | null => "null"
  | bool b => s!"boolean `{b}`"
  | number (.fraction bits) => s!"floating point `{Decimal.text bits}`"
  | number n => s!"integer `{n.text}`"
  | string s => "string " ++ Quoted.encode s
  | sequence => "sequence"
  | map => "map"

/-- The shape of a document. -/
def shape : Json → Shape
  | null => .null
  | bool b => .bool b
  | number n => .number n
  | string s => .string s
  | array _ => .sequence
  | object _ => .map

/-- Why a document does not hold what was wanted. -/
inductive Mismatch
  /-- something else was found -/
  | wrongType (found : Shape) (wanted : String)
  /-- the right kind of thing was found, but not an acceptable one -/
  | wrongValue (found : Shape) (wanted : String)
  /-- a list of another length was found -/
  | wrongLength (found : Nat) (wanted : String)
  /-- a field is missing -/
  | missingField (name : String)
  /-- no way of reading the value fits -/
  | noAlternative (wanted : String)
  /-- a text does not denote what it should -/
  | badText (message : String)
  deriving DecidableEq, Repr

/-- The wording of a mismatch. -/
def Mismatch.message : Mismatch → String
  | wrongType found wanted => s!"invalid type: {found.text}, expected {wanted}"
  | wrongValue found wanted => s!"invalid value: {found.text}, expected {wanted}"
  | wrongLength found wanted => s!"invalid length {found}, expected {wanted}"
  | missingField name => s!"missing field `{name}`"
  | noAlternative wanted => s!"data did not match any variant of untagged enum {wanted}"
  | badText message => message

end Json

end TokenEscrow

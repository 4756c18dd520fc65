import TokenEscrow.Json.Printer
import TokenEscrow.Json.Record

/-!
# Reports

What a command answers is a record of one of several types. A type of records is
a `Report` when it says how its records are shown to people, in three degrees of
detail, and how they are written as documents and read back.

`Report.render` is the text of a record in one of the five formats.
-/

namespace TokenEscrow

/-! ## Formats -/

/-- How a report is shown. -/
inductive OutputFormat
  | display
  | displayQuiet
  | displayVerbose
  /-- a document with one field to a line, in the order of the parts -/
  | json
  /-- a document without blanks, its fields in the order of their names -/
  | jsonCompact
  deriving DecidableEq, Repr

/-- All formats. -/
def OutputFormat.all : List OutputFormat :=
  [display, displayQuiet, displayVerbose, json, jsonCompact]

/-- The name of a format. -/
def OutputFormat.name : OutputFormat → String
  | display => "Display"
  | displayQuiet => "DisplayQuiet"
  | displayVerbose => "DisplayVerbose"
  | json => "Json"
  | jsonCompact => "JsonCompact"

/-! ## Records -/

/-- A type of records that commands answer with. -/
class Report (α : Type) where
  /-- the name of the type in messages -/
  recordName : String
  /-- reads the parts of a record -/
  reader : Json.RecordReader α
  /-- the parts of a record in their order; absent parts are left out -/
  fields : α → List (String × Json)
  /-- the text for people -/
  display : α → String
  /-- the shortest text for people -/
  displayQuiet : α → String := display
  /-- the most detailed text for people -/
  displayVerbose : α → String := display

namespace Report

variable {α : Type}

/-- A named value on a line of its own. Values start in one column. -/
def line (name value : String) : String :=
  name ++ String.ofList (List.replicate (20 - name.length) ' ') ++ " " ++ value ++ "\n"

/-- A part that may be absent, as a field. -/
def optionalField (name : String) (value : Option Json) : List (String × Json) :=
  match value with
  | some v => [(name, v)]
  | none => []

variable [Report α]

/-- The record as a document. -/
def toJson (record : α) : Json := .object (fields record)

/-- The record as a document with its fields in the order of their names. -/
def toSortedJson (record : α) : Json := .object (Json.sortedFields (fields record))

/-- Reads a record from a document. -/
def ofJson (document : Json) : Except Json.Mismatch α :=
  (reader : Json.RecordReader α).read (recordName α) document

/-- The record in a format. -/
def render (format : OutputFormat) (record : α) : String :=
  match format with
  | .display => display record
  | .displayQuiet => displayQuiet record
  | .displayVerbose => displayVerbose record
  | .json => (toJson record).pretty
  | .jsonCompact => (toSortedJson record).compact

end Report

end TokenEscrow

/-!
# YAML documents

A `Yaml` is a document with everything resolved that is only a matter of
writing: quotes, indentation, comments and references. Scalars stay text, since
which kind of value they stand for is up to whoever reads them; only an empty
scalar without quotes has to be told from an empty text.
-/

namespace TokenEscrow

/-- A YAML document. -/
inductive Yaml
  /-- a text, and whether it was written without quotes -/
  | scalar (text : String) (plain : Bool)
  | sequence (items : List Yaml)
  | mapping (entries : List (Yaml × Yaml))
  deriving Repr

namespace Yaml

/-- What stands where nothing was written. -/
def nothing : Yaml := scalar "" true

/-- The text of a scalar. -/
def text? : Yaml → Option String
  | scalar text _ => some text
  | _ => none

/-- Entries from texts to texts. An empty scalar without quotes counts as no entries. -/
def textEntries? : Yaml → Option (List (String × String))
  | mapping entries => entries.mapM fun (name, value) => return (← name.text?, ← value.text?)
  | scalar "" true => some []
  | _ => none

end Yaml

end TokenEscrow

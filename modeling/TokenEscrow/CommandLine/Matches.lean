import TokenEscrow.CommandLine.Option

/-!
# What a command line contained

For each option that was used, how often, and with which values. An option that
was not used can still have a value, its fallback; it then has no occurrences.
-/

namespace TokenEscrow

/-- One option of a command line. -/
structure Match where
  /-- name of the option -/
  name : String
  /-- how often it was written -/
  occurrences : Nat := 0
  /-- its values in order -/
  values : List String := []
  deriving DecidableEq, Repr

/-- The options of a command line in the order of their first use. -/
abbrev Matches := List Match

namespace Matches

/-- The entry of an option. -/
def get? (ms : Matches) (name : String) : Option Match := ms.find? fun m => m.name == name

/-- Whether an option has an entry. -/
def has (ms : Matches) (name : String) : Bool := ms.any fun m => m.name == name

/-- Changes the entry of an option, which is made if need be. -/
def update (name : String) (f : Match → Match) : Matches → Matches
  | [] => [f { name }]
  | m :: rest => if m.name = name then f m :: rest else m :: update name f rest

/-- Counts an occurrence. -/
def occur (ms : Matches) (name : String) : Matches :=
  ms.update name fun m => { m with occurrences := m.occurrences + 1 }

/-- Adds a value. -/
def addValue (ms : Matches) (name value : String) : Matches :=
  ms.update name fun m => { m with values := m.values ++ [value] }

/-- The first value of an option. -/
def value? (ms : Matches) (name : String) : Option String := do (← ms.get? name).values.head?

/-- All values of an option. -/
def values (ms : Matches) (name : String) : List String :=
  match ms.get? name with
  | some m => m.values
  | none => []

/-- How often an option was written. -/
def occurrences (ms : Matches) (name : String) : Nat :=
  match ms.get? name with
  | some m => m.occurrences
  | none => 0

/-- Gives every option without a value its fallback. -/
def fillIn (options : List OptionSpec) (ms : Matches) : Matches :=
  options.foldl (fun ms o =>
    match o.fallback with
    | some value => if (ms.values o.name).isEmpty then ms.addValue o.name value else ms
    | none => ms) ms

/-- The entry that counts when an option may stand before and after the name of the command: the
later one, unless only the earlier one was written. -/
def later : Option Match → Option Match → Option Match
  | some before, some after =>
    if 0 < before.occurrences ∧ after.occurrences = 0 then some before else some after
  | some before, none => some before
  | none, after => after

/-- The options of a command, where the global options before its name have a say too. -/
def inherit (globals : List OptionSpec) (before after : Matches) : Matches :=
  let own := after.filter fun m => !globals.any fun o => o.name == m.name
  own ++ globals.filterMap fun o => later (before.get? o.name) (after.get? o.name)

end Matches

end TokenEscrow

import TokenEscrow.Log.Message

/-!
# Choosing what is logged

A `LogConfig` holds the most talkative level that is logged, and whether the
command line asked for it: if it did, nothing else has a say.

Below `debug`, the libraries underneath are kept to warnings.
-/

namespace TokenEscrow

/-! ## Level filters -/

/-- Which levels pass: none, or those up to some level. -/
inductive LevelFilter
  | off
  | upTo (level : LogLevel)
  deriving DecidableEq, Repr

namespace LevelFilter

/-- All filters, from the quietest. -/
def all : List LevelFilter :=
  [off, upTo .error, upTo .warn, upTo .info, upTo .debug, upTo .trace]

/-- The name in capitals. -/
def name : LevelFilter → String
  | off => "OFF"
  | upTo level => level.name

/-- The name in small letters. -/
def lowerName (f : LevelFilter) : String := String.ofList (f.name.toList.map Char.toLower)

/-- Rank: the more talkative, the higher. -/
def rank : LevelFilter → Nat
  | off => 0
  | upTo level => level.rank

/-- Whether a level passes. -/
def passes (f : LevelFilter) (level : LogLevel) : Bool := level.rank ≤ f.rank

/-- The filter with a name in any mixture of capitals and small letters. -/
def ofName? (name : String) : Option LevelFilter :=
  all.find? fun f => f.name.toList == name.toList.map Char.toUpper

end LevelFilter

/-- The wording for a name that belongs to no filter. -/
def unknownLevelMessage : String :=
  "attempted to convert a string that doesn't match an existing log level"

/-! ## Configuration -/

/-- What is logged. -/
structure LogConfig where
  level : LevelFilter := .upTo .info
  /-- the command line asked for the level -/
  explicit : Bool := false
  deriving DecidableEq, Repr

namespace LogConfig

/-- The names that the command line accepts. -/
def levelNames : List String := ["error", "warn", "info", "debug", "trace"]

/-- A level that was asked for. -/
def ofLevel (level : LevelFilter) : LogConfig := { level, explicit := true }

/-- The directive for the logger. -/
def filter (c : LogConfig) : String :=
  if (LevelFilter.upTo .debug).rank ≤ c.level.rank then c.level.lowerName
  else c.level.lowerName ++ ",solana=warn"

end LogConfig

end TokenEscrow

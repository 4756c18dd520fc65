import TokenEscrow.Log.Filter
import TokenEscrow.Text.Blank

/-!
# Directives

What is logged is said by a text of directives such as `warn,engine=debug`: a
level for everything, or for the parts of the program whose names begin in some
way. Of the directives that fit a message, the one with the longest name
decides; a message that none fits is not logged.

Without any directive, only errors are logged. After a slash stands a text that
messages have to contain.
-/

namespace TokenEscrow

/-- A level for some part of the program. -/
structure Directive where
  /-- what the names of those parts begin with; everything when there is none -/
  target : Option String
  level : LevelFilter
  deriving DecidableEq, Repr

/-- What is logged. -/
structure LogDirectives where
  directives : List Directive := []
  /-- what messages have to contain -/
  containing : Option String := none
  deriving DecidableEq, Repr

namespace Directive

/-- Whether a directive is about the part of the program with a name. -/
def fits (d : Directive) (name : String) : Bool :=
  match d.target with
  | some start => start.toList.isPrefixOf name.toList
  | none => true

/-- How much of a name a directive fixes, in bytes. -/
def size (d : Directive) : Nat := (d.target.map String.utf8ByteSize).getD 0

/-- The wording for a directive that is passed over. -/
def invalidMessage (text : String) : String :=
  s!"warning: invalid logging spec '{text}', ignoring it"

/-- Reads a directive, or says why it is passed over. -/
def read (text : String) : Except String Directive :=
  let loudest := LevelFilter.upTo .trace
  match text.splitOn "=" with
  | [single] => match LevelFilter.ofName? single with
    | some level => .ok { target := none, level }
    | none => .ok { target := some single, level := loudest }
  | [target, level] =>
    let level := Blank.trim level
    if level.isEmpty then .ok { target := some target, level := loudest }
    else match LevelFilter.ofName? level with
      | some level => .ok { target := some target, level }
      | none => .error (invalidMessage level)
  | _ => .error (invalidMessage text)

/-- Adds a directive, in place of one about the same part. -/
def insert (d : Directive) : List Directive → List Directive
  | [] => [d]
  | other :: rest => if other.target = d.target then d :: rest else other :: insert d rest

end Directive

namespace LogDirectives

/-- Reads a text of directives. Also returns why some of them are passed over. -/
def read (text : String) : LogDirectives × List String :=
  let ofParts (directives : String) (containing : Option String) : LogDirectives × List String :=
    let words := ((directives.splitOn ",").map Blank.trim).filter fun word => word != ""
    words.foldl (fun (found, warnings) word =>
      match Directive.read word with
      | .ok d => ({ found with directives := d.insert found.directives }, warnings)
      | .error warning => (found, warnings ++ [warning])) ({ containing }, [])
  match text.splitOn "/" with
  | [directives] => ofParts directives none
  | [directives, containing] => ofParts directives (some containing)
  | _ => ({}, [Directive.invalidMessage text ++ " (too many '/'s)"])

/-- The level up to which a part of the program is logged. -/
def levelFor (d : LogDirectives) (target : String) : LevelFilter :=
  if d.directives.isEmpty then .upTo .error
  else
    let fitting := d.directives.filter fun directive => directive.fits target
    match (fitting.mergeSort fun a b => a.size ≤ b.size).getLast? with
    | some directive => directive.level
    | none => .off

/-- Whether a message is logged. -/
def passes (d : LogDirectives) (message : LogMessage) : Bool :=
  (d.levelFor message.target).passes message.level && match d.containing with
    | some text => (message.text.splitOn text).length != 1 || text.isEmpty
    | none => true

end LogDirectives

namespace LogConfig

/-- The variable with directives that count unless the command line asked for a level. -/
def variableName : String := "RUST_LOG"

/-- The variable with directives that count if it did. -/
def overridingName : String := "_RUST_LOG"

/-- The directives to follow, given the variables around the program. -/
def directives (c : LogConfig) (value? : String → Option String) : LogDirectives × List String :=
  let name := if c.explicit then overridingName else variableName
  LogDirectives.read ((value? name).getD c.filter)

end LogConfig

namespace LogMessage

/-- The message as a line of the log, without the time. Further lines of its text are indented. -/
def line (m : LogMessage) : String :=
  let level := m.level.name ++ String.ofList (List.replicate (5 - m.level.name.length) ' ')
  s!"[{level} {m.target}] " ++ "\n    ".intercalate (m.text.splitOn "\n")

end LogMessage

end TokenEscrow

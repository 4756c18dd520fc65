import TokenEscrow.Command.Run
import TokenEscrow.CommandLine.Parser

/-!
# Invocations

An `Invocation` is a command line that was accepted: the name of a command and
the options that were used. From it follow the logging that was asked for, the
settings, and the command itself.
-/

namespace TokenEscrow

/-- A command line that was accepted. -/
structure Invocation where
  command : CommandName
  options : Matches
  deriving DecidableEq, Repr

namespace Invocation

/-- Reads the words behind the name of the program. -/
def read (home : Home) (words : List String) : Except UsageError Invocation :=
  ((escrowGrammar home.configFile).parse words).map fun (command, options) => { command, options }

/-- The logging that was asked for. -/
def log (i : Invocation) : LogConfig := LogConfig.ofMatches i.options

/-- The path of the configuration file. -/
def configPath (i : Invocation) (home : Home) : String := Settings.configPath home i.options

/-- The settings, given the outcome of reading the configuration file. -/
def settings (i : Invocation) (home : Home) (content : Except FileError String) :
    Except SettingsError Settings := Settings.ofMatches home i.options content

/-- Carries out the command from a state of the client. -/
def start {σ ε : Type} (i : Invocation) (b : Workbench σ ε) (client : σ) :
    Except (CommandFailure ε) String × Run σ ε :=
  match Command.ofMatches i.command i.options with
  | .ok command => command.start b client
  | .error lacking => (.error (.incomplete lacking), { client, events := [] })

end Invocation

end TokenEscrow

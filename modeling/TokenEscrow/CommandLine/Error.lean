import TokenEscrow.CommandLine.Option

/-!
# Refused command lines

Why a command line does not name a command to carry out. Asking for help or for
the version counts: both end the reading of the command line, and the text asked
for takes the place of a message.
-/

namespace TokenEscrow

/-- A guess at what an unknown option was meant to be. -/
inductive Hint
  /-- another word for the option -/
  | option (long : String)
  /-- another place for it -/
  | afterCommand (long command : String)
  deriving DecidableEq, Repr

/-- Why a command line is refused. -/
inductive UsageError
  /-- a help page was asked for -/
  | help (page : String)
  /-- the version was asked for -/
  | version (text : String)
  /-- no command was named; the answer is a help page -/
  | noCommand (page : String)
  | unknownArgument (shown : String) (hint : Option Hint)
  /-- a word that resembles a command -/
  | misspeltCommand (word guess : String)
  /-- a help page was asked for a command that does not exist -/
  | unknownCommand (word : String)
  | missingOptions (options : List OptionSpec)
  | emptyValue (option : OptionSpec)
  | repeatedOption (option : OptionSpec)
  | unknownChoice (option : OptionSpec) (value : String)
  | badValue (option : OptionSpec) (reason : String)
  deriving DecidableEq, Repr

/-- The wording of a hint, on a line of its own. -/
def Hint.message : Hint → String
  | option long => s!"\n\tDid you mean --{long}?"
  | afterCommand long command =>
    s!"\n\tDid you mean to put '--{long}' after the subcommand '{command}'?"

namespace UsageError

/-- The wording of the error. -/
def message : UsageError → String
  | help page | noCommand page => page
  | version text => text
  | unknownArgument shown hint =>
    s!"error: Found argument '{shown}' which wasn't expected, or isn't valid in this context" ++
      (hint.map Hint.message).getD ""
  | misspeltCommand word guess =>
    s!"error: The subcommand '{word}' wasn't recognized\n\tDid you mean '{guess}'?"
  | unknownCommand word => s!"error: The subcommand '{word}' wasn't recognized"
  | missingOptions options =>
    "error: The following required arguments were not provided:" ++
      String.join (options.map fun o => "\n    " ++ o.shown)
  | emptyValue option =>
    s!"error: The argument '{option.shown}' requires a value but none was supplied"
  | repeatedOption option =>
    s!"error: The argument '{option.shown}' was provided more than once, " ++
      "but cannot be used multiple times"
  | unknownChoice option value =>
    let choices := option.rule.choices.mergeSort fun a b => a ≤ b
    s!"error: '{value}' isn't a valid value for '{option.shown}'\n\t[possible values: " ++
      ", ".intercalate choices ++ "]"
  | badValue option reason => s!"error: Invalid value for '{option.shown}': {reason}"

/-- Whether the text was asked for, so that it is no error. -/
def isAnswer : UsageError → Bool
  | help _ | version _ => true
  | _ => false

end UsageError

end TokenEscrow

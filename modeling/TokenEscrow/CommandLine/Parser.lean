import TokenEscrow.CommandLine.Error
import TokenEscrow.CommandLine.Help
import TokenEscrow.CommandLine.Matches
import TokenEscrow.Text.Similarity

/-!
# Reading the command line

The words of a command line are read from left to right (`Level.scan`), first
those up to the name of the command, then those of the command. After that it is
checked, for the command before the program, that what was read is complete and
acceptable (`Level.finish`).

A word that starts with a hyphen always starts a new option, except the hyphen
alone; so a value that starts with one has to be written behind an equals sign.
The word `--` ends the options, and since there is nothing else to write, every
word after it is refused.

What is wrong about single options is reported in the order in which they were
first used, missing options before anything else.
-/

namespace TokenEscrow

/-! ## Levels -/

/-- One level of the command line: the program, or a command. -/
structure Level where
  options : List OptionSpec
  /-- the commands that may be named here, with all their options -/
  commands : List (CommandSpec × List OptionSpec)
  /-- the words that may stand for a command -/
  commandNames : List String
  helpPage : String
  versionText : String

/-- What was read on one level. -/
structure Scan where
  /-- the options that were met, with their values -/
  noted : Matches := []
  /-- the option that the next word may be a value of -/
  pending : Option OptionSpec := none
  /-- `--` was read -/
  ended : Bool := false

namespace Level

/-- The option with a word. -/
def long? (l : Level) (word : String) : Option OptionSpec := l.options.find? fun o => o.long == word

/-- The option with a letter. -/
def short? (l : Level) (letter : Char) : Option OptionSpec :=
  l.options.find? fun o => o.short == some letter

/-- The words of all options, those of the two common flags included. -/
def longs (l : Level) : List String := l.options.map OptionSpec.long ++ ["help", "version"]

/-! ## Refusing words -/

/-- A guess at an unknown option: a word of this level, or one of a command that is named further
on. Of several commands the one named first counts. -/
def hint? (l : Level) (word : String) (rest : List String) : Option Hint :=
  match Similarity.best? word l.longs with
  | some long => some (.option long)
  | none =>
    let guesses := l.commands.filterMap fun (c, options) => do
      let long ← Similarity.best? word (options.map OptionSpec.long)
      let place ← rest.idxOf? c.name
      return (place, Hint.afterCommand long c.name)
    let earlier (best : Option (Nat × Hint)) (guess : Nat × Hint) : Option (Nat × Hint) :=
      match best with
      | none => some guess
      | some b => if guess.1 < b.1 then some guess else some b
    (guesses.foldl earlier none).map Prod.snd

/-- The error for a word that is neither option nor value. -/
def refuse (l : Level) (word : String) : UsageError :=
  match Similarity.best? word l.commandNames with
  | some guess => .misspeltCommand word guess
  | none => .unknownArgument word none

/-! ## Reading options -/

/-- Notes an occurrence of an option, and a value if there is one. Without a value the next word
may be one. -/
def note (s : Scan) (o : OptionSpec) (value : Option (List Char)) : Scan :=
  let ms := s.noted.occur o.name
  match value with
  | some v => { s with
      noted := ms.addValue o.name (String.ofList (v.dropWhile (· == '='))), pending := none }
  | none => { s with noted := ms, pending := if o.takesValue then some o else none }

/-- Reads a word that starts with two hyphens; `rest` are the words after it. -/
def readLong (l : Level) (s : Scan) (word : String) (rest : List String) :
    Except UsageError Scan :=
  let body := word.toList.dropWhile (· == '-')
  let name := String.ofList (body.takeWhile (· != '='))
  let value := match body.dropWhile (· != '=') with
    | '=' :: v => some v
    | _ => none
  if name = "help" then .error (.help l.helpPage)
  else if name = "version" then .error (.version l.versionText)
  else match l.long? name with
    | some o => .ok (note s o (if o.takesValue then value else none))
    | none => .error (.unknownArgument ("--" ++ name) (l.hint? name rest))

/-- Reads the letters of a word that starts with one hyphen. The first letter of an option with a
value ends them: what follows is the value. -/
def readShort (l : Level) (s : Scan) : List Char → Except UsageError Scan
  | [] => .ok s
  | c :: rest =>
    if c = 'h' then .error (.help l.helpPage)
    else if c = 'V' then .error (.version l.versionText)
    else match l.short? c with
      | none => .error (.unknownArgument (String.ofList ['-', c]) none)
      | some o =>
        if o.takesValue then .ok (note s o (if rest.isEmpty then none else some rest))
        else readShort l (note s o none) rest

/-- Where reading stopped. -/
inductive Stop
  /-- at the end -/
  | atEnd
  /-- at the word `help`, before the given words -/
  | atHelp (rest : List String)
  /-- at the name of a command, before the given words -/
  | atCommand (c : CommandSpec) (options : List OptionSpec) (rest : List String)

/-- Where reading stops at a word that names a command. -/
def stop? (l : Level) (word : String) (rest : List String) : Option Stop :=
  match l.commands.find? fun (c, _) => c.name == word with
  | some (c, options) => some (.atCommand c options rest)
  | none => if l.commandNames.contains word then some (.atHelp rest) else none

/-- Reads words up to the name of a command. -/
def scan (l : Level) (s : Scan) : List String → Except UsageError (Scan × Stop)
  | [] => .ok (s, .atEnd)
  | word :: rest =>
    if s.ended then .error (l.refuse word)
    else if word = "--" then scan l { s with ended := true } rest
    else match (if s.pending.isNone then l.stop? word rest else none) with
      | some stop => .ok (s, stop)
      | none =>
        match word.toList with
        | '-' :: '-' :: _ => do scan l (← l.readLong s word rest) rest
        | '-' :: c :: letters => do
          scan l (← l.readShort { s with pending := none } (c :: letters)) rest
        | _ => match s.pending with
          | none => .error (l.refuse word)
          | some o =>
            scan l { s with noted := s.noted.addValue o.name word, pending := none } rest

/-! ## Checking options -/

/-- Refuses a command line on which options are missing. -/
def checkMissing (l : Level) (ms : Matches) : Except UsageError Unit :=
  let absent := l.options.filter fun o => !ms.has o.name
  let missing := absent.filter OptionSpec.required
  if !missing.isEmpty then .error (.missingOptions (OptionSpec.sorted missing))
  else
    let wanted (o : OptionSpec) : Bool := match o.requiredIf with
      | some (other, value) => (ms.values other).contains value
      | none => false
    match absent.find? wanted with
    | some o => .error (.missingOptions [o])
    | none => .ok ()

/-- Checks a value of an option. -/
def checkValue (o : OptionSpec) (value : String) : Except UsageError Unit :=
  match o.rule with
  | .oneOf choices => if choices.contains value then .ok () else .error (.unknownChoice o value)
  | rule => match rule.fault? value with
    | some reason => .error (.badValue o reason)
    | none => .ok ()

/-- Checks what was read of an option. -/
def checkMatch (l : Level) (m : Match) : Except UsageError Unit :=
  match l.options.find? fun o => o.name == m.name with
  | none => .ok ()
  | some o => do
    if o.takesValue && m.values.isEmpty then throw (.emptyValue o)
    m.values.forM (checkValue o)
    if 1 < m.occurrences && !o.repeatable then throw (.repeatedOption o)

/-- Fills in what was not written, and checks everything. -/
def finish (l : Level) (s : Scan) : Except UsageError Matches := do
  let ms := s.noted.fillIn l.options
  l.checkMissing ms
  match s.pending with
  | some o => if (ms.values o.name).isEmpty then throw (.emptyValue o)
  | none => pure ()
  ms.forM l.checkMatch
  return ms

end Level

/-! ## Whole command lines -/

namespace Grammar

/-- The level of the program. -/
def topLevel (g : Grammar) : Level where
  options := g.globals
  commands := g.commands.map fun c => (c, g.optionsOf c)
  commandNames := g.commandNames
  helpPage := g.topPage.text
  versionText := g.title ++ " " ++ g.version

/-- The level of a command. -/
def commandLevel (g : Grammar) (c : CommandSpec) : Level where
  options := g.optionsOf c
  commands := []
  commandNames := []
  helpPage := (g.commandPage [g.program, c.name] c).text
  versionText := HelpPage.wordsTitle [g.program, c.name]

/-- Reads the words after the name of the program: the command, and its options together with the
global ones. -/
def parse (g : Grammar) (words : List String) : Except UsageError (CommandName × Matches) := do
  match ← g.topLevel.scan {} words with
  | (_, .atEnd) => throw (.noCommand g.topPage.text)
  | (_, .atHelp rest) => match g.helpFor rest with
    | .ok page => throw (.help page.text)
    | .error word => throw (.unknownCommand word)
  | (before, .atCommand c _ rest) =>
    let level := g.commandLevel c
    let (after, _) ← level.scan {} rest
    let own ← level.finish after
    let outer ← g.topLevel.finish before
    return (c.command, Matches.inherit g.globals outer own)

end Grammar

end TokenEscrow

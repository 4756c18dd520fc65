import TokenEscrow.CommandLine.Grammar
import TokenEscrow.Text.Wrap

/-!
# Help pages

A page has a title, a line about its subject, the usage, and tables of what may
be written. Every table is sorted by name and has its own column for the texts;
long texts go on below their beginning, so that no line is wider than
`HelpPage.width`.
-/

namespace TokenEscrow

/-- One entry of a table. -/
structure HelpRow where
  /-- the letter of an option with its comma, if the table is one of options -/
  lead : Option String
  /-- what is written -/
  term : String
  /-- the text about it -/
  text : String

/-- A help page. -/
structure HelpPage where
  /-- name and version -/
  title : String
  about : String
  usage : String
  flags : List HelpRow
  options : List HelpRow
  arguments : List HelpRow
  commands : List HelpRow

namespace HelpRow

/-- Width of the lead of an option. -/
def leadWidth : Nat := 4

/-- The row of an option. -/
def ofOption (o : OptionSpec) : HelpRow where
  lead := some (match o.short with
    | some c => s!"-{c}, "
    | none => "    ")
  term := o.shown
  text :=
    let fallback := match o.fallback with
      | some value => [s!" [default: {value}]"]
      | none => []
    let choices := match o.rule.choices with
      | [] => []
      | words => [s!" [possible values: " ++ ", ".intercalate words ++ "]"]
    o.help ++ " ".intercalate (fallback ++ choices)

/-- The two flags that every page has. -/
def common : List HelpRow := [
  ⟨some "-h, ", "--help", "Prints help information"⟩,
  ⟨some "-V, ", "--version", "Prints version information"⟩]

/-- The word after `help`. -/
def helpSubject : HelpRow :=
  ⟨none, "<subcommand>...", "The subcommand whose help message to display"⟩

/-- What `help` does. -/
def helpAbout : String := "Prints this message or the help of the given subcommand(s)"

end HelpRow

namespace HelpPage

/-- Width of a page. -/
def width : Nat := 120

/-- Blanks. -/
def blanks (n : Nat) : String := String.ofList (List.replicate n ' ')

/-- The lines of a row in a table whose longest term is `longest` wide. -/
def rowText (longest : Nat) (r : HelpRow) : String :=
  let indent := 4 + (if r.lead.isSome then HelpRow.leadWidth else 0) + longest + 4
  let front := blanks 4 ++ r.lead.getD "" ++ r.term ++ blanks (longest - r.term.length + 4)
  front ++ ("\n" ++ blanks indent).intercalate (Wrap.lines (width - indent) r.text)

/-- A table under its heading; nothing when it is empty. -/
def tableText (heading : String) (rows : List HelpRow) : List String :=
  if rows.isEmpty then []
  else
    let longest := rows.foldl (fun n r => max n r.term.length) 0
    [heading ++ ":\n" ++ "\n".intercalate (rows.map (rowText longest))]

/-- The text of a page. -/
def text (p : HelpPage) : String :=
  p.title ++ "\n" ++ p.about ++ "\n\nUSAGE:\n    " ++ p.usage ++ "\n\n" ++
    "\n\n".intercalate (tableText "FLAGS" p.flags ++ tableText "OPTIONS" p.options ++
      tableText "ARGS" p.arguments ++ tableText "SUBCOMMANDS" p.commands)

/-- Rows in the order of their terms. -/
def sortedRows (rows : List HelpRow) : List HelpRow :=
  rows.mergeSort fun a b => a.term ≤ b.term

/-- The title of a page about the command that is called by these words. -/
def wordsTitle (words : List String) : String := "-".intercalate words ++ " "

/-- The usage of a command, given what may follow its options. -/
def commandUsage (words : List String) (options : List OptionSpec) (subject : Bool) : String :=
  let flags := options.filter fun o => !o.takesValue
  let values := options.filter OptionSpec.takesValue
  let required := OptionSpec.sorted (values.filter OptionSpec.required)
  " ".intercalate (words
    ++ (if flags.isEmpty then [] else ["[FLAGS]"])
    ++ (if values.any fun o => !o.required then ["[OPTIONS]"] else [])
    ++ required.map OptionSpec.shown
    ++ (if subject && values.any OptionSpec.repeatable then ["[--]"] else [])
    ++ (if subject then ["[subcommand]..."] else []))

end HelpPage

namespace Grammar

open HelpPage

/-- The rows of the flags and of the other options. -/
def optionRows (options : List OptionSpec) : List HelpRow × List HelpRow :=
  let rows (os : List OptionSpec) := (OptionSpec.sorted os).map HelpRow.ofOption
  (rows (options.filter fun o => !o.takesValue), rows (options.filter OptionSpec.takesValue))

/-- The page about the program. -/
def topPage (g : Grammar) : HelpPage :=
  let (flags, options) := optionRows g.globals
  { title := g.title ++ " " ++ g.version
    about := g.about
    usage := commandUsage [g.program] g.globals false ++ " <SUBCOMMAND>"
    flags := HelpRow.common ++ flags
    options
    arguments := []
    commands := sortedRows (⟨none, "help", HelpRow.helpAbout⟩ ::
      g.commands.map fun c => ⟨none, c.name, c.about⟩) }

/-- The page about a command, called by some words. -/
def commandPage (g : Grammar) (words : List String) (c : CommandSpec) : HelpPage :=
  let (flags, options) := optionRows (g.optionsOf c)
  { title := wordsTitle words
    about := c.about
    usage := commandUsage words (g.optionsOf c) false
    flags := HelpRow.common ++ flags
    options
    arguments := []
    commands := [] }

/-- The page about a command for somebody who asked about asking for help: it shows what may follow
`help`, and leaves out the common flags. -/
def subjectPage (g : Grammar) (words : List String) (c : Option CommandSpec) : HelpPage :=
  let own := match c with
    | some c => g.optionsOf c
    | none => []
  let (flags, options) := optionRows own
  { title := wordsTitle words
    about := (c.map CommandSpec.about).getD HelpRow.helpAbout
    usage := commandUsage words own true
    flags
    options
    arguments := [HelpRow.helpSubject]
    commands := [] }

/-- The page for the words after `help`, or the first of them that is no command. The last word
counts, unless it is `help` itself or comes after that word. -/
def helpFor (g : Grammar) (words : List String) : Except String HelpPage :=
  match words.find? fun w => !(g.commandNames.contains w) with
  | some unknown => .error unknown
  | none => match words.reverse with
    | [] => .ok g.topPage
    | final :: _ =>
      let called := g.program :: words
      if words.contains "help" then .ok (g.subjectPage called (g.command? final))
      else match g.command? final with
        | some c => .ok (g.commandPage called c)
        | none => .ok g.topPage

end Grammar

end TokenEscrow

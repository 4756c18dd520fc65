import TokenEscrow.Bytes.Base58
import TokenEscrow.Text.Unsigned
import TokenEscrow.Text.Url

/-!
# Options

What a command line may contain: options with a value, and flags, which are
options without one. An `OptionSpec` says how an option is written, whether it
has to be there, and which values it takes.
-/

namespace TokenEscrow

/-! ## Values -/

/-- Which values an option takes. -/
inductive ValueRule
  | any
  /-- one of a few words -/
  | oneOf (choices : List String)
  /-- the text of an address -/
  | address
  /-- an unsigned number of 64 bits -/
  | unsigned
  /-- the address of a node -/
  | url
  deriving DecidableEq, Repr

/-- The reason why a value breaks a rule, unless the rule is a choice. -/
def ValueRule.fault? (rule : ValueRule) (value : String) : Option String :=
  let shown (message : String) : Option String := some s!"error parsing '{value}': {message}"
  match rule with
  | .any | .oneOf _ => none
  | .address => match Address.read value with
    | .ok _ => none
    | .error e => shown (Address.errorMessage e)
  | .unsigned => match Unsigned.read value with
    | .ok _ => none
    | .error e => shown e.message
  | .url => match Url.check value with
    | .ok _ => none
    | .error e => some e.message

/-- The words of a choice. -/
def ValueRule.choices : ValueRule → List String
  | oneOf words => words
  | _ => []

/-! ## Options -/

/-- An option or flag. -/
structure OptionSpec where
  /-- the name it is known by inside the program; lists of options are sorted by it -/
  name : String
  /-- its letter behind one hyphen -/
  short : Option Char := none
  /-- its word behind two hyphens -/
  long : String
  /-- what its value is called; a flag has none -/
  valueName : Option String := none
  /-- the text about it on help pages -/
  help : String
  /-- it has to be there -/
  required : Bool := false
  /-- it has to be there when another option, by name, has a certain value -/
  requiredIf : Option (String × String) := none
  /-- it may be given more than once -/
  repeatable : Bool := false
  /-- the value when none is given -/
  fallback : Option String := none
  rule : ValueRule := .any
  deriving DecidableEq, Repr

namespace OptionSpec

/-- Whether the option has a value. -/
def takesValue (o : OptionSpec) : Bool := o.valueName.isSome

/-- The option as it is written. -/
def shown (o : OptionSpec) : String :=
  match o.valueName with
  | none => "--" ++ o.long
  | some value => s!"--{o.long} <{value}>" ++ (if o.repeatable then "..." else "")

/-- Options in the order of their names. -/
def sorted (options : List OptionSpec) : List OptionSpec :=
  options.mergeSort fun a b => a.name ≤ b.name

end OptionSpec

end TokenEscrow

import TokenEscrow.Yaml.Reader

/-!
# The configuration file

A configuration file is a YAML mapping. Its entries may stand in any order, and
entries with other names are passed over; it may also be a list of the values in
the order of the parts of `ConfigFile`. Values that have to be texts may be any
scalar, since how a scalar looks does not matter here.
-/

namespace TokenEscrow

/-- What a configuration file says. -/
structure ConfigFile where
  /-- the node; which one is asked is up to the command line alone -/
  jsonRpcUrl : String
  websocketUrl : String
  /-- where the usual keypair is -/
  keypairPath : String
  /-- names for addresses -/
  addressLabels : List (String × String) := []
  commitment : String := ""
  deriving DecidableEq, Repr

namespace ConfigFile

/-- The values of a mapping under a name. -/
def valuesOf (entries : List (String × Yaml)) (name : String) : List Yaml :=
  (entries.filter fun entry => entry.1 == name).map Prod.snd

/-- The only value under a name, if there is any; `none` when there are several. -/
def atMostOne (values : List Yaml) : Option (Option Yaml) :=
  match values with
  | [] => some none
  | [value] => some (some value)
  | _ => none

/-- A file from the values of its parts, of which the last two may be missing. -/
def ofValues? (url socket path : Yaml) (labels commitment : Option Yaml) : Option ConfigFile := do
  return {
    jsonRpcUrl := ← url.text?
    websocketUrl := ← socket.text?
    keypairPath := ← path.text?
    addressLabels := ← (labels.map Yaml.textEntries?).getD (some [])
    commitment := ← (commitment.map Yaml.text?).getD (some "") }

/-- The file that a document describes. -/
def ofYaml? : Yaml → Option ConfigFile
  | .mapping entries => do
    let entries ← entries.mapM fun (name, value) => return (← name.text?, value)
    let part (name : String) : Option (Option Yaml) := atMostOne (valuesOf entries name)
    ofValues? (← (← part "json_rpc_url")) (← (← part "websocket_url"))
      (← (← part "keypair_path")) (← part "address_labels") (← part "commitment")
  | .sequence (url :: socket :: path :: rest) =>
    if rest.length ≤ 2 then ofValues? url socket path rest[0]? rest[1]? else none
  | _ => none

/-- The file with a text. -/
def read? (text : String) : Option ConfigFile := do ofYaml? (← Yaml.read? text)

end ConfigFile

end TokenEscrow

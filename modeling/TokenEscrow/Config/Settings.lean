import TokenEscrow.Command.Names
import TokenEscrow.CommandLine.Grammar
import TokenEscrow.CommandLine.Matches
import TokenEscrow.Config.File
import TokenEscrow.Files.Basic
import TokenEscrow.Log.Filter
import TokenEscrow.Report.Basic

/-!
# Settings

What holds for a command whatever it is: which node to ask, which keypair to
use, and how to answer. The command line decides first, then the configuration
file, then the usual places below the home directory.

The configuration file only ever contributes the keypair. It may be missing as
long as nobody asked for it.
-/

namespace TokenEscrow

/-! ## Usual places -/

/-- The directory with the files of a user. -/
structure Home where
  path : String := "home"
  deriving DecidableEq, Repr

namespace Home

/-- A place below the home directory. -/
def below (h : Home) (path : String) : String :=
  if h.path.toList.getLast? = some '/' then h.path ++ path else h.path ++ "/" ++ path

/-- The usual configuration file. -/
def configFile (h : Home) : String := h.below ".config/solana/cli/config.yml"

/-- The usual keypair file. -/
def keypairFile (h : Home) : String := h.below ".config/solana/id.json"

end Home

/-! ## Settings -/

/-- Why there are no settings. -/
inductive SettingsError
  /-- the configuration file is missing or cannot be made sense of -/
  | noConfigFile (path : String)
  deriving DecidableEq, Repr

/-- The wording of the error. -/
def SettingsError.message : SettingsError → String
  | noConfigFile path => s!"Could not find config file `{path}`"

/-- What holds for a command whatever it is. -/
structure Settings where
  keypairPath : String
  jsonRpcUrl : String
  /-- program of the instructions -/
  program : Address
  format : OutputFormat
  verbose : Bool
  deriving DecidableEq

namespace Settings

/-- The node to ask: the one given, or that of the cluster. -/
def urlOf (ms : Matches) : String :=
  match ms.value? "json_rpc_url" with
  | some url => url
  | none => (((ms.value? "env").bind Cluster.ofName?).getD .devnet).url

/-- The format to answer in. -/
def formatOf (ms : Matches) : OutputFormat :=
  match ms.value? "output_format" with
  | some "json" => .json
  | some "json-compact" => .jsonCompact
  | _ => if ms.has "verbose" then .displayVerbose else .display

/-- The program to use. -/
def programOf (ms : Matches) : Address :=
  match (ms.value? "program_id").map Address.read with
  | some (.ok program) => program
  | _ => Known.metadataProgram

/-- The path of the configuration file. -/
def configPath (home : Home) (ms : Matches) : String :=
  (ms.value? "config_file").getD home.configFile

/-- The place of the keypair according to the configuration file, given the outcome of reading that
file. -/
def configuredKeypair (home : Home) (ms : Matches) (content : Except FileError String) :
    Except SettingsError String :=
  let failure := SettingsError.noConfigFile (configPath home ms)
  match content with
  | .ok text => match ConfigFile.read? text with
    | some file => .ok file.keypairPath
    | none => .error failure
  | .error e =>
    if 0 < ms.occurrences "config_file" || e.exists? then .error failure
    else .ok home.keypairFile

/-- The settings of a command line, given the outcome of reading the configuration file. -/
def ofMatches (home : Home) (ms : Matches) (content : Except FileError String) :
    Except SettingsError Settings := do
  let configured ← configuredKeypair home ms content
  return {
    keypairPath := (ms.value? "keypair").getD configured
    jsonRpcUrl := urlOf ms
    program := programOf ms
    format := formatOf ms
    verbose := ms.has "verbose" }

end Settings

/-- The logging that a command line asks for. -/
def LogConfig.ofMatches (ms : Matches) : LogConfig where
  level := ((ms.value? "log_level").bind LevelFilter.ofName?).getD (.upTo .info)
  explicit := 0 < ms.occurrences "log_level"

end TokenEscrow

import TokenEscrow.Address.Known
import TokenEscrow.Command.Names
import TokenEscrow.CommandLine.Option
import TokenEscrow.Instruction.Basic
import TokenEscrow.Log.Filter

/-!
# The grammar of the command line

A `Grammar` has options that may stand before and after the name of a command,
and commands with options of their own. `escrowGrammar` is the one of this
program.
-/

namespace TokenEscrow

/-- A command and its options. -/
structure CommandSpec where
  command : CommandName
  /-- one line about it -/
  about : String
  /-- its own options in the order of their declaration -/
  options : List OptionSpec
  deriving DecidableEq, Repr

/-- The name of a command. -/
def CommandSpec.name (c : CommandSpec) : String := c.command.name

/-- What a command line may look like. -/
structure Grammar where
  /-- the name that the program is called by -/
  program : String
  /-- its title on help pages -/
  title : String
  version : String
  /-- one line about it -/
  about : String
  /-- options that may stand anywhere -/
  globals : List OptionSpec
  commands : List CommandSpec

namespace Grammar

/-- The words that may stand for a command. -/
def commandNames (g : Grammar) : List String := g.commands.map CommandSpec.name ++ ["help"]

/-- The command with a name. -/
def command? (g : Grammar) (name : String) : Option CommandSpec :=
  g.commands.find? fun c => c.name == name

/-- All options of a command. -/
def optionsOf (g : Grammar) (c : CommandSpec) : List OptionSpec := c.options ++ g.globals

end Grammar

/-! ## Options -/

namespace OptionSpec

/-- The mint of the token that carries the escrow. -/
def mint : OptionSpec where
  name := "mint"
  long := "mint"
  valueName := some "MINT_ADDRESS"
  help := "Mint of the NFT the escrow is attached to"
  required := true
  rule := .address

/-- The mint of a token inside an escrow. -/
def attributeMint : OptionSpec where
  name := "attribute_mint"
  long := "attribute-mint"
  valueName := some "MINT_ADDRESS"
  help := "Mint of the token held by the escrow"
  rule := .address

/-- A number of tokens. -/
def amount : OptionSpec where
  name := "amount"
  long := "amount"
  valueName := some "AMOUNT"
  help := "Number of tokens to move"
  rule := .unsigned

/-- The options that may stand anywhere, given the place of the usual configuration file. -/
def globals (configFile : String) : List OptionSpec := [
  { name := "config_file", short := some 'C', long := "config", valueName := some "PATH"
    help := "Configuration file to use"
    fallback := some configFile },
  { name := "env", short := some 'e', long := "env", valueName := some "CLUSTER"
    help := "Cluster to operate on"
    fallback := some Cluster.devnet.name
    rule := .oneOf (Cluster.all.map Cluster.name) },
  { name := "json_rpc_url", short := some 'r', long := "rpc", valueName := some "URL"
    help := "JSON RPC URL for the cluster. Overrides --env."
    rule := .url },
  { name := "keypair", short := some 'k', long := "keypair", valueName := some "KEYPAIR"
    help := "Filepath of the signing keypair. Default from the configuration file." },
  { name := "log_level", short := some 'l', long := "log-level", valueName := some "LEVEL"
    help := "Log level. When given, overrides RUST_LOG."
    fallback := some "info"
    rule := .oneOf LogConfig.levelNames },
  { name := "program_id", long := "program-id", valueName := some "ADDRESS"
    help := "Token metadata program id"
    fallback := some Known.metadataProgram.toText
    rule := .address },
  { name := "output_format", long := "output", valueName := some "FORMAT"
    help := "Return information in specified output format"
    rule := .oneOf ["json", "json-compact"] },
  { name := "verbose", short := some 'v', long := "verbose"
    help := "Show additional information" }]

end OptionSpec

/-! ## Commands -/

namespace CommandSpec

/-- The number moved when none is given. -/
def amountWithFallback : OptionSpec :=
  { OptionSpec.amount with fallback := some (toString defaultAmount.toNat) }

/-- The mint of a token inside an escrow, where it has to be given. -/
def requiredAttributeMint : OptionSpec := { OptionSpec.attributeMint with required := true }

/-- Sets up a client. -/
def create : CommandSpec where
  command := .create
  about := "Set up a client for the configured cluster and keypair"
  options := [{ OptionSpec.amount with
    short := some 'a', help := "Amount to escrow. Currently ignored." }]

/-- Creates the escrow attached to a token. -/
def createEscrow : CommandSpec where
  command := .createEscrow
  about := "Create the escrow account attached to an NFT"
  options := [.mint]

/-- Deposits tokens. -/
def transferIn : CommandSpec where
  command := .transferIn
  about := "Deposit tokens into an escrow"
  options := [
    .mint,
    requiredAttributeMint,
    { name := "constraint_model", long := "constraint-model", valueName := some "ADDRESS"
      help := "Constraint model governing the escrow"
      required := true
      rule := .address },
    amountWithFallback,
    { name := "index", long := "index", valueName := some "INDEX"
      help := "Index of the constraint the deposit satisfies"
      fallback := some (toString defaultIndex.toNat)
      rule := .unsigned }]

/-- Withdraws tokens. -/
def transferOut : CommandSpec where
  command := .transferOut
  about := "Withdraw tokens from an escrow"
  options := [.mint, requiredAttributeMint, amountWithFallback]

/-- Closes the escrow attached to a token. -/
def closeEscrow : CommandSpec where
  command := .closeEscrow
  about := "Close the escrow account attached to an NFT"
  options := [.mint]

/-- Creates a constraint model. -/
def createConstraintModel : CommandSpec where
  command := .createConstraintModel
  about := "Create an escrow constraint model owned by the keypair"
  options := [
    { name := "name", long := "name", valueName := some "NAME"
      help := "Name of the model, at most 32 bytes"
      required := true }]

/-- Appends a constraint to a model. -/
def addConstraint : CommandSpec where
  command := .addConstraint
  about := "Append a constraint to an escrow constraint model"
  options := [
    { name := "model", long := "model", valueName := some "ADDRESS"
      help := "Constraint model address"
      required := true
      rule := .address },
    { name := "name", long := "name", valueName := some "NAME"
      help := "Name of the constraint"
      required := true },
    { name := "token_limit", long := "token-limit", valueName := some "LIMIT"
      help := "Maximum number of tokens the constraint admits"
      required := true
      rule := .unsigned },
    { name := "constraint_type", long := "constraint-type", valueName := some "TYPE"
      help := "What the constraint admits"
      fallback := some ConstraintKind.none.name
      rule := .oneOf (ConstraintKind.all.map ConstraintKind.name) },
    { name := "collection", long := "collection", valueName := some "MINT_ADDRESS"
      help := "Collection mint, for --constraint-type collection"
      requiredIf := some ("constraint_type", ConstraintKind.collection.name)
      rule := .address },
    { name := "token", long := "token", valueName := some "MINT_ADDRESS"
      help := "Admitted mint, for --constraint-type tokens. May be repeated."
      requiredIf := some ("constraint_type", ConstraintKind.tokens.name)
      repeatable := true
      rule := .address }]

/-- Shows the addresses around an escrow. -/
def address : CommandSpec where
  command := .address
  about := "Derive escrow addresses without contacting the cluster"
  options := [
    .mint,
    .attributeMint,
    { name := "owner", long := "owner", valueName := some "ADDRESS"
      help := "Holder of the escrow NFT. Defaults to the keypair address."
      rule := .address }]

/-- Shows the escrow attached to a token. -/
def showEscrow : CommandSpec where
  command := .showEscrow
  about := "Display the escrow account attached to an NFT"
  options := [.mint]

end CommandSpec

/-- The grammar of this program, given the place of the usual configuration file. -/
def escrowGrammar (configFile : String) : Grammar where
  program := "bundt-cake"
  title := "bundt-cake-cli"
  version := "0.1.0"
  about := "Bundt Cake command-line utility for token-metadata escrows"
  globals := OptionSpec.globals configFile
  commands := [.create, .createEscrow, .transferIn, .transferOut, .closeEscrow,
    .createConstraintModel, .addConstraint, .address, .showEscrow]

end TokenEscrow

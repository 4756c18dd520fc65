/-!
# Names on the command line

The commands, clusters and kinds of constraint that a command line names. Each
has one spelling, in small letters with hyphens, and an exact one: reading a name
never guesses.
-/

namespace TokenEscrow

/-! ## Commands -/

/-- What the program can be asked to do. -/
inductive CommandName
  | create
  | createEscrow
  | transferIn
  | transferOut
  | closeEscrow
  | createConstraintModel
  | addConstraint
  | address
  | showEscrow
  deriving DecidableEq, Repr

namespace CommandName

/-- All commands. -/
def all : List CommandName :=
  [create, createEscrow, transferIn, transferOut, closeEscrow, createConstraintModel,
    addConstraint, address, showEscrow]

/-- The spelling of a command. -/
def name : CommandName → String
  | create => "create"
  | createEscrow => "create-escrow"
  | transferIn => "transfer-in"
  | transferOut => "transfer-out"
  | closeEscrow => "close-escrow"
  | createConstraintModel => "create-constraint-model"
  | addConstraint => "add-constraint"
  | address => "address"
  | showEscrow => "show-escrow"

/-- The command as one word. -/
def label : CommandName → String
  | create => "Create"
  | createEscrow => "CreateEscrow"
  | transferIn => "TransferIn"
  | transferOut => "TransferOut"
  | closeEscrow => "CloseEscrow"
  | createConstraintModel => "CreateConstraintModel"
  | addConstraint => "AddConstraint"
  | address => "Address"
  | showEscrow => "ShowEscrow"

/-- The command with a spelling. -/
def ofName? (name : String) : Option CommandName := all.find? fun c => c.name == name

end CommandName

/-! ## Clusters -/

/-- The networks with a name. -/
inductive Cluster
  | mainnetBeta
  | devnet
  | testnet
  | localnet
  deriving DecidableEq, Repr

namespace Cluster

/-- All clusters. -/
def all : List Cluster := [mainnetBeta, devnet, testnet, localnet]

/-- The spelling of a cluster. -/
def name : Cluster → String
  | mainnetBeta => "mainnet-beta"
  | devnet => "devnet"
  | testnet => "testnet"
  | localnet => "localnet"

/-- The cluster as one word. -/
def label : Cluster → String
  | mainnetBeta => "MainnetBeta"
  | devnet => "Devnet"
  | testnet => "Testnet"
  | localnet => "Localnet"

/-- Where a cluster is reached. -/
def url : Cluster → String
  | mainnetBeta => "https://api.mainnet-beta.solana.com"
  | devnet => "https://api.devnet.solana.com"
  | testnet => "https://api.testnet.solana.com"
  | localnet => "http://localhost:8899"

/-- The cluster with a spelling. -/
def ofName? (name : String) : Option Cluster := all.find? fun c => c.name == name

end Cluster

/-! ## Kinds of constraint -/

/-- The kinds of constraint, without what belongs to them. -/
inductive ConstraintKind
  | none
  | collection
  | tokens
  deriving DecidableEq, Repr

namespace ConstraintKind

/-- All kinds. -/
def all : List ConstraintKind := [none, collection, tokens]

/-- The spelling of a kind. -/
def name : ConstraintKind → String
  | none => "none"
  | collection => "collection"
  | tokens => "tokens"

/-- The kind as one word. -/
def label : ConstraintKind → String
  | none => "None"
  | collection => "Collection"
  | tokens => "Tokens"

/-- The kind with a spelling. -/
def ofName? (name : String) : Option ConstraintKind := all.find? fun k => k.name == name

end ConstraintKind

/-- The wording for a name that is none of those known. -/
def unknownNameMessage : String := "Matching variant not found"

end TokenEscrow

import TokenEscrow.Report.Basic

/-!
# The records that commands answer with

All addresses and signatures are kept as text here: a report is read by people
and by other programs, and does no further work.
-/

namespace TokenEscrow

open Json.Reading Json.RecordReader

/-! ## Clients -/

/-- A client that was set up. -/
structure ClientReport where
  payer : String
  jsonRpcUrl : String
  programId : String
  /-- an amount that was given and has no use -/
  ignoredAmount : Option UInt64
  deriving DecidableEq, Repr

namespace ClientReport

/-- The line about an unused amount. -/
def amountLine (r : ClientReport) : String :=
  match r.ignoredAmount with
  | some amount => s!"Amount {amount.toNat} ignored, nothing was sent\n"
  | none => ""

/-- Payer and address of the node; the program on demand. -/
instance : Report ClientReport where
  recordName := "CliClient"
  reader := ClientReport.mk <$> field "payer" text <*> field "jsonRpcUrl" text
    <*> field "programId" text <*> optionalField "ignoredAmount" whole
  fields r :=
    [("payer", .string r.payer), ("jsonRpcUrl", .string r.jsonRpcUrl),
      ("programId", .string r.programId)]
      ++ Report.optionalField "ignoredAmount" (r.ignoredAmount.map .ofUInt64)
  display r :=
    Report.line "Payer:" r.payer ++ Report.line "RPC URL:" r.jsonRpcUrl ++ r.amountLine
  displayVerbose r :=
    Report.line "Payer:" r.payer ++ Report.line "RPC URL:" r.jsonRpcUrl
      ++ Report.line "Program:" r.programId ++ r.amountLine

end ClientReport

/-! ## Escrows and transfers -/

/-- An escrow that was created. -/
structure EscrowReport where
  mint : String
  escrow : String
  deriving DecidableEq, Repr

/-- The address alone, or the address under its name, or with its mint. -/
instance : Report EscrowReport where
  recordName := "CliEscrow"
  reader := EscrowReport.mk <$> field "mint" text <*> field "escrow" text
  fields r := [("mint", .string r.mint), ("escrow", .string r.escrow)]
  display r := Report.line "Escrow:" r.escrow
  displayQuiet r := r.escrow ++ "\n"
  displayVerbose r := Report.line "Mint:" r.mint ++ Report.line "Escrow:" r.escrow

/-- Tokens that were moved. -/
structure TransferReport where
  escrow : String
  attributeMint : String
  amount : UInt64
  /-- the constraint a deposit was checked against -/
  index : Option UInt64
  signature : String
  deriving DecidableEq, Repr

/-- The signature, or everything. -/
instance : Report TransferReport where
  recordName := "CliTransfer"
  reader := TransferReport.mk <$> field "escrow" text <*> field "attributeMint" text
    <*> field "amount" whole <*> optionalField "index" whole <*> field "signature" text
  fields r :=
    [("escrow", .string r.escrow), ("attributeMint", .string r.attributeMint),
      ("amount", .ofUInt64 r.amount)]
      ++ Report.optionalField "index" (r.index.map .ofUInt64)
      ++ [("signature", .string r.signature)]
  display r := Report.line "Signature:" r.signature
  displayVerbose r :=
    Report.line "Escrow:" r.escrow ++ Report.line "Attribute mint:" r.attributeMint
      ++ Report.line "Amount:" (toString r.amount.toNat)
      ++ (match r.index with
        | some index => Report.line "Constraint index:" (toString index.toNat)
        | none => "")
      ++ Report.line "Signature:" r.signature

/-! ## Signatures -/

/-- A transaction that was handed over. -/
structure SignatureReport where
  signature : String
  deriving DecidableEq, Repr

/-- The signature after an empty line. -/
instance : Report SignatureReport where
  recordName := "CliSignature"
  reader := SignatureReport.mk <$> field "signature" text
  fields r := [("signature", .string r.signature)]
  display r := "\nSignature: " ++ r.signature ++ "\n"

/-! ## Constraint models -/

/-- A constraint model that was created. -/
structure ModelReport where
  name : String
  address : String
  signature : String
  deriving DecidableEq, Repr

/-- Address and signature. -/
instance : Report ModelReport where
  recordName := "CliConstraintModel"
  reader := ModelReport.mk <$> field "name" text <*> field "address" text
    <*> field "signature" text
  fields r :=
    [("name", .string r.name), ("address", .string r.address),
      ("signature", .string r.signature)]
  display r :=
    Report.line "Constraint model:" r.address ++ Report.line "Signature:" r.signature

/-! ## Addresses -/

/-- The addresses around an escrow. -/
structure AddressesReport where
  mint : String
  escrow : String
  metadata : String
  edition : String
  /-- who holds the token that carries the escrow -/
  owner : String
  escrowTokenAccount : String
  /-- mint of a token held by the escrow -/
  attributeMint : Option String
  /-- where deposits of that token come from -/
  attributeSource : Option String
  /-- where they go -/
  attributeDestination : Option String
  deriving DecidableEq, Repr

/-- The derived addresses; those for a held token when both are known. -/
instance : Report AddressesReport where
  recordName := "CliAddresses"
  reader := AddressesReport.mk <$> field "mint" text <*> field "escrow" text
    <*> field "metadata" text <*> field "edition" text <*> field "owner" text
    <*> field "escrowTokenAccount" text <*> optionalField "attributeMint" text
    <*> optionalField "attributeSource" text <*> optionalField "attributeDestination" text
  fields r :=
    [("mint", .string r.mint), ("escrow", .string r.escrow), ("metadata", .string r.metadata),
      ("edition", .string r.edition), ("owner", .string r.owner),
      ("escrowTokenAccount", .string r.escrowTokenAccount)]
      ++ Report.optionalField "attributeMint" (r.attributeMint.map .string)
      ++ Report.optionalField "attributeSource" (r.attributeSource.map .string)
      ++ Report.optionalField "attributeDestination" (r.attributeDestination.map .string)
  display r :=
    Report.line "Escrow:" r.escrow ++ Report.line "Metadata:" r.metadata
      ++ Report.line "Edition:" r.edition ++ Report.line "Escrow NFT account:" r.escrowTokenAccount
      ++ (match r.attributeSource, r.attributeDestination with
        | some source, some destination =>
          Report.line "Attribute source:" source ++ Report.line "Attribute escrowed:" destination
        | _, _ => "")

/-! ## Escrow accounts -/

/-- What the network holds under the address of an escrow. -/
structure AccountReport where
  escrow : String
  exists? : Bool
  owner : Option String
  lamports : UInt64
  dataLen : UInt64
  deriving DecidableEq, Repr

/-- The account, or that there is none. -/
instance : Report AccountReport where
  recordName := "CliEscrowAccount"
  reader := AccountReport.mk <$> field "escrow" text <*> field "exists" flag
    <*> optionalField "owner" text <*> field "lamports" whole <*> field "dataLen" length
  fields r :=
    [("escrow", .string r.escrow), ("exists", .bool r.exists?)]
      ++ Report.optionalField "owner" (r.owner.map .string)
      ++ [("lamports", .ofUInt64 r.lamports), ("dataLen", .ofUInt64 r.dataLen)]
  display r :=
    Report.line "Escrow:" r.escrow ++
      if !r.exists? then "Account does not exist\n"
      else (match r.owner with
          | some owner => Report.line "Owner:" owner
          | none => "")
        ++ Report.line "Lamports:" (toString r.lamports.toNat)
        ++ Report.line "Data length:" (toString r.dataLen.toNat)

end TokenEscrow

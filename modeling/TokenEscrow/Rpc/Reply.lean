import TokenEscrow.Bytes.Base64
import TokenEscrow.Client.Basic
import TokenEscrow.Json.Record
import TokenEscrow.Rpc.Version
import TokenEscrow.Zstd.Frame

/-!
# What nodes reply

The records in the replies of a node, as far as they are used. Most replies put
their value beside the context in which it was found (`Reading.inContext`).

An account that is there but cannot be made sense of (`EncodedAccount.decode?`)
counts as no account.
-/

namespace TokenEscrow

namespace Reply

open Json Json.Reading Json.RecordReader

/-- A whole number of 32 bits. -/
def smallWhole : Reading UInt64 := wholeBelow UInt32.size "u32"

/-- A version as a text. -/
def versionText : Reading Version := fun document => do
  match Version.read (← text document) with
  | .ok v => return v
  | .error e => throw (.badText e.message)

/-- The context of a reply: when, and by which software. -/
def context : Reading (UInt64 × Option Version) :=
  (Prod.mk <$> field "slot" whole <*> optionalField "apiVersion" versionText).read
    "RpcResponseContext"

/-- A value beside its context. -/
def inContext {α : Type} (read : Reading α) : Reading α :=
  ((fun _ a => a) <$> field "context" context <*> field "value" read).read "Response"

/-- A value beside its context that may be missing or `null`. -/
def optionalInContext {α : Type} (read : Reading α) : Reading (Option α) :=
  ((fun _ a => a) <$> field "context" context <*> optionalField "value" read).read "Response"

/-- The text of the version of the node. -/
def nodeVersion : Reading String :=
  ((fun version _ => version) <$> field "solana-core" text
    <*> optionalField "feature-set" smallWhole).read "RpcVersionInfo"

/-- The text of a block hash. -/
def blockhash : Reading String :=
  inContext <|
    ((fun hash _ => hash) <$> field "blockhash" text <*> field "lastValidBlockHeight" whole).read
      "RpcBlockhash"

/-- The text of a block hash beside the fees that went with it. -/
def fees : Reading String :=
  let calculator := (field "lamportsPerSignature" whole).read "FeeCalculator"
  inContext <|
    ((fun hash _ _ _ => hash) <$> field "blockhash" text <*> field "feeCalculator" calculator
      <*> field "lastValidSlot" whole <*> field "lastValidBlockHeight" whole).read "RpcFees"

/-! ## Accounts -/

/-- How the data of an account is written. -/
inductive DataEncoding
  | base58
  | base64
  /-- zipped, and then in base64 -/
  | base64Zstd
  /-- a name that stands for no encoding of bytes -/
  | other
  deriving DecidableEq, Repr

/-- The encoding with a name. -/
def DataEncoding.ofName? : String → Option DataEncoding
  | "base58" => some .base58
  | "base64" => some .base64
  | "base64+zstd" => some .base64Zstd
  | "binary" | "jsonParsed" => some .other
  | _ => none

/-- The data of an account as it is written. -/
inductive EncodedData
  /-- bytes in an encoding -/
  | bytes (text : String) (encoding : DataEncoding)
  /-- a document made by the node -/
  | document
  deriving DecidableEq, Repr

/-- The name of an encoding, or an object whose only field has that name and nothing in it. -/
def encodingOf? : Json → Option DataEncoding
  | .string name => DataEncoding.ofName? name
  | .object [(name, .null)] => DataEncoding.ofName? name
  | _ => none

/-- A document made by the node. -/
def parsedData : Reading EncodedData :=
  ((fun _ _ _ => EncodedData.document) <$> field "program" text
    <*> field "parsed" Reading.document <*> field "space" whole).read "ParsedAccount"

/-- The data of an account: a text in base58, a document, or a text with the name of its
encoding. -/
def data : Reading EncodedData
  | .string s => .ok (.bytes s .base58)
  | document =>
    match parsedData document with
    | .ok d => .ok d
    | .error _ =>
      match document with
      | .array [.string s, name] =>
        match encodingOf? name with
        | some encoding => .ok (.bytes s encoding)
        | none => .error (.noAlternative "UiAccountData")
      | _ => .error (.noAlternative "UiAccountData")

/-- An account as it is written. -/
structure EncodedAccount where
  lamports : UInt64
  data : EncodedData
  owner : String

/-- The account in a reply. -/
def account : Reading EncodedAccount :=
  ((fun lamports data owner _ _ _ => EncodedAccount.mk lamports data owner)
    <$> field "lamports" whole <*> field "data" data <*> field "owner" text
    <*> field "executable" flag <*> field "rentEpoch" whole <*> optionalField "space" whole).read
    "UiAccount"

/-- The bytes that are written; `none` when they cannot be decoded. -/
def EncodedData.decode? : EncodedData → Option Bytes
  | bytes text .base58 => Base58.decode? text
  | bytes text .base64 => Base64.decode? text
  | bytes text .base64Zstd => (Base64.decode? text).bind Zstd.decode?
  | bytes _ .other | document => none

/-- The account that is written; `none` when its data or owner cannot be decoded. -/
def EncodedAccount.decode? (a : EncodedAccount) : Option Account := do
  let data ← a.data.decode?
  match Address.read a.owner with
  | .ok owner => some { lamports := a.lamports, owner, data }
  | .error _ => none

end Reply

end TokenEscrow

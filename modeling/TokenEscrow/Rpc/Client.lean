import TokenEscrow.Rpc.Error
import TokenEscrow.Rpc.Reply
import TokenEscrow.Json.Printer

/-!
# A client that speaks to a node

The three requests of a `Client` in terms of the requests of a node. Before its
first other request the client asks for the version of the node, and it goes on
asking until it has one; later requests depend on it, because older nodes name
commitments differently, want transactions in another encoding, and hand out
block hashes together with fees.

The node itself is a `Transport`, which turns requests into replies. Every
exchange with it is kept in the state (`Node.exchanges`).
-/

namespace TokenEscrow

/-! ## Requests -/

/-- How settled the state has to be that an answer is about. -/
inductive Commitment
  | confirmed
  | finalized
  deriving DecidableEq, Repr

/-- The encodings of transactions. -/
inductive TransactionEncoding
  | base58
  | base64
  deriving DecidableEq, Repr

/-- The name of an encoding. -/
def TransactionEncoding.name : TransactionEncoding → String
  | base58 => "base58"
  | base64 => "base64"

/-- The text of a byte string in an encoding. -/
def TransactionEncoding.encode : TransactionEncoding → Bytes → String
  | base58, bs => Base58.encode bs
  | base64, bs => Base64.encode bs

/-- A request to a node. Commitments are given by the names that the node knows. -/
inductive RpcRequest
  | version
  | latestBlockhash (commitment : String)
  | fees (commitment : String)
  | send (transaction : Transaction) (encoding : TransactionEncoding) (commitment : String)
      (options : SendOptions)
  | account (address : Address) (commitment : String)
  deriving DecidableEq

namespace RpcRequest

/-- The method of a request. -/
def method : RpcRequest → String
  | version => "getVersion"
  | latestBlockhash _ => "getLatestBlockhash"
  | fees _ => "getFees"
  | send _ _ _ _ => "sendTransaction"
  | account _ _ => "getAccountInfo"

/-- The parameters of a request. -/
def params : RpcRequest → Json
  | version => .null
  | latestBlockhash commitment | fees commitment =>
    .array [.object [("commitment", .string commitment)]]
  | send transaction encoding commitment options =>
    .array [.string (encoding.encode (transaction.encode?.getD [])),
      .object [("encoding", .string encoding.name), ("maxRetries", .null),
        ("minContextSlot", .null), ("preflightCommitment", .string commitment),
        ("skipPreflight", .bool options.skipPreflight)]]
  | account address commitment =>
    .array [.string address.toText,
      .object [("commitment", .string commitment), ("dataSlice", .null),
        ("encoding", .string "base64+zstd"), ("minContextSlot", .null)]]

end RpcRequest

/-! ## Nodes -/

/-- Why no result came back. -/
inductive TransportError
  /-- nothing came back -/
  | unreachable (text : String)
  /-- an error came back -/
  | reply (code : Int) (text : String)
  deriving DecidableEq, Repr

/-- The error of a request that no result came back for. -/
def TransportError.toRpcError : TransportError → RpcError
  | unreachable text => .transport text
  | reply code text => .reply code text

/-- Turns requests into results, over a state. -/
abbrev Transport (σ : Type) := RpcRequest → σ → Except TransportError Json × σ

/-- A request and what came back. -/
structure RpcExchange where
  request : RpcRequest
  answer : Except TransportError Json

/-- What a client knows of its node. -/
structure Node (σ : Type) where
  transport : σ
  /-- version of the node, once it is known -/
  version : Option Version := none
  /-- all exchanges, in order -/
  exchanges : List RpcExchange := []

/-- A computation that makes requests. -/
abbrev NodeM (σ : Type) := ExceptT RpcError (StateM (Node σ))

namespace NodeM

variable {σ : Type} (transport : Transport σ)

/-- Makes a request. -/
def exchange (request : RpcRequest) : NodeM σ Json := do
  let node ← get
  let (answer, state) := transport request node.transport
  let exchanges := node.exchanges ++ [RpcExchange.mk request answer]
  set { node with transport := state, exchanges }
  match answer with
  | .ok result => return result
  | .error e => throw e.toRpcError

/-- Makes a request and reads the result. -/
def ask {α : Type} (request : RpcRequest) (read : Json.Reading α) : NodeM σ α := do
  match read (← exchange transport request) with
  | .ok a => return a
  | .error m => throw (.malformed m)

/-- The version of the node, asked for unless it is known. -/
def version : NodeM σ Version := do
  match (← get).version with
  | some v => return v
  | none =>
    let text ← tryCatch (ask transport .version Reply.nodeVersion) fun e => throw (.noVersion e)
    match Version.read text with
    | .ok v =>
      modify fun node => { node with version := some v }
      return v
    | .error e => throw (.badVersion e)

/-- The name that the node has for a commitment. -/
def commitmentName (c : Commitment) : NodeM σ String := do
  let old := (← version transport).precedes 1 5 5
  return match c, old with
    | .confirmed, false => "confirmed"
    | .confirmed, true => "singleGossip"
    | .finalized, false => "finalized"
    | .finalized, true => "max"

/-- The latest block hash. -/
def latestBlockhash : NodeM σ Hash := do
  let text ←
    if (← version transport).precedes 1 9 0 then
      ask transport (.fees (← commitmentName transport .confirmed)) Reply.fees
    else
      ask transport (.latestBlockhash (← commitmentName transport .confirmed)) Reply.blockhash
  match Hash.read text with
  | .ok hash => return hash
  | .error _ => throw .badHash

/-- Hands over a transaction. The node has to reply with the transaction's own first signature. -/
def send (transaction : Transaction) (options : SendOptions) : NodeM σ Signature := do
  let encoding :=
    if (← version transport).precedes 1 3 16 then TransactionEncoding.base58 else .base64
  let commitment ← commitmentName transport .finalized
  let text ← ask transport (.send transaction encoding commitment options) Json.Reading.text
  let own := transaction.signatures.headD (ByteVec.zero 64)
  match Signature.read text with
  | .error e => throw (.badSignature e)
  | .ok found => if found = own then return own else throw (.wrongSignature found own)

/-- What the reply about an account says. -/
def readAccount (address : Address) (reply : Json) : Except RpcError (Option Account) :=
  match reply with
  | .null => .error (.noAccountReply address)
  | reply => match Reply.optionalInContext Reply.account reply with
    | .ok encoded => .ok (encoded.bind Reply.EncodedAccount.decode?)
    | .error m => .error (.malformed m)

/-- The account under an address. -/
def account (address : Address) : NodeM σ (Option Account) := do
  let commitment ← commitmentName transport .confirmed
  let reply ← tryCatch (exchange transport (.account address commitment)) fun e =>
    throw (.accountRequest address e)
  match readAccount address reply with
  | .ok account => return account
  | .error e => throw e

end NodeM

/-- The client that speaks to a node. -/
def Node.client {σ : Type} (transport : Transport σ) : Client (Node σ) RpcError where
  latestBlockhash node := (NodeM.latestBlockhash transport).run.run node
  send transaction options node := (NodeM.send transport transaction options).run.run node
  account address node := (NodeM.account transport address).run.run node

end TokenEscrow

import TokenEscrow.Bytes.Base58
import TokenEscrow.Json.Mismatch
import TokenEscrow.Rpc.Version

/-!
# Errors of requests to a node

What can go wrong between asking a node and having its answer. Each layer keeps
the error of the layer below it.
-/

namespace TokenEscrow

/-- Why a request to a node failed. -/
inductive RpcError
  /-- the request did not reach the node, or no reply came back -/
  | transport (text : String)
  /-- the node replied with an error -/
  | reply (code : Int) (text : String)
  /-- the reply is not of the form that was wanted -/
  | malformed (m : Json.Mismatch)
  /-- a block hash in the reply is none -/
  | badHash
  /-- the reply to a transaction is no signature -/
  | badSignature (cause : Base58.TextError)
  /-- the reply to a transaction is the signature of another one -/
  | wrongSignature (found wanted : Signature)
  /-- the version of the node could not be asked for -/
  | noVersion (cause : RpcError)
  /-- the version of the node cannot be read -/
  | badVersion (cause : VersionError)
  /-- the reply about an account is empty -/
  | noAccountReply (address : Address)
  /-- the request for an account failed -/
  | accountRequest (address : Address) (cause : RpcError)
  deriving DecidableEq

/-- The wording of the error. -/
def RpcError.message : RpcError → String
  | transport text => "RPC request error: " ++ text
  | reply code text => s!"RPC response error {code}: {text} "
  | malformed m => m.message
  | badHash => "parse error: expected Hash"
  | badSignature cause => "parse error: expected " ++ Signature.errorMessage cause
  | wrongSignature found wanted =>
    s!"RPC request error: RPC node returned mismatched signature {found.toText}, " ++
      s!"expected {wanted.toText}"
  | noVersion cause => "RPC request error: cluster version query failed: " ++ cause.message
  | badVersion cause => "RPC request error: failed to parse cluster version: " ++ cause.message
  | noAccountReply address => "AccountNotFound: pubkey=" ++ address.toText
  | accountRequest address cause =>
    "AccountNotFound: pubkey=" ++ address.toText ++ ": " ++ cause.message

end TokenEscrow

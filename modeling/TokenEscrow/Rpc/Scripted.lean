import TokenEscrow.Rpc.Client

/-!
# A node that follows a script

For each method a list of replies, used in order. When none is left the node
cannot be reached any more.
-/

namespace TokenEscrow

/-- A scripted reply. -/
inductive ScriptedReply
  | result (document : Json)
  | error (code : Int) (text : String)
  /-- nothing comes back -/
  | unreachable (text : String)
  /-- the first signature of the transaction that was sent -/
  | echoSignature
  deriving Repr

namespace ScriptedReply

/-- What comes back for a request. -/
def answer (request : RpcRequest) : ScriptedReply → Except TransportError Json
  | result document => .ok document
  | error code text => .error (.reply code text)
  | unreachable text => .error (.unreachable text)
  | echoSignature => match request with
    | .send transaction _ _ _ =>
      .ok (.string (transaction.signatures.headD (ByteVec.zero 64)).toText)
    | _ => .ok .null

/-- The replies that are left, by method. -/
abbrev Table := List (String × List ScriptedReply)

/-- Takes the next reply for a method out of a table. -/
def take? (method : String) : Table → Option (ScriptedReply × Table)
  | [] => none
  | (name, replies) :: rest =>
    if name = method then
      match replies with
      | [] => none
      | reply :: more => some (reply, (name, more) :: rest)
    else (take? method rest).map fun (reply, rest) => (reply, (name, replies) :: rest)

/-- The node that follows a script. -/
def transport : Transport Table := fun request table =>
  match take? request.method table with
  | some (reply, table) => (reply.answer request, table)
  | none => (.error (.unreachable "no reply scripted"), table)

end ScriptedReply

end TokenEscrow

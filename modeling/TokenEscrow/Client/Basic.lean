import TokenEscrow.Instruction.Build
import TokenEscrow.Log.Message
import TokenEscrow.Transaction.Sign

/-!
# Clients and sessions

A `Client` is what stands between the escrow operations and a network: three
requests, each of which may fail. It is a plain value over a state `σ`, so a
scripted client and one that speaks to a node are two values of one type.

A `Session` is a computation against a client. It may stop with a `Failure`,
and it records every request with its answer and every log message as `Event`s,
in order: what happened is data that statements can talk about.
-/

namespace TokenEscrow

/-! ## Clients -/

/-- How a transaction is handed over. -/
structure SendOptions where
  /-- the node forwards the transaction without simulating it first -/
  skipPreflight : Bool := false
  deriving DecidableEq, Repr

/-- What a network holds under an address. -/
structure Account where
  lamports : UInt64
  /-- program the account belongs to -/
  owner : Address
  data : Bytes
  deriving DecidableEq

/-- The requests of the escrow operations, over a state `σ` and with failures in `ε`. -/
structure Client (σ ε : Type) where
  /-- the block hash to sign new transactions with -/
  latestBlockhash : σ → Except ε Hash × σ
  /-- hands over a signed transaction, without waiting for its effect -/
  send : Transaction → SendOptions → σ → Except ε Signature × σ
  /-- what is stored under an address, if anything -/
  account : Address → σ → Except ε (Option Account) × σ

/-! ## Sessions -/

/-- Something that happened during a session. -/
inductive Event (ε : Type)
  /-- a block hash was asked for -/
  | latestBlockhash (answer : Except ε Hash)
  /-- a transaction was handed over -/
  | send (transaction : Transaction) (options : SendOptions) (answer : Except ε Signature)
  /-- an account was asked for -/
  | account (address : Address) (answer : Except ε (Option Account))
  /-- a message was logged -/
  | log (message : LogMessage)

/-- Why an operation was abandoned without an error value of its own. -/
inductive Abort
  /-- an address could not be derived -/
  | noAddress
  /-- a message was too long for the wire -/
  | noWireForm
  deriving DecidableEq, Repr

/-- The wording of an abort. -/
def Abort.message : Abort → String
  | .noAddress => noAddressMessage
  | .noWireForm =>
    "called `Result::unwrap()` on an `Err` value: Custom(\"length larger than u16\")"

/-- Why a session stopped. -/
inductive Failure (ε : Type)
  /-- a request failed -/
  | client (error : ε)
  /-- signing failed -/
  | signer (error : SignerError)
  /-- an instruction was refused -/
  | program (error : EscrowError)
  /-- there is no such account -/
  | accountNotFound
  /-- the operation was abandoned -/
  | aborted (cause : Abort)

/-- The wording of a failure, given that of the client's errors. -/
def Failure.message {ε : Type} (clientMessage : ε → String) : Failure ε → String
  | .client e => "client error: " ++ clientMessage e
  | .signer e => "client error: " ++ e.message
  | .program e => "program error: " ++ e.programMessage
  | .accountNotFound => "account not found"
  | .aborted cause => cause.message

/-- The state of a running session. -/
structure Run (σ ε : Type) where
  /-- state of the client -/
  client : σ
  /-- what happened so far, in order -/
  events : List (Event ε)

/-- A computation against a client. -/
abbrev Session (σ ε : Type) := ExceptT (Failure ε) (StateM (Run σ ε))

namespace Session

variable {σ ε : Type}

/-- Notes an event. -/
def note (e : Event ε) : Session σ ε Unit :=
  modify fun run => { run with events := run.events ++ [e] }

/-- Logs a message. -/
def log (message : LogMessage) : Session σ ε Unit := note (.log message)

/-- Makes a request, notes it with its answer, and stops when it failed. -/
def request {α : Type} (event : Except ε α → Event ε) (ask : σ → Except ε α × σ) :
    Session σ ε α := do
  let run ← get
  let (answer, client) := ask run.client
  set { run with client }
  note (event answer)
  match answer with
  | .ok a => return a
  | .error e => throw (.client e)

/-- The result of building an instruction. -/
def ofBuild {α : Type} : Except BuildError α → Session σ ε α
  | .ok a => pure a
  | .error (.escrow e) => throw (.program e)
  | .error .noAddress => throw (.aborted .noAddress)

/-- A derived address. -/
def derive (d : Derivation) : Session σ ε Address := ofBuild (Instruction.derive d)

/-- Runs a session from a state of the client; what happened is counted from here. -/
def start {α : Type} (session : Session σ ε α) (client : σ) :
    Except (Failure ε) α × Run σ ε :=
  StateT.run (ExceptT.run session) { client, events := [] }

end Session

end TokenEscrow

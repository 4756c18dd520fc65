import TokenEscrow.Client.Sequencer

/-!
# A client that follows a script

Answers requests from memory: block hashes in rotation, the first signature of
each transaction, and a table of accounts. The script names the requests that
fail by their number, counted for each kind from zero over the whole session; a
request that fails counts like any other.
-/

namespace TokenEscrow

/-- The three kinds of request. -/
inductive RequestKind
  | blockhash
  | send
  | account
  deriving DecidableEq, Repr

/-- The name of a kind. -/
def RequestKind.name : RequestKind → String
  | blockhash => "blockhash"
  | send => "send"
  | account => "account"

/-- A failure that the script asked for. -/
structure ScriptedFailure where
  kind : RequestKind
  /-- number of the request among those of its kind -/
  number : Nat
  deriving DecidableEq, Repr

/-- The wording of a scripted failure. -/
def ScriptedFailure.message (f : ScriptedFailure) : String :=
  s!"scripted {f.kind.name} failure {f.number}"

/-- What a scripted client does. -/
structure Script where
  /-- block hashes, used in rotation; the zero hash when there are none -/
  blockhashes : List Hash := []
  /-- numbers of the block hash requests that fail -/
  failBlockhash : List Nat := []
  /-- numbers of the transactions that are refused -/
  failSend : List Nat := []
  /-- numbers of the account requests that fail -/
  failAccount : List Nat := []

namespace Script

/-- What a scripted client remembers. -/
structure State where
  /-- requests so far, by kind -/
  blockhashCalls : Nat := 0
  sendCalls : Nat := 0
  accountCalls : Nat := 0
  /-- accounts that exist -/
  accounts : List (Address × Account) := []

/-- Stores an account. -/
def State.setAccount (s : State) (address : Address) (account : Account) : State :=
  { s with accounts := (address, account) :: s.accounts.filter fun entry => entry.1 != address }

/-- Removes an account. -/
def State.removeAccount (s : State) (address : Address) : State :=
  { s with accounts := s.accounts.filter fun entry => entry.1 != address }

/-- The block hash for a request number. -/
def blockhashAt (s : Script) (number : Nat) : Hash :=
  s.blockhashes.getD (number % s.blockhashes.length) (ByteVec.zero 32)

/-- The client that follows the script. -/
def client (s : Script) : Client State ScriptedFailure where
  latestBlockhash state :=
    let n := state.blockhashCalls
    (if n ∈ s.failBlockhash then .error ⟨.blockhash, n⟩ else .ok (s.blockhashAt n),
      { state with blockhashCalls := n + 1 })
  send transaction _ state :=
    let n := state.sendCalls
    (if n ∈ s.failSend then .error ⟨.send, n⟩
      else .ok (transaction.signatures.headD (ByteVec.zero 64)),
      { state with sendCalls := n + 1 })
  account address state :=
    let n := state.accountCalls
    (if n ∈ s.failAccount then .error ⟨.account, n⟩ else .ok (state.accounts.lookup address),
      { state with accountCalls := n + 1 })

end Script

end TokenEscrow

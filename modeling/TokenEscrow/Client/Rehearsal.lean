import TokenEscrow.Client.Operation
import TokenEscrow.Client.Scripted

/-!
# Rehearsals

A rehearsal is a session with a client that follows a script. Between the steps
of the session it may show what carries them out and ask for derived addresses,
which makes no request, and change the accounts that the client holds, which an
operation never does.

`Script.play` takes the steps of a rehearsal one after the other, from whatever
state the steps before left the client in, and tells what happened in each.
-/

namespace TokenEscrow

/-- A step of a rehearsal. -/
inductive ScriptStep
  /-- a step of the session -/
  | take (step : Step)
  /-- shows program and payer -/
  | describe
  /-- asks for the address of the escrow attached to a mint -/
  | escrowAddress (mint : Address)
  /-- asks for the handle of the token with a mint -/
  | nft (mint : Address)
  /-- stores an account at the client -/
  | setAccount (address : Address) (account : Account)
  /-- removes an account from the client -/
  | removeAccount (address : Address)
  deriving DecidableEq

namespace Script

/-- What carries out the operations of a rehearsal. -/
def sequencer (script : Script) (program : Address) (payer : Signer) :
    Sequencer State ScriptedFailure where
  client := script.client
  program
  payer

/-- Takes a step: what happened, and the state of the client afterwards. -/
def take (script : Script) (program : Address) (payer : Signer) (state : State) :
    ScriptStep → List (Event ScriptedFailure) × State
  | .take step =>
    let r := (script.sequencer program payer).record step state
    (r.events, r.after)
  | .describe => ([], state)
  | .escrowAddress mint =>
    let (_, run) := ((script.sequencer program payer).escrowAddress mint).start state
    (run.events, run.client)
  | .nft mint =>
    let (_, run) := ((script.sequencer program payer).nft mint).start state
    (run.events, run.client)
  | .setAccount address account => ([], state.setAccount address account)
  | .removeAccount address => ([], state.removeAccount address)

/-- Takes steps one after the other: what happened in each. -/
def play (script : Script) (program : Address) (payer : Signer) :
    List ScriptStep → State → List (List (Event ScriptedFailure))
  | [], _ => []
  | step :: steps, state =>
    let (events, state) := script.take program payer state step
    events :: script.play program payer steps state

end Script

end TokenEscrow

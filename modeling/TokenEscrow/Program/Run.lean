import TokenEscrow.Command.Invocation
import TokenEscrow.Log.Directive
import TokenEscrow.Rpc.Client

/-!
# Running the program

One run of the program, from the words behind its name to what it prints and the
code it ends with (`Program.run`). How files are read is left to the monad, so
the run on a `FileTree` and the run on a disk are the same definition.

A run prints its answer, or says in one message why there is none; the messages
that are logged come before that.
-/

namespace TokenEscrow

/-! ## Surroundings and outcome -/

/-- The variables around a program. -/
structure Environment where
  entries : List (String × String) := []
  deriving DecidableEq, Repr

namespace Environment

/-- The value of a variable. -/
def value? (e : Environment) (name : String) : Option String := e.entries.lookup name

/-- The home directory. -/
def home (e : Environment) : Home := { path := (e.value? "HOME").getD "" }

end Environment

/-- How a run ended. -/
structure Outcome where
  code : UInt8
  /-- what was printed as an answer -/
  output : String := ""
  /-- the lines printed besides -/
  messages : List String := []
  deriving DecidableEq, Repr

namespace Outcome

/-- A run that ended without a command. -/
def ofUsage (e : UsageError) : Outcome :=
  if e.isAnswer then { code := 0, output := e.message ++ "\n" }
  else { code := 1, messages := e.message.splitOn "\n" }

/-- A run that failed. -/
def failed (messages : List String) (reason : String) : Outcome :=
  { code := 1, messages := messages ++ ("error: " ++ reason).splitOn "\n" }

/-- A run that answered. -/
def answered (messages : List String) (text : String) : Outcome :=
  { code := 0, output := text ++ "\n", messages }

end Outcome

/-! ## Runs -/

namespace Program

/-- The logged lines of a run. -/
def logLines {ε : Type} (directives : LogDirectives) (events : List (Event ε)) : List String :=
  (events.filterMap fun event =>
    match event with
    | .log message => if directives.passes message then some message.line else none
    | _ => none).flatMap fun line => line.splitOn "\n"

/-- Runs the program on the words behind its name, with a client in some state. -/
def run {m : Type → Type} [Monad m] {σ ε : Type} (read : String → m (Except FileError String))
    (client : Client σ ε) (clientMessage : ε → String) (state : σ) (environment : Environment)
    (words : List String) : m Outcome := do
  let home := environment.home
  match Invocation.read home words with
  | .error e => return .ofUsage e
  | .ok i =>
    let (directives, warnings) := i.log.directives environment.value?
    match i.settings home (← read (i.configPath home)) with
    | .error e => return .failed warnings e.message
    | .ok settings =>
      let signer := Keypair.signer (← read settings.keypairPath)
      let (answer, run) := i.start { settings, client, signer } state
      let messages := warnings ++ logLines directives run.events
      match answer with
      | .ok text => return .answered messages text
      | .error f => return .failed messages (f.message clientMessage)

/-- A node that is out of reach. -/
def offline : Transport Unit := fun _ state => (.error (.unreachable "no connection"), state)

/-- Runs the program without a network. -/
def runOffline {m : Type → Type} [Monad m] (read : String → m (Except FileError String))
    (environment : Environment) (words : List String) : m Outcome :=
  run read (Node.client offline) RpcError.message { transport := () } environment words

end Program

end TokenEscrow

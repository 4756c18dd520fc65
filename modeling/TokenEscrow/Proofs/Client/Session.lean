import TokenEscrow.Client.Basic
import TokenEscrow.Proofs.Fallible

/-!
# Running sessions

A session is a computation over the state of a client, and what it notes is
only ever added at the end. `Session.runFrom` runs one from any state; the
lemmas below say what each building block does there, so that later statements
follow the text of an operation and never open the monad.

A step that fails ends the session with the events so far (`runFrom_bind`).
-/

namespace TokenEscrow

namespace Session

variable {σ ε α β : Type}

/-- Runs a session from a state of the client, with events before it. -/
def runFrom (session : Session σ ε α) (run : Run σ ε) : Except (Failure ε) α × Run σ ε :=
  StateT.run (ExceptT.run session) run

theorem start_eq (session : Session σ ε α) (client : σ) :
    session.start client = session.runFrom ⟨client, []⟩ := rfl

@[simp] theorem runFrom_pure (a : α) (run : Run σ ε) :
    (pure a : Session σ ε α).runFrom run = (.ok a, run) := rfl

@[simp] theorem runFrom_throw (failure : Failure ε) (run : Run σ ε) :
    (throw failure : Session σ ε α).runFrom run = (.error failure, run) := rfl

/-- Introduction for `bind`. -/
theorem runFrom_bind_ok {session : Session σ ε α} {f : α → Session σ ε β} {run run' : Run σ ε}
    {a : α} (h : session.runFrom run = (.ok a, run')) :
    (session >>= f).runFrom run = (f a).runFrom run' :=
  Fallible.run_bind_ok h

/-- A failure skips what follows. -/
theorem runFrom_bind_error {session : Session σ ε α} {f : α → Session σ ε β}
    {run run' : Run σ ε} {failure : Failure ε} (h : session.runFrom run = (.error failure, run')) :
    (session >>= f).runFrom run = (.error failure, run') :=
  Fallible.run_bind_error h

/-- The result is mapped, and nothing else changes. -/
theorem runFrom_map (f : α → β) (session : Session σ ε α) (run : Run σ ε) :
    (f <$> session).runFrom run = ((session.runFrom run).1.map f, (session.runFrom run).2) := by
  rcases h : session.runFrom run with ⟨failure | a, run'⟩
  · exact runFrom_bind_error (f := pure ∘ f) h
  · exact runFrom_bind_ok (f := pure ∘ f) h

/-- A message is added to the events. -/
@[simp] theorem runFrom_log (message : LogMessage) (run : Run σ ε) :
    (log message : Session σ ε Unit).runFrom run =
      (.ok (), { run with events := run.events ++ [.log message] }) := rfl

/-- The state is at hand. -/
theorem runFrom_get (run : Run σ ε) : (get : Session σ ε (Run σ ε)).runFrom run = (.ok run, run) :=
  rfl

/-- A request that is answered. -/
theorem runFrom_request_ok {event : Except ε α → Event ε} {ask : σ → Except ε α × σ}
    {run : Run σ ε} {a : α} {client : σ} (h : ask run.client = (.ok a, client)) :
    (request event ask).runFrom run =
      (.ok a, { client, events := run.events ++ [event (.ok a)] }) := by
  refine (runFrom_bind_ok (runFrom_get run)).trans ?_
  rw [h]
  rfl

/-- A request that fails ends the session. -/
theorem runFrom_request_error {event : Except ε α → Event ε} {ask : σ → Except ε α × σ}
    {run : Run σ ε} {e : ε} {client : σ} (h : ask run.client = (.error e, client)) :
    (request event ask).runFrom run =
      (.error (.client e), { client, events := run.events ++ [event (.error e)] }) := by
  refine (runFrom_bind_ok (runFrom_get run)).trans ?_
  rw [h]
  rfl

theorem runFrom_ofBuild_ok {build : Except BuildError α} {a : α} (h : build = .ok a)
    (run : Run σ ε) : (ofBuild build).runFrom run = (.ok a, run) := by
  rw [h]
  rfl

theorem runFrom_ofBuild_error {build : Except BuildError α} {e : EscrowError}
    (h : build = .error (.escrow e)) (run : Run σ ε) :
    (ofBuild build).runFrom run = (.error (.program e), run) := by
  rw [h]
  rfl

theorem runFrom_ofBuild_noAddress {build : Except BuildError α} (h : build = .error .noAddress)
    (run : Run σ ε) : (ofBuild build).runFrom run = (.error (.aborted .noAddress), run) := by
  rw [h]
  rfl

theorem runFrom_derive_some {d : Derivation} {address : Address} (h : d.address? = some address)
    (run : Run σ ε) : (derive d).runFrom run = (.ok address, run) :=
  runFrom_ofBuild_ok (Instruction.derive_some h) run

theorem runFrom_derive_none {d : Derivation} (h : d.address? = none) (run : Run σ ε) :
    (derive d).runFrom run = (.error (.aborted .noAddress), run) :=
  runFrom_ofBuild_noAddress (Instruction.derive_none h) run

end Session

end TokenEscrow

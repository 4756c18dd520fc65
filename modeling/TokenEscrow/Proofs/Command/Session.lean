import TokenEscrow.Command.Invocation
import TokenEscrow.Proofs.Client.Session

/-!
# Running commands

A command is a computation over the same runs as the sessions that it is made
of. Its parts are sessions (`Workbench.perform`), and the first of them that
fails ends the command with the events so far.
-/

namespace TokenEscrow

variable {σ ε α β : Type}

/-- Runs a command under way, with events before it. -/
def CommandSession.runFrom (session : CommandSession σ ε α) (run : Run σ ε) :
    Except (CommandFailure ε) α × Run σ ε :=
  StateT.run (ExceptT.run session) run

theorem Command.start_eq (b : Workbench σ ε) (command : Command) (c : σ) :
    command.start b c = (command.run b).runFrom ⟨c, []⟩ := rfl

/-- A command line is carried out as the command that it denotes. -/
theorem Invocation.start_of_ofMatches {i : Invocation} {command : Command}
    (h : Command.ofMatches i.command i.options = .ok command) (b : Workbench σ ε) (c : σ) :
    i.start b c = command.start b c := by
  rw [start, h]

namespace Workbench

variable {session : Session σ ε α} {f : α → CommandSession σ ε β} {run run' : Run σ ε}

/-- What comes of a part is there for what follows. -/
theorem runFrom_perform_ok {a : α} (h : session.runFrom run = (.ok a, run')) :
    CommandSession.runFrom (perform session >>= f) run = (f a).runFrom run' := by
  change (session.runFrom run >>= fun p =>
    ExceptT.bindCont f (p.1.mapError CommandFailure.operation) p.2 : Id _) = _
  rw [h]
  rfl

/-- A part that fails ends the command. -/
theorem runFrom_perform_error {failure : Failure ε}
    (h : session.runFrom run = (.error failure, run')) :
    CommandSession.runFrom (perform session >>= f) run = (.error (.operation failure), run') := by
  change (session.runFrom run >>= fun p =>
    ExceptT.bindCont f (p.1.mapError CommandFailure.operation) p.2 : Id _) = _
  rw [h]
  rfl

end Workbench

end TokenEscrow

import TokenEscrow.Client.Sequencer
import TokenEscrow.Proofs.Client.Session

/-!
# Asking for addresses and handles

The address of an escrow and the handle of a token are found without a request,
and nothing is noted. When an address does not exist the step is abandoned.
-/

namespace TokenEscrow

namespace Sequencer

open Session

variable {σ ε : Type} (s : Sequencer σ ε) (mint : Address) (c : σ)

/-- Something that was found, or the failure to find it. -/
def found {α : Type} : Option α → Except (Failure ε) α
  | some a => .ok a
  | none => .error (.aborted .noAddress)

/-- Something was found when it came out. -/
theorem eq_some_of_found {α : Type} {o : Option α} {a : α}
    (h : (found o : Except (Failure ε) α) = .ok a) : o = some a := by
  cases o with
  | none => cases h
  | some a' => exact congrArg some (Except.ok.inj h)

/-- Deriving an address asks for nothing. -/
theorem runFrom_derive (d : Derivation) (run : Run σ ε) :
    (Session.derive d : Session σ ε Address).runFrom run = (found d.address?, run) := by
  rcases h : d.address? with _ | address
  · exact runFrom_derive_none h run
  · exact runFrom_derive_some h run

/-- Finding an escrow asks for nothing. -/
theorem start_escrowAddress :
    (s.escrowAddress mint).start c =
      (found (Derivation.escrow s.program mint).address?, ⟨c, []⟩) :=
  runFrom_derive ..

/-- Finding a handle asks for nothing. -/
theorem start_nft : (s.nft mint).start c = (found (Nft.ofMint? s.program mint), ⟨c, []⟩) := by
  rw [start_eq, nft]
  rcases Nft.ofMint? s.program mint with _ | nft <;> rfl

end Sequencer

end TokenEscrow

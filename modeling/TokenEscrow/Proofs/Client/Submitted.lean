import TokenEscrow.Client.Scripted
import TokenEscrow.Proofs.Client.Course
import TokenEscrow.Proofs.Transaction.Signing

/-!
# What is handed over

Every transaction that an operation hands over carries the instruction that the
operation built (`carries_of_mem_send`): an instruction passes through
compiling, signing and sending as it is, and nothing is added to it. This holds
of all keys, however many of them are the same.
-/

namespace TokenEscrow

namespace Sequencer

variable {σ ε : Type} {s : Sequencer σ ε} {op : Operation} {c : σ}

/-- A transaction that is handed over in the course of an operation is the signed message of the
instruction that was built, and carries it. -/
theorem Course.exists_keys_of_mem_send {c' : σ} {result : Except (Failure ε) Answer}
    {events : List (Event ε)} (h : s.Course op c result events c') {t : Transaction}
    {options : SendOptions} {answer : Except ε Signature}
    (hmem : Event.send t options answer ∈ events) :
    ∃ keys hash, keys.length = op.slots.length ∧
      op.build s.program s.payer.address =
        .ok ⟨s.program, List.zipWith Slot.place op.slots keys, op.data⟩ ∧
      Transaction.sign (s.messageFor ⟨s.program, List.zipWith Slot.place op.slots keys, op.data⟩
        hash) s.payer = .ok t ∧
      t.message.Carries s.payer.address s.program op.slots keys op.data := by
  obtain ⟨i, hash, hbuild, -, -, hsign⟩ := h.of_mem_send hmem
  obtain ⟨keys, hlen, hsigner, rfl⟩ := Operation.exists_keys_of_build hbuild
  refine ⟨keys, hash, hlen, hbuild, hsign, ?_⟩
  obtain ⟨-, signature, -, -, -, rfl⟩ := Transaction.of_sign_eq_ok hsign
  have hcount : op.slots.length < 254 := Nat.lt_of_le_of_lt op.length_slots_le (by decide)
  exact Message.carries_compile hlen hsigner hcount rfl hash

/-- **What is handed over is what was built**: a transaction that an operation hands over carries
one instruction, with the program, the key of every slot and the data that the builder gave it. -/
theorem carries_of_mem_send {t : Transaction} {options : SendOptions} {answer : Except ε Signature}
    (h : Event.send t options answer ∈ ((s.perform op).start c).2.events) :
    ∃ keys, keys.length = op.slots.length ∧
      op.build s.program s.payer.address =
        .ok ⟨s.program, List.zipWith Slot.place op.slots keys, op.data⟩ ∧
      t.message.Carries s.payer.address s.program op.slots keys op.data := by
  obtain ⟨result, events, c', hrun, hcourse⟩ := course_perform s op c
  rw [hrun] at h
  obtain ⟨keys, hash, hlen, hbuild, -, hcarries⟩ := hcourse.exists_keys_of_mem_send h
  exact ⟨keys, hlen, hbuild, hcarries⟩

/-! ### One key for everything

The premise is met also when the keys coincide: here one address is the program,
the payer, the update authority and the model. -/

/-- A sequencer with one address for everything, whose requests all succeed. -/
def ofAddress (address : Address) : Sequencer Script.State ScriptedFailure where
  client := ({} : Script).client
  program := address
  payer := ⟨address, fun _ => .ok (ByteVec.replicate 64 1)⟩

/-- Adding a constraint on one address to a model at that address. -/
theorem carries_of_mem_send_ofAddress :
    let a : Address := ByteVec.replicate 32 7
    let op := Operation.addConstraint a ⟨"gold", 3, .collection a⟩
    ∃ t answer, Event.send t {} answer ∈ (((ofAddress a).perform op).start {}).2.events ∧
      ∃ keys, keys.length = op.slots.length ∧
        op.build a a = .ok ⟨a, List.zipWith Slot.place op.slots keys, op.data⟩ ∧
        t.message.Carries a a op.slots keys op.data := by
  intro a op
  let i : Instruction :=
    ⟨a, List.zipWith Slot.place op.slots [a, a, a, Known.systemProgram], op.data⟩
  have hbuild : op.build a a = .ok i := rfl
  have hfits : (Message.compile a [i] (ByteVec.zero 32)).encode?.isSome = true :=
    (Message.isSome_encode?_single_iff (by decide)).2 (by decide)
  obtain ⟨bytes, hbytes⟩ := Option.isSome_iff_exists.1 hfits
  have hsign :
      Transaction.sign ((ofAddress a).messageFor i (ByteVec.zero 32)) (ofAddress a).payer =
        .ok ⟨[ByteVec.replicate 64 1], Message.compile a [i] (ByteVec.zero 32)⟩ :=
    Transaction.sign_ok hbytes rfl (by decide)
  have hblock : (ofAddress a).client.latestBlockhash {} =
      (.ok (ByteVec.zero 32), { blockhashCalls := 1 }) := rfl
  obtain ⟨notice, answer, -, -, hrun⟩ := start_perform_sent hbuild hblock hsign rfl
  have hmem : Event.send ⟨[ByteVec.replicate 64 1], Message.compile a [i] (ByteVec.zero 32)⟩ {}
      (.ok (ByteVec.replicate 64 1)) ∈ (((ofAddress a).perform op).start {}).2.events := by
    rw [hrun]
    exact List.mem_cons_of_mem _ (List.mem_cons_of_mem _ (List.mem_cons_self ..))
  exact ⟨_, _, hmem, carries_of_mem_send hmem⟩

end Sequencer

end TokenEscrow

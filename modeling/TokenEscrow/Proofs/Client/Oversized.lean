import TokenEscrow.Proofs.Client.Submitted
import TokenEscrow.Proofs.Client.Protocol
import TokenEscrow.Proofs.Instruction.Build
import TokenEscrow.Proofs.Transaction.RoundTrip

/-!
# Constraints of any size

Nothing bounds the list of a constraint before its transaction is signed, and
there a length of more than 65535 bytes has no form on the wire. An operation
with such data asks for a block hash and is then abandoned, without an error
value (`start_perform_eq_noWireForm_iff`). Nothing is cut off or counted wrongly
instead: what is handed over is read back from its wire form, down to the
arguments of its one instruction (`decode?_of_mem_send`).

`addConstraint_any_size` puts the two together for constraints, whose length is
known (`length_data_addConstraint`): 2047 mints and a short name fit, and 2048
mints never do.
-/

namespace TokenEscrow

/-! ## How long data is -/

/-- The bytes that a rule takes. -/
def ConstraintRule.size : ConstraintRule → Nat
  | none => 1
  | collection _ => 33
  | tokens mints => 5 + 32 * mints.length

/-- Mints stand one after the other. -/
theorem length_flatMap_encode (mints : List Address) :
    (mints.flatMap Wire.encode).length = 32 * mints.length := by
  induction mints with
  | nil => rfl
  | cons mint mints ih =>
    have hmint : (Wire.encode mint).length = 32 := mint.length_bytes
    rw [List.flatMap_cons, List.length_append, List.length_cons, ih, hmint]
    omega

theorem ConstraintRule.length_encode (rule : ConstraintRule) :
    (Wire.encode rule).length = rule.size := by
  cases rule with
  | none => rfl
  | collection mint => exact congrArg (· + 1) mint.length_bytes
  | tokens mints =>
    change (_ :: (LittleEndian.encode 4 _ ++ mints.flatMap Wire.encode)).length = _
    rw [List.length_cons, List.length_append, LittleEndian.length_encode, length_flatMap_encode,
      size]
    omega

namespace Operation

variable {op : Operation}

theorem length_data_addConstraint (model : Address) (constraint : Constraint) :
    (addConstraint model constraint).data.length =
      13 + (Utf8.encode constraint.name).length + constraint.rule.size := by
  change (_ :: (LittleEndian.encode 4 _ ++ Utf8.encode constraint.name ++
    LittleEndian.encode 8 _ ++ Wire.encode constraint.rule)).length = _
  rw [List.length_cons, List.length_append, List.length_append, List.length_append,
    LittleEndian.length_encode, LittleEndian.length_encode, constraint.rule.length_encode]
  omega

/-- Data that fits into a transaction has no count without a place in its word. -/
theorem countsFit_of_length_data (h : op.data.length < CompactLength.bound) :
    op.instruction.CountsFit := by
  have hbound : CompactLength.bound ≤ LawfulWire.countBound := by decide
  cases op with
  | createEscrow | closeEscrow | transferIn | transferOut => exact trivial
  | createConstraintModel name =>
    have hlength : (createConstraintModel name).data.length =
        5 + (Utf8.encode name).length := by
      change (_ :: (LittleEndian.encode 4 _ ++ Utf8.encode name)).length = _
      rw [List.length_cons, List.length_append, LittleEndian.length_encode]
      omega
    change (Utf8.encode name).length < LawfulWire.countBound
    omega
  | addConstraint model constraint =>
    rw [length_data_addConstraint] at h
    refine ⟨Nat.lt_of_le_of_lt (by omega) (Nat.lt_of_lt_of_le h hbound), ?_⟩
    rcases hrule : constraint.rule with _ | mint | mints
    · exact trivial
    · exact trivial
    · rw [hrule, ConstraintRule.size] at h
      change mints.length < LawfulWire.countBound
      omega

/-- A constraint is refused for its name only. -/
theorem exists_build_addConstraint_iff (program payer model : Address) (constraint : Constraint) :
    (∃ i, (addConstraint model constraint).build program payer = .ok i) ↔
      (Utf8.encode constraint.name).length ≤ 32 := by
  rw [← buildFor_payer]
  exact exists_buildFor_iff rfl fun _ hd => absurd hd List.not_mem_nil

end Operation

namespace Sequencer

variable {σ ε : Type} {s : Sequencer σ ε} {op : Operation} {c : σ}

/-! ## What is abandoned -/

/-- An operation whose instruction is built is abandoned over its wire form exactly when there is a
block hash to sign for and its data is too long. -/
theorem start_perform_eq_noWireForm_iff :
    ((s.perform op).start c).1 = .error (.aborted .noWireForm) ↔
      (∃ i, op.build s.program s.payer.address = .ok i) ∧
        (∃ hash, (s.client.latestBlockhash c).1 = .ok hash) ∧
          CompactLength.bound ≤ op.data.length := by
  obtain ⟨result, events, c', hrun, hcourse⟩ := course_perform s op c
  rw [hrun]
  cases hcourse with
  | nameTooLong notices hbuild | noAddress notices hbuild =>
    rw [hbuild]
    exact iff_of_false (by rintro ⟨⟩) (by rintro ⟨⟨i, ⟨⟩⟩, -⟩)
  | submitted hbuild _ _ hsub =>
    cases hsub with
    | noBlockhash hblock =>
      rw [hblock]
      exact iff_of_false (by rintro ⟨⟩) (by rintro ⟨-, ⟨hash, ⟨⟩⟩, -⟩)
    | noWireForm hblock hsign =>
      rw [hblock]
      exact iff_of_true rfl ⟨⟨_, hbuild⟩, ⟨_, rfl⟩, (sign_eq_noWireForm_iff hbuild _).1 hsign⟩
    | notSigned hblock hsign | notSent hblock hsign | sent hblock hsign =>
      refine iff_of_false (by rintro ⟨⟩) ?_
      rintro ⟨-, -, hlong⟩
      cases hsign.symm.trans ((sign_eq_noWireForm_iff hbuild _).2 hlong)

/-- An operation that is abandoned for an address could not be built. -/
theorem build_of_start_perform_eq_noAddress
    (h : ((s.perform op).start c).1 = .error (.aborted .noAddress)) :
    op.build s.program s.payer.address = .error .noAddress := by
  obtain ⟨result, events, c', hrun, hcourse⟩ := course_perform s op c
  rw [hrun] at h
  cases hcourse with
  | nameTooLong => cases h
  | noAddress notices hbuild => exact hbuild
  | submitted hbuild _ _ hsub => cases hsub <;> cases h

/-! ## What is handed over -/

/-- **What is handed over is read back**: a transaction that an operation hands over has a wire
form, which is read as that transaction, and its one instruction has the data that was built, which
is read as the instruction of the operation. -/
theorem decode?_of_mem_send {t : Transaction} {options : SendOptions} {answer : Except ε Signature}
    (h : Event.send t options answer ∈ ((s.perform op).start c).2.events) :
    ∃ bytes built i, t.encode? = some bytes ∧ Transaction.decode? bytes = some t ∧
      op.build s.program s.payer.address = .ok built ∧ t.message.instructions = [i] ∧
      i.data = built.data ∧ EscrowInstruction.unpack i.data = .ok op.instruction := by
  obtain ⟨result, events, c', hrun, hcourse⟩ := course_perform s op c
  rw [hrun] at h
  obtain ⟨keys, hash, -, hbuild, hsign, hcarries⟩ := hcourse.exists_keys_of_mem_send h
  have hdata : op.data.length < CompactLength.bound := by
    rw [← Nat.not_le, ← sign_eq_noWireForm_iff hbuild hash, hsign]
    rintro ⟨⟩
  obtain ⟨j, hj, -, -, hjdata⟩ := hcarries.instruction
  obtain ⟨message, signature, hmessage, -, -, ht⟩ := Transaction.of_sign_eq_ok hsign
  have hbytes : t.encode? = some ([1] ++ [signature.bytes].flatten ++ message) := by
    rw [ht, Transaction.encode?, hmessage]
    rfl
  refine ⟨_, _, j, hbytes, Transaction.decode?_encode? hbytes, hbuild, hj, hjdata, ?_⟩
  rw [hjdata]
  exact Operation.unpack_data_iff.2 (Operation.countsFit_of_length_data hdata)

/-! ## Constraints -/

/-- **Constraints of any size**: adding a constraint with a name that fits in a seed is abandoned
exactly when there is a block hash to sign for and its data takes more than 65535 bytes. Whatever is
handed over is read back from its wire form as a transaction with one instruction, whose data is
what was built and is read as that constraint. -/
theorem addConstraint_any_size (s : Sequencer σ ε) (model : Address) (constraint : Constraint)
    (c : σ) :
    ((∃ cause, ((s.perform (.addConstraint model constraint)).start c).1 =
        .error (.aborted cause)) ↔
      (Utf8.encode constraint.name).length ≤ 32 ∧
        (∃ hash, (s.client.latestBlockhash c).1 = .ok hash) ∧
          65535 < 13 + (Utf8.encode constraint.name).length + constraint.rule.size) ∧
      ∀ t options answer, Event.send t options answer ∈
          ((s.perform (.addConstraint model constraint)).start c).2.events →
        ∃ bytes built i, t.encode? = some bytes ∧ Transaction.decode? bytes = some t ∧
          Instruction.addConstraint s.program model s.payer.address s.payer.address constraint =
            .ok built ∧ t.message.instructions = [i] ∧ i.data = built.data ∧
          EscrowInstruction.unpack i.data = .ok (.addConstraint constraint) := by
  refine ⟨?_, fun t options answer h => decode?_of_mem_send h⟩
  rw [← Operation.length_data_addConstraint model constraint,
    ← Operation.exists_build_addConstraint_iff s.program s.payer.address]
  refine Iff.trans ?_ start_perform_eq_noWireForm_iff
  constructor
  · rintro ⟨_ | _, h⟩
    · obtain ⟨d, hd, -⟩ :=
        Operation.exists_exhausted_of_build (build_of_start_perform_eq_noAddress h)
      exact absurd hd List.not_mem_nil
    · exact h
  · intro h
    exact ⟨_, h⟩

/-- A list of 2048 mints is abandoned. -/
theorem addConstraint_2048_mints :
    let constraint : Constraint :=
      ⟨"gold", 1, .tokens (List.replicate 2048 Known.systemProgram)⟩
    let s : Sequencer Script.State ScriptedFailure :=
      ⟨({} : Script).client, Known.metadataProgram, .keypair (ByteVec.zero 32)⟩
    (Utf8.encode constraint.name).length ≤ 32 ∧
      ((s.perform (.addConstraint Known.systemProgram constraint)).start {}).1 =
        .error (.aborted .noWireForm) := by
  intro constraint s
  have hname : (Utf8.encode constraint.name).length ≤ 32 := by decide
  refine ⟨hname, start_perform_eq_noWireForm_iff.2 ⟨?_, ⟨_, rfl⟩, ?_⟩⟩
  · exact (Operation.exists_build_addConstraint_iff ..).2 hname
  · rw [Operation.length_data_addConstraint]
    change 65536 ≤ 13 + _ + (5 + 32 * (List.replicate 2048 Known.systemProgram).length)
    rw [List.length_replicate]
    omega

end Sequencer

end TokenEscrow

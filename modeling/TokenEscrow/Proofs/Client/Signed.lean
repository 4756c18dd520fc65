import TokenEscrow.Proofs.Client.HandedOver
import TokenEscrow.Proofs.Client.Submitted

/-!
# What is signed is what is sent

A transaction is drafted before its block hash is known, and signing changes the
message. Still the one signature that is handed over is the payer's, for the
bytes of the very message next to it, and the block hash in that message is the
one that the same operation was given (`signed_of_mem_trace`). No signer can
bring about anything else: an empty signature, or none, ends the operation
before the transaction is handed over.
-/

namespace TokenEscrow

/-! ## One signature -/

/-- A transaction with the one signature that its message requires is verified by that signature,
under the first key. -/
theorem Transaction.verify_single {message : Message} {payer : Address} {bytes : Bytes}
    (hrequired : message.header.requiredSignatures = 1) (hpayer : message.keys.head? = some payer)
    (hbytes : message.encode? = some bytes) (signature : Signature) :
    Transaction.verify ⟨[signature], message⟩ = Ed25519.verify payer bytes signature := by
  obtain ⟨keys, hkeys⟩ : ∃ keys, message.keys = payer :: keys := List.head?_eq_some_iff.1 hpayer
  simp [verify, hbytes, hrequired, hkeys]

namespace Sequencer

variable {σ ε : Type} {s : Sequencer σ ε}

/-! ## Records of a session -/

/-- Every record of a session is that of a step, taken from the state that the steps before it left
the client in. -/
theorem exists_record_of_mem_trace {steps : List Step} {c : σ} {r : Record σ ε}
    (hr : r ∈ s.trace steps c) : ∃ step ∈ steps, ∃ c', r = s.record step c' := by
  induction steps generalizing c with
  | nil => exact absurd hr List.not_mem_nil
  | cons step steps ih =>
    rcases List.mem_cons.1 hr with rfl | hr
    · exact ⟨step, List.mem_cons_self .., c, rfl⟩
    · obtain ⟨step', hstep, hr⟩ := ih hr
      exact ⟨step', List.mem_cons_of_mem _ hstep, hr⟩

/-! ## Handing over -/

/-- An operation that hands a transaction over made two requests, and signed for the block hash that
the first was answered with. -/
theorem requests_of_mem_send {op : Operation} {c : σ} {t : Transaction} {options : SendOptions}
    {answer : Except ε Signature}
    (h : Event.send t options answer ∈ (s.record (.operation op) c).events) :
    ∃ i hash, s.SignsAlone i ∧
      (s.record (.operation op) c).requests =
        [.latestBlockhash (.ok hash), .send t options answer] ∧
      Transaction.sign (s.messageFor i hash) s.payer = .ok t := by
  obtain ⟨result, events, c', hrecord, hcourse⟩ := course_record s op c
  rw [hrecord] at h ⊢
  obtain ⟨i, notice, hash, notes, hbuild, -, rfl, -, hsign⟩ := hcourse.events_of_mem_send h
  have hnotes : List.filter Event.isRequest (notes.map Event.log : List (Event ε)) = [] := by
    simp [Event.isRequest]
  refine ⟨i, hash, signsAlone_of_build hbuild, ?_, hsign⟩
  change Event.latestBlockhash (.ok hash) :: Event.send t options answer ::
    (notes.map Event.log).filter Event.isRequest = _
  rw [hnotes]

/-- **What is signed is what is sent**: whatever happened before, an operation that hands a
transaction over asked for one block hash, which is the one in the message, and the transaction has
one signature, which the payer gave for the bytes of that message and which is not empty. So the
transaction is valid when the signatures of the payer are. -/
theorem signed_of_mem_trace {steps : List Step} {c : σ} {r : Record σ ε}
    (hr : r ∈ s.trace steps c) {t : Transaction} {options : SendOptions}
    {answer : Except ε Signature} (h : Event.send t options answer ∈ r.events) :
    r.requests = [.latestBlockhash (.ok t.message.blockhash), .send t options answer] ∧
      ∃ bytes signature, t.message.encode? = some bytes ∧ s.payer.sign bytes = .ok signature ∧
        signature ≠ ByteVec.zero 64 ∧ t.signatures = [signature] ∧
        t.verify = Ed25519.verify s.payer.address bytes signature := by
  obtain ⟨step, -, c', rfl⟩ := exists_record_of_mem_trace hr
  cases step with
  | account mint => exact absurd h send_notMem_account
  | operation op =>
    obtain ⟨i, hash, hpayer, hrequests, hsign⟩ := requests_of_mem_send h
    obtain ⟨bytes, signature, hbytes, hgiven, hzero, rfl⟩ := Transaction.of_sign_eq_ok hsign
    refine ⟨hrequests, bytes, signature, hbytes, hgiven, hzero, rfl, ?_⟩
    exact Transaction.verify_single (requiredSignatures_messageFor hpayer hash)
      (Message.head?_keys_compile ..) hbytes signature

/-- The second of two transactions, both for the zero hash, which a draft has too. -/
theorem signed_of_mem_trace_second :
    let a : Address := ByteVec.replicate 32 7
    let first := Step.operation (.addConstraint a ⟨"gold", 3, .none⟩)
    let second := Step.operation (.addConstraint a ⟨"silver", 5, .tokens [a, a]⟩)
    let r := (ofAddress a).record second ((ofAddress a).record first {}).after
    r ∈ (ofAddress a).trace [first, second] {} ∧
      ∃ t options answer, Event.send t options answer ∈ r.events ∧
        t.message.blockhash = ByteVec.zero 32 ∧
        r.requests = [.latestBlockhash (.ok t.message.blockhash), .send t options answer] ∧
        ∃ bytes signature, t.message.encode? = some bytes ∧
          (ofAddress a).payer.sign bytes = .ok signature ∧ signature ≠ ByteVec.zero 64 ∧
          t.signatures = [signature] ∧ t.verify = Ed25519.verify a bytes signature := by
  intro a first second r
  have hr : r ∈ (ofAddress a).trace [first, second] {} :=
    List.mem_cons_of_mem _ (List.mem_cons_self ..)
  have hzero : (Event.sent r.events).map (fun x => x.1.message.blockhash) = [ByteVec.zero 32] := by
    decide +kernel
  obtain ⟨⟨t, options⟩, hsent, hhash⟩ := List.map_eq_singleton_iff.1 hzero
  have hmem : (t, options) ∈ Event.sent r.events := by
    rw [hsent]
    exact List.mem_singleton_self _
  obtain ⟨answer, h⟩ := Event.mem_sent.1 hmem
  exact ⟨hr, t, options, answer, h, hhash, signed_of_mem_trace hr h⟩

end Sequencer

end TokenEscrow

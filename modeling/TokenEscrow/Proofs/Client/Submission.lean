import TokenEscrow.Client.Operation
import TokenEscrow.Proofs.Client.Session
import TokenEscrow.Proofs.Transaction.Signing

/-!
# How a transaction is handed over

`Submission` lists the ways in which handing over one transaction can go, each
with what it rests on, what comes out, what happened, and the state in which it
leaves the client. `runFrom_submit` says that there are no others.

The transaction is drafted without a block hash and signed in steps. For an
instruction that nobody but the payer signs for, and there are no others, what
comes of that is the message with its block hash, signed (`signFor_draft`).
-/

namespace TokenEscrow

namespace Sequencer

open Session

variable {σ ε : Type} (s : Sequencer σ ε)

/-! ## One transaction -/

/-- The message that is signed for an instruction. -/
def messageFor (i : Instruction) (blockhash : Hash) : Message :=
  Message.compile s.payer.address [i] blockhash

/-- The ways in which handing over one transaction can go. -/
inductive Submission (i : Instruction) (options : SendOptions) (c : σ) :
    Except (Failure ε) Signature → List (Event ε) → σ → Prop
  /-- there is no block hash to be had -/
  | noBlockhash {e : ε} {c₁ : σ} (hblock : s.client.latestBlockhash c = (.error e, c₁)) :
    Submission i options c (.error (.client e)) [.latestBlockhash (.error e)] c₁
  /-- the signer fails -/
  | notSigned {hash : Hash} {e : SignerError} {c₁ : σ}
    (hblock : s.client.latestBlockhash c = (.ok hash, c₁))
    (hsign : Transaction.sign (s.messageFor i hash) s.payer = .error (.signer e)) :
    Submission i options c (.error (.signer e)) [.latestBlockhash (.ok hash)] c₁
  /-- the message is too long for the wire -/
  | noWireForm {hash : Hash} {c₁ : σ}
    (hblock : s.client.latestBlockhash c = (.ok hash, c₁))
    (hsign : Transaction.sign (s.messageFor i hash) s.payer = .error .noWireForm) :
    Submission i options c (.error (.aborted .noWireForm)) [.latestBlockhash (.ok hash)] c₁
  /-- the transaction is not accepted -/
  | notSent {hash : Hash} {t : Transaction} {e : ε} {c₁ c₂ : σ}
    (hblock : s.client.latestBlockhash c = (.ok hash, c₁))
    (hsign : Transaction.sign (s.messageFor i hash) s.payer = .ok t)
    (hsend : s.client.send t options c₁ = (.error e, c₂)) :
    Submission i options c (.error (.client e))
      [.latestBlockhash (.ok hash), .send t options (.error e)] c₂
  /-- the transaction is accepted -/
  | sent {hash : Hash} {t : Transaction} {signature : Signature} {c₁ c₂ : σ}
    (hblock : s.client.latestBlockhash c = (.ok hash, c₁))
    (hsign : Transaction.sign (s.messageFor i hash) s.payer = .ok t)
    (hsend : s.client.send t options c₁ = (.ok signature, c₂)) :
    Submission i options c (.ok signature)
      [.latestBlockhash (.ok hash), .send t options (.ok signature),
        .log (.submitted signature hash)] c₂

/-! ### Signing the draft -/

/-- Nobody but the payer signs for an instruction. -/
def SignsAlone (i : Instruction) : Prop :=
  ∀ r ∈ i.accounts, r.signer = true → r.address = s.payer.address

variable {s} {i : Instruction} {options : SendOptions} {hash : Hash}

/-- The message of such an instruction requires one signature. -/
theorem requiredSignatures_messageFor (hpayer : s.SignsAlone i) (hash : Hash) :
    (s.messageFor i hash).header.requiredSignatures = 1 := by
  refine Message.requiredSignatures_single ?_ hash
  intro key hkey
  rcases Message.signs_single.1 hkey with rfl | ⟨r, hr, hsigner, rfl⟩
  · rfl
  · exact hpayer r hr hsigner

/-- **The draft is signed for the block hash**: signed in steps, it is the message of its
instruction with the block hash, signed. -/
theorem signFor_draft (hpayer : s.SignsAlone i) (hash : Hash) :
    (s.draft i).signFor s.payer hash = Transaction.sign (s.messageFor i hash) s.payer :=
  Transaction.signFor_unsigned (requiredSignatures_messageFor hpayer (ByteVec.zero 32))
    (Message.head?_keys_compile ..) hash

theorem runFrom_sign_ok (hpayer : s.SignsAlone i) {t : Transaction}
    (h : Transaction.sign (s.messageFor i hash) s.payer = .ok t) (run : Run σ ε) :
    (s.sign (s.draft i) hash).runFrom run = (.ok t, run) := by
  rw [sign, signFor_draft hpayer, h]
  rfl

theorem runFrom_sign_signer (hpayer : s.SignsAlone i) {e : SignerError}
    (h : Transaction.sign (s.messageFor i hash) s.payer = .error (.signer e)) (run : Run σ ε) :
    (s.sign (s.draft i) hash).runFrom run = (.error (.signer e), run) := by
  rw [sign, signFor_draft hpayer, h]
  rfl

theorem runFrom_sign_noWireForm (hpayer : s.SignsAlone i)
    (h : Transaction.sign (s.messageFor i hash) s.payer = .error .noWireForm) (run : Run σ ε) :
    (s.sign (s.draft i) hash).runFrom run = (.error (.aborted .noWireForm), run) := by
  rw [sign, signFor_draft hpayer, h]
  rfl

/-! ### All steps -/

/-- A transaction that is accepted. -/
theorem runFrom_submit_sent (hpayer : s.SignsAlone i) {t : Transaction} {signature : Signature}
    {c₁ c₂ : σ} {run : Run σ ε}
    (hblock : s.client.latestBlockhash run.client = (.ok hash, c₁))
    (hsign : Transaction.sign (s.messageFor i hash) s.payer = .ok t)
    (hsend : s.client.send t options c₁ = (.ok signature, c₂)) :
    (s.submit i options).runFrom run =
      (.ok signature, ⟨c₂, run.events ++ [.latestBlockhash (.ok hash),
        .send t options (.ok signature), .log (.submitted signature hash)]⟩) := by
  refine (runFrom_bind_ok (runFrom_request_ok hblock)).trans ?_
  refine (runFrom_bind_ok (runFrom_sign_ok hpayer hsign _)).trans ?_
  refine (runFrom_bind_ok (runFrom_request_ok hsend)).trans ?_
  refine (runFrom_bind_ok (runFrom_log _ _)).trans ?_
  rw [List.append_assoc, List.append_assoc]
  rfl

/-- **No other way**: handing over a transaction goes in one of the listed ways, whatever happened
before it. -/
theorem runFrom_submit (hpayer : s.SignsAlone i) (options : SendOptions) (run : Run σ ε) :
    ∃ result events c',
      (s.submit i options).runFrom run = (result, ⟨c', run.events ++ events⟩) ∧
        s.Submission i options run.client result events c' := by
  rcases hblock : s.client.latestBlockhash run.client with ⟨e | hash, c₁⟩
  · exact ⟨_, _, _, runFrom_bind_error (runFrom_request_error hblock), .noBlockhash hblock⟩
  have hrun : (request .latestBlockhash s.client.latestBlockhash).runFrom run =
      (.ok hash, ⟨c₁, run.events ++ [.latestBlockhash (.ok hash)]⟩) := runFrom_request_ok hblock
  -- Signing asks nothing of the client, so sending starts from the state that the block hash left.
  rcases hsign : Transaction.sign (s.messageFor i hash) s.payer with (e | _) | t
  · refine ⟨_, _, _, (runFrom_bind_ok hrun).trans ?_, .notSigned hblock hsign⟩
    exact runFrom_bind_error (runFrom_sign_signer hpayer hsign _)
  · refine ⟨_, _, _, (runFrom_bind_ok hrun).trans ?_, .noWireForm hblock hsign⟩
    exact runFrom_bind_error (runFrom_sign_noWireForm hpayer hsign _)
  rcases hsend : s.client.send t options c₁ with ⟨e | signature, c₂⟩
  · refine ⟨_, [.latestBlockhash (.ok hash), .send t options (.error e)], _,
      (runFrom_bind_ok hrun).trans ?_, .notSent hblock hsign hsend⟩
    refine (runFrom_bind_ok (runFrom_sign_ok hpayer hsign _)).trans ?_
    refine (runFrom_bind_error (runFrom_request_error hsend)).trans ?_
    rw [List.append_assoc]
    rfl
  · exact ⟨_, _, _, runFrom_submit_sent hpayer hblock hsign hsend, .sent hblock hsign hsend⟩

/-- **What happened when a transaction was handed over**: a block hash was given, the signed message
for it was handed over, and at most the success was noted. -/
theorem Submission.events_of_mem_send {c c' : σ} {result : Except (Failure ε) Signature}
    {events : List (Event ε)} (h : s.Submission i options c result events c') {t : Transaction}
    {options' : SendOptions} {answer : Except ε Signature}
    (hmem : Event.send t options' answer ∈ events) :
    ∃ (hash : Hash) (notes : List LogMessage), events =
        .latestBlockhash (.ok hash) :: .send t options' answer :: notes.map Event.log ∧
      options' = options ∧ Transaction.sign (s.messageFor i hash) s.payer = .ok t := by
  cases h with
  | noBlockhash | notSigned | noWireForm => simp at hmem
  | notSent _ hsign =>
    simp only [List.mem_cons, reduceCtorEq, false_or, List.not_mem_nil, or_false,
      Event.send.injEq] at hmem
    obtain ⟨rfl, rfl, rfl⟩ := hmem
    exact ⟨_, [], rfl, rfl, hsign⟩
  | sent _ hsign =>
    simp only [List.mem_cons, reduceCtorEq, false_or, List.not_mem_nil, or_false,
      Event.send.injEq] at hmem
    obtain ⟨rfl, rfl, rfl⟩ := hmem
    exact ⟨_, [_], rfl, rfl, hsign⟩

end Sequencer

end TokenEscrow

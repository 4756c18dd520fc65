import TokenEscrow.Proofs.Client.Signed
import TokenEscrow.Proofs.Instruction.Build

/-!
# When nothing fails

With a client that answers and a signer that signs, an operation whose name and
data fit hands over its transaction and answers (`Sequencer.delivers_perform`).
There is one thing left that can go wrong, before anything is asked for: an
address that the operation needs may not exist. What a transaction is answered
with is its own signature when the client echoes (`Sequencer.signatures_of_mem_send`).
-/

namespace TokenEscrow

/-! ## Premises -/

/-- A client that answers every request for a block hash and accepts every transaction. -/
structure Client.Serves {σ ε : Type} (client : Client σ ε) : Prop where
  blockhash (c : σ) : ∃ hash c', client.latestBlockhash c = (.ok hash, c')
  send (t : Transaction) (options : SendOptions) (c : σ) :
    ∃ signature c', client.send t options c = (.ok signature, c')

/-- A client that answers with the first signature of the transaction that it accepts. -/
def Client.Echoes {σ ε : Type} (client : Client σ ε) : Prop :=
  ∀ t options c answered c', client.send t options c = (.ok answered, c') →
    ∀ own, t.signatures.head? = some own → answered = own

/-- A signer that signs everything. The zero signature stands for one that is missing. -/
def Signer.Signs (signer : Signer) : Prop :=
  ∀ message, ∃ signature, signer.sign message = .ok signature ∧ signature ≠ ByteVec.zero 64

/-- The name of an operation fits in a seed, and its data in a transaction. -/
structure Operation.Fits (op : Operation) : Prop where
  name : ∀ name, op.name? = some name → (Utf8.encode name).length ≤ 32
  data : op.data.length ≤ 65535

namespace Script

/-- A script serves when no block hash and no transaction is to fail. -/
theorem serves_client {script : Script} (hblockhash : script.failBlockhash = [])
    (hsend : script.failSend = []) : script.client.Serves where
  blockhash c := by
    simp only [client, hblockhash, List.not_mem_nil, if_false]
    exact ⟨_, _, rfl⟩
  send t options c := by
    simp only [client, hsend, List.not_mem_nil, if_false]
    exact ⟨_, _, rfl⟩

/-- A script echoes. -/
theorem echoes_client (script : Script) : script.client.Echoes := by
  intro t options c answered c' h own hown
  simp only [client] at h
  split_ifs at h with hfail
  · cases (Prod.mk.inj h).1
  · rw [← Except.ok.inj (Prod.mk.inj h).1, List.headD_eq_head?_getD, hown]
    rfl

end Script

/-! ## Operations -/

namespace Sequencer

variable {σ ε : Type} {s : Sequencer σ ε} {op : Operation}

/-- The transaction of an operation is handed over, once, and the client answers. -/
structure Sent (s : Sequencer σ ε) (op : Operation) (i : Instruction) (hash : Hash)
    (own answered : Signature) (run : Run σ ε) : Prop where
  build : op.build s.program s.payer.address = .ok i
  blockhash : .latestBlockhash (.ok hash) ∈ run.events
  sent : Event.sent run.events = [(⟨[own], s.messageFor i hash⟩, op.options)]
  send : .send ⟨[own], s.messageFor i hash⟩ op.options (.ok answered) ∈ run.events
  echo : s.client.Echoes → answered = own

/-- What happens when no request fails. -/
theorem sent_of_send {i : Instruction} {hash : Hash} {own answered : Signature} {c₁ c₂ : σ}
    (hbuild : op.build s.program s.payer.address = .ok i)
    (hsend : s.client.send ⟨[own], s.messageFor i hash⟩ op.options c₁ = (.ok answered, c₂))
    (notice : LogMessage) :
    s.Sent op i hash own answered ⟨c₂, [.log notice, .latestBlockhash (.ok hash),
      .send ⟨[own], s.messageFor i hash⟩ op.options (.ok answered),
      .log (.submitted answered hash)]⟩ where
  build := hbuild
  blockhash := List.mem_cons_of_mem _ List.mem_cons_self
  sent := rfl
  send := List.mem_cons_of_mem _ (List.mem_cons_of_mem _ List.mem_cons_self)
  echo hecho := hecho _ _ _ _ _ hsend own rfl

/-- The ways in which a session that carries out an operation goes when no request fails; `f` makes
an answer of what comes out. -/
inductive Delivers (s : Sequencer σ ε) (op : Operation) {α : Type} (f : α → Answer) (c : σ) :
    Except (Failure ε) α × Run σ ε → Prop
  /-- every digest of some derivation is a point of the curve; nothing is asked for -/
  | missing {d : Derivation} (hd : d ∈ op.derivations s.program s.payer.address)
    (hexhausted : d.Exhausted) (notices : List LogMessage) :
    Delivers s op f c (.error (.aborted .noAddress), ⟨c, notices.map .log⟩)
  /-- the transaction is handed over and the operation answers -/
  | sent {i : Instruction} {hash : Hash} {own answered : Signature} {run : Run σ ε} {a : α}
    {answer : Signature → Answer} (hsent : s.Sent op i hash own answered run)
    (hanswer : op.answer? s.program s.payer.address = some answer) (heq : f a = answer answered) :
    Delivers s op f c (.ok a, run)

/-- What was built for an operation that fits is signed. -/
theorem exists_sign (hsigns : s.payer.Signs) (hfits : op.Fits) {i : Instruction}
    (hbuild : op.build s.program s.payer.address = .ok i) (hash : Hash) :
    ∃ own, Transaction.sign (s.messageFor i hash) s.payer = .ok ⟨[own], s.messageFor i hash⟩ := by
  have hform : (s.messageFor i hash).encode?.isSome = true := by
    by_contra hnone
    have hlong := (sign_eq_noWireForm_iff hbuild hash).1
      (Transaction.sign_eq_noWireForm_iff.2 hnone)
    exact absurd hfits.data (Nat.not_le_of_lt hlong)
  obtain ⟨bytes, hbytes⟩ := Option.isSome_iff_exists.1 hform
  obtain ⟨own, hown, hzero⟩ := hsigns bytes
  exact ⟨own, Transaction.sign_ok hbytes hown hzero⟩

/-- **When nothing fails**, an operation hands over its transaction, unless an address that it needs
does not exist. -/
theorem delivers_start {α : Type} {session : Session σ ε α} {f : α → Answer}
    (hperform : s.perform op = f <$> session) (hserves : s.client.Serves)
    (hsigns : s.payer.Signs) (hfits : op.Fits) (c : σ) :
    s.Delivers op f c (session.start c) := by
  have hmap : (s.perform op).start c =
      ((session.start c).1.map f, (session.start c).2) := by
    rw [hperform]
    exact Session.runFrom_map f session _
  generalize session.start c = p at hmap ⊢
  rcases hbuild : op.build s.program s.payer.address with (e | _) | i
  · obtain ⟨name, hname, hlong⟩ := Operation.exists_name_of_build hbuild
    exact absurd (hfits.name name hname) (Nat.not_le_of_lt hlong)
  · obtain ⟨d, hd, hexhausted⟩ := Operation.exists_exhausted_of_build hbuild
    obtain ⟨result, events, c', hrun, hcourse⟩ := course_perform s op c
    rw [hrun] at hmap
    obtain ⟨failure | a, run⟩ := p
    · cases hcourse with
      | nameTooLong _ h | submitted h => cases hbuild.symm.trans h
      | noAddress notices =>
        obtain ⟨⟨⟩, rfl⟩ := Prod.mk.inj hmap
        exact .missing hd hexhausted notices
    · cases hcourse with
      | nameTooLong _ h | submitted h => cases hbuild.symm.trans h
      | noAddress notices => cases (Prod.mk.inj hmap).1
  · obtain ⟨hash, c₁, hblock⟩ := hserves.blockhash c
    obtain ⟨own, hsign⟩ := exists_sign hsigns hfits hbuild hash
    obtain ⟨answered, c₂, hsend⟩ := hserves.send ⟨[own], s.messageFor i hash⟩ op.options c₁
    obtain ⟨notice, answer, -, hanswer, hrun⟩ := start_perform_sent hbuild hblock hsign hsend
    rw [hrun] at hmap
    obtain ⟨failure | a, run⟩ := p
    · cases (Prod.mk.inj hmap).1
    obtain ⟨heq, rfl⟩ := Prod.mk.inj hmap
    exact .sent (sent_of_send hbuild hsend notice) hanswer (Except.ok.inj heq).symm

/-! ## Answers -/

/-- With a client that echoes, a transaction that is accepted is answered with the one signature
that it has. -/
theorem signatures_of_mem_send (hechoes : s.client.Echoes) {steps : List Step} {c : σ}
    {r : Record σ ε} (hr : r ∈ s.trace steps c) {t : Transaction} {options : SendOptions}
    {answered : Signature} (h : Event.send t options (.ok answered) ∈ r.events) :
    t.signatures = [answered] := by
  obtain ⟨step, -, c', rfl⟩ := exists_record_of_mem_trace hr
  cases step with
  | account mint => exact absurd h send_notMem_account
  | operation op =>
    obtain ⟨result, events, c₂, hrecord, hcourse⟩ := course_record s op c'
    rw [hrecord] at h
    cases hcourse with
    | nameTooLong | noAddress => simp at h
    | submitted _ _ _ hsub =>
      cases hsub with
      | noBlockhash | notSigned | noWireForm | notSent => simp at h
      | sent _ hsign hsend =>
        simp only [List.mem_cons, reduceCtorEq, List.not_mem_nil, or_false, false_or,
          Event.send.injEq, Except.ok.injEq] at h
        obtain ⟨rfl, rfl, rfl⟩ := h
        obtain ⟨-, own, -, -, -, rfl⟩ := Transaction.of_sign_eq_ok hsign
        rw [hechoes _ _ _ _ _ hsend own rfl]

end Sequencer

end TokenEscrow

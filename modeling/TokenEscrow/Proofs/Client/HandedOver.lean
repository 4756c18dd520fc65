import TokenEscrow.Client.Rehearsal
import TokenEscrow.Proofs.Client.Protocol

/-!
# What an operation hands over

An operation hands over at most one transaction, and which one is settled by the
answer to its request for a block hash alone (`Operation.handed`,
`sent_record_operation`): neither what happened before nor what is answered
afterwards has a say in it.
-/

namespace TokenEscrow

/-! ## Transactions among events -/

/-- The transaction of an event, with how it was handed over. -/
def Event.sent? {ε : Type} : Event ε → Option (Transaction × SendOptions)
  | .send transaction options _ => some (transaction, options)
  | .latestBlockhash _ | .account .. | .log _ => none

/-- The transactions that were handed over, in order. -/
def Event.sent {ε : Type} (events : List (Event ε)) : List (Transaction × SendOptions) :=
  events.filterMap Event.sent?

theorem Event.mem_sent {ε : Type} {events : List (Event ε)} {t : Transaction}
    {options : SendOptions} :
    (t, options) ∈ Event.sent events ↔ ∃ answer, Event.send t options answer ∈ events := by
  rw [Event.sent, List.mem_filterMap]
  constructor
  · rintro ⟨event, hmem, hsent⟩
    cases event with
    | send t' options' answer =>
      cases hsent
      exact ⟨answer, hmem⟩
    | latestBlockhash | account | log => cases hsent
  · rintro ⟨answer, hmem⟩
    exact ⟨_, hmem, rfl⟩

/-- Messages hand nothing over. -/
theorem Event.sent_map_log {ε : Type} (notes : List LogMessage) :
    Event.sent (notes.map (Event.log : LogMessage → Event ε)) = [] := by
  simp [Event.sent, Event.sent?]

namespace Operation

/-- What is handed over when an operation is given a block hash, or refused one. -/
def handed {ε : Type} (op : Operation) (program : Address) (payer : Signer) :
    Except ε Hash → List (Transaction × SendOptions)
  | .error _ => []
  | .ok hash =>
    match op.build program payer.address with
    | .error _ => []
    | .ok i =>
      match Transaction.sign (Message.compile payer.address [i] hash) payer with
      | .error _ => []
      | .ok t => [(t, op.options)]

variable {ε : Type} {op : Operation} {program : Address} {payer : Signer} {i : Instruction}
  {hash : Hash}

/-- Without an instruction nothing is handed over. -/
theorem handed_of_build_error {e : BuildError} (h : op.build program payer.address = .error e)
    (answer : Except ε Hash) : op.handed program payer answer = [] := by
  cases answer with
  | error => rfl
  | ok hash => simp only [handed, h]

/-- Without a signature nothing is handed over. -/
theorem handed_of_sign_error {fault : SignFault} (hbuild : op.build program payer.address = .ok i)
    (hsign : Transaction.sign (Message.compile payer.address [i] hash) payer = .error fault) :
    op.handed program payer (.ok hash : Except ε Hash) = [] := by
  simp only [handed, hbuild, hsign]

/-- What is signed is handed over. -/
theorem handed_of_sign_ok {t : Transaction} (hbuild : op.build program payer.address = .ok i)
    (hsign : Transaction.sign (Message.compile payer.address [i] hash) payer = .ok t) :
    op.handed program payer (.ok hash : Except ε Hash) = [(t, op.options)] := by
  simp only [handed, hbuild, hsign]

/-- At most one transaction is handed over, in one way. -/
theorem eq_of_mem_handed {answer : Except ε Hash} {x y : Transaction × SendOptions}
    (hx : x ∈ op.handed program payer answer) (hy : y ∈ op.handed program payer answer) :
    x = y := by
  rcases answer with e | hash
  · cases hx
  rcases hbuild : op.build program payer.address with e | i
  · rw [handed_of_build_error hbuild] at hx
    cases hx
  rcases hsign : Transaction.sign (Message.compile payer.address [i] hash) payer with e | t
  · rw [handed_of_sign_error hbuild hsign] at hx
    cases hx
  · rw [handed_of_sign_ok hbuild hsign, List.mem_singleton] at hx hy
    rw [hx, hy]

end Operation

namespace Sequencer

variable {σ ε : Type} {s : Sequencer σ ε}

/-- A look at an account hands nothing over. -/
theorem send_notMem_account {mint : Address} {c : σ} {t : Transaction} {options : SendOptions}
    {answer : Except ε Signature} :
    Event.send t options answer ∉ (s.record (.account mint) c).events := by
  intro h
  have hmem : Event.send t options answer ∈ (s.record (.account mint) c).requests :=
    List.mem_filter.2 ⟨h, rfl⟩
  rcases s.looks_record mint c with habandoned | hlooks
  · rw [habandoned.requests] at hmem
    exact List.not_mem_nil hmem
  · cases hlooks with
    | found _ _ hrequests | absent _ _ hrequests | failed _ _ hrequests =>
      rw [hrequests, List.mem_singleton] at hmem
      cases hmem

theorem sent_record_account (mint : Address) (c : σ) :
    Event.sent (s.record (.account mint) c).events = [] := by
  rw [List.eq_nil_iff_forall_not_mem]
  intro x hx
  obtain ⟨answer, hmem⟩ := Event.mem_sent.1 hx
  exact send_notMem_account hmem

/-- **The block hash settles it**: what an operation hands over depends on the state of the client
through the answer to the request for a block hash, and on nothing else. -/
theorem sent_record_operation (s : Sequencer σ ε) (op : Operation) (c : σ) :
    Event.sent (s.record (.operation op) c).events =
      op.handed s.program s.payer (s.client.latestBlockhash c).1 := by
  obtain ⟨result, events, c', hrecord, hcourse⟩ := course_record s op c
  rw [hrecord]
  -- A course that ends before the request says so in its premises; the others begin with it.
  cases hcourse with
  | nameTooLong notices hbuild | noAddress notices hbuild =>
    rw [Operation.handed_of_build_error hbuild, Event.sent_map_log]
  | submitted hbuild _ _ hsub =>
    cases hsub with
    | noBlockhash hblock =>
      rw [hblock]
      rfl
    | notSigned hblock hsign | noWireForm hblock hsign =>
      rw [hblock, Operation.handed_of_sign_error hbuild hsign]
      rfl
    | notSent hblock hsign | sent hblock hsign =>
      rw [hblock, Operation.handed_of_sign_ok hbuild hsign]
      rfl

end Sequencer

end TokenEscrow

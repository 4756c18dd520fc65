import TokenEscrow.Client.Scripted
import TokenEscrow.Proofs.Client.Course
import TokenEscrow.Proofs.Transaction.Signing

/-!
# The call protocol

What an operation asks of the client follows a fixed protocol: it asks for a
block hash, hands over a transaction, and stops at the first failure, which is
then what comes out. `Ending` lists the five ways in which this can end and
`Ends` says what each of them looks like: which requests were made, with which
answers, and what came out. A look at an account is one request (`Looks`).

* `existsUnique_ending` — an operation whose data fits into a transaction ends
  in exactly one of the five ways;
* `follows_of_mem_trace` — so does every operation of a session, whatever
  happened before.

Neither asks anything of the client or of the signer. What is left out is a step
that is abandoned (`Abandoned`): it needs an address that does not exist, since
the digests for all bumps that are tried are points of the curve.
-/

namespace TokenEscrow

/-! ## Requests -/

/-- Whether an event is a request to the client. -/
def Event.isRequest {ε : Type} : Event ε → Bool
  | .log _ => false
  | .latestBlockhash _ | .send .. | .account .. => true

/-- What was asked of the client, in order. -/
def Record.requests {σ ε : Type} (r : Record σ ε) : List (Event ε) :=
  r.events.filter Event.isRequest

/-- The ways in which an operation can end. -/
inductive Ending
  /-- the builder rejects the name -/
  | refused
  /-- there is no block hash to be had -/
  | noBlockhash
  /-- the signer fails -/
  | notSigned
  /-- the transaction is not accepted -/
  | notSent
  /-- the transaction is accepted -/
  | sent
  deriving DecidableEq, Repr

/-- What looking at the account of an escrow comes to, given the answer of the client. -/
def accountFound {ε : Type} : Except ε (Option Account) → Except (Failure ε) Account
  | .ok (some account) => .ok account
  | .ok none => .error .accountNotFound
  | .error e => .error (.client e)

namespace Sequencer

open Session

variable {σ ε : Type}

/-- What the record of an operation looks like, for each way to end. -/
inductive Ends (s : Sequencer σ ε) (op : Operation) (r : Record σ ε) : Ending → Prop
  /-- nothing is asked for -/
  | refused (hbuild : op.build s.program s.payer.address = .error (.escrow .nameTooLong))
    (hrequests : r.requests = []) (hresult : r.result = .error (.program .nameTooLong))
    (hafter : r.after = r.before) :
    Ends s op r .refused
  /-- the failed request for a block hash is the only one -/
  | noBlockhash {i : Instruction} {e : ε}
    (hbuild : op.build s.program s.payer.address = .ok i)
    (hblock : s.client.latestBlockhash r.before = (.error e, r.after))
    (hrequests : r.requests = [.latestBlockhash (.error e)])
    (hresult : r.result = .error (.client e)) :
    Ends s op r .noBlockhash
  /-- a block hash is asked for, and nothing more -/
  | notSigned {i : Instruction} {hash : Hash} {e : SignerError}
    (hbuild : op.build s.program s.payer.address = .ok i)
    (hblock : s.client.latestBlockhash r.before = (.ok hash, r.after))
    (hsign : Transaction.sign (s.messageFor i hash) s.payer = .error (.signer e))
    (hrequests : r.requests = [.latestBlockhash (.ok hash)])
    (hresult : r.result = .error (.signer e)) :
    Ends s op r .notSigned
  /-- the transaction is handed over once, and not again -/
  | notSent {i : Instruction} {hash : Hash} {t : Transaction} {e : ε} {mid : σ}
    (hbuild : op.build s.program s.payer.address = .ok i)
    (hblock : s.client.latestBlockhash r.before = (.ok hash, mid))
    (hsign : Transaction.sign (s.messageFor i hash) s.payer = .ok t)
    (hsend : s.client.send t op.options mid = (.error e, r.after))
    (hrequests : r.requests = [.latestBlockhash (.ok hash), .send t op.options (.error e)])
    (hresult : r.result = .error (.client e)) :
    Ends s op r .notSent
  /-- the operation answers with the signature, or with the address it is about -/
  | sent {i : Instruction} {hash : Hash} {t : Transaction} {signature : Signature} {mid : σ}
    {answer : Signature → Answer}
    (hbuild : op.build s.program s.payer.address = .ok i)
    (hblock : s.client.latestBlockhash r.before = (.ok hash, mid))
    (hsign : Transaction.sign (s.messageFor i hash) s.payer = .ok t)
    (hsend : s.client.send t op.options mid = (.ok signature, r.after))
    (hrequests : r.requests = [.latestBlockhash (.ok hash), .send t op.options (.ok signature)])
    (hanswer : op.answer? s.program s.payer.address = some answer)
    (hresult : r.result = .ok (answer signature)) :
    Ends s op r .sent

/-- What the record of a look at an escrow account looks like: one request, for the address of the
escrow. -/
inductive Looks (s : Sequencer σ ε) (mint : Address) (r : Record σ ε) : Prop
  /-- there is an account -/
  | found {escrow : Address} {account : Account}
    (hescrow : (Derivation.escrow s.program mint).address? = some escrow)
    (hasked : s.client.account escrow r.before = (.ok (some account), r.after))
    (hrequests : r.requests = [.account escrow (.ok (some account))])
    (hresult : r.result = .ok (.account account))
  /-- there is none -/
  | absent {escrow : Address}
    (hescrow : (Derivation.escrow s.program mint).address? = some escrow)
    (hasked : s.client.account escrow r.before = (.ok none, r.after))
    (hrequests : r.requests = [.account escrow (.ok none)])
    (hresult : r.result = .error .accountNotFound)
  /-- the request fails -/
  | failed {escrow : Address} {e : ε}
    (hescrow : (Derivation.escrow s.program mint).address? = some escrow)
    (hasked : s.client.account escrow r.before = (.error e, r.after))
    (hrequests : r.requests = [.account escrow (.error e)])
    (hresult : r.result = .error (.client e))

/-- The record of a step that was abandoned before it asked for anything: an address that it has to
derive does not exist. -/
structure Abandoned (s : Sequencer σ ε) (r : Record σ ε) : Prop where
  exhausted : ∃ d ∈ r.step.derivations s.program s.payer.address, d.Exhausted
  requests : r.requests = []
  result : r.result = .error (.aborted .noAddress)
  after : r.after = r.before

/-- The record of a step that follows the protocol. -/
def Follows (s : Sequencer σ ε) (r : Record σ ε) : Prop :=
  match r.step with
  | .operation op => ∃! ending, s.Ends op r ending
  | .account mint => s.Looks mint r

variable {s : Sequencer σ ε} {op : Operation} {c : σ} {r : Record σ ε}

/-- The record of a step is what came of it. -/
theorem record_eq {step : Step} {result : Except (Failure ε) Answer} {events : List (Event ε)}
    {c' : σ} (h : (s.take step).start c = (result, ⟨c', events⟩)) :
    s.record step c = ⟨step, c, result, events, c'⟩ := by
  rw [record, h]

/-- The record of an operation tells one of the ways in which it can go. -/
theorem course_record (s : Sequencer σ ε) (op : Operation) (c : σ) :
    ∃ result events c', s.record (.operation op) c = ⟨.operation op, c, result, events, c'⟩ ∧
      s.Course op c result events c' := by
  obtain ⟨result, events, c', hrun, hcourse⟩ := course_perform s op c
  exact ⟨result, events, c', record_eq hrun, hcourse⟩

/-! ## Operations -/

/-- The requests and the result of a record tell its ending. -/
theorem Ends.unique {ending ending' : Ending} (h : s.Ends op r ending) (h' : s.Ends op r ending') :
    ending = ending' := by
  cases h <;> cases h' <;> simp_all

/-- Only data that is too long keeps a message from being signed without an error of the signer. -/
theorem sign_eq_noWireForm_iff {i : Instruction}
    (hbuild : op.build s.program s.payer.address = .ok i) (hash : Hash) :
    Transaction.sign (s.messageFor i hash) s.payer = .error .noWireForm ↔
      CompactLength.bound ≤ op.data.length := by
  obtain ⟨keys, hlen, -, rfl⟩ := Operation.exists_keys_of_build hbuild
  have hcount : (List.zipWith Slot.place op.slots keys).length < 254 := by
    rw [List.length_zipWith, hlen, Nat.min_self]
    exact Nat.lt_of_le_of_lt op.length_slots_le (by decide)
  rw [Transaction.sign_eq_noWireForm_iff, messageFor, Message.isSome_encode?_single_iff hcount,
    Nat.not_lt]

/-- Whatever happened, the record of an operation has one of the five endings, or the operation was
abandoned. -/
theorem exists_ends (hdata : op.data.length < CompactLength.bound) (c : σ) :
    s.Abandoned (s.record (.operation op) c) ∨
      ∃ ending, s.Ends op (s.record (.operation op) c) ending := by
  obtain ⟨result, events, c', hrecord, hcourse⟩ := course_record s op c
  rw [hrecord]
  -- Messages are no requests, so only what a submission adds is left of the events.
  cases hcourse with
  | nameTooLong notices hbuild =>
    exact .inr ⟨.refused, .refused hbuild (by simp [Record.requests, Event.isRequest]) rfl rfl⟩
  | noAddress notices hbuild =>
    exact .inl ⟨Operation.exists_exhausted_of_build hbuild,
      by simp [Record.requests, Event.isRequest], rfl, rfl⟩
  | submitted hbuild hnotice hanswer hsub =>
    cases hsub with
    | noBlockhash hblock =>
      exact .inr ⟨.noBlockhash, .noBlockhash hbuild hblock rfl rfl⟩
    | notSigned hblock hsign =>
      exact .inr ⟨.notSigned, .notSigned hbuild hblock hsign rfl rfl⟩
    | noWireForm hblock hsign =>
      exact absurd hdata (Nat.not_lt_of_le ((sign_eq_noWireForm_iff hbuild _).1 hsign))
    | notSent hblock hsign hsend =>
      exact .inr ⟨.notSent, .notSent hbuild hblock hsign hsend rfl rfl⟩
    | sent hblock hsign hsend =>
      exact .inr ⟨.sent, .sent hbuild hblock hsign hsend rfl hanswer rfl⟩

/-- **One ending**: the record of an operation has exactly one of the five endings. -/
theorem existsUnique_ending (hdata : op.data.length < CompactLength.bound) (c : σ) :
    s.Abandoned (s.record (.operation op) c) ∨
      ∃! ending, s.Ends op (s.record (.operation op) c) ending := by
  rcases s.exists_ends hdata c with h | ⟨ending, h⟩
  · exact .inl h
  · exact .inr ⟨ending, h, fun _ h' => h'.unique h⟩

/-! ## Looks at an account -/

/-- A look at the account of an escrow is one request. -/
theorem runFrom_escrowAccount {mint escrow : Address} {answer : Except ε (Option Account)}
    {run : Run σ ε} {c' : σ}
    (hescrow : (Derivation.escrow s.program mint).address? = some escrow)
    (hasked : s.client.account escrow run.client = (answer, c')) :
    (s.escrowAccount mint).runFrom run =
      (accountFound answer, ⟨c', run.events ++ [.account escrow answer]⟩) := by
  rw [escrowAccount, escrowAddress, runFrom_bind_ok (runFrom_derive_some hescrow _)]
  rcases answer with e | _ | account
  · exact runFrom_bind_error (runFrom_request_error hasked)
  · exact runFrom_bind_ok (runFrom_request_ok hasked)
  · exact runFrom_bind_ok (runFrom_request_ok hasked)

theorem record_account {mint escrow : Address} {answer : Except ε (Option Account)} {c' : σ}
    (hescrow : (Derivation.escrow s.program mint).address? = some escrow)
    (hasked : s.client.account escrow c = (answer, c')) :
    s.record (.account mint) c =
      ⟨.account mint, c, (accountFound answer).map .account, [.account escrow answer], c'⟩ := by
  refine record_eq ((runFrom_map _ _ _).trans ?_)
  rw [runFrom_escrowAccount hescrow hasked]
  rfl

/-- Nothing is asked for when there is no such address. -/
theorem record_account_noAddress {mint : Address}
    (hescrow : (Derivation.escrow s.program mint).address? = none) :
    s.record (.account mint) c = ⟨.account mint, c, .error (.aborted .noAddress), [], c⟩ := by
  refine record_eq ((runFrom_map _ _ _).trans ?_)
  rw [escrowAccount, escrowAddress, runFrom_bind_error (runFrom_derive_none hescrow _)]
  rfl

/-- A look at an account is one request, or it was abandoned. -/
theorem looks_record (s : Sequencer σ ε) (mint : Address) (c : σ) :
    s.Abandoned (s.record (.account mint) c) ∨ s.Looks mint (s.record (.account mint) c) := by
  rcases hescrow : (Derivation.escrow s.program mint).address? with _ | escrow
  · rw [record_account_noAddress hescrow]
    refine .inl ⟨⟨_, List.mem_singleton_self _, ?_⟩, rfl, rfl, rfl⟩
    exact Derivation.exhausted_of_address?_eq_none (Instruction.seedsFit_escrow _ _) hescrow
  rcases hasked : s.client.account escrow c with ⟨e | _ | account, c'⟩
  · rw [record_account hescrow hasked]
    exact .inr (.failed hescrow hasked rfl rfl)
  · rw [record_account hescrow hasked]
    exact .inr (.absent hescrow hasked rfl rfl)
  · rw [record_account hescrow hasked]
    exact .inr (.found hescrow hasked rfl rfl)

/-! ## Sessions -/

/-- One step, from whatever state the steps before it left the client in. -/
theorem follows_record {step : Step}
    (hdata : ∀ op, step = .operation op → op.data.length < CompactLength.bound) (c : σ) :
    s.Abandoned (s.record step c) ∨ s.Follows (s.record step c) := by
  cases step with
  | operation op => exact existsUnique_ending (hdata op rfl) c
  | account mint => exact s.looks_record mint c

/-- **The protocol of a session**: every step of a session leaves a record, and each record follows
the protocol, unless it was abandoned for an address that does not exist. -/
theorem follows_of_mem_trace {steps : List Step}
    (hdata : ∀ op, .operation op ∈ steps → op.data.length ≤ 65535) (c : σ) :
    (s.trace steps c).map Record.step = steps ∧
      ∀ r ∈ s.trace steps c, s.Abandoned r ∨ s.Follows r := by
  induction steps generalizing c with
  | nil => exact ⟨rfl, fun r hr => absurd hr List.not_mem_nil⟩
  | cons step steps ih =>
    have hstep : ∀ op, step = .operation op → op.data.length < CompactLength.bound := by
      rintro op rfl
      exact Nat.lt_succ_of_le (hdata op (List.mem_cons_self ..))
    obtain ⟨hsteps, hrest⟩ :=
      ih (fun op hop => hdata op (List.mem_cons_of_mem _ hop)) (s.record step c).after
    refine ⟨?_, ?_⟩
    · rw [trace, List.map_cons, hsteps]
      rfl
    · intro r hr
      rcases List.mem_cons.1 hr with rfl | hr
      · exact follows_record hstep c
      · exact hrest r hr

/-- A session in which the first transaction is not accepted and the last name is refused. -/
theorem follows_of_mem_trace_refused :
    let a : Address := ByteVec.replicate 32 7
    let s : Sequencer Script.State ScriptedFailure :=
      ⟨({ failSend := [0] } : Script).client, a, ⟨a, fun _ => .ok (ByteVec.replicate 64 1)⟩⟩
    let steps : List Step := [.operation (.addConstraint a ⟨"gold", 3, .tokens [a, a]⟩),
      .operation (.createConstraintModel "pets"), .account a,
      .operation (.createConstraintModel "a name that no address can be derived from")]
    (s.trace steps {}).map Record.step = steps ∧
      ∀ r ∈ s.trace steps {}, s.Abandoned r ∨ s.Follows r := by
  intro a s steps
  refine follows_of_mem_trace ?_ _
  intro op hop
  simp only [steps, List.mem_cons, Step.operation.injEq, reduceCtorEq, List.not_mem_nil, or_false,
    false_or] at hop
  rcases hop with rfl | rfl | rfl
  · decide
  · decide
  · decide

end Sequencer

end TokenEscrow

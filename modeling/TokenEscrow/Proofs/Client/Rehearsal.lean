import Mathlib.Data.List.Forall2
import TokenEscrow.Proofs.Client.HandedOver
import TokenEscrow.Proofs.Client.Handles

/-!
# Failures do not leak

Two rehearsals that differ only in which requests fail hand over the same
transactions, wherever both hand one over (`handedOver_alike`). What keeps them
in step is the number of requests for a block hash: a step makes the same number
of them whatever is answered (`blockhashCalls_take`), so each operation meets
the same block hash in both, and the block hash settles what it hands over.
-/

namespace TokenEscrow

/-! ## Steps -/

namespace ScriptStep

/-- How often a step asks for a block hash: once when there is an instruction to hand over. -/
def blockhashCalls (program payer : Address) : ScriptStep → Nat
  | .take (.operation op) => if (op.build program payer).isOk then 1 else 0
  | .take (.account _) | .describe | .escrowAddress _ | .nft _ | .setAccount ..
  | .removeAccount _ => 0

/-- What a step hands over when it is given a block hash, or refused one. -/
def handed {ε : Type} (program : Address) (payer : Signer) (answer : Except ε Hash) :
    ScriptStep → List (Transaction × SendOptions)
  | .take (.operation op) => op.handed program payer answer
  | .take (.account _) | .describe | .escrowAddress _ | .nft _ | .setAccount ..
  | .removeAccount _ => []

variable {ε : Type} {program : Address} {payer : Signer} {step : ScriptStep}

/-- Only a step that is given a block hash hands something over. -/
theorem exists_hash_of_mem_handed {answer : Except ε Hash} {x : Transaction × SendOptions}
    (h : x ∈ step.handed program payer answer) : ∃ hash, answer = .ok hash := by
  rcases answer with e | hash
  · cases step with
    | take step => cases step <;> cases h
    | describe | escrowAddress | nft | setAccount | removeAccount => cases h
  · exact ⟨hash, rfl⟩

/-- A step hands over at most one transaction, in one way. -/
theorem eq_of_mem_handed {answer : Except ε Hash} {x y : Transaction × SendOptions}
    (hx : x ∈ step.handed program payer answer) (hy : y ∈ step.handed program payer answer) :
    x = y := by
  cases step with
  | take step =>
    cases step with
    | operation op => exact Operation.eq_of_mem_handed hx hy
    | account => cases hx
  | describe | escrowAddress | nft | setAccount | removeAccount => cases hx

end ScriptStep

namespace Script

open Sequencer

variable {script script' : Script} {program : Address} {payer : Signer} {state state' : State}

/-! ## Requests for block hashes -/

theorem blockhashCalls_of_latestBlockhash {answer : Except ScriptedFailure Hash}
    (h : script.client.latestBlockhash state = (answer, state')) :
    state'.blockhashCalls = state.blockhashCalls + 1 := by
  cases h
  rfl

theorem blockhashCalls_of_send {t : Transaction} {options : SendOptions}
    {answer : Except ScriptedFailure Signature}
    (h : script.client.send t options state = (answer, state')) :
    state'.blockhashCalls = state.blockhashCalls := by
  cases h
  rfl

theorem blockhashCalls_of_account {address : Address}
    {answer : Except ScriptedFailure (Option Account)}
    (h : script.client.account address state = (answer, state')) :
    state'.blockhashCalls = state.blockhashCalls := by
  cases h
  rfl

/-- Handing over asks for one block hash, however it ends. -/
theorem blockhashCalls_of_submission {i : Instruction} {options : SendOptions}
    {result : Except (Failure ScriptedFailure) Signature} {events : List (Event ScriptedFailure)}
    (h : (script.sequencer program payer).Submission i options state result events state') :
    state'.blockhashCalls = state.blockhashCalls + 1 := by
  cases h with
  | noBlockhash hblock | notSigned hblock | noWireForm hblock =>
    exact blockhashCalls_of_latestBlockhash hblock
  | notSent hblock _ hsend | sent hblock _ hsend =>
    rw [blockhashCalls_of_send hsend, blockhashCalls_of_latestBlockhash hblock]

/-- **The count does not depend on answers**: a step asks for as many block hashes as its kind and
its arguments say. -/
theorem blockhashCalls_take (script : Script) (program : Address) (payer : Signer) (state : State)
    (step : ScriptStep) :
    (script.take program payer state step).2.blockhashCalls =
      state.blockhashCalls + step.blockhashCalls program payer.address := by
  cases step with
  | take step =>
    cases step with
    | operation op =>
      obtain ⟨result, events, c', hrecord, hcourse⟩ :=
        course_record (script.sequencer program payer) op state
      rw [take, hrecord, ScriptStep.blockhashCalls]
      cases hcourse with
      | nameTooLong notices hbuild | noAddress notices hbuild =>
        rw [show op.build program payer.address = _ from hbuild]
        rfl
      | submitted hbuild _ _ hsub =>
        rw [show op.build program payer.address = _ from hbuild]
        exact blockhashCalls_of_submission hsub
    | account mint =>
      change ((script.sequencer program payer).record (.account mint) state).after.blockhashCalls =
        state.blockhashCalls
      rcases (script.sequencer program payer).looks_record mint state with habandoned | hlooks
      · rw [habandoned.after]
        rfl
      · cases hlooks with
        | found _ hasked | absent _ hasked | failed _ hasked =>
          exact blockhashCalls_of_account hasked
  | describe => rfl
  | escrowAddress mint =>
    rw [take, start_escrowAddress]
    rfl
  | nft mint =>
    rw [take, start_nft]
    rfl
  | setAccount address account => rfl
  | removeAccount address => rfl

/-! ## What is handed over -/

/-- What a step hands over is settled by the answer that a request for a block hash gets there. -/
theorem sent_take (script : Script) (program : Address) (payer : Signer) (state : State)
    (step : ScriptStep) :
    Event.sent (script.take program payer state step).1 =
      step.handed program payer (script.client.latestBlockhash state).1 := by
  cases step with
  | take step =>
    cases step with
    | operation op => exact sent_record_operation (script.sequencer program payer) op state
    | account mint => exact sent_record_account (s := script.sequencer program payer) mint state
  | describe => rfl
  | escrowAddress mint =>
    rw [take, start_escrowAddress]
    rfl
  | nft mint =>
    rw [take, start_nft]
    rfl
  | setAccount address account => rfl
  | removeAccount address => rfl

/-- What each of the steps hands over. -/
def handedOver (script : Script) (program : Address) (payer : Signer) (steps : List ScriptStep)
    (state : State) : List (List (Transaction × SendOptions)) :=
  (script.play program payer steps state).map Event.sent

theorem handedOver_cons (script : Script) (program : Address) (payer : Signer) (step : ScriptStep)
    (steps : List ScriptStep) (state : State) :
    script.handedOver program payer (step :: steps) state =
      step.handed program payer (script.client.latestBlockhash state).1 ::
        script.handedOver program payer steps (script.take program payer state step).2 := by
  rw [← sent_take]
  rfl

/-! ## Two scripts -/

/-- The block hash that is given is the one for the number of the request. -/
theorem eq_blockhashAt {hash : Hash} (h : (script.client.latestBlockhash state).1 = .ok hash) :
    hash = script.blockhashAt state.blockhashCalls := by
  simp only [client] at h
  split at h
  · cases h
  · exact (Except.ok.inj h).symm

/-- Scripts with the same block hashes do not give different ones for a request number. -/
theorem eq_of_latestBlockhash_eq_ok (hscripts : script.blockhashes = script'.blockhashes)
    (hstates : state.blockhashCalls = state'.blockhashCalls) {hash hash' : Hash}
    (h : (script.client.latestBlockhash state).1 = .ok hash)
    (h' : (script'.client.latestBlockhash state').1 = .ok hash') : hash = hash' := by
  rw [eq_blockhashAt h, eq_blockhashAt h', blockhashAt, blockhashAt, hscripts, hstates]

/-- Scripts with the same block hashes that refuse the same requests give the same answers. -/
theorem latestBlockhash_congr (hscripts : script.blockhashes = script'.blockhashes)
    (hfail : script.failBlockhash = script'.failBlockhash)
    (hstates : state.blockhashCalls = state'.blockhashCalls) :
    (script.client.latestBlockhash state).1 = (script'.client.latestBlockhash state').1 := by
  simp only [client, blockhashAt, hscripts, hfail, hstates]

/-- **Failures do not leak**: of two scripts with the same block hashes, whichever requests either
of them refuses, each step hands over the same transaction in the same way, if it does so in both.
If the same requests for block hashes are refused, then both hand over the same transactions. -/
theorem handedOver_alike (hscripts : script.blockhashes = script'.blockhashes) (program : Address)
    (payer : Signer) (steps : List ScriptStep)
    (hstates : state.blockhashCalls = state'.blockhashCalls) :
    List.Forall₂ (fun xs ys => ∀ x ∈ xs, ∀ y ∈ ys, x = y)
        (script.handedOver program payer steps state)
        (script'.handedOver program payer steps state') ∧
      (script.failBlockhash = script'.failBlockhash →
        script.handedOver program payer steps state =
          script'.handedOver program payer steps state') := by
  -- Along the way the states have one thing in common: how many block hashes were asked for.
  induction steps generalizing state state' with
  | nil => exact ⟨.nil, fun _ => rfl⟩
  | cons step steps ih =>
    have hafter : (script.take program payer state step).2.blockhashCalls =
        (script'.take program payer state' step).2.blockhashCalls := by
      rw [blockhashCalls_take, blockhashCalls_take, hstates]
    obtain ⟨hrest, hsame⟩ := ih hafter
    rw [handedOver_cons, handedOver_cons]
    refine ⟨.cons ?_ hrest, fun hfail => ?_⟩
    · intro x hx y hy
      obtain ⟨hash, h⟩ := ScriptStep.exists_hash_of_mem_handed hx
      obtain ⟨hash', h'⟩ := ScriptStep.exists_hash_of_mem_handed hy
      obtain rfl := eq_of_latestBlockhash_eq_ok hscripts hstates h h'
      rw [h] at hx
      rw [h'] at hy
      exact ScriptStep.eq_of_mem_handed hx hy
    · rw [latestBlockhash_congr hscripts hfail hstates, hsame hfail]

/-- Two scripts, of which one refuses the first transaction and the other the block hash for it: the
second transaction is the same. -/
theorem handedOver_alike_second :
    let a : Address := ByteVec.replicate 32 7
    let payer : Signer := ⟨a, fun _ => .ok (ByteVec.replicate 64 1)⟩
    let script : Script :=
      { blockhashes := [ByteVec.replicate 32 1, ByteVec.replicate 32 2], failSend := [0] }
    let script' : Script :=
      { blockhashes := script.blockhashes, failBlockhash := [0], failAccount := [0] }
    let steps : List ScriptStep := [.take (.operation (.addConstraint a ⟨"gold", 3, .none⟩)),
      .removeAccount a, .take (.operation (.addConstraint a ⟨"silver", 5, .tokens [a, a]⟩))]
    (script.handedOver a payer steps {}).map List.length = [1, 0, 1] ∧
      (script'.handedOver a payer steps {}).map List.length = [0, 0, 1] ∧
      List.Forall₂ (fun xs ys => ∀ x ∈ xs, ∀ y ∈ ys, x = y) (script.handedOver a payer steps {})
        (script'.handedOver a payer steps {}) := by
  intro a payer script script' steps
  have hscripts : script.blockhashes = script'.blockhashes := rfl
  have hstates : ({} : State).blockhashCalls = ({} : State).blockhashCalls := rfl
  have halike := handedOver_alike hscripts a payer steps hstates
  exact ⟨by decide +kernel, by decide +kernel, halike.1⟩

end Script

end TokenEscrow

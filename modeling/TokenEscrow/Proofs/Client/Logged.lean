import TokenEscrow.Proofs.Client.Oversized
import TokenEscrow.Proofs.Client.Signed

/-!
# What the log tells

The log of a session can be checked against the transactions that were handed
over, by someone who sees nothing else of the session:

* what is announced before a transaction is what the transaction says by itself
  (`Message.about?`): addresses in the slots of its one instruction, and the
  arguments in its data;
* each transaction that was accepted, and no other, is acknowledged, with the
  signature that came back and the block hash in its message.

Operations take neither from the transaction. They announce their own arguments
and addresses that they derive for that, before an instruction is built, so
`Operation.notice?_eq` is where the two meet: an announcement is made of the keys
that belong in the slots. `faithful_trace` says it of whole sessions.
-/

namespace TokenEscrow

/-! ## Messages among events -/

namespace Event

variable {ε : Type}

/-- The message of an event. -/
def message? : Event ε → Option LogMessage
  | .log message => some message
  | .latestBlockhash _ | .send .. | .account .. => none

/-- The messages that were logged at a level, in order. -/
def logged (level : LogLevel) (events : List (Event ε)) : List LogMessage :=
  (events.filterMap message?).filter fun message => message.level = level

/-- The transaction of an event, when it was accepted, with the signature that came back. -/
def accepted? : Event ε → Option (Transaction × Signature)
  | .send transaction _ (.ok signature) => some (transaction, signature)
  | .send _ _ (.error _) | .latestBlockhash _ | .account .. | .log _ => none

/-- The transactions that were accepted, in order. -/
def accepted (events : List (Event ε)) : List (Transaction × Signature) :=
  events.filterMap accepted?

/-- What is logged of a transaction that was accepted. -/
def acknowledgement (p : Transaction × Signature) : LogMessage :=
  .submitted p.2 p.1.message.blockhash

theorem logged_append (level : LogLevel) (events events' : List (Event ε)) :
    logged level (events ++ events') = logged level events ++ logged level events' := by
  rw [logged, List.filterMap_append, List.filter_append, logged, logged]

theorem accepted_append (events events' : List (Event ε)) :
    accepted (events ++ events') = accepted events ++ accepted events' :=
  List.filterMap_append

/-- Messages are logged at their own levels. -/
theorem logged_map_log (level : LogLevel) (notes : List LogMessage) :
    logged level (notes.map (Event.log : LogMessage → Event ε)) =
      notes.filter fun message => message.level = level := by
  simp [logged, List.filterMap_map, Function.comp_def, message?]

/-- Messages accept nothing. -/
theorem accepted_map_log (notes : List LogMessage) :
    accepted (notes.map (Event.log : LogMessage → Event ε)) = [] := by
  simp [accepted, accepted?]

end Event

/-! ## What a transaction says by itself -/

/-- What is announced of an instruction with some keys in its slots. -/
def LogMessage.about? (key : String → Option Address) : EscrowInstruction → Option LogMessage
  | .createEscrow => do return .creatingEscrow (← key "escrow") (← key "mint")
  | .closeEscrow => do return .closingEscrow (← key "escrow")
  | .transferIn args => do
    return .transferringIn args.amount (← key "attribute_mint") (← key "escrow") args.index
  | .transferOut amount => do
    return .transferringOut amount (← key "attribute_mint") (← key "escrow")
  | .createConstraintModel name => do return .creatingModel (← key "escrow_constraint_model") name
  | .addConstraint constraint => do
    return .addingConstraint constraint.name (← key "escrow_constraint_model")

namespace Message

/-- The key that an instruction of the message has in the slot with a name. -/
def key? (m : Message) (i : CompiledInstruction) (table : Schema) (name : String) :
    Option Address := do
  m.keys[(← i.accounts[← table.position? name]?).toNat]?

/-- What is announced of the one instruction of a message, read off the message alone. -/
def about? (m : Message) : Option LogMessage :=
  match m.instructions with
  | [i] => match EscrowInstruction.unpack i.data with
    | .ok instruction => LogMessage.about? (m.key? i instruction.schema) instruction
    | .error _ => none
  | _ => none

end Message

namespace LogMessage

variable {key key' : String → Option Address} {i : EscrowInstruction} {m : LogMessage}

/-- An announcement is made of the keys in the slots, and of no others. -/
theorem about?_congr (h : ∀ name ∈ i.schema.slots.map Slot.name, key name = key' name) :
    about? key i = about? key' i := by
  cases i with
  | createEscrow =>
    change ∀ name ∈ Schema.createEscrow.slots.map Slot.name, key name = key' name at h
    simp only [about?, h "escrow" (by decide), h "mint" (by decide)]
  | closeEscrow =>
    change ∀ name ∈ Schema.closeEscrow.slots.map Slot.name, key name = key' name at h
    simp only [about?, h "escrow" (by decide)]
  | transferIn args =>
    change ∀ name ∈ Schema.transferIn.slots.map Slot.name, key name = key' name at h
    simp only [about?, h "attribute_mint" (by decide), h "escrow" (by decide)]
  | transferOut amount =>
    change ∀ name ∈ Schema.transferOut.slots.map Slot.name, key name = key' name at h
    simp only [about?, h "attribute_mint" (by decide), h "escrow" (by decide)]
  | createConstraintModel name | addConstraint constraint =>
    change ∀ name ∈ Schema.addConstraint.slots.map Slot.name, key name = key' name at h
    simp only [about?, h "escrow_constraint_model" (by decide)]

/-- Announcements have a level of their own. -/
theorem level_of_about? (h : about? key i = some m) : m.level = .info := by
  cases i with
  | createEscrow | transferIn | transferOut =>
    simp only [about?, Option.bind_eq_bind, Option.bind_eq_some_iff] at h
    obtain ⟨_, -, _, -, ⟨⟩⟩ := h
    rfl
  | closeEscrow | createConstraintModel | addConstraint =>
    simp only [about?, Option.bind_eq_bind, Option.bind_eq_some_iff] at h
    obtain ⟨_, -, ⟨⟩⟩ := h
    rfl

end LogMessage

/-! ## Announcements -/

namespace Operation

variable {program payer : Address} {op : Operation}

/-- **Announcements are about the instruction**: an operation announces the keys that belong in the
slots of its instruction, and the arguments of that. -/
theorem notice?_eq (program payer : Address) (op : Operation) :
    op.notice? program payer =
      LogMessage.about? (op.role? program payer payer) op.instruction := by
  cases op with
  | createEscrow | closeEscrow | transferOut | createConstraintModel => exact Option.map_eq_bind ..
  | transferIn | addConstraint => rfl

theorem level_of_notice? {notice : LogMessage} (h : op.notice? program payer = some notice) :
    notice.level = .info := by
  rw [notice?_eq] at h
  exact LogMessage.level_of_about? h

/-- The keys of a built instruction are those that belong in its slots. -/
theorem roles_of_build {keys : List Address} (hlen : keys.length = op.slots.length)
    (h : op.build program payer = .ok ⟨program, List.zipWith Slot.place op.slots keys, op.data⟩) :
    op.roles program payer payer = keys.map some := by
  have hfilled := filled_build program payer op
  generalize op.build program payer = result at h hfilled
  cases hfilled with
  | nameTooLong | noAddress => cases h
  | @filled keys' hkeys =>
    -- Keys can be read back from the slots that they fill.
    have haccounts := congrArg Instruction.accounts (Except.ok.inj h)
    have haddress := congrArg (List.map AccountRef.address) haccounts
    rw [Slot.address_zipWith_place (length_of_roles hkeys),
      Slot.address_zipWith_place hlen] at haddress
    rw [hkeys, haddress]

/-- What indices that lead to the keys of the slots are found to lead to, by the names of slots. -/
theorem key?_of_accounts {m : Message} {i : CompiledInstruction} {keys : List Address}
    (hroles : op.roles program payer payer = keys.map some)
    (haccounts : i.accounts.map (fun index => m.keys[index.toNat]?) = keys.map some)
    {slot : Slot} (hslot : slot ∈ op.slots) :
    m.key? i op.instruction.schema slot.name = op.role? program payer payer slot.name := by
  obtain ⟨n, key, hn, hrole, hplace⟩ := getElem?_place hroles hslot
  have hkey : keys[n]? = some key := by
    rw [← Slot.address_zipWith_place (length_of_roles hroles), List.getElem?_map, hplace]
    rfl
  have hindex := congrArg (fun l => l[n]?) haccounts
  simp only [List.getElem?_map, hkey] at hindex
  obtain ⟨index, hget, hresolve⟩ := Option.map_eq_some_iff.1 hindex
  rw [hrole, Message.key?, hn]
  simp [hget, hresolve]

end Operation

/-! ## Records -/

variable {σ ε : Type}

/-- A record whose messages tell of its transactions. -/
structure Record.Faithful (r : Record σ ε) : Prop where
  /-- what was accepted is acknowledged, and nothing else is -/
  acknowledged :
    Event.logged .debug r.events = (Event.accepted r.events).map Event.acknowledgement
  /-- one announcement stands before a transaction, and the transaction says the same -/
  announced : ∀ before t options answer after,
    r.events = before ++ .send t options answer :: after →
      ∃ notice, Event.logged .info before = [notice] ∧ t.message.about? = some notice

namespace Sequencer

variable {s : Sequencer σ ε} {op : Operation} {c : σ}

/-- **A transaction says what was announced**: what is read off a transaction that is handed over is
the announcement of its operation. -/
theorem about?_of_mem_send {t : Transaction} {options : SendOptions} {answer : Except ε Signature}
    (h : Event.send t options answer ∈ ((s.perform op).start c).2.events) :
    t.message.about? = op.notice? s.program s.payer.address := by
  obtain ⟨-, -, i, -, -, -, hi, -, hunpack⟩ := decode?_of_mem_send h
  obtain ⟨result, events, c', hrun, hcourse⟩ := course_perform s op c
  rw [hrun] at h
  obtain ⟨keys, -, hlen, hbuild, -, hcarries⟩ := hcourse.exists_keys_of_mem_send h
  obtain ⟨j, hj, -, haccounts, -⟩ := hcarries.instruction
  obtain rfl : i = j := by simpa using hi.symm.trans hj
  have hroles := Operation.roles_of_build hlen hbuild
  rw [Message.about?, hi, Operation.notice?_eq]
  simp only [hunpack]
  refine LogMessage.about?_congr ?_
  intro name hname
  obtain ⟨slot, hslot, rfl⟩ := List.mem_map.1 hname
  exact Operation.key?_of_accounts hroles haccounts hslot

/-- Handing over a transaction logs its acceptance, and nothing else. -/
theorem Submission.logged_debug {i : Instruction} {options : SendOptions} {c c' : σ}
    {result : Except (Failure ε) Signature} {events : List (Event ε)}
    (h : s.Submission i options c result events c') :
    Event.logged .debug events = (Event.accepted events).map Event.acknowledgement := by
  cases h with
  | noBlockhash | notSigned | noWireForm | notSent => rfl
  | sent _ hsign =>
    obtain ⟨_, _, _, _, _, rfl⟩ := Transaction.of_sign_eq_ok hsign
    rfl

/-- Announcements are no acknowledgements, whether an operation stops at them or goes on. -/
theorem Course.logged_debug {c' : σ} {result : Except (Failure ε) Answer} {events : List (Event ε)}
    (h : s.Course op c result events c') :
    Event.logged .debug events = (Event.accepted events).map Event.acknowledgement := by
  cases h with
  | nameTooLong notices _ hnotices | noAddress notices _ hnotices =>
    rw [Event.logged_map_log, Event.accepted_map_log, List.map_nil, List.filter_eq_nil_iff]
    intro notice hnotice
    rw [Operation.level_of_notice? (hnotices notice hnotice)]
    decide
  | @submitted i notice answer result events c' _ hnotice _ hsub =>
    have hlevel : Event.logged .debug [(Event.log notice : Event ε)] = [] := by
      simp [Event.logged, Event.message?, Operation.level_of_notice? hnotice]
    rw [← List.singleton_append, Event.logged_append, Event.accepted_append, hlevel,
      hsub.logged_debug]
    rfl

/-- What is logged in a step acknowledges what was accepted in it. -/
theorem logged_debug_record (s : Sequencer σ ε) (step : Step) (c : σ) :
    Event.logged .debug (s.record step c).events =
      (Event.accepted (s.record step c).events).map Event.acknowledgement := by
  cases step with
  | operation op =>
    obtain ⟨result, events, c', hrecord, hcourse⟩ := course_record s op c
    rw [hrecord]
    exact hcourse.logged_debug
  | account mint =>
    rcases hescrow : (Derivation.escrow s.program mint).address? with _ | escrow
    · rw [record_account_noAddress hescrow]
      rfl
    · rw [record_account hescrow rfl]
      rfl

/-- **The log of a step**: whatever a step was, its record is faithful. -/
theorem faithful_record (s : Sequencer σ ε) (step : Step) (c : σ) :
    (s.record step c).Faithful := by
  refine ⟨s.logged_debug_record step c, ?_⟩
  intro before t options answer after hevents
  have hmem : Event.send t options answer ∈ (s.record step c).events := by
    rw [hevents]
    exact List.mem_append_right _ (List.mem_cons_self ..)
  cases step with
  | account mint => exact absurd hmem send_notMem_account
  | operation op =>
    have habout : t.message.about? = op.notice? s.program s.payer.address :=
      about?_of_mem_send hmem
    obtain ⟨result, events, c', hrecord, hcourse⟩ := course_record s op c
    rw [hrecord] at hevents hmem
    obtain ⟨i, notice, hash, notes, -, hnotice, rfl, -, -⟩ := hcourse.events_of_mem_send hmem
    refine ⟨notice, ?_, habout.trans hnotice⟩
    -- There is one transaction among the events, so it is known what stands before it.
    have hbefore : Event.send t options answer ∉ [.log notice, .latestBlockhash (.ok hash)] := by
      simp
    have hafter : Event.send t options answer ∉ notes.map Event.log := by simp
    obtain ⟨rfl, -, -⟩ := (List.append_cons_inj_of_notMem hbefore hafter).1 hevents
    simp [Event.logged, Event.message?, Operation.level_of_notice? hnotice]

/-- **The log is a faithful record**: in every session, what is acknowledged are the transactions
that were accepted, in order, each by the signature that came back and the block hash in its
message; and wherever a transaction was handed over, one announcement was made before, in the same
step, which is what the transaction says by itself. -/
theorem faithful_trace (s : Sequencer σ ε) (steps : List Step) (c : σ) :
    Event.logged .debug ((s.trace steps c).flatMap Record.events) =
        (Event.accepted ((s.trace steps c).flatMap Record.events)).map Event.acknowledgement ∧
      ∀ r ∈ s.trace steps c, r.Faithful := by
  constructor
  · induction steps generalizing c with
    | nil => rfl
    | cons step steps ih =>
      rw [trace, List.flatMap_cons, Event.logged_append, Event.accepted_append, List.map_append,
        ih, logged_debug_record]
  · intro r hr
    obtain ⟨step, -, c', rfl⟩ := exists_record_of_mem_trace hr
    exact s.faithful_record step c'

/-- Of two transactions the first one is refused. Only the second one is acknowledged, and both were
announced. -/
theorem faithful_trace_refused :
    let a : Address := ByteVec.replicate 32 7
    let s : Sequencer Script.State ScriptedFailure :=
      ⟨({ failSend := [0] } : Script).client, a, ⟨a, fun _ => .ok (ByteVec.replicate 64 1)⟩⟩
    let records := s.trace [.operation (.addConstraint a ⟨"gold", 3, .none⟩),
      .operation (.addConstraint a ⟨"silver", 5, .tokens [a, a]⟩)] {}
    let events := records.flatMap Record.events
    Event.logged .info events =
        [.addingConstraint "gold" a, .addingConstraint "silver" a] ∧
      (Event.sent events).length = 2 ∧
      Event.logged .debug events = [.submitted (ByteVec.replicate 64 1) (ByteVec.zero 32)] ∧
      Event.logged .debug events = (Event.accepted events).map Event.acknowledgement ∧
      ∀ r ∈ records, r.Faithful := by
  intro a s records events
  have hannounced : Event.logged .info events =
      [.addingConstraint "gold" a, .addingConstraint "silver" a] := by decide +kernel
  have hsent : (Event.sent events).length = 2 := by decide +kernel
  have hlogged : Event.logged .debug events =
      [.submitted (ByteVec.replicate 64 1) (ByteVec.zero 32)] := by decide +kernel
  exact ⟨hannounced, hsent, hlogged, faithful_trace s _ {}⟩

end Sequencer

end TokenEscrow

import TokenEscrow.Proofs.Client.Submission
import TokenEscrow.Proofs.Instruction.Build

/-!
# How an operation goes

`Course` lists the ways in which a whole operation can go: its name is refused
or an address it needs does not exist, both before anything was asked for, or
its one transaction is handed over after one announcement. Whatever is said
about operations elsewhere is read off `Course` and `Submission` by cases
(`course_perform`).

The operations differ in the order of their first steps. An operation that
announces an address derives it first, and again when it builds its instruction;
creating a constraint model builds first. The two derivations are of the same
address, so in either order an operation stops early exactly when its
instruction cannot be built.
-/

namespace TokenEscrow

/-! ## Courses -/

namespace Sequencer

open Session

variable {σ ε : Type} (s : Sequencer σ ε)

/-- The ways in which an operation can go. -/
inductive Course (op : Operation) (c : σ) :
    Except (Failure ε) Answer → List (Event ε) → σ → Prop
  /-- the name is refused; nothing was asked for, and nothing said but what was to be done -/
  | nameTooLong (notices : List LogMessage)
    (hbuild : op.build s.program s.payer.address = .error (.escrow .nameTooLong))
    (hnotices : ∀ notice ∈ notices, op.notice? s.program s.payer.address = some notice) :
    Course op c (.error (.program .nameTooLong)) (notices.map .log) c
  /-- an address does not exist; nothing was asked for, and nothing said but what was to be done -/
  | noAddress (notices : List LogMessage)
    (hbuild : op.build s.program s.payer.address = .error .noAddress)
    (hnotices : ∀ notice ∈ notices, op.notice? s.program s.payer.address = some notice) :
    Course op c (.error (.aborted .noAddress)) (notices.map .log) c
  /-- after an announcement, one transaction is handed over -/
  | submitted {i : Instruction} {notice : LogMessage} {answer : Signature → Answer}
    {result : Except (Failure ε) Signature} {events : List (Event ε)} {c' : σ}
    (hbuild : op.build s.program s.payer.address = .ok i)
    (hnotice : op.notice? s.program s.payer.address = some notice)
    (hanswer : op.answer? s.program s.payer.address = some answer)
    (hsub : s.Submission i op.options c result events c') :
    Course op c (result.map answer) (.log notice :: events) c'

/-- Announces an operation, builds its instruction and hands it over. -/
def announce (notice : LogMessage) (op : Operation) : Session σ ε Signature := do
  Session.log notice
  let i ← Session.ofBuild (op.build s.program s.payer.address)
  s.submit i op.options

variable {s} {op : Operation}

/-- Only the payer signs for what an operation builds. -/
theorem signsAlone_of_build {i : Instruction}
    (h : op.build s.program s.payer.address = .ok i) : s.SignsAlone i := by
  obtain ⟨keys, -, hsigner, rfl⟩ := Operation.exists_keys_of_build h
  intro r hr hsign
  obtain ⟨p, hp, rfl⟩ := Slot.mem_zipWith_place.1 hr
  exact hsigner p hp hsign

/-- A built instruction is handed over after an announcement. -/
theorem course_submit {i : Instruction} {notice : LogMessage} {answer : Signature → Answer}
    (hbuild : op.build s.program s.payer.address = .ok i)
    (hnotice : op.notice? s.program s.payer.address = some notice)
    (hanswer : op.answer? s.program s.payer.address = some answer) (c : σ) :
    ∃ result events c',
      (answer <$> s.submit i op.options).runFrom ⟨c, [.log notice]⟩ = (result, ⟨c', events⟩) ∧
        s.Course op c result events c' := by
  obtain ⟨result, events, c', hrun, hsub⟩ :=
    runFrom_submit (signsAlone_of_build hbuild) op.options ⟨c, [.log notice]⟩
  refine ⟨_, _, _, ?_, .submitted hbuild hnotice hanswer hsub⟩
  rw [runFrom_map, hrun]
  rfl

/-- The course of an operation that announces, builds and hands over. -/
theorem course_announce {notice : LogMessage} {answer : Signature → Answer}
    (hnotice : op.notice? s.program s.payer.address = some notice)
    (hanswer : op.answer? s.program s.payer.address = some answer) (c : σ) :
    ∃ result events c',
      (answer <$> s.announce notice op).runFrom ⟨c, []⟩ = (result, ⟨c', events⟩) ∧
        s.Course op c result events c' := by
  have hsaid : ∀ m ∈ [notice], op.notice? s.program s.payer.address = some m := by
    simpa using hnotice
  rw [runFrom_map, announce, runFrom_bind_ok (runFrom_log _ _)]
  rcases hbuild : op.build s.program s.payer.address with (e | _) | i
  · obtain rfl := Operation.eq_nameTooLong_of_build hbuild
    rw [runFrom_bind_error (runFrom_ofBuild_error rfl _)]
    exact ⟨_, [.log notice], _, rfl, .nameTooLong [notice] hbuild hsaid⟩
  · rw [runFrom_bind_error (runFrom_ofBuild_noAddress rfl _)]
    exact ⟨_, _, _, rfl, .noAddress [notice] hbuild hsaid⟩
  · rw [runFrom_bind_ok (runFrom_ofBuild_ok rfl _), ← runFrom_map]
    exact course_submit hbuild hnotice hanswer c

/-- The course of an operation that derives the address it announces. -/
theorem course_derive {d : Derivation} {notice : Address → LogMessage}
    {answer : Address → Signature → Answer}
    (hnone : d.address? = none → op.build s.program s.payer.address = .error .noAddress)
    (hsome : ∀ address, d.address? = some address →
      op.notice? s.program s.payer.address = some (notice address) ∧
        op.answer? s.program s.payer.address = some (answer address)) (c : σ) :
    ∃ result events c',
      (do
        let address ← Session.derive d
        answer address <$> s.announce (notice address) op).runFrom ⟨c, []⟩ =
          (result, ⟨c', events⟩) ∧
        s.Course op c result events c' := by
  rcases h : d.address? with _ | address
  · rw [runFrom_bind_error (runFrom_derive_none h _)]
    exact ⟨_, _, _, rfl, .noAddress [] (hnone h) (List.forall_mem_nil _)⟩
  · rw [runFrom_bind_ok (runFrom_derive_some h _)]
    exact course_announce (hsome address h).1 (hsome address h).2 c

/-! ## The operations

Five of the six announce, build and hand over, and three of these derive the address that they
announce first. -/

theorem perform_createEscrow (nft : Nft) :
    s.perform (.createEscrow nft) =
      Session.derive (.escrow s.program nft.mint) >>= fun escrow =>
        (fun _ => Answer.address escrow) <$>
          s.announce (.creatingEscrow escrow nft.mint) (.createEscrow nft) := by
  simp only [perform, createEscrow, announce, map_bind, bind_pure_comp, Functor.map_map]
  rfl

theorem perform_closeEscrow (nft : Nft) :
    s.perform (.closeEscrow nft) =
      Session.derive (.escrow s.program nft.mint) >>= fun escrow =>
        Answer.signature <$> s.announce (.closingEscrow escrow) (.closeEscrow nft) := by
  simp only [perform, closeEscrow, announce, map_bind]
  rfl

theorem perform_transferIn (nft : Nft) (escrow : Address) (held : Nft) (model : Address)
    (args : TransferInArgs) :
    s.perform (.transferIn nft escrow held model args) =
      Answer.signature <$> s.announce (.transferringIn args.amount held.mint escrow args.index)
        (.transferIn nft escrow held model args) := rfl

theorem perform_transferOut (nft : Nft) (attributeMint : Address) (amount : UInt64) :
    s.perform (.transferOut nft attributeMint amount) =
      Session.derive (.escrow s.program nft.mint) >>= fun escrow =>
        Answer.signature <$> s.announce (.transferringOut amount attributeMint escrow)
          (.transferOut nft attributeMint amount) := by
  simp only [perform, transferOut, announce, map_bind]
  rfl

theorem perform_createConstraintModel (name : String) :
    s.perform (.createConstraintModel name) =
      Session.ofBuild ((Operation.createConstraintModel name).build s.program s.payer.address)
        >>= fun i => Session.derive (.constraintModel s.program s.payer.address name)
        >>= fun model => Session.log (.creatingModel model name)
        >>= fun _ =>
          Answer.model model <$> s.submit i (Operation.createConstraintModel name).options := by
  simp only [perform, createConstraintModel, map_bind, bind_pure_comp, Functor.map_map]
  rfl

theorem perform_addConstraint (model : Address) (constraint : Constraint) :
    s.perform (.addConstraint model constraint) =
      Answer.signature <$> s.announce (.addingConstraint constraint.name model)
        (.addConstraint model constraint) := rfl

/-- The course of the operation that builds before it announces: by then the address that it
announces has been derived. -/
theorem course_createConstraintModel (name : String) (c : σ) :
    ∃ result events c',
      (s.perform (.createConstraintModel name)).runFrom ⟨c, []⟩ = (result, ⟨c', events⟩) ∧
        s.Course (.createConstraintModel name) c result events c' := by
  rw [perform_createConstraintModel]
  rcases hbuild : (Operation.createConstraintModel name).build s.program s.payer.address
    with (e | _) | i
  · obtain rfl := Operation.eq_nameTooLong_of_build hbuild
    rw [runFrom_bind_error (runFrom_ofBuild_error rfl _)]
    exact ⟨_, _, _, rfl, .nameTooLong [] hbuild (List.forall_mem_nil _)⟩
  · rw [runFrom_bind_error (runFrom_ofBuild_noAddress rfl _)]
    exact ⟨_, _, _, rfl, .noAddress [] hbuild (List.forall_mem_nil _)⟩
  rw [runFrom_bind_ok (runFrom_ofBuild_ok rfl _)]
  obtain ⟨model, hmodel⟩ := Operation.exists_model_of_build hbuild
  rw [runFrom_bind_ok (runFrom_derive_some hmodel _), runFrom_bind_ok (runFrom_log _ _)]
  refine course_submit hbuild ?_ ?_ c
  · rw [Operation.notice?, hmodel, Option.map_some]
  · rw [Operation.answer?, hmodel, Option.map_some]

/-- **No other way**: every operation goes in one of the listed ways, from every state of the
client. -/
theorem course_perform (s : Sequencer σ ε) (op : Operation) (c : σ) :
    ∃ result events c', (s.perform op).start c = (result, ⟨c', events⟩) ∧
      s.Course op c result events c' := by
  rw [start_eq]
  cases op with
  | createEscrow nft =>
    rw [perform_createEscrow]
    refine course_derive ?_ ?_ c
    · intro h
      rw [Operation.build, Instruction.createEscrow, Instruction.derive_none h]
      rfl
    · intro escrow h
      simp only [Operation.notice?, Operation.answer?, h, Option.map_some, and_self]
  | closeEscrow nft =>
    rw [perform_closeEscrow]
    refine course_derive ?_ ?_ c
    · intro h
      rw [Operation.build, Instruction.closeEscrow, Instruction.derive_none h]
      rfl
    · intro escrow h
      simp only [Operation.notice?, Operation.answer?, h, Option.map_some, and_self]
  | transferIn nft escrow held model args =>
    rw [perform_transferIn]
    exact course_announce rfl rfl c
  | transferOut nft attributeMint amount =>
    rw [perform_transferOut]
    refine course_derive ?_ ?_ c
    · intro h
      rw [Operation.build, Instruction.transferOut, Instruction.derive_none h]
      rfl
    · intro escrow h
      simp only [Operation.notice?, Operation.answer?, h, Option.map_some, and_self]
  | createConstraintModel name => exact course_createConstraintModel name c
  | addConstraint model constraint =>
    rw [perform_addConstraint]
    exact course_announce rfl rfl c

/-! ## Reading a course -/

/-- **What happened when a transaction was handed over**: its instruction was built, one
announcement was made, and then a block hash was given that the transaction was signed for. -/
theorem Course.events_of_mem_send {c c' : σ} {result : Except (Failure ε) Answer}
    {events : List (Event ε)} (h : s.Course op c result events c') {t : Transaction}
    {options : SendOptions} {answer : Except ε Signature}
    (hmem : Event.send t options answer ∈ events) :
    ∃ (i : Instruction) (notice : LogMessage) (hash : Hash) (notes : List LogMessage),
      op.build s.program s.payer.address = .ok i ∧
      op.notice? s.program s.payer.address = some notice ∧
      events = .log notice :: .latestBlockhash (.ok hash) :: .send t options answer ::
        notes.map Event.log ∧
      options = op.options ∧ Transaction.sign (s.messageFor i hash) s.payer = .ok t := by
  cases h with
  | nameTooLong notices | noAddress notices => simp at hmem
  | submitted hbuild hnotice _ hsub =>
    rcases List.mem_cons.1 hmem with hmem | hmem
    · cases hmem
    · obtain ⟨hash, notes, rfl, hoptions, hsign⟩ := hsub.events_of_mem_send hmem
      exact ⟨_, _, hash, notes, hbuild, hnotice, rfl, hoptions, hsign⟩

/-- A transaction is handed over for an instruction that was built, and signed with the block hash
that the operation was given. -/
theorem Course.of_mem_send {c c' : σ} {result : Except (Failure ε) Answer} {events : List (Event ε)}
    (h : s.Course op c result events c') {t : Transaction} {options : SendOptions}
    {answer : Except ε Signature} (hmem : Event.send t options answer ∈ events) :
    ∃ i hash, op.build s.program s.payer.address = .ok i ∧
      Event.latestBlockhash (.ok hash) ∈ events ∧ options = op.options ∧
      Transaction.sign (s.messageFor i hash) s.payer = .ok t := by
  obtain ⟨i, notice, hash, notes, hbuild, -, rfl, hoptions, hsign⟩ := h.events_of_mem_send hmem
  exact ⟨i, hash, hbuild, List.mem_cons_of_mem _ (List.mem_cons_self ..), hoptions, hsign⟩

/-- An operation succeeds when its instruction is built and nothing fails. -/
theorem start_perform_sent {i : Instruction} {hash : Hash} {t : Transaction} {signature : Signature}
    {c c₁ c₂ : σ} (hbuild : op.build s.program s.payer.address = .ok i)
    (hblock : s.client.latestBlockhash c = (.ok hash, c₁))
    (hsign : Transaction.sign (s.messageFor i hash) s.payer = .ok t)
    (hsend : s.client.send t op.options c₁ = (.ok signature, c₂)) :
    ∃ notice answer, op.notice? s.program s.payer.address = some notice ∧
      op.answer? s.program s.payer.address = some answer ∧
      (s.perform op).start c = (.ok (answer signature), ⟨c₂, [.log notice,
        .latestBlockhash (.ok hash), .send t op.options (.ok signature),
        .log (.submitted signature hash)]⟩) := by
  obtain ⟨result, events, c', hrun, hcourse⟩ := course_perform s op c
  -- Every other course contradicts one of the four premises.
  cases hcourse with
  | nameTooLong notices h | noAddress notices h =>
    rw [hbuild] at h
    cases h
  | submitted h hnotice hanswer hsub =>
    obtain rfl := Except.ok.inj (hbuild.symm.trans h)
    cases hsub with
    | noBlockhash h =>
      rw [hblock] at h
      cases h
    | notSigned h hsign' | noWireForm h hsign' =>
      obtain ⟨⟨⟩, rfl⟩ := Prod.mk.inj (hblock.symm.trans h)
      rw [hsign] at hsign'
      cases hsign'
    | notSent h hsign' hsend' =>
      obtain ⟨⟨⟩, rfl⟩ := Prod.mk.inj (hblock.symm.trans h)
      obtain rfl := Except.ok.inj (hsign.symm.trans hsign')
      cases hsend.symm.trans hsend'
    | sent h hsign' hsend' =>
      obtain ⟨⟨⟩, rfl⟩ := Prod.mk.inj (hblock.symm.trans h)
      obtain rfl := Except.ok.inj (hsign.symm.trans hsign')
      obtain ⟨⟨⟩, rfl⟩ := Prod.mk.inj (hsend.symm.trans hsend')
      exact ⟨_, _, hnotice, hanswer, hrun⟩

end Sequencer

end TokenEscrow

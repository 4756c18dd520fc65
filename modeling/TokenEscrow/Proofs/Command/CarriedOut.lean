import TokenEscrow.Proofs.Command.Asked
import TokenEscrow.Proofs.Command.Reported

/-!
# Commands do what was asked

Six commands hand over a transaction. `Command.operation?` says which operation
they stand for, on the handles of the tokens that they name, and
`Command.CarriedOut` what comes of them when no request fails: one transaction
with the instruction of that operation, and a report that agrees with it. The
only thing that can still go wrong is that an address does not exist.

With that, a command line that is accepted is taken at its word
(`Invocation.carriedOut_of_read`).
-/

namespace TokenEscrow

/-! ## Operations of commands -/

/-- The addresses that have to be derived to find a handle. -/
def Nft.derivations (program mint : Address) : List Derivation :=
  [.metadata program mint, .edition program mint]

namespace Command

/-- The operation that a command stands for, once its handles and addresses are found. -/
def operation? (program : Address) : Command → Option Operation
  | createEscrow mint => return .createEscrow (← Nft.ofMint? program mint)
  | transferIn mint attributeMint constraintModel args =>
    return .transferIn (← Nft.ofMint? program mint) (← (Derivation.escrow program mint).address?)
      (← Nft.ofMint? program attributeMint) constraintModel args
  | transferOut mint attributeMint amount =>
    return .transferOut (← Nft.ofMint? program mint) attributeMint amount
  | closeEscrow mint => return .closeEscrow (← Nft.ofMint? program mint)
  | createConstraintModel name => some (.createConstraintModel name)
  | addConstraint model constraint => some (.addConstraint model constraint)
  | create _ | address .. | showEscrow _ => none

/-- The addresses that have to be derived to find them. -/
def lookups (program : Address) : Command → List Derivation
  | createEscrow mint | closeEscrow mint | transferOut mint .. => Nft.derivations program mint
  | transferIn mint attributeMint .. =>
    Nft.derivations program mint ++
      .escrow program mint :: Nft.derivations program attributeMint
  | create _ | createConstraintModel _ | addConstraint .. | address .. | showEscrow _ => []

/-- The addresses that have to be derived for a command. -/
def derivations (program payer : Address) (command : Command) : List Derivation :=
  command.lookups program ++
    (command.operation? program).toList.flatMap (Operation.derivations program payer)

/-- The commands that hand over a transaction. -/
def sends (command : Command) : Prop :=
  command.name ∈ [.createEscrow, .transferIn, .transferOut, .closeEscrow, .createConstraintModel,
    .addConstraint]

end Command

/-- What carries out operations for a keypair. -/
def Workbench.sequencerFor {σ ε : Type} (b : Workbench σ ε) (payer : Signer) : Sequencer σ ε where
  client := b.client
  program := b.settings.program
  payer := payer

/-- The ways in which a command goes when no request fails. -/
inductive Command.CarriedOut {σ ε : Type} (b : Workbench σ ε) (payer : Signer) (command : Command)
    (c : σ) : Except (CommandFailure ε) String × Run σ ε → Prop
  /-- every digest of some derivation is a point of the curve; nothing is asked for -/
  | missing {d : Derivation} (hd : d ∈ command.derivations b.settings.program payer.address)
    (hexhausted : d.Exhausted) (notices : List LogMessage) :
    CarriedOut b payer command c
      (.error (.operation (.aborted .noAddress)), ⟨c, notices.map .log⟩)
  /-- one transaction is handed over, with the instruction that was asked for, and reported on -/
  | sent {op : Operation} {i : Instruction} {hash : Hash} {own answered : Signature}
    {run : Run σ ε} {report : SentReport}
    (hop : command.operation? b.settings.program = some op)
    (hsent : (b.sequencerFor payer).Sent op i hash own answered run)
    (hreport : command.ReportsOn op i answered report) :
    CarriedOut b payer command c (.ok (report.text b), run)

/-- With a client that echoes, a command that succeeds reports on the one signature that its
transaction has. -/
theorem Command.CarriedOut.exists_sent {σ ε : Type} {b : Workbench σ ε} {payer : Signer}
    {command : Command} {c : σ} {outcome : Except (CommandFailure ε) String × Run σ ε}
    {text : String} (h : command.CarriedOut b payer c outcome) (hok : outcome.1 = .ok text)
    (hechoes : b.client.Echoes) :
    ∃ op i hash own report, command.operation? b.settings.program = some op ∧
      (b.sequencerFor payer).Sent op i hash own own outcome.2 ∧ command.ReportsOn op i own report ∧
        text = report.text b := by
  cases h with
  | missing => cases hok
  | @sent op i hash own answered run report hop hsent hreport =>
    obtain rfl : answered = own := hsent.echo hechoes
    exact ⟨op, i, hash, answered, report, hop, hsent, hreport, (Except.ok.inj hok).symm⟩

/-! ## Carrying out -/

namespace Nft

/-- A handle that is not found lacks an address. -/
theorem exists_exhausted_of_none {program mint : Address} (h : ofMint? program mint = none) :
    ∃ d ∈ derivations program mint, d.Exhausted := by
  have hexhausted : ∀ d ∈ derivations program mint, d.address? = none →
      ∃ d ∈ derivations program mint, d.Exhausted := by
    intro d hd hnone
    refine ⟨d, hd, Derivation.exhausted_of_address?_eq_none ?_ hnone⟩
    refine Derivation.seedsFit_of_name fun program authority name hname => ?_
    subst hname
    simp [derivations] at hd
  rcases hmetadata : (Derivation.metadata program mint).address? with _ | metadata
  · exact hexhausted _ List.mem_cons_self hmetadata
  rcases hedition : (Derivation.edition program mint).address? with _ | edition
  · exact hexhausted _ (List.mem_cons_of_mem _ List.mem_cons_self) hedition
  · rw [ofMint?, hmetadata, hedition] at h
    cases h

end Nft

namespace Sequencer

variable {σ ε α : Type} {s : Sequencer σ ε} {mint : Address} (run : Run σ ε)
  (f : Nft → Session σ ε α)

/-- Without a handle a session is abandoned. -/
theorem runFrom_nft_none (h : Nft.ofMint? s.program mint = none) :
    (s.nft mint >>= f).runFrom run = (.error (.aborted .noAddress), run) := by
  refine Session.runFrom_bind_error ?_
  rw [nft, h]
  rfl

/-- With a handle it goes on. -/
theorem runFrom_nft_some {nft : Nft} (h : Nft.ofMint? s.program mint = some nft) :
    (s.nft mint >>= f).runFrom run = (f nft).runFrom run := by
  refine Session.runFrom_bind_ok ?_
  rw [Sequencer.nft, h]
  rfl

end Sequencer

namespace Command

open Workbench (perform)

variable {σ ε α : Type} {b : Workbench σ ε} {payer : Signer} {command : Command} {c : σ}

section Session

variable {session : Sequencer σ ε → Session σ ε α} {text : α → String}
  (hrun : command.run b = b.sequencer >>= fun s => perform (session s) >>= fun a => pure (text a))
  (hsigner : b.signer = .ok payer)

include hrun hsigner

/-- With a keypair, a command is its session. -/
theorem start_eq_perform : command.start b c =
    (perform (session (b.sequencerFor payer)) >>= fun a =>
      pure (text a) : CommandSession σ ε String).runFrom ⟨c, []⟩ := by
  have hsequencer : b.sequencer = pure (b.sequencerFor payer) := by
    rw [Workbench.sequencer, Workbench.payer, hsigner]
    rfl
  rw [start_eq, hrun, hsequencer]
  rfl

theorem start_ok {a : α} {run : Run σ ε}
    (h : (session (b.sequencerFor payer)).start c = (.ok a, run)) :
    command.start b c = (.ok (text a), run) := by
  rw [start_eq_perform hrun hsigner]
  exact Workbench.runFrom_perform_ok h

theorem start_error {failure : Failure ε} {run : Run σ ε}
    (h : (session (b.sequencerFor payer)).start c = (.error failure, run)) :
    command.start b c = (.error (.operation failure), run) := by
  rw [start_eq_perform hrun hsigner]
  exact Workbench.runFrom_perform_error h

end Session

/-- A command whose handles are found is carried out when its operation is. -/
theorem carriedOut_of_start {op : Operation} {inner : Session σ ε α} {f : α → Answer}
    (hop : command.operation? b.settings.program = some op)
    (hperform : (b.sequencerFor payer).perform op = f <$> inner)
    (hserves : b.client.Serves) (hsigns : payer.Signs) (hfits : op.Fits)
    (herror : ∀ failure run, inner.start c = (.error failure, run) →
      command.start b c = (.error (.operation failure), run))
    (hok : ∀ i answered answer a run, op.build b.settings.program payer.address = .ok i →
      op.answer? b.settings.program payer.address = some answer → f a = answer answered →
      inner.start c = (.ok a, run) → ∃ report, command.start b c = (.ok (report.text b), run) ∧
        command.ReportsOn op i answered report) :
    command.CarriedOut b payer c (command.start b c) := by
  have hdelivers := Sequencer.delivers_start hperform hserves hsigns hfits c
  generalize hinner : inner.start c = p at hdelivers
  cases hdelivers with
  | missing hd hexhausted notices =>
    rw [herror _ _ hinner]
    refine .missing (List.mem_append_right _ ?_) hexhausted notices
    rw [hop]
    exact List.mem_flatMap.2 ⟨op, List.mem_singleton_self op, hd⟩
  | sent hsent hanswer heq =>
    obtain ⟨report, hstart, hreport⟩ := hok _ _ _ _ _ hsent.build hanswer heq hinner
    rw [hstart]
    exact .sent hop hsent hreport

/-- A command that starts by finding a handle is carried out when it is after that. -/
theorem carriedOut_of_nft {mint : Address} {rest : Sequencer σ ε → Nft → Session σ ε α}
    {text : α → String}
    (hrun : command.run b = b.sequencer >>= fun s => perform (s.nft mint >>= rest s) >>= fun a =>
      pure (text a)) (hsigner : b.signer = .ok payer)
    (hlookups : ∀ d ∈ Nft.derivations b.settings.program mint,
      d ∈ command.lookups b.settings.program)
    (hfound : ∀ nft, Nft.ofMint? b.settings.program mint = some nft →
      command.CarriedOut b payer c (command.start b c)) :
    command.CarriedOut b payer c (command.start b c) := by
  rcases hnft : Nft.ofMint? b.settings.program mint with _ | nft
  · obtain ⟨d, hd, hexhausted⟩ := Nft.exists_exhausted_of_none hnft
    rw [start_error hrun hsigner (Sequencer.runFrom_nft_none _ _ hnft)]
    exact .missing (List.mem_append_left _ (hlookups d hd)) hexhausted []
  · exact hfound nft hnft

/-! ### One command at a time -/

section Commands

variable (hsigner : b.signer = .ok payer) (hserves : b.client.Serves) (hsigns : payer.Signs)

include hsigner hserves hsigns

theorem carriedOut_createEscrow (mint : Address)
    (hfits : ∀ op, (createEscrow mint).operation? b.settings.program = some op → op.Fits) :
    (createEscrow mint).CarriedOut b payer c ((createEscrow mint).start b c) := by
  have hrun : (createEscrow mint).run b = b.sequencer >>= fun s =>
      perform (s.nft mint >>= s.createEscrow) >>= fun escrow =>
        pure (b.answer ({ mint := mint.toText, escrow := escrow.toText } : EscrowReport)) := rfl
  refine carriedOut_of_nft hrun hsigner (fun _ => id) fun nft hnft => ?_
  have hop : (createEscrow mint).operation? b.settings.program = some (.createEscrow nft) := by
    rw [operation?, hnft]
    rfl
  have hsession := Sequencer.runFrom_nft_some (s := b.sequencerFor payer) ⟨c, []⟩
    (b.sequencerFor payer).createEscrow hnft
  refine carriedOut_of_start hop rfl hserves hsigns (hfits _ hop) ?_ ?_
  · intro failure run h
    exact start_error hrun hsigner (hsession.trans h)
  · intro i answered answer escrow run hbuild hanswer heq h
    obtain ⟨escrow', hescrow, rfl⟩ := Option.map_eq_some_iff.1 hanswer
    obtain rfl := Answer.address.inj heq
    exact ⟨.escrow _, start_ok hrun hsigner (hsession.trans h),
      reportsOn_createEscrow hnft hescrow hbuild⟩

theorem carriedOut_closeEscrow (mint : Address)
    (hfits : ∀ op, (closeEscrow mint).operation? b.settings.program = some op → op.Fits) :
    (closeEscrow mint).CarriedOut b payer c ((closeEscrow mint).start b c) := by
  have hrun : (closeEscrow mint).run b = b.sequencer >>= fun s =>
      perform (s.nft mint >>= s.closeEscrow) >>= fun signature =>
        pure (b.answer ({ signature := signature.toText } : SignatureReport)) := rfl
  refine carriedOut_of_nft hrun hsigner (fun _ => id) fun nft hnft => ?_
  have hop : (closeEscrow mint).operation? b.settings.program = some (.closeEscrow nft) := by
    rw [operation?, hnft]
    rfl
  have hsession := Sequencer.runFrom_nft_some (s := b.sequencerFor payer) ⟨c, []⟩
    (b.sequencerFor payer).closeEscrow hnft
  refine carriedOut_of_start hop rfl hserves hsigns (hfits _ hop) ?_ ?_
  · intro failure run h
    exact start_error hrun hsigner (hsession.trans h)
  · intro i answered answer signature run hbuild hanswer heq h
    obtain rfl := Option.some.inj hanswer
    obtain rfl := Answer.signature.inj heq
    exact ⟨.signature _, start_ok hrun hsigner (hsession.trans h), reportsOn_signature rfl⟩

theorem carriedOut_transferIn (mint attributeMint model : Address) (args : TransferInArgs)
    (hfits : ∀ op, (transferIn mint attributeMint model args).operation? b.settings.program =
      some op → op.Fits) :
    (transferIn mint attributeMint model args).CarriedOut b payer c
      ((transferIn mint attributeMint model args).start b c) := by
  have hrun : (transferIn mint attributeMint model args).run b = b.sequencer >>= fun s =>
      perform (s.nft mint >>= fun nft => s.escrowAddress mint >>= fun escrow =>
        s.nft attributeMint >>= fun held =>
          Prod.mk escrow <$> s.transferIn nft escrow held model args) >>= fun p =>
        pure (b.answer ({
          escrow := p.1.toText
          attributeMint := attributeMint.toText
          amount := args.amount
          index := some args.index
          signature := p.2.toText } : TransferReport)) := rfl
  refine carriedOut_of_nft hrun hsigner (fun _ hd => List.mem_append_left _ hd) fun nft hnft => ?_
  have hafter := Sequencer.runFrom_nft_some (s := b.sequencerFor payer) ⟨c, []⟩
    (fun nft => (b.sequencerFor payer).escrowAddress mint >>= fun escrow =>
      (b.sequencerFor payer).nft attributeMint >>= fun held =>
        Prod.mk escrow <$> (b.sequencerFor payer).transferIn nft escrow held model args) hnft
  -- Two more look-ups come before the operation, and either may find that an address is missing.
  rcases hescrow : (Derivation.escrow b.settings.program mint).address? with _ | escrow
  · have hmissing := hafter.trans
      (Session.runFrom_bind_error (Session.runFrom_derive_none hescrow _))
    rw [start_error hrun hsigner hmissing]
    have hexhausted := Derivation.exhausted_of_address?_eq_none
      (Instruction.seedsFit_escrow _ _) hescrow
    exact .missing (List.mem_append_left _ (List.mem_append_right _ List.mem_cons_self))
      hexhausted []
  replace hafter := hafter.trans (Session.runFrom_bind_ok (Session.runFrom_derive_some hescrow _))
  rcases hheld : Nft.ofMint? b.settings.program attributeMint with _ | held
  · obtain ⟨d, hd, hexhausted⟩ := Nft.exists_exhausted_of_none hheld
    rw [start_error hrun hsigner (hafter.trans (Sequencer.runFrom_nft_none _ _ hheld))]
    exact .missing (List.mem_append_left _ (List.mem_append_right _ (List.mem_cons_of_mem _ hd)))
      hexhausted []
  replace hafter := (hafter.trans (Sequencer.runFrom_nft_some _ _ hheld)).trans
    (Session.runFrom_map ..)
  have hop : (transferIn mint attributeMint model args).operation? b.settings.program =
      some (.transferIn nft escrow held model args) := by
    rw [operation?, hnft, hescrow, hheld]
    rfl
  refine carriedOut_of_start hop rfl hserves hsigns (hfits _ hop) ?_ ?_
  · intro failure run h
    rw [Session.start_eq] at h
    rw [h] at hafter
    exact start_error hrun hsigner hafter
  · intro i answered answer signature run hbuild hanswer heq h
    obtain rfl := Option.some.inj hanswer
    obtain rfl := Answer.signature.inj heq
    rw [Session.start_eq] at h
    rw [h] at hafter
    exact ⟨.transfer _, start_ok hrun hsigner hafter,
      reportsOn_transferIn hheld hbuild (hfits _ hop)⟩

theorem carriedOut_transferOut (mint attributeMint : Address) (amount : UInt64)
    (hfits : ∀ op, (transferOut mint attributeMint amount).operation? b.settings.program =
      some op → op.Fits) :
    (transferOut mint attributeMint amount).CarriedOut b payer c
      ((transferOut mint attributeMint amount).start b c) := by
  have hrun : (transferOut mint attributeMint amount).run b = b.sequencer >>= fun s =>
      perform (s.nft mint >>= fun nft => s.transferOut nft attributeMint amount >>= fun signature =>
        s.escrowAddress mint >>= fun escrow => pure (escrow, signature)) >>= fun p =>
        pure (b.answer ({
          escrow := p.1.toText
          attributeMint := attributeMint.toText
          amount
          index := none
          signature := p.2.toText } : TransferReport)) := rfl
  refine carriedOut_of_nft hrun hsigner (fun _ => id) fun nft hnft => ?_
  obtain ⟨rfl, -, -⟩ := Nft.of_ofMint?_eq_some hnft
  have hafter := Sequencer.runFrom_nft_some (s := b.sequencerFor payer) ⟨c, []⟩
    (fun nft' => (b.sequencerFor payer).transferOut nft' attributeMint amount >>=
      fun signature => (b.sequencerFor payer).escrowAddress nft.mint >>= fun escrow =>
        pure (escrow, signature)) hnft
  have hop : (transferOut nft.mint attributeMint amount).operation? b.settings.program =
      some (.transferOut nft attributeMint amount) := by
    rw [operation?, hnft]
    rfl
  refine carriedOut_of_start hop rfl hserves hsigns (hfits _ hop) ?_ ?_
  · intro failure run h
    exact start_error hrun hsigner (hafter.trans (Session.runFrom_bind_error h))
  · intro i answered answer signature run hbuild hanswer heq h
    obtain rfl := Option.some.inj hanswer
    obtain rfl := Answer.signature.inj heq
    -- The builder derives the address of the escrow too, so it is found once more.
    rcases hescrow : (Derivation.escrow b.settings.program nft.mint).address? with _ | escrow
    · rw [Operation.build, Instruction.transferOut, Instruction.derive_none hescrow] at hbuild
      cases hbuild
    replace hafter := (hafter.trans (Session.runFrom_bind_ok h)).trans
      (Session.runFrom_bind_ok (Session.runFrom_derive_some hescrow _))
    exact ⟨.transfer _, start_ok hrun hsigner hafter,
      reportsOn_transferOut hescrow hbuild (hfits _ hop)⟩

theorem carriedOut_createConstraintModel (name : String)
    (hfits : ∀ op, (createConstraintModel name).operation? b.settings.program = some op →
      op.Fits) :
    (createConstraintModel name).CarriedOut b payer c ((createConstraintModel name).start b c) := by
  have hrun : (createConstraintModel name).run b = b.sequencer >>= fun s =>
      perform (s.createConstraintModel name) >>= fun p =>
        pure (b.answer ({
          name, address := p.1.toText, signature := p.2.toText } : ModelReport)) := rfl
  refine carriedOut_of_start rfl rfl hserves hsigns (hfits _ rfl) ?_ ?_
  · intro failure run h
    exact start_error hrun hsigner h
  · intro i answered answer p run hbuild hanswer heq h
    obtain ⟨model, hmodel, rfl⟩ := Option.map_eq_some_iff.1 hanswer
    obtain ⟨rfl, rfl⟩ := Answer.model.inj heq
    exact ⟨.model _, start_ok hrun hsigner h,
      reportsOn_createConstraintModel hmodel hbuild (hfits _ rfl)⟩

theorem carriedOut_addConstraint (model : Address) (constraint : Constraint)
    (hfits : ∀ op, (addConstraint model constraint).operation? b.settings.program = some op →
      op.Fits) :
    (addConstraint model constraint).CarriedOut b payer c
      ((addConstraint model constraint).start b c) := by
  have hrun : (addConstraint model constraint).run b = b.sequencer >>= fun s =>
      perform (s.addConstraint model constraint) >>= fun signature =>
        pure (b.answer ({ signature := signature.toText } : SignatureReport)) := rfl
  refine carriedOut_of_start rfl rfl hserves hsigns (hfits _ rfl) ?_ ?_
  · intro failure run h
    exact start_error hrun hsigner h
  · intro i answered answer signature run hbuild hanswer heq h
    obtain rfl := Option.some.inj hanswer
    obtain rfl := Answer.signature.inj heq
    exact ⟨.signature _, start_ok hrun hsigner h, reportsOn_signature rfl⟩

/-- Every command that hands over a transaction is carried out. -/
theorem carriedOut_of_sends (hsends : command.sends)
    (hfits : ∀ op, command.operation? b.settings.program = some op → op.Fits) :
    command.CarriedOut b payer c (command.start b c) := by
  cases command with
  | createEscrow => exact carriedOut_createEscrow hsigner hserves hsigns _ hfits
  | transferIn => exact carriedOut_transferIn hsigner hserves hsigns _ _ _ _ hfits
  | transferOut => exact carriedOut_transferOut hsigner hserves hsigns _ _ _ hfits
  | closeEscrow => exact carriedOut_closeEscrow hsigner hserves hsigns _ hfits
  | createConstraintModel => exact carriedOut_createConstraintModel hsigner hserves hsigns _ hfits
  | addConstraint => exact carriedOut_addConstraint hsigner hserves hsigns _ _ hfits
  | create | address | showEscrow => exact absurd hsends (by simp [sends, name])

end Commands

end Command

namespace Invocation

/-- **An accepted command line is taken at its word.** It asks for a command, none of whose parts
turns out to be missing; and a command that hands over a transaction is carried out when no request
fails, and its name and data fit. -/
theorem carriedOut_of_read {home : Home} {words : List String} {i : Invocation}
    (h : Invocation.read home words = .ok i) :
    ∃ command, Command.ofMatches i.command i.options = .ok command ∧ command.name = i.command ∧
      command.AskedBy words ∧ (command.sends → ∀ {σ ε : Type} (b : Workbench σ ε) (payer : Signer)
        (c : σ), b.signer = .ok payer → b.client.Serves → payer.Signs →
        (∀ op, command.operation? b.settings.program = some op → op.Fits) →
        command.CarriedOut b payer c (i.start b c)) := by
  obtain ⟨command, hcommand, hname, hasked⟩ := exists_command_of_read h
  refine ⟨command, hcommand, hname, hasked, ?_⟩
  intro hsends σ ε b payer c hsigner hserves hsigns hfits
  rw [start_of_ofMatches hcommand]
  exact Command.carriedOut_of_sends hsigner hserves hsigns hsends hfits

/-- A constraint on two mints, with a sign and a zero in front of its limit. -/
theorem carriedOut_of_read_tokens :
    let words := ["add-constraint", "--model", "LbUiWL3xVV8hTFYBVdbTNrpDo41NKS6o3LHHuDzjfcY",
      "--constraint-type=tokens", "--token", "GgBaCs3NCBuZN12kCJgAW63ydqohFkHEdfdEXBPzLHq",
      "--name", "gold", "--token", "cGfHiC6Kgg3FpFZvgwGcswsCRtp4aBP2fzuXRQPizuN",
      "--token-limit", "+05"]
    let payer : Signer := ⟨ByteVec.replicate 32 7, fun _ => .ok (ByteVec.replicate 64 1)⟩
    let b : Workbench Script.State ScriptedFailure := {
      settings := ⟨"id.json", "http://localhost:8899", Known.metadataProgram, .json, false⟩
      client := ({} : Script).client
      signer := .ok payer }
    let command := Command.addConstraint (ByteVec.replicate 32 5)
      ⟨"gold", 5, .tokens [ByteVec.replicate 32 4, ByteVec.replicate 32 9]⟩
    ∃ i, Invocation.read ⟨"/home"⟩ words = .ok i ∧ command.AskedBy words ∧
      command.CarriedOut b payer {} (i.start b {}) ∧
      ∃ op built hash own report,
        (b.sequencerFor payer).Sent op built hash own own (i.start b {}).2 ∧
          (i.start b {}).1 = .ok (report.text b) ∧ command.ReportsOn op built own report := by
  intro words payer b command
  have hread : ((Invocation.read ⟨"/home"⟩ words).toOption.bind fun i =>
      (Command.ofMatches i.command i.options).toOption) = some command := by decide +kernel
  rcases hi : Invocation.read ⟨"/home"⟩ words with e | i
  · rw [hi] at hread
    cases hread
  rw [hi, Except.toOption, Option.bind_some] at hread
  obtain ⟨command', hcommand, -, hasked, hout⟩ := carriedOut_of_read hi
  rw [hcommand] at hread
  obtain rfl := Option.some.inj hread
  have hcarried : command.CarriedOut b payer {} (i.start b {}) := by
    refine hout ?_ b payer {} rfl (Script.serves_client rfl rfl) ?_ ?_
    · simp [Command.sends, Command.name, command]
    · exact fun message => ⟨_, rfl, by decide⟩
    · rintro op ⟨⟩
      refine ⟨?_, by decide⟩
      rintro name ⟨⟩
      decide
  -- Nothing is derived for a constraint, so the command succeeds.
  obtain ⟨text, hok⟩ : ∃ text, (i.start b {}).1 = .ok text := by
    generalize i.start b {} = outcome at hcarried
    cases hcarried with
    | missing hd => cases hd
    | sent => exact ⟨_, rfl⟩
  obtain ⟨op, built, hash, own, report, -, hsent, hreport, rfl⟩ :=
    hcarried.exists_sent hok (Script.echoes_client _)
  exact ⟨i, rfl, hasked, hcarried, op, built, hash, own, report, hsent, hok, hreport⟩

end Invocation

end TokenEscrow

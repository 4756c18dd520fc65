import TokenEscrow.Proofs.Client.Oversized
import TokenEscrow.Proofs.Command.CarriedOut

/-!
# Names that fit in no seed

The longest name that builders accept and the longest seed of a derived address are
two definitions that have to agree, in bytes of UTF-8 and on the boundary. They
do: with a viable bump, a name is accepted exactly when the address of its
constraint model is found (`NameBound`).

Deriving an address from a name that is too long aborts. Nothing that carries a
name gets that far (`Guarded`): such a name is refused with an error before, and
before anything is asked of the client. This holds for builders, for operations in
whatever state the client is, and for every command line that is accepted
(`nameBound_of_viable`). An operation derives the address of its model a second time,
behind the builder; this cannot abort, since the builder has derived it by then.
-/

namespace TokenEscrow

/-! ## Outcomes -/

/-- The outcome of a request with a name: refused for a name that fits in no seed and for no other,
in which case nothing was asked of the client, and never for want of an address. The failures of
operations may stand inside others. -/
structure Guarded {σ ε ε' α : Type} (name : String) (inside : Failure ε → ε') (c : σ)
    (outcome : Except ε' α × Run σ ε) : Prop where
  /-- only a name that is too long is refused -/
  refused_iff : outcome.1 = .error (inside (.program .nameTooLong)) ↔
    32 < (Utf8.encode name).length
  /-- and then nothing is asked for -/
  silent : 32 < (Utf8.encode name).length →
    outcome.2.client = c ∧ outcome.2.events.filter Event.isRequest = []
  /-- no address is missing -/
  found : outcome.1 ≠ .error (inside (.aborted .noAddress))

/-- It makes no difference what becomes of an answer, nor inside which failures others stand. -/
theorem Guarded.map {σ ε ε' α β γ : Type} {name : String} {inside : Failure ε → ε'} {c : σ}
    {result : Except (Failure ε) α} {run : Run σ ε} {f : α → β}
    (h : Guarded name id c (result.map f, run)) (hinside : inside.Injective) (text : α → γ) :
    Guarded name inside c ((result.map text).mapError inside, run) := by
  have herror : ∀ failure, (result.map text).mapError inside = .error (inside failure) ↔
      result.map f = .error failure := by
    intro failure
    rcases result with failure' | a
    · exact ⟨fun h => congrArg Except.error (hinside (Except.error.inj h)),
        fun h => congrArg (Except.error ∘ inside) (Except.error.inj h)⟩
    · exact iff_of_false nofun nofun
  exact {
    refused_iff := (herror _).trans h.refused_iff
    silent := h.silent
    found := fun hmissing => h.found ((herror _).1 hmissing) }

/-! ## Operations -/

namespace Sequencer

variable {σ ε : Type} {s : Sequencer σ ε} {op : Operation} {name : String}

/-- An operation with a name is guarded, whatever the state of the client. -/
theorem guarded_perform (hname : op.name? = some name)
    (hviable : (Derivation.constraintModel s.program s.payer.address name).SeedsFit →
      (Derivation.constraintModel s.program s.payer.address name).Viable) (c : σ) :
    Guarded name id c ((s.perform op).start c) := by
  have hbuilds : (∃ i, op.build s.program s.payer.address = .ok i) ↔
      (Utf8.encode name).length ≤ 32 := by
    rw [← Operation.buildFor_payer]
    refine Operation.exists_buildFor_iff hname ?_
    intro d hd
    obtain rfl := Operation.eq_constraintModel_of_mem hname hd
    exact hviable
  have hrefuses (h : 32 < (Utf8.encode name).length) :
      op.build s.program s.payer.address = .error (.escrow .nameTooLong) := by
    rw [← Operation.buildFor_payer]
    exact Operation.buildFor_of_long hname h
  have hlong {e : BuildError} (h : op.build s.program s.payer.address = .error e) :
      32 < (Utf8.encode name).length := by
    apply Nat.not_le.1
    intro hfits
    obtain ⟨i, hi⟩ := hbuilds.2 hfits
    rw [h] at hi
    cases hi
  obtain ⟨result, events, c', hrun, hcourse⟩ := course_perform s op c
  rw [hrun]
  cases hcourse with
  | nameTooLong notices hbuild =>
    refine ⟨iff_of_true rfl (hlong hbuild), fun _ => ⟨rfl, ?_⟩, ?_⟩
    · simp [Event.isRequest]
    · rintro ⟨⟩
  | noAddress notices hbuild =>
    -- With a name that fits nothing is missing, and any other name is refused before that shows.
    rw [hrefuses (hlong hbuild)] at hbuild
    cases hbuild
  | submitted hbuild _ _ hsub =>
    have hfits : ¬ 32 < (Utf8.encode name).length := Nat.not_lt.2 (hbuilds.1 ⟨_, hbuild⟩)
    refine ⟨iff_of_false ?_ hfits, fun h => absurd h hfits, ?_⟩
    · cases hsub <;> rintro ⟨⟩
    · cases hsub <;> rintro ⟨⟩

end Sequencer

/-! ## Commands -/

namespace Command

open Workbench (perform)

variable {σ ε α : Type} {b : Workbench σ ε} {payer : Signer} {command : Command} {name : String}

section Session

variable {session : Sequencer σ ε → Session σ ε α} {text : α → String}
  (hrun : command.run b = b.sequencer >>= fun s => perform (session s) >>= fun a => pure (text a))

include hrun

/-- Without a keypair a command ends before it does anything. -/
theorem start_of_signer_error {e : KeypairError} (hsigner : b.signer = .error e) (c : σ) :
    command.start b c = (.error (.keypair b.settings.keypairPath e), ⟨c, []⟩) := by
  have hsequencer : b.sequencer = throw (.keypair b.settings.keypairPath e) := by
    rw [Workbench.sequencer, Workbench.payer, hsigner]
    rfl
  rw [start_eq, hrun, hsequencer]
  rfl

/-- A command is guarded when the operation that it stands for is. -/
theorem guarded_of_perform (hsigner : b.signer = .ok payer) {op : Operation} {f : α → Answer}
    (hperform : (b.sequencerFor payer).perform op = f <$> session (b.sequencerFor payer)) {c : σ}
    (h : Guarded name id c (((b.sequencerFor payer).perform op).start c)) :
    Guarded name CommandFailure.operation c (command.start b c) := by
  have hmap : ((b.sequencerFor payer).perform op).start c =
      (((session (b.sequencerFor payer)).start c).1.map f,
        ((session (b.sequencerFor payer)).start c).2) := by
    rw [hperform]
    exact Session.runFrom_map _ _ _
  have hstart : command.start b c =
      ((((session (b.sequencerFor payer)).start c).1.map text).mapError .operation,
        ((session (b.sequencerFor payer)).start c).2) := by
    rcases hsession : (session (b.sequencerFor payer)).start c with ⟨failure | a, run⟩
    · exact start_error hrun hsigner hsession
    · exact start_ok hrun hsigner hsession
  rw [hmap] at h
  rw [hstart]
  exact h.map (fun _ _ => CommandFailure.operation.inj) text

end Session

/-- The name that a command carries. -/
def label? : Command → Option String
  | createConstraintModel name => some name
  | addConstraint _ constraint => some constraint.name
  | create _ | createEscrow _ | transferIn .. | transferOut .. | closeEscrow _ => none
  | address .. | showEscrow _ => none

/-- A command with a name is guarded, once there is a keypair. -/
theorem guarded_start (hlabel : command.label? = some name) (hsigner : b.signer = .ok payer)
    (hviable : (Derivation.constraintModel b.settings.program payer.address name).SeedsFit →
      (Derivation.constraintModel b.settings.program payer.address name).Viable) (c : σ) :
    Guarded name CommandFailure.operation c (command.start b c) := by
  have hperform (op : Operation) (hname : op.name? = some name) :
      Guarded name id c (((b.sequencerFor payer).perform op).start c) :=
    Sequencer.guarded_perform hname hviable c
  cases command with
  | create | createEscrow | transferIn | transferOut | closeEscrow => cases hlabel
  | address | showEscrow => cases hlabel
  | createConstraintModel =>
    exact guarded_of_perform rfl hsigner rfl (hperform (.createConstraintModel _) hlabel)
  | addConstraint model =>
    exact guarded_of_perform rfl hsigner rfl (hperform (.addConstraint model _) hlabel)

/-- A command with a name ends without a keypair before it does anything. -/
theorem start_of_label (hlabel : command.label? = some name) {e : KeypairError}
    (hsigner : b.signer = .error e) (c : σ) :
    command.start b c = (.error (.keypair b.settings.keypairPath e), ⟨c, []⟩) := by
  cases command with
  | create | createEscrow | transferIn | transferOut | closeEscrow => cases hlabel
  | address | showEscrow => cases hlabel
  | createConstraintModel => exact start_of_signer_error rfl hsigner c
  | addConstraint => exact start_of_signer_error rfl hsigner c

end Command

/-- A command line of one of the two commands with a name is carried out as a command with the name
that was given. -/
theorem Invocation.exists_label {home : Home} {words : List String} {i : Invocation}
    (h : Invocation.read home words = .ok i)
    (hcommand : i.command = .createConstraintModel ∨ i.command = .addConstraint) {name : String}
    (hname : given "name" words = [name]) :
    ∃ command, Command.ofMatches i.command i.options = .ok command ∧
      command.label? = some name := by
  obtain ⟨command, hmatches, hcalled, hasked⟩ := exists_command_of_read h
  refine ⟨command, hmatches, ?_⟩
  rw [← hcalled] at hcommand
  cases command with
  | createConstraintModel =>
    exact congrArg List.head? (hasked.symm.trans hname)
  | addConstraint =>
    exact congrArg List.head? (hasked.2.1.symm.trans hname)
  | create | createEscrow | transferIn | transferOut => simp [Command.name] at hcommand
  | closeEscrow | address | showEscrow => simp [Command.name] at hcommand

/-! ## The bound -/

/-- What the length of a name decides, for a program, a payer and an update authority. -/
structure NameBound (program payer authority : Address) (name : String) : Prop where
  /-- a constraint model is built under every name of at most 32 bytes -/
  create_iff : (∃ i, Instruction.createConstraintModel program payer authority name = .ok i) ↔
    (Utf8.encode name).length ≤ 32
  /-- and so is a constraint -/
  add_iff (model : Address) (limit : UInt64) (rule : ConstraintRule) :
    (∃ i, Instruction.addConstraint program model payer authority ⟨name, limit, rule⟩ = .ok i) ↔
      (Utf8.encode name).length ≤ 32
  /-- any other name is refused -/
  create_refused (h : 32 < (Utf8.encode name).length) :
    Instruction.createConstraintModel program payer authority name = .error (.escrow .nameTooLong)
  /-- by both builders alike -/
  add_refused (h : 32 < (Utf8.encode name).length) (model : Address) (limit : UInt64)
    (rule : ConstraintRule) :
    Instruction.addConstraint program model payer authority ⟨name, limit, rule⟩ =
      .error (.escrow .nameTooLong)
  /-- from such a name no address can be derived -/
  find?_iff : (Derivation.constraintModel program authority name).find? = none ↔
    32 < (Utf8.encode name).length
  /-- operations with the name are guarded -/
  operation {σ ε : Type} (s : Sequencer σ ε) (op : Operation) (c : σ)
    (hprogram : s.program = program) (hpayer : s.payer.address = payer)
    (hname : op.name? = some name) : Guarded name id c ((s.perform op).start c)
  /-- accepted command lines with the name are guarded once there is a keypair -/
  line {σ ε : Type} (b : Workbench σ ε) (c : σ) {home : Home} {words : List String}
    {i : Invocation} (hread : Invocation.read home words = .ok i)
    (hcommand : i.command = .createConstraintModel ∨ i.command = .addConstraint)
    (hname : given "name" words = [name]) (hprogram : b.settings.program = program)
    {signer : Signer} (hsigner : b.signer = .ok signer) (hpayer : signer.address = payer) :
    Guarded name CommandFailure.operation c (i.start b c)
  /-- and without one they end before they do anything -/
  unpaid {σ ε : Type} (b : Workbench σ ε) (c : σ) {home : Home} {words : List String}
    {i : Invocation} (hread : Invocation.read home words = .ok i)
    (hcommand : i.command = .createConstraintModel ∨ i.command = .addConstraint)
    (hname : given "name" words = [name]) {e : KeypairError} (hsigner : b.signer = .error e) :
    i.start b c = (.error (.keypair b.settings.keypairPath e), ⟨c, []⟩)

/-- **The bound on names is exact, and shields the derivation of addresses**, if a bump is viable
for the model of the name under the update authority and under the payer whenever its seeds fit. -/
theorem nameBound_of_viable {program payer authority : Address} {name : String}
    (hauthority : (Derivation.constraintModel program authority name).SeedsFit →
      (Derivation.constraintModel program authority name).Viable)
    (hpayer : (Derivation.constraintModel program payer name).SeedsFit →
      (Derivation.constraintModel program payer name).Viable) :
    NameBound program payer authority name where
  create_iff := (Operation.createConstraintModel name).exists_buildFor_iff rfl
    (List.forall_mem_singleton.2 hauthority)
  add_iff model limit rule :=
    (Operation.addConstraint model ⟨name, limit, rule⟩).exists_buildFor_iff
    rfl fun _ hd => absurd hd List.not_mem_nil
  create_refused h := (Operation.createConstraintModel name).buildFor_of_long rfl h
  add_refused h model limit rule :=
    (Operation.addConstraint model ⟨name, limit, rule⟩).buildFor_of_long rfl h
  find?_iff := by
    rw [Derivation.find?_eq_none_iff hauthority, Derivation.seedsFit_constraintModel_iff]
    exact Nat.not_le
  operation := by
    rintro σ ε s op c rfl rfl hname
    exact Sequencer.guarded_perform hname hpayer c
  line := by
    rintro σ ε b c home words i hread hcommand hname rfl signer hsigner rfl
    obtain ⟨command, hmatches, hlabel⟩ := Invocation.exists_label hread hcommand hname
    rw [Invocation.start_of_ofMatches hmatches]
    exact Command.guarded_start hlabel hsigner hpayer c
  unpaid := by
    intro σ ε b c home words i hread hcommand hname e hsigner
    obtain ⟨command, hmatches, hlabel⟩ := Invocation.exists_label hread hcommand hname
    rw [Invocation.start_of_ofMatches hmatches]
    exact Command.start_of_label hlabel hsigner c

/-- Sixteen characters of two bytes each fit; one more byte does not. -/
theorem nameBound_of_viable_umlauts :
    let program : Address := ByteVec.replicate 32 7
    let payer : Address := ByteVec.replicate 32 2
    let fits := "äöüäöüäöüäöüäöüä"
    let long := "äöüäöüäöüäöüäöüäx"
    (Derivation.constraintModel program payer fits).Viable ∧
      ¬ (Derivation.constraintModel program payer long).SeedsFit ∧
      NameBound program payer payer fits ∧ NameBound program payer payer long ∧
      (∃ i, Instruction.createConstraintModel program payer payer fits = .ok i) ∧
      (Derivation.constraintModel program payer long).find? = none := by
  intro program payer fits long
  have hviable : (Derivation.constraintModel program payer fits).Viable :=
    ⟨255, by decide, by decide +kernel⟩
  have hlong : ¬ (Derivation.constraintModel program payer long).SeedsFit := by
    rw [Derivation.seedsFit_constraintModel_iff]
    decide
  have hfits := nameBound_of_viable (fun _ => hviable) fun _ => hviable
  have hrefused := nameBound_of_viable (fun h => absurd h hlong) fun h => absurd h hlong
  exact ⟨hviable, hlong, hfits, hrefused, hfits.create_iff.2 (by decide),
    hrefused.find?_iff.2 (by decide)⟩

end TokenEscrow

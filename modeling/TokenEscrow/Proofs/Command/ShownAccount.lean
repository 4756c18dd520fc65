import TokenEscrow.Proofs.Command.CarriedOut
import TokenEscrow.Proofs.Command.Lines
import TokenEscrow.Proofs.Rpc.Account

/-!
# Showing the account of an escrow

`show-escrow` makes one request, for the address of the escrow, and hands nothing
over (`Command.ShowsAccount`). That there is no account is an answer; that the
request failed is a failure of the command, and never taken for that answer
(`Command.AccountShown`).

With a node as the client, it is the exchanges with the node that say which of these
it is (`NodeM.AnsweredAs`). Together they settle what an accepted command line comes
to (`Invocation.showsEscrow_of_read`).
-/

namespace TokenEscrow

/-! ## The report -/

/-- What a report says of the address of an escrow and the account under it, if there is one. -/
structure AccountReport.IsOn (escrow : Address) (account : Option Account)
    (report : AccountReport) : Prop where
  escrow : report.escrow = escrow.toText
  exists_eq : report.exists? = account.isSome
  owner : report.owner = account.map fun a => a.owner.toText
  ownerField : "owner" ∈ (Report.fields report).map Prod.fst ↔ account.isSome
  lamports : report.lamports = account.elim 0 Account.lamports
  /-- a length that fits in 64 bits is told -/
  dataLen : (∀ a ∈ account, a.data.length < UInt64.size) →
    report.dataLen.toNat = account.elim 0 fun a => a.data.length

theorem AccountReport.isOn_ofAccount (escrow : Address) (account : Option Account) :
    (ofAccount escrow account).IsOn escrow account := by
  cases account with
  | none =>
    constructor
    case ownerField =>
      exact iff_of_false
        (show "owner" ∉ ["escrow", "exists", "lamports", "dataLen"] by decide) nofun
    case dataLen => exact fun _ => rfl
    all_goals rfl
  | some account =>
    constructor
    case ownerField =>
      exact iff_of_true
        (show "owner" ∈ ["escrow", "exists", "owner", "lamports", "dataLen"] by decide) rfl
    case dataLen =>
      intro hfits
      exact UInt64.toNat_ofNat_of_lt (hfits account rfl)
    all_goals rfl

/-! ## The request -/

/-- What it comes to when a missing account is no failure. -/
def accountOrMissing {ε : Type} : Except (Failure ε) Account → Except (Failure ε) (Option Account)
  | .ok account => .ok (some account)
  | .error .accountNotFound => .ok none
  | .error failure => .error failure

/-- Nothing of the answer is lost on the way. -/
theorem accountOrMissing_accountFound {ε : Type} (answer : Except ε (Option Account)) :
    accountOrMissing (accountFound answer) = answer.mapError .client := by
  rcases answer with e | _ | account <;> rfl

theorem Session.runFrom_orMissing {σ ε : Type} {session : Session σ ε Account} {run run' : Run σ ε}
    {result : Except (Failure ε) Account} (h : session.runFrom run = (result, run')) :
    session.orMissing.runFrom run = (accountOrMissing result, run') := by
  refine (Fallible.run_tryCatch _ _ run).trans ?_
  rw [show (some <$> session).run.run run = _ from runFrom_map some session run, h]
  cases result with
  | ok a => rfl
  | error failure => cases failure <;> rfl

/-! ## The command -/

namespace Command

open Workbench (perform)

variable {σ ε : Type} {b : Workbench σ ε} {mint escrow : Address} {c : σ}

/-- How the command ends when the request for an account was answered. -/
inductive AccountShown (b : Workbench σ ε) (escrow : Address) :
    Except ε (Option Account) → Except (CommandFailure ε) String → Prop
  | found {account : Account} {report : AccountReport}
    (hreport : report.IsOn escrow (some account)) :
    AccountShown b escrow (.ok (some account)) (.ok (b.answer report))
  | absent {report : AccountReport} (hreport : report.IsOn escrow none) :
    AccountShown b escrow (.ok none) (.ok (b.answer report))
  /-- the failure is that of the request, and nothing is shown -/
  | failed {e : ε} : AccountShown b escrow (.error e) (.error (.operation (.client e)))

/-- The ways in which the command goes. -/
inductive ShowsAccount (b : Workbench σ ε) (mint : Address) (c : σ) :
    Except (CommandFailure ε) String × Run σ ε → Prop
  /-- there is no keypair, and nothing is asked for -/
  | noKeypair {e : KeypairError} (hsigner : b.signer = .error e) :
    ShowsAccount b mint c (.error (.keypair b.settings.keypairPath e), ⟨c, []⟩)
  /-- every digest of the derivation is a point of the curve, and nothing is asked for -/
  | noAddress {payer : Signer} (hsigner : b.signer = .ok payer)
    (hexhausted : (Derivation.escrow b.settings.program mint).Exhausted) :
    ShowsAccount b mint c (.error (.operation (.aborted .noAddress)), ⟨c, []⟩)
  /-- there is one request, for the account of the escrow -/
  | asked {payer : Signer} {escrow : Address} {answer : Except ε (Option Account)} {c' : σ}
    {result : Except (CommandFailure ε) String} (hsigner : b.signer = .ok payer)
    (hescrow : (Derivation.escrow b.settings.program mint).address? = some escrow)
    (hasked : b.client.account escrow c = (answer, c'))
    (hshown : AccountShown b escrow answer result) :
    ShowsAccount b mint c (result, ⟨c', [.account escrow answer]⟩)

/-- Carrying out the command has no other outcome. -/
theorem showsAccount_start (b : Workbench σ ε) (mint : Address) (c : σ) :
    ShowsAccount b mint c ((showEscrow mint).start b c) := by
  rcases hsigner : b.signer with e | payer
  · rw [start_eq, run, Workbench.sequencer, Workbench.payer, hsigner]
    exact .noKeypair hsigner
  -- The session of the command, as one part, so that `start_ok` and `start_error` apply.
  have hrun : (showEscrow mint).run b = b.sequencer >>= fun s =>
      perform (s.escrowAddress mint >>= fun escrow => (s.escrowAccount mint).orMissing >>=
        fun account => pure (escrow, account)) >>= fun p =>
          pure (b.answer (AccountReport.ofAccount p.1 p.2)) := rfl
  rcases hescrow : (Derivation.escrow b.settings.program mint).address? with _ | escrow
  · rw [start_error hrun hsigner
      (Session.runFrom_bind_error (Session.runFrom_derive_none hescrow _))]
    exact .noAddress hsigner (Derivation.exhausted_of_address?_eq_none
      (Instruction.seedsFit_escrow _ _) hescrow)
  · rcases hasked : b.client.account escrow c with ⟨answer, c'⟩
    have hfound := Session.runFrom_derive_some hescrow (⟨c, []⟩ : Run σ ε)
    have hlook : ((b.sequencerFor payer).escrowAccount mint).runFrom ⟨c, []⟩ =
        (accountFound answer, ⟨c', [.account escrow answer]⟩) :=
      Sequencer.runFrom_escrowAccount hescrow hasked
    have hsession := Session.runFrom_orMissing hlook
    rw [accountOrMissing_accountFound] at hsession
    rcases answer with e | account
    · rw [start_error hrun hsigner
        ((Session.runFrom_bind_ok hfound).trans (Session.runFrom_bind_error hsession))]
      exact .asked hsigner hescrow hasked .failed
    · rw [start_ok hrun hsigner
        ((Session.runFrom_bind_ok hfound).trans (Session.runFrom_bind_ok hsession))]
      refine .asked hsigner hescrow hasked ?_
      cases account with
      | none => exact .absent (AccountReport.isOn_ofAccount escrow none)
      | some account => exact .found (AccountReport.isOn_ofAccount escrow (some account))

/-- A client that fails leaves nothing to show. -/
theorem ShowsAccount.ne_ok {outcome : Except (CommandFailure ε) String × Run σ ε}
    (h : ShowsAccount b mint c outcome)
    (hfails : ∀ escrow, ∃ e, (b.client.account escrow c).1 = .error e) (text : String) :
    outcome.1 ≠ .ok text := by
  intro hok
  cases h with
  | noKeypair | noAddress => cases hok
  | @asked _ escrow _ _ _ _ _ hasked hshown =>
    obtain ⟨e, he⟩ := hfails escrow
    rw [hasked] at he
    obtain rfl := he
    cases hshown
    cases hok

/-- With a keypair and an address, a request that is answered leads to a report on the answer. -/
theorem ShowsAccount.exists_report {outcome : Except (CommandFailure ε) String × Run σ ε}
    {payer : Signer} {account : Option Account} (h : ShowsAccount b mint c outcome)
    (hsigner : b.signer = .ok payer) (hviable : (Derivation.escrow b.settings.program mint).Viable)
    (hanswers : ∀ escrow, ∃ c', b.client.account escrow c = (.ok account, c')) :
    ∃ escrow report, outcome.1 = .ok (b.answer report) ∧
      AccountReport.IsOn escrow account report := by
  cases h with
  | noKeypair hnone => cases hsigner.symm.trans hnone
  | noAddress _ hexhausted => exact absurd hexhausted hviable.not_exhausted
  | @asked _ escrow _ _ _ _ _ hasked hshown =>
    obtain ⟨c', hanswer⟩ := hanswers escrow
    obtain rfl := congrArg Prod.fst (hasked.symm.trans hanswer)
    cases hshown with
    | found hreport | absent hreport => exact ⟨_, _, rfl, hreport⟩

/-- The words for the account of an escrow. -/
def showEscrowWords (mint : Address) : List String := ["show-escrow", "--mint", mint.toText]

end Command

/-! ## Accepted command lines -/

namespace Invocation

/-- A command line that shows the account of an escrow never takes a failure for a missing
account. -/
structure ShowsEscrow (i : Invocation) (mint : Address) : Prop where
  /-- whatever the client does -/
  shows {σ ε : Type} (b : Workbench σ ε) (c : σ) : Command.ShowsAccount b mint c (i.start b c)
  /-- with a node, the exchanges tell what its answer was -/
  answered {σ : Type} {transport : Transport σ} {b : Workbench (Node σ) RpcError}
    (hclient : b.client = Node.client transport) {node : Node σ} {escrow : Address}
    {answer : Except RpcError (Option Account)}
    (hevents : (i.start b node).2.events = [.account escrow answer]) :
    ∃ xs, (i.start b node).2.client.exchanges = node.exchanges ++ xs ∧ xs.length ≤ 2 ∧
      NodeM.AnsweredAs escrow xs answer

theorem Asks.showsEscrow {i : Invocation} {mint : Address} (h : i.Asks (.showEscrow mint)) :
    i.ShowsEscrow mint := by
  have hshows : ∀ {σ ε : Type} (b : Workbench σ ε) (c : σ),
      Command.ShowsAccount b mint c (i.start b c) := by
    intro σ ε b c
    rw [h.start_eq nofun]
    exact Command.showsAccount_start b mint c
  constructor
  case shows => exact hshows
  case answered =>
    intro σ transport b hclient node escrow answer hevents
    have hshown := hshows b node
    generalize i.start b node = outcome at hshown hevents
    cases hshown with
    | noKeypair | noAddress => cases hevents
    | asked hsigner hescrow hasked =>
      cases hevents
      rw [hclient] at hasked
      exact NodeM.answeredAs_account hasked

/-- Every mint can be asked about. -/
theorem exists_asks_showEscrow (home : Home) (mint : Address) :
    ∃ i, Invocation.read home (Command.showEscrowWords mint) = .ok i ∧
      i.Asks (.showEscrow mint) := by
  let line := Line.ofAddresses .showEscrow [(.mint, mint)]
  have h : line.IsComplete home := by
    refine Line.isComplete_ofAddresses (by simp [escrowGrammar]) ?_ ?_ ?_ (by decide)
    · rintro p hp
      obtain rfl := List.mem_singleton.1 hp
      exact List.mem_cons_self
    · exact List.nodup_singleton _
    · intro o ho _
      exact ⟨_, List.mem_cons_self, (List.mem_singleton.1 ho).symm⟩
  have hmint : (line.invocation home).options.address? "mint" = some mint :=
    Line.address?_ofAddresses h (o := .mint) (by decide) rfl
  have hread := read_words h
  rw [Line.words_ofAddresses] at hread
  refine ⟨line.invocation home, hread, (asks_of_ofMatches hread ?_).2⟩
  rw [show (line.invocation home).command = .showEscrow from rfl, Command.ofMatches, Command.mintOf,
    hmint]
  rfl

end Invocation

end TokenEscrow

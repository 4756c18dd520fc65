import TokenEscrow.Proofs.Client.Handles
import TokenEscrow.Proofs.Client.Protocol
import TokenEscrow.Proofs.Client.Submitted
import TokenEscrow.Proofs.Command.Session
import TokenEscrow.Proofs.Instruction.Keys

/-!
# The addresses around an escrow

Several paths lead to the addresses around an escrow, and each derives them for
itself: the four operations on the escrow, a look at its account, and the
command that shows addresses without a network. `PathsAgree` says what each of
them finds, and `pathsAgree_of_start` that they all find the same. So what was
deposited by one path can be withdrawn by another.

What a path needs and cannot find is missed by the other paths that need it as
well: an operation then builds nothing, and the command stops.
-/

namespace TokenEscrow

/-- A handle that was found has derived addresses. -/
theorem Nft.of_ofMint?_eq_some {program mint : Address} {nft : Nft}
    (h : Nft.ofMint? program mint = some nft) :
    nft.mint = mint ∧ (Derivation.metadata program mint).address? = some nft.metadata ∧
      (Derivation.edition program mint).address? = some nft.edition := by
  rcases hmetadata : (Derivation.metadata program mint).address? with _ | metadata
  · rw [ofMint?, hmetadata] at h
    cases h
  rcases hedition : (Derivation.edition program mint).address? with _ | edition
  · rw [ofMint?, hmetadata, hedition] at h
    cases h
  · rw [ofMint?, hmetadata, hedition] at h
    cases h
    exact ⟨rfl, rfl, rfl⟩

/-! ## The command that shows addresses -/

section Command

open Session

variable {σ ε : Type}

/-- The report on the addresses around an escrow, for a mint held in it. -/
def TokenAccounts.report (accounts : TokenAccounts) (nft : Nft)
    (attributeMint owner escrow : Address) : AddressesReport where
  mint := nft.mint.toText
  escrow := escrow.toText
  metadata := nft.metadata.toText
  edition := nft.edition.toText
  owner := owner.toText
  escrowTokenAccount := accounts.carrier.toText
  attributeMint := some attributeMint.toText
  attributeSource := some accounts.outside.toText
  attributeDestination := some accounts.inside.toText

/-- What is derived for a mint that is given is there. -/
theorem runFrom_mapM_derive {d : Address → Derivation} {mint address : Address}
    (h : (d mint).address? = some address) (run : Run σ ε) :
    ((some mint).mapM fun m => (derive (d m) : Session σ ε Address)).runFrom run =
      (.ok (some address), run) := by
  refine (runFrom_map some (derive (d mint)) run).trans ?_
  rw [runFrom_derive_some h]
  rfl

/-- The report is made when the three token accounts exist. -/
theorem runFrom_derive_addresses {program escrow : Address} {nft : Nft}
    (hnft : Nft.ofMint? program nft.mint = some nft)
    (hescrow : (Derivation.escrow program nft.mint).address? = some escrow)
    (attributeMint owner : Address) (run : Run σ ε) :
    (AddressesReport.derive program nft.mint (some attributeMint) owner :
        Session σ ε AddressesReport).runFrom run =
      (ofBuild ((TokenAccounts.derive owner nft.mint attributeMint escrow).map
        (·.report nft attributeMint owner escrow))).runFrom run := by
  obtain ⟨-, hmetadata, hedition⟩ := Nft.of_ofMint?_eq_some hnft
  refine (runFrom_bind_ok (runFrom_derive_some hmetadata run)).trans ?_
  refine (runFrom_bind_ok (runFrom_derive_some hedition run)).trans ?_
  refine (runFrom_bind_ok (runFrom_derive_some hescrow run)).trans ?_
  -- The handle and the escrow exist, so only a token account can be missing from here on.
  rw [TokenAccounts.derive_eq_carrier_first]
  rcases hcarrier : (Derivation.tokenAccount owner nft.mint).address? with _ | carrier
  · rw [Instruction.derive_none hcarrier]
    exact runFrom_bind_error (runFrom_derive_none hcarrier run)
  refine (runFrom_bind_ok (runFrom_derive_some hcarrier run)).trans ?_
  rw [Instruction.derive_some hcarrier]
  rcases houtside : (Derivation.tokenAccount owner attributeMint).address? with _ | outside
  · rw [Instruction.derive_none houtside]
    exact runFrom_bind_error (runFrom_bind_error (runFrom_derive_none houtside run))
  refine (runFrom_bind_ok (runFrom_mapM_derive houtside run)).trans ?_
  rw [Instruction.derive_some houtside]
  rcases hinside : (Derivation.tokenAccount escrow attributeMint).address? with _ | inside
  · rw [Instruction.derive_none hinside]
    exact runFrom_bind_error (runFrom_bind_error (runFrom_derive_none hinside run))
  refine (runFrom_bind_ok (runFrom_mapM_derive hinside run)).trans ?_
  rw [Instruction.derive_some hinside]
  rfl

/-- The command answers with the report, or stops for an address that does not exist. -/
theorem start_address {b : Workbench σ ε} {attributeMint owner escrow : Address} {nft : Nft}
    (hnft : Nft.ofMint? b.settings.program nft.mint = some nft)
    (hescrow : (Derivation.escrow b.settings.program nft.mint).address? = some escrow) (c : σ) :
    (Command.address nft.mint (some attributeMint) (some owner)).start b c =
      (match TokenAccounts.derive owner nft.mint attributeMint escrow with
        | .ok accounts => .ok (b.answer (accounts.report nft attributeMint owner escrow))
        | .error _ => .error (.operation (.aborted .noAddress)), ⟨c, []⟩) := by
  have hrun := runFrom_derive_addresses hnft hescrow attributeMint owner (⟨c, []⟩ : Run σ ε)
  rw [Command.start_eq, Command.run]
  rcases TokenAccounts.derive_cases owner nft.mint attributeMint escrow with ⟨accounts, h, -⟩ | h
  · rw [h] at hrun ⊢
    exact Workbench.runFrom_perform_ok hrun
  · rw [h] at hrun ⊢
    exact Workbench.runFrom_perform_error hrun

end Command

/-! ## All paths -/

namespace Sequencer

variable {σ ε : Type}

/-- What the paths to the addresses around an escrow find, given the address of the escrow, the
handle of the token that carries it and the handle of a token held in it. -/
structure PathsAgree (s : Sequencer σ ε) (nft held : Nft) (escrow : Address) : Prop where
  /-- creating the escrow names it and its token -/
  create : (Operation.createEscrow nft).keys s.program s.payer.address
      ["escrow", "metadata", "edition"] =
    .ok [some escrow, some nft.metadata, some nft.edition]
  /-- and answers with its address when the transaction is accepted -/
  created (c : σ) : ∃ i result events c',
    (Operation.createEscrow nft).build s.program s.payer.address = .ok i ∧
      s.Submission i {} c result events c' ∧
      (s.perform (.createEscrow nft)).start c =
        (result.map fun _ => .address escrow,
          ⟨c', .log (.creatingEscrow escrow nft.mint) :: events⟩)
  /-- a look at the escrow asks for the account at its address -/
  asked (c : σ) : (s.record (.account nft.mint) c).requests =
    [.account escrow (s.client.account escrow c).1]
  /-- closing the escrow names it, its token, and the account that holds that token -/
  close : (Operation.closeEscrow nft).keys s.program s.payer.address
      ["escrow", "metadata", "edition", "token_account"] =
    (Instruction.derive (.tokenAccount s.payer.address nft.mint)).map fun carrier =>
      [some escrow, some nft.metadata, some nft.edition, some carrier]
  /-- a deposit goes from the outside account to the one inside the escrow -/
  deposit (model : Address) (args : TransferInArgs) :
    (Operation.transferIn nft escrow held model args).keys s.program s.payer.address
        ["escrow", "attribute_src", "attribute_dst", "escrow_account"] =
      (TokenAccounts.derive s.payer.address nft.mint held.mint escrow).map fun accounts =>
        [some escrow, some accounts.outside, some accounts.inside, some accounts.carrier]
  /-- a withdrawal goes the other way between the same accounts -/
  withdraw (model : Address) (args : TransferInArgs) (amount : UInt64) :
    (Operation.transferOut nft held.mint amount).keys s.program s.payer.address
        ["escrow", "attribute_dst", "attribute_src", "escrow_account"] =
      (Operation.transferIn nft escrow held model args).keys s.program s.payer.address
        ["escrow", "attribute_src", "attribute_dst", "escrow_account"]
  /-- the account that is named when the escrow is closed is the one that both transfers name -/
  carry {accounts : TokenAccounts}
    (h : TokenAccounts.derive s.payer.address nft.mint held.mint escrow = .ok accounts) :
    (Operation.closeEscrow nft).keys s.program s.payer.address
        ["escrow", "metadata", "edition", "token_account"] =
      .ok [some escrow, some nft.metadata, some nft.edition, some accounts.carrier]
  /-- the command reports these addresses, for the payer as the owner -/
  report {σ' ε' : Type} {i : Invocation} {b : Workbench σ' ε'}
    (hprogram : b.settings.program = s.program)
    (hcommand : Command.ofMatches i.command i.options =
      .ok (.address nft.mint (some held.mint) (some s.payer.address))) (c : σ') :
    i.start b c =
      (match TokenAccounts.derive s.payer.address nft.mint held.mint escrow with
        | .ok accounts => .ok (b.answer (accounts.report nft held.mint s.payer.address escrow))
        | .error _ => .error (.operation (.aborted .noAddress)), ⟨c, []⟩)

variable {s : Sequencer σ ε} {mint escrow : Address} {nft : Nft} {c : σ}

/-- Creating an escrow answers with its address. -/
theorem start_perform_createEscrow
    (hescrow : (Derivation.escrow s.program nft.mint).address? = some escrow) (c : σ) :
    ∃ i result events c',
      (Operation.createEscrow nft).build s.program s.payer.address = .ok i ∧
        s.Submission i {} c result events c' ∧
        (s.perform (.createEscrow nft)).start c =
          (result.map fun _ => .address escrow,
            ⟨c', .log (.creatingEscrow escrow nft.mint) :: events⟩) := by
  obtain ⟨result, events, c', hrun, hcourse⟩ := course_perform s (.createEscrow nft) c
  have hbuilds : ∃ i, (Operation.createEscrow nft).build s.program s.payer.address = .ok i := by
    rw [Operation.build, Instruction.createEscrow, Instruction.derive_some hescrow]
    exact ⟨_, rfl⟩
  obtain ⟨i, hbuild⟩ := hbuilds
  -- With the escrow at hand the instruction is built, so a transaction is handed over.
  cases hcourse with
  | nameTooLong _ h | noAddress _ h =>
    rw [hbuild] at h
    cases h
  | submitted h hnotice hanswer hsub =>
    rw [Operation.notice?, hescrow] at hnotice
    rw [Operation.answer?, hescrow] at hanswer
    cases hnotice
    cases hanswer
    exact ⟨_, _, _, _, h, hsub, hrun⟩

/-- A look at an escrow asks for the account at its address. -/
theorem requests_account (hescrow : (Derivation.escrow s.program mint).address? = some escrow)
    (c : σ) :
    (s.record (.account mint) c).requests = [.account escrow (s.client.account escrow c).1] := by
  rcases s.looks_record mint c with habandoned | hlooks
  · -- Then the one address that is needed would not exist.
    obtain ⟨d, hd, hexhausted⟩ := habandoned.exhausted
    obtain rfl := List.mem_singleton.1 hd
    have hnone := Derivation.address?_eq_none_iff.2 (.inr hexhausted)
    rw [hescrow] at hnone
    cases hnone
  · cases hlooks with
    | found h hasked hrequests | absent h hasked hrequests | failed h hasked hrequests =>
      obtain rfl := Option.some.inj (hescrow.symm.trans h)
      have hanswer : s.client.account escrow c = _ := hasked
      rw [hrequests, hanswer]

/-- **All paths agree**: with the escrow of a mint and the handles of two mints as they are found,
every operation on the escrow, a look at it, and the command that shows addresses lead to the same
addresses. -/
theorem pathsAgree_of_start {attributeMint : Address} {held : Nft}
    (hescrow : ((s.escrowAddress mint).start c).1 = .ok escrow)
    (hnft : ((s.nft mint).start c).1 = .ok nft)
    (hheld : ((s.nft attributeMint).start c).1 = .ok held) :
    nft.mint = mint ∧ held.mint = attributeMint ∧ s.PathsAgree nft held escrow := by
  rw [start_escrowAddress] at hescrow
  rw [start_nft] at hnft hheld
  have hescrow := eq_some_of_found hescrow
  have hnft := eq_some_of_found hnft
  obtain ⟨rfl, -, -⟩ := Nft.of_ofMint?_eq_some hnft
  obtain ⟨rfl, -, -⟩ := Nft.of_ofMint?_eq_some (eq_some_of_found hheld)
  refine ⟨rfl, rfl, ?_⟩
  exact {
    create := Operation.keys_createEscrow hescrow
    created := start_perform_createEscrow hescrow
    asked := requests_account hescrow
    close := Operation.keys_closeEscrow hescrow
    deposit := fun model args => Operation.keys_transferIn held model args
    withdraw := fun model args amount =>
      (Operation.keys_transferOut hescrow held.mint amount).trans
        (Operation.keys_transferIn held model args).symm
    carry := by
      intro accounts h
      rw [Operation.keys_closeEscrow hescrow, TokenAccounts.derive_carrier h]
      rfl
    report := by
      intro σ' ε' i b hprogram hcommand c
      rw [Invocation.start_of_ofMatches hcommand]
      rw [← hprogram] at hnft hescrow
      exact start_address hnft hescrow c }

/-- Two mints, both of whose handles are found. -/
theorem pathsAgree_of_start_ofAddress :
    let s := ofAddress (ByteVec.replicate 32 7)
    let mint : Address := ByteVec.replicate 32 4
    let attributeMint : Address := ByteVec.replicate 32 9
    ∃ escrow nft held, ((s.escrowAddress mint).start {}).1 = .ok escrow ∧
      ((s.nft mint).start {}).1 = .ok nft ∧ ((s.nft attributeMint).start {}).1 = .ok held ∧
      nft.mint = mint ∧ held.mint = attributeMint ∧ s.PathsAgree nft held escrow := by
  intro s mint attributeMint
  have hfound : (Derivation.escrow s.program mint).address?.isSome = true ∧
      (Nft.ofMint? s.program mint).isSome = true ∧
      (Nft.ofMint? s.program attributeMint).isSome = true := by
    decide +kernel
  obtain ⟨hescrow, hnft, hheld⟩ := hfound
  obtain ⟨escrow, hescrow⟩ := Option.isSome_iff_exists.1 hescrow
  obtain ⟨nft, hnft⟩ := Option.isSome_iff_exists.1 hnft
  obtain ⟨held, hheld⟩ := Option.isSome_iff_exists.1 hheld
  have hescrow' : ((s.escrowAddress mint).start {}).1 = .ok escrow := by
    rw [start_escrowAddress, hescrow]
    rfl
  have hnft' : ((s.nft mint).start {}).1 = .ok nft := by
    rw [start_nft, hnft]
    rfl
  have hheld' : ((s.nft attributeMint).start {}).1 = .ok held := by
    rw [start_nft, hheld]
    rfl
  exact ⟨escrow, nft, held, hescrow', hnft', hheld', pathsAgree_of_start hescrow' hnft' hheld'⟩

end Sequencer

end TokenEscrow

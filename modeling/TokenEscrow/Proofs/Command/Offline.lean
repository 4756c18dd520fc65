import TokenEscrow.Proofs.Address.Search
import TokenEscrow.Proofs.Client.Handles
import TokenEscrow.Proofs.Client.Protocol
import TokenEscrow.Proofs.Command.Lines

/-!
# Commands without a network

Two commands ask nothing of the client. `create` sets one up, and `address` shows
the addresses around an escrow. What the latter shows is a function of the program,
the mints and the owner (`AddressesReport.of?`), and it looks at the keypair only
to find an owner when none is given (`Command.ShowsAddresses`).

So with an owner neither the keypair nor the client makes a difference, and without
one the command is the same as with the address of the keypair
(`Invocation.offline_of_read`).

Finding something without a request is a notion of its own (`Session.Finds`), which
passes from the parts of a session to the whole.
-/

namespace TokenEscrow

/-! ## Finding without asking -/

namespace Session

open Sequencer (found)

variable {σ ε α β : Type}

/-- A session that finds something, or that it does not exist, without a request or a message. -/
def Finds (session : Session σ ε α) (o : Option α) : Prop :=
  ∀ run, session.runFrom run = (found o, run)

theorem finds_pure (a : α) : (pure a : Session σ ε α).Finds (some a) := fun _ => rfl

theorem finds_derive (d : Derivation) : (derive d : Session σ ε Address).Finds d.address? :=
  Sequencer.runFrom_derive d

/-- What is missing in one part is missing altogether. -/
theorem Finds.bind {session : Session σ ε α} {o : Option α} {f : α → Session σ ε β}
    {g : α → Option β} (h : session.Finds o) (hf : ∀ a, (f a).Finds (g a)) :
    (session >>= f).Finds (o >>= g) := by
  intro run
  have hrun := h run
  cases o with
  | none => exact runFrom_bind_error hrun
  | some a => exact (runFrom_bind_ok hrun).trans (hf a run)

/-- Nothing is looked for where nothing is given. -/
theorem Finds.mapM {f : α → Session σ ε β} {g : α → Option β} (hf : ∀ a, (f a).Finds (g a))
    (given : Option α) : (given.mapM f).Finds (given.mapM g) := by
  cases given with
  | none => exact finds_pure none
  | some a =>
    have hmap : (some a).mapM g = g a >>= fun b => some (some b) := by
      cases h : g a <;> simp [h]
    rw [hmap]
    exact (hf a).bind fun b => finds_pure (some b)

end Session

/-! ## The report -/

namespace AddressesReport

section

variable (program mint : Address) (attributeMint : Option Address) (owner : Address)

/-- The addresses that have to be derived for a report. -/
def derivations : List Derivation :=
  [.metadata program mint, .edition program mint, .escrow program mint, .tokenAccount owner mint] ++
    attributeMint.toList.flatMap fun m =>
      .tokenAccount owner m ::
        (Derivation.escrow program mint).address?.toList.map fun escrow => .tokenAccount escrow m

/-- The report on the addresses around an escrow, if they exist. -/
def of? : Option AddressesReport := do
  let metadata ← (Derivation.metadata program mint).address?
  let edition ← (Derivation.edition program mint).address?
  let escrow ← (Derivation.escrow program mint).address?
  let account ← (Derivation.tokenAccount owner mint).address?
  let source ← attributeMint.mapM fun m => (Derivation.tokenAccount owner m).address?
  let destination ← attributeMint.mapM fun m => (Derivation.tokenAccount escrow m).address?
  some {
    mint := mint.toText
    escrow := escrow.toText
    metadata := metadata.toText
    edition := edition.toText
    owner := owner.toText
    escrowTokenAccount := account.toText
    attributeMint := attributeMint.map ByteVec.toText
    attributeSource := source.map ByteVec.toText
    attributeDestination := destination.map ByteVec.toText }

/-- The report is found without a request. -/
theorem finds_derive {σ ε : Type} :
    (derive program mint attributeMint owner : Session σ ε AddressesReport).Finds
      (of? program mint attributeMint owner) := by
  refine .bind (Session.finds_derive _) fun metadata => ?_
  refine .bind (Session.finds_derive _) fun edition => ?_
  refine .bind (Session.finds_derive _) fun escrow => ?_
  refine .bind (Session.finds_derive _) fun account => ?_
  refine .bind (.mapM (fun m => Session.finds_derive _) _) fun source => ?_
  refine .bind (.mapM (fun m => Session.finds_derive _) _) fun destination => ?_
  exact Session.finds_pure _

end

variable {program mint owner : Address} {attributeMint : Option Address} {report : AddressesReport}

/-- What a report says besides the addresses it is about. The two token accounts for a held token
are there, in the record and in its document, exactly when the mint of that token is given. -/
structure IsOn (mint : Address) (attributeMint : Option Address) (owner : Address)
    (report : AddressesReport) : Prop where
  mint : report.mint = mint.toText
  owner : report.owner = owner.toText
  held : report.attributeMint = attributeMint.map ByteVec.toText
  source : report.attributeSource.isSome = attributeMint.isSome
  destination : report.attributeDestination.isSome = attributeMint.isSome
  sourceField : "attributeSource" ∈ (Report.fields report).map Prod.fst ↔ attributeMint.isSome
  destinationField :
    "attributeDestination" ∈ (Report.fields report).map Prod.fst ↔ attributeMint.isSome

/-- The fields of a document on addresses, by name. -/
theorem names_fields (report : AddressesReport) :
    (Report.fields report).map Prod.fst =
      ["mint", "escrow", "metadata", "edition", "owner", "escrowTokenAccount"] ++
        (if report.attributeMint.isSome then ["attributeMint"] else []) ++
        (if report.attributeSource.isSome then ["attributeSource"] else []) ++
        (if report.attributeDestination.isSome then ["attributeDestination"] else []) := by
  obtain ⟨mint, escrow, metadata, edition, owner, account, held, source, destination⟩ := report
  cases held <;> cases source <;> cases destination <;> rfl

theorem isSome_of_mapM {α β : Type} {f : α → Option β} {given : Option α} {result : Option β}
    (h : given.mapM f = some result) : result.isSome = given.isSome := by
  cases given with
  | none =>
    cases h
    rfl
  | some a =>
    rcases hf : f a with _ | b
    · simp [hf] at h
    · simp [hf] at h
      rw [← h]
      rfl

/-- What is found is a report on what it was asked for. -/
theorem isOn_of_of? (h : of? program mint attributeMint owner = some report) :
    report.IsOn mint attributeMint owner := by
  simp only [of?, Option.bind_eq_bind, Option.bind_eq_some_iff] at h
  obtain ⟨metadata, -, edition, -, escrow, -, account, -, source, hsource, destination,
    hdestination, hreport⟩ := h
  obtain rfl := Option.some.inj hreport
  have hsource := isSome_of_mapM hsource
  have hdestination := isSome_of_mapM hdestination
  constructor
  case mint | owner | held => rfl
  case source => rw [Option.isSome_map, hsource]
  case destination => rw [Option.isSome_map, hdestination]
  case sourceField | destinationField =>
    rw [names_fields]
    simp only [Option.isSome_map, hsource, hdestination]
    cases attributeMint <;> simp

/-- A report is missing for want of an address. -/
theorem exists_exhausted_of_none (h : of? program mint attributeMint owner = none) :
    ∃ d ∈ derivations program mint attributeMint owner,
      d.Exhausted := by
  by_contra hall
  push Not at hall
  have hfound : ∀ d ∈ derivations program mint attributeMint owner,
      ∃ address, d.address? = some address := by
    intro d hd
    refine Option.ne_none_iff_exists'.1 fun hnone => hall d hd ?_
    refine Derivation.exhausted_of_address?_eq_none (Derivation.seedsFit_of_name ?_) hnone
    rintro program authority name rfl
    simp [derivations] at hd
  obtain ⟨metadata, hmetadata⟩ := hfound (.metadata program mint) (by simp [derivations])
  obtain ⟨edition, hedition⟩ := hfound (.edition program mint) (by simp [derivations])
  obtain ⟨escrow, hescrow⟩ := hfound (.escrow program mint) (by simp [derivations])
  obtain ⟨account, haccount⟩ := hfound (.tokenAccount owner mint) (by simp [derivations])
  cases attributeMint with
  | none => simp [of?, hmetadata, hedition, hescrow, haccount] at h
  | some m =>
    obtain ⟨source, hsource⟩ := hfound (.tokenAccount owner m) (by simp [derivations])
    obtain ⟨destination, hdestination⟩ := hfound (.tokenAccount escrow m)
      (by simp [derivations, hescrow])
    simp [of?, hmetadata, hedition, hescrow, haccount, hsource, hdestination] at h

end AddressesReport

/-! ## The commands -/

/-- The owner that is given, or else the one that the keypair stands for. -/
def Workbench.owner? {σ ε : Type} (b : Workbench σ ε) (owner : Option Address) : Option Address :=
  owner <|> b.signer.toOption.map Signer.address

namespace Command

open Workbench (perform)

variable {σ ε : Type} {b : Workbench σ ε} {mint : Address} {attributeMint owner : Option Address}
  {c : σ}

/-- How a command ends that asks for nothing: with a text, if what it is about exists. -/
def silently (text : Option String) (c : σ) : Except (CommandFailure ε) String × Run σ ε :=
  ((Sequencer.found text).mapError .operation, ⟨c, []⟩)

/-- The ways in which the command that shows addresses ends. In each of them nothing is asked of
the client, and nothing is noted. -/
inductive ShowsAddresses (b : Workbench σ ε) (mint : Address) (attributeMint owner : Option Address)
    (c : σ) : Except (CommandFailure ε) String × Run σ ε → Prop
  /-- no owner is given, and there is no keypair -/
  | noKeypair {e : KeypairError} (howner : owner = none) (hsigner : b.signer = .error e) :
    ShowsAddresses b mint attributeMint owner c
      (.error (.keypair b.settings.keypairPath e), ⟨c, []⟩)
  /-- every digest of some derivation is a point of the curve -/
  | noAddress {own : Address} {d : Derivation} (hown : b.owner? owner = some own)
    (hd : d ∈ AddressesReport.derivations b.settings.program mint attributeMint own)
    (hexhausted : d.Exhausted) :
    ShowsAddresses b mint attributeMint owner c
      (.error (.operation (.aborted .noAddress)), ⟨c, []⟩)
  /-- the addresses are shown -/
  | shown {own : Address} {report : AddressesReport} (hown : b.owner? owner = some own)
    (hfound : AddressesReport.of? b.settings.program mint attributeMint own = some report)
    (hreport : report.IsOn mint attributeMint own) :
    ShowsAddresses b mint attributeMint owner c (.ok (b.answer report), ⟨c, []⟩)

/-- With an owner the command shows what is found for it, whatever the keypair and the client. -/
theorem start_address_owner (b : Workbench σ ε) (mint own : Address)
    (attributeMint : Option Address) (c : σ) :
    (address mint attributeMint (some own)).start b c =
      silently
        ((AddressesReport.of? b.settings.program mint attributeMint own).map b.answer) c := by
  -- The keypair is not looked at, and the report is found without the client.
  have hfinds := AddressesReport.finds_derive b.settings.program mint attributeMint own
    (⟨c, []⟩ : Run σ ε)
  rw [start_eq, run]
  rcases hreport : AddressesReport.of? b.settings.program mint attributeMint own with _ | report
  · rw [hreport] at hfinds
    exact Workbench.runFrom_perform_error hfinds
  · rw [hreport] at hfinds
    exact Workbench.runFrom_perform_ok hfinds

/-- Without an owner the command is the one with the address of the keypair. -/
theorem start_address_payer {payer : Signer} (hsigner : b.signer = .ok payer) (mint : Address)
    (attributeMint : Option Address) (c : σ) :
    (address mint attributeMint none).start b c =
      (address mint attributeMint (some payer.address)).start b c := by
  rw [start_eq, start_eq, run, run, Workbench.payer, hsigner]
  rfl

/-- Without an owner and without a keypair it fails. -/
theorem start_address_noKeypair {e : KeypairError} (hsigner : b.signer = .error e) (mint : Address)
    (attributeMint : Option Address) (c : σ) :
    (address mint attributeMint none).start b c =
      (.error (.keypair b.settings.keypairPath e), ⟨c, []⟩) := by
  rw [start_eq, run, Workbench.payer, hsigner]
  rfl

/-- The command that shows addresses ends in one of three ways. -/
theorem showsAddresses_start (b : Workbench σ ε) (mint : Address)
    (attributeMint owner : Option Address) (c : σ) :
    ShowsAddresses b mint attributeMint owner c ((address mint attributeMint owner).start b c) := by
  have howned : ∀ own, b.owner? owner = some own → ShowsAddresses b mint attributeMint owner c
      ((address mint attributeMint (some own)).start b c) := by
    intro own hown
    rw [start_address_owner]
    rcases hreport : AddressesReport.of? b.settings.program mint attributeMint own with _ | report
    · obtain ⟨d, hd, hexhausted⟩ := AddressesReport.exists_exhausted_of_none hreport
      exact .noAddress hown hd hexhausted
    · exact .shown hown hreport (AddressesReport.isOn_of_of? hreport)
  cases owner with
  | some own => exact howned own rfl
  | none =>
    rcases hsigner : b.signer with e | payer
    · rw [start_address_noKeypair hsigner]
      exact .noKeypair rfl hsigner
    · rw [start_address_payer hsigner]
      refine howned _ ?_
      simp [Workbench.owner?, hsigner, Except.toOption]

/-- Setting up a client asks nothing of it. -/
theorem start_create_silent (b : Workbench σ ε) (amount : Option UInt64) (c : σ) :
    ((create amount).start b c).2.client = c ∧
      ((create amount).start b c).2.events.filter Event.isRequest = [] := by
  rcases hsigner : b.signer with e | payer
  · rw [start_eq, run, Workbench.sequencer, Workbench.payer, hsigner]
    exact ⟨rfl, rfl⟩
  · rw [start_eq, run, Workbench.sequencer, Workbench.payer, hsigner]
    cases amount <;> exact ⟨rfl, rfl⟩

end Command

/-! ## Accepted command lines -/

namespace Command

/-- The options for the addresses around an escrow. -/
def addressGiven (mint : Address) (attributeMint owner : Option Address) :
    List (AddressOption × Address) :=
  [(.mint, mint)] ++ attributeMint.toList.map (.attributeMint, ·) ++ owner.toList.map (.owner, ·)

/-- They stand in the order in which the command lists them. -/
theorem options_addressGiven (mint : Address) (attributeMint owner : Option Address) :
    ((addressGiven mint attributeMint owner).map fun p => p.1.option).Sublist
      CommandSpec.address.options := by
  have hone : ∀ (o : AddressOption) (given : Option Address),
      ((given.toList.map (o, ·)).map fun p => p.1.option).Sublist [o.option] := by
    rintro o (_ | a)
    · exact List.nil_sublist _
    · exact List.Sublist.refl _
  rw [addressGiven, List.map_append, List.map_append]
  exact ((List.Sublist.refl [OptionSpec.mint]).append (hone .attributeMint attributeMint)).append
    (hone .owner owner)

/-- The words for the addresses around an escrow. -/
def addressWords (mint : Address) (attributeMint owner : Option Address) : List String :=
  ["address", "--mint", mint.toText] ++
    attributeMint.elim [] (fun m => ["--attribute-mint", m.toText]) ++
    owner.elim [] fun a => ["--owner", a.toText]

end Command

namespace Invocation

/-- A command line that shows addresses does so offline, and from what is public. -/
structure AddressOffline (i : Invocation) (mint : Address) (attributeMint owner : Option Address) :
    Prop where
  asks : i.Asks (.address mint attributeMint owner)
  /-- nothing is asked of the client, whatever comes out -/
  shows {σ ε : Type} (b : Workbench σ ε) (c : σ) :
    Command.ShowsAddresses b mint attributeMint owner c (i.start b c)
  /-- with an owner, nothing but the program and the format makes a difference -/
  alike (howner : owner.isSome) {σ σ' ε ε' : Type} (b : Workbench σ ε) (b' : Workbench σ' ε')
    (hprogram : b.settings.program = b'.settings.program)
    (hformat : b.settings.format = b'.settings.format) (i' : Invocation)
    (hasks : i'.Asks (.address mint attributeMint owner)) (c : σ) (c' : σ') :
    ∃ text, i.start b c = Command.silently text c ∧ i'.start b' c' = Command.silently text c'
  /-- without one, it is as if the address of the keypair had been given -/
  defaulted (howner : owner = none) {σ ε : Type} (b : Workbench σ ε) (payer : Signer)
    (hsigner : b.signer = .ok payer) (i' : Invocation)
    (hasks : i'.Asks (.address mint attributeMint (some payer.address))) (c : σ) :
    i.start b c = i'.start b c
  /-- and no failure is to be expected but that of the keypair -/
  fails_iff (howner : owner = none) {σ ε : Type} (b : Workbench σ ε)
    (hviable : ∀ payer, b.signer = .ok payer →
      ∀ d ∈ AddressesReport.derivations b.settings.program mint attributeMint payer.address,
        d.Viable) (c : σ) :
    (∃ failure, (i.start b c).1 = .error failure) ↔ ∃ e, b.signer = .error e

/-- Without an owner the command fails when there is no keypair, and hardly otherwise. -/
theorem Asks.fails_iff {i : Invocation} {mint : Address} {attributeMint : Option Address}
    (h : i.Asks (.address mint attributeMint none)) {σ ε : Type} (b : Workbench σ ε)
    (hviable : ∀ payer, b.signer = .ok payer →
      ∀ d ∈ AddressesReport.derivations b.settings.program mint attributeMint payer.address,
        d.Viable) (c : σ) :
    (∃ failure, (i.start b c).1 = .error failure) ↔ ∃ e, b.signer = .error e := by
  rw [h.start_eq nofun]
  constructor
  · rintro ⟨failure, hfailure⟩
    have hshows := Command.showsAddresses_start b mint attributeMint none c
    generalize (Command.address mint attributeMint none).start b c = outcome at hshows hfailure
    cases hshows with
    | noKeypair howner hsigner => exact ⟨_, hsigner⟩
    | shown hown hfound hreport => cases hfailure
    | @noAddress own d hown hd hexhausted =>
      -- The owner is the address of a keypair, and then some digest is off the curve.
      obtain ⟨payer, hpayer, rfl⟩ := Option.map_eq_some_iff.1 hown
      rcases hsigner : b.signer with e | payer'
      · exact ⟨e, rfl⟩
      rw [hsigner] at hpayer
      obtain rfl := Option.some.inj hpayer
      exact absurd hexhausted (hviable payer' hsigner d hd).not_exhausted
  · rintro ⟨e, hsigner⟩
    rw [Command.start_address_noKeypair hsigner]
    exact ⟨_, rfl⟩

/-- Whatever asks for addresses works offline. -/
theorem Asks.addressOffline {i : Invocation} {mint : Address} {attributeMint owner : Option Address}
    (h : i.Asks (.address mint attributeMint owner)) :
    i.AddressOffline mint attributeMint owner := by
  constructor
  case asks => exact h
  case shows =>
    intro σ ε b c
    rw [h.start_eq nofun]
    exact Command.showsAddresses_start b mint attributeMint owner c
  case alike =>
    intro howner σ σ' ε ε' b b' hprogram hformat i' h' c c'
    obtain ⟨own, rfl⟩ := Option.isSome_iff_exists.1 howner
    rw [h.start_eq nofun, h'.start_eq nofun, Command.start_address_owner,
      Command.start_address_owner, hprogram]
    have hanswer : (b.answer : AddressesReport → String) = b'.answer := by
      funext report
      rw [Workbench.answer, Workbench.answer, hformat]
    exact ⟨_, rfl, by rw [hanswer]⟩
  case defaulted =>
    rintro rfl σ ε b payer hsigner i' h' c
    rw [h.start_eq nofun, h'.start_eq nofun]
    exact Command.start_address_payer hsigner mint attributeMint c
  case fails_iff =>
    rintro rfl σ ε b hviable c
    exact h.fails_iff b hviable c

/-- Every mint, with or without a held token and an owner, can be asked about. -/
theorem exists_asks_address (home : Home) (mint : Address) (attributeMint owner : Option Address) :
    ∃ i, Invocation.read home (Command.addressWords mint attributeMint owner) = .ok i ∧
      i.Asks (.address mint attributeMint owner) := by
  let given := Command.addressGiven mint attributeMint owner
  let line := Line.ofAddresses .address given
  have hsublist := Command.options_addressGiven mint attributeMint owner
  have h : line.IsComplete home := by
    refine Line.isComplete_ofAddresses (by simp [escrowGrammar]) ?_ ?_ ?_ (by decide)
    · exact fun p hp => hsublist.subset (List.mem_map_of_mem hp)
    · have hnames := hsublist.map OptionSpec.name
      rw [List.map_map] at hnames
      exact hnames.nodup (by decide)
    · have hmint : ∀ o ∈ CommandSpec.address.options, o.required = true → o = .mint := by decide
      intro o ho hrequired
      obtain rfl := hmint o ho hrequired
      exact ⟨_, List.mem_cons_self, rfl⟩
  have hvalue : ∀ o ∈ CommandSpec.address.options, o.fallback = none →
      (line.invocation home).options.address? o.name =
        (given.find? fun p => p.1.option.name == o.name).map Prod.snd :=
    fun o => Line.address?_ofAddresses h
  have hmint : (line.invocation home).options.address? "mint" = some mint :=
    hvalue .mint (by decide) rfl
  have hheld : (line.invocation home).options.address? "attribute_mint" = attributeMint := by
    refine (hvalue .attributeMint (by decide) rfl).trans ?_
    cases attributeMint <;> cases owner <;> rfl
  have howner : (line.invocation home).options.address? "owner" = owner := by
    refine (hvalue AddressOption.owner.option (by decide) rfl).trans ?_
    cases attributeMint <;> cases owner <;> rfl
  have hwords : line.words = Command.addressWords mint attributeMint owner := by
    rw [Line.words_ofAddresses]
    cases attributeMint <;> cases owner <;> rfl
  have hread := read_words h
  rw [hwords] at hread
  refine ⟨line.invocation home, hread, (asks_of_ofMatches hread ?_).2⟩
  rw [show (line.invocation home).command = .address from rfl, Command.ofMatches, Command.mintOf,
    hmint, hheld, howner]
  rfl

/-- **Two commands work offline.** Addresses can be asked for about every mint, and a command line
that does needs no network, and no keypair when it names an owner; what it shows depends on what is
public only. A command line that sets up a client makes no request either. -/
theorem offline_of_read (home : Home) :
    (∀ mint attributeMint owner, ∃ i,
      Invocation.read home (Command.addressWords mint attributeMint owner) = .ok i ∧
        i.AddressOffline mint attributeMint owner) ∧
    ∀ words i, Invocation.read home words = .ok i →
      (i.command = .address →
        ∃ mint attributeMint owner, (Command.address mint attributeMint owner).AskedBy words ∧
          i.AddressOffline mint attributeMint owner) ∧
      (i.command = .create → ∀ {σ ε : Type} (b : Workbench σ ε) (c : σ),
        (i.start b c).2.client = c ∧ (i.start b c).2.events.filter Event.isRequest = []) := by
  constructor
  · intro mint attributeMint owner
    obtain ⟨i, hread, hasks⟩ := exists_asks_address home mint attributeMint owner
    exact ⟨i, hread, hasks.addressOffline⟩
  · intro words i h
    obtain ⟨command, hname, hasked, hasks, hcommand⟩ := exists_asks_of_read h
    constructor
    · intro haddress
      rw [haddress] at hname
      cases command with
      | address mint attributeMint owner =>
        exact ⟨mint, attributeMint, owner, hasked, hasks.addressOffline⟩
      | _ => cases hname
    · intro hcreate σ ε b c
      rw [hcreate] at hname
      rw [start_of_ofMatches hcommand]
      cases command <;> cases hname
      exact Command.start_create_silent b _ c

/-- With an owner it makes no difference that there is no keypair; without one it does. -/
theorem offline_of_read_noKeypair :
    let mint : Address := .replicate 32 4
    let payer : Signer := ⟨.replicate 32 7, fun _ => .ok (.replicate 64 1)⟩
    let b : Workbench Script.State ScriptedFailure := {
      settings := ⟨"id.json", "http://localhost:8899", Known.metadataProgram, .json, false⟩
      client := ({} : Script).client
      signer := .error .tooShort }
    let b' := { b with signer := .ok payer }
    ∃ i i' text,
      Invocation.read ⟨"/home"⟩ (Command.addressWords mint none (some payer.address)) = .ok i ∧
      Invocation.read ⟨"/home"⟩ (Command.addressWords mint none none) = .ok i' ∧
      i.start b {} = Command.silently text {} ∧ i.start b' {} = Command.silently text {} ∧
      i'.start b' {} = Command.silently text {} ∧ (∃ failure, (i'.start b {}).1 = .error failure) ∧
      ∃ i'', Invocation.read ⟨"/home"⟩ ["create", "--amount", "5"] = .ok i'' ∧
        (i''.start b' {}).2.events.filter Event.isRequest = [] := by
  intro mint payer b b'
  obtain ⟨hoffline, hread⟩ := offline_of_read ⟨"/home"⟩
  obtain ⟨i, hi, h⟩ := hoffline mint none (some payer.address)
  obtain ⟨i', hi', h'⟩ := hoffline mint none none
  obtain ⟨text, hstart, hstart'⟩ := h.alike rfl b b' rfl rfl i h.asks {} {}
  refine ⟨i, i', text, hi, hi', hstart, hstart', ?_, ?_, ?_⟩
  · rw [h'.defaulted rfl b' payer rfl i h.asks, hstart']
  · exact (h'.fails_iff rfl b nofun {}).2 ⟨_, rfl⟩
  · have hcommand : (Invocation.read ⟨"/home"⟩ ["create", "--amount", "5"]).toOption.map
        Invocation.command = some .create := by decide +kernel
    rcases hi'' : Invocation.read ⟨"/home"⟩ ["create", "--amount", "5"] with e | i''
    · rw [hi''] at hcommand
      cases hcommand
    · rw [hi''] at hcommand
      exact ⟨i'', rfl, ((hread _ i'' hi'').2 (Option.some.inj hcommand) b' {}).2⟩

end Invocation

end TokenEscrow

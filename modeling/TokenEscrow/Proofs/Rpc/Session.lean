import TokenEscrow.Proofs.Client.Delivery
import TokenEscrow.Proofs.Rpc.Contact
import TokenEscrow.Rpc.Scripted

/-!
# Sessions with a node

A session over `Node.client` comes down to a list of exchanges, and that list
decides what comes out of every operation (`settled_of_mem_trace`): a node makes
an operation succeed by replying to its transaction with the signature that the
transaction already has, and in no other way. Whatever else is replied, or not
replied, the operation fails for its client and hands nothing over again.

Over a whole session the version is asked for first and until it is told, and
not again (`Node.VersionFirst`). This is an invariant of the state of the
client, and the version in that state is all that one step leaves to the next.
-/

namespace TokenEscrow

variable {σ : Type}

/-! ## What is exchanged -/

/-- What was exchanged with the node during a step. -/
def Record.exchanges {ε : Type} (r : Record (Node σ) ε) : List RpcExchange :=
  r.after.exchanges.drop r.before.exchanges.length

theorem Record.exchanges_of_append {ε : Type} {r : Record (Node σ) ε} {xs : List RpcExchange}
    (h : r.after.exchanges = r.before.exchanges ++ xs) : r.exchanges = xs := by
  rw [exchanges, h, List.drop_left]

namespace RpcExchange

variable {x : RpcExchange}

/-- An exchange in which the version was asked for in vain. -/
def AskedInVain (x : RpcExchange) : Prop := x.request = .version ∧ x.version? = none

/-- The version is asked for until it is told, before anything else, and not again. -/
def VersionFirst (xs : List RpcExchange) : Prop :=
  (∀ x ∈ xs, x.AskedInVain) ∨ ∃ failed told rest v, xs = failed ++ told :: rest ∧
    (∀ x ∈ failed, x.AskedInVain) ∧ told.version? = some v ∧ ∀ x ∈ rest, x.request ≠ .version

/-- Only a transaction is accepted. -/
theorem exists_transaction?_of_accepted? {signature : Signature}
    (h : x.accepted? = some signature) : ∃ t, x.transaction? = some t := by
  rcases x with ⟨request, answer⟩
  cases request with
  | send t => exact ⟨t, rfl⟩
  | version | latestBlockhash | fees | account => cases h

/-- What tells a block hash hands nothing over. -/
theorem transaction?_of_blockhash? {hash : Hash} (h : x.blockhash? = some hash) :
    x.transaction? = none := by
  rcases x with ⟨request, answer⟩
  cases request with
  | latestBlockhash | fees => rfl
  | version | send | account => cases h

/-- Asking for the version hands nothing over. -/
theorem transaction?_of_version (h : x.request = .version) : x.transaction? = none := by
  rw [transaction?, h]

end RpcExchange

/-! ## The version comes first -/

namespace Node

variable {node : Node σ} {v : Version}

/-- The exchanges so far have the version first, and it is the one that the client knows. -/
def VersionFirst (node : Node σ) : Prop :=
  match node.version with
  | none => ∀ x ∈ node.exchanges, x.AskedInVain
  | some v => ∃ failed told rest, node.exchanges = failed ++ told :: rest ∧
      (∀ x ∈ failed, x.AskedInVain) ∧ told.version? = some v ∧ ∀ x ∈ rest, x.request ≠ .version

theorem versionFirst_of_none (h : node.version = none) :
    node.VersionFirst ↔ ∀ x ∈ node.exchanges, x.AskedInVain := by
  rw [VersionFirst, h]

theorem versionFirst_of_some (h : node.version = some v) :
    node.VersionFirst ↔ ∃ failed told rest, node.exchanges = failed ++ told :: rest ∧
      (∀ x ∈ failed, x.AskedInVain) ∧ told.version? = some v ∧
        ∀ x ∈ rest, x.request ≠ .version := by
  rw [VersionFirst, h]

theorem VersionFirst.exchanges (h : node.VersionFirst) :
    RpcExchange.VersionFirst node.exchanges := by
  rcases hversion : node.version with _ | v
  · exact .inl ((versionFirst_of_none hversion).1 h)
  · obtain ⟨failed, told, rest, hrest⟩ := (versionFirst_of_some hversion).1 h
    exact .inr ⟨failed, told, rest, v, hrest⟩

end Node

namespace NodeM

variable {transport : Transport σ} {node node' : Node σ} {xs : List RpcExchange}

/-! ### Asking for the version -/

section Greeting

variable {result : Except RpcError Version}

theorem Greeting.exchanges_eq (h : Greeting transport node result xs node') :
    node'.exchanges = node.exchanges ++ xs := by
  cases h with
  | known => exact (List.append_nil _).symm
  | learned | failed => rfl

theorem Greeting.request_eq (h : Greeting transport node result xs node') :
    ∀ x ∈ xs, x.request = .version := by
  intro x hx
  cases h with
  | known => exact absurd hx List.not_mem_nil
  | learned | failed => rw [List.mem_singleton.1 hx, exchangeOf]

theorem Greeting.versionFirst (h : Greeting transport node result xs node')
    (hfirst : node.VersionFirst) : node'.VersionFirst := by
  cases h with
  | known => exact hfirst
  | learned hversion hread =>
    rw [Node.versionFirst_of_none hversion] at hfirst
    exact (Node.versionFirst_of_some rfl).2
      ⟨_, _, [], rfl, hfirst, hread, fun x hx => absurd hx List.not_mem_nil⟩
  | failed hversion hread =>
    rw [Node.versionFirst_of_none hversion] at hfirst
    have hversion' : (exchanged transport node .version).version = none := hversion
    refine (Node.versionFirst_of_none hversion').2 ?_
    intro x hx
    rcases List.mem_append.1 hx with hx | hx
    · exact hfirst x hx
    · rw [List.mem_singleton.1 hx]
      exact ⟨rfl, hread⟩

end Greeting

/-! ### Requests -/

section Contact

variable {α : Type} {isMain : RpcRequest → Prop} {read? : RpcExchange → Option α}
  {result : Except RpcError α}

theorem Contact.exchanges_eq (h : Contact transport isMain read? node result xs node') :
    node'.exchanges = node.exchanges ++ xs := by
  cases h with
  | unmet hgreeting => exact hgreeting.exchanges_eq
  | made hgreeting => rw [exchanged, hgreeting.exchanges_eq, List.append_assoc]

/-- A request keeps the version first. -/
theorem Contact.versionFirst (h : Contact transport isMain read? node result xs node')
    (hmain : ¬ isMain .version) (hfirst : node.VersionFirst) : node'.VersionFirst := by
  cases h with
  | unmet hgreeting => exact hgreeting.versionFirst hfirst
  | @made v _ mid request _ hgreeting hrequest =>
    have hmid := hgreeting.versionFirst hfirst
    rw [Node.versionFirst_of_some hgreeting.version_eq] at hmid
    obtain ⟨failed, told, rest, hexchanges, hfailed, htold, hrest⟩ := hmid
    have hversion' : (exchanged transport mid request).version = some v := hgreeting.version_eq
    refine (Node.versionFirst_of_some hversion').2
      ⟨failed, told, rest ++ [exchangeOf transport mid request], ?_, hfailed, htold, ?_⟩
    · rw [exchanged, hexchanges, List.append_assoc, List.cons_append]
    · intro x hx
      rcases List.mem_append.1 hx with hx | hx
      · exact hrest x hx
      · rw [List.mem_singleton.1 hx]
        intro hversion
        exact hmain (hversion ▸ hrequest)

/-- Every exchange of a request is for the version or for the request itself. -/
theorem Contact.request_eq (h : Contact transport isMain read? node result xs node') :
    ∀ x ∈ xs, x.request = .version ∨ isMain x.request := by
  intro x hx
  cases h with
  | unmet hgreeting => exact .inl (hgreeting.request_eq x hx)
  | made hgreeting hrequest =>
    rcases List.mem_append.1 hx with hx | hx
    · exact .inl (hgreeting.request_eq x hx)
    · rw [List.mem_singleton.1 hx]
      exact .inr hrequest

/-- A request that succeeds does so by its last exchange, and the version is known from then on. -/
theorem Contact.of_ok {a : α} (h : Contact transport isMain read? node (.ok a) xs node') :
    ∃ front x v, xs = front ++ [x] ∧ (∀ y ∈ front, y.request = .version) ∧ read? x = some a ∧
      node'.version = some v := by
  cases h with
  | made hgreeting _ hread =>
    exact ⟨_, _, _, rfl, hgreeting.request_eq, hread, hgreeting.version_eq⟩

/-- When the version is known, a request is one exchange. -/
theorem Contact.of_known {v : Version} (hversion : node.version = some v)
    (h : Contact transport isMain read? node result xs node') :
    ∃ x, xs = [x] ∧ isMain x.request ∧ read? x = result.toOption := by
  cases h with
  | unmet hgreeting =>
    cases hgreeting with
    | failed hnone => cases hversion.symm.trans hnone
  | made hgreeting hrequest hread =>
    cases hgreeting with
    | known => exact ⟨_, rfl, hrequest, hread⟩
    | learned hnone => cases hversion.symm.trans hnone

end Contact

end NodeM

/-- How one state of a client comes after another: exchanges are added, and the version stays
first. -/
structure Node.Continues (node node' : Node σ) : Prop where
  exchanges : ∃ xs, node'.exchanges = node.exchanges ++ xs
  versionFirst : node.VersionFirst → node'.VersionFirst

namespace Node.Continues

theorem refl (node : Node σ) : node.Continues node := ⟨⟨[], (List.append_nil _).symm⟩, id⟩

theorem trans {node mid node' : Node σ} (h : node.Continues mid) (h' : mid.Continues node') :
    node.Continues node' := by
  obtain ⟨xs, hxs⟩ := h.exchanges
  obtain ⟨ys, hys⟩ := h'.exchanges
  refine ⟨⟨xs ++ ys, ?_⟩, h'.versionFirst ∘ h.versionFirst⟩
  rw [hys, hxs, List.append_assoc]

theorem of_contact {transport : Transport σ} {α : Type} {isMain : RpcRequest → Prop}
    {read? : RpcExchange → Option α} {node node' : Node σ} {result : Except RpcError α}
    {xs : List RpcExchange} (hmain : ¬ isMain .version)
    (h : NodeM.Contact transport isMain read? node result xs node') : node.Continues node' :=
  ⟨⟨xs, h.exchanges_eq⟩, h.versionFirst hmain⟩

variable {transport : Transport σ} {node node' : Node σ}

theorem of_latestBlockhash {result : Except RpcError Hash}
    (h : (Node.client transport).latestBlockhash node = (result, node')) :
    node.Continues node' := by
  obtain ⟨xs, hcontact⟩ := NodeM.contact_latestBlockhash h
  exact of_contact (by rintro ⟨c, h | h⟩ <;> cases h) hcontact

theorem of_send {message : Message} {signer : Signer} {t : Transaction} {options : SendOptions}
    {result : Except RpcError Signature} (hsign : Transaction.sign message signer = .ok t)
    (h : (Node.client transport).send t options node = (result, node')) :
    node.Continues node' := by
  obtain ⟨-, signature, -, -, -, rfl⟩ := Transaction.of_sign_eq_ok hsign
  obtain ⟨xs, hcontact⟩ := NodeM.contact_send rfl h
  exact of_contact (by rintro ⟨encoding, c, ⟨⟩⟩) hcontact

theorem of_account {address : Address} {result : Except RpcError (Option Account)}
    (h : (Node.client transport).account address node = (result, node')) :
    node.Continues node' := by
  obtain ⟨xs, hcontact⟩ := NodeM.contact_account h
  exact of_contact (by rintro ⟨c, ⟨⟩⟩) hcontact

end Node.Continues

/-! ## What comes of an operation -/

/-- Whether a failure is put down to the client. -/
def Failure.IsClient {ε : Type} : Failure ε → Prop
  | client _ | signer _ => True
  | program _ | accountNotFound | aborted _ => False

/-- Carries out operations over a node. -/
def Node.sequencer (transport : Transport σ) (program : Address) (payer : Signer) :
    Sequencer (Node σ) RpcError where
  client := Node.client transport
  program
  payer

namespace Sequencer

/-- How the exchanges of an operation settle what comes out of it. -/
structure Settled (s : Sequencer (Node σ) RpcError) (op : Operation)
    (r : Record (Node σ) RpcError) : Prop where
  /-- nothing is handed over, or one transaction at the very end, for the block hash that was told
  just before -/
  sends : (∀ x ∈ r.exchanges, x.transaction? = none) ∨
    ∃ front block sent t, r.exchanges = front ++ [block, sent] ∧
      (∀ x ∈ front, x.request = .version) ∧ block.blockhash? = some t.message.blockhash ∧
        sent.transaction? = some t
  /-- it succeeds exactly when its transaction is accepted with the transaction's own signature,
  and answers with that signature -/
  ok_iff : ∀ a, r.result = .ok a ↔ ∃ x ∈ r.exchanges, ∃ signature answer,
    x.accepted? = some signature ∧ op.answer? s.program s.payer.address = some answer ∧
      a = answer signature
  /-- in every other case it fails for its client -/
  isClient : ∀ failure, r.result = .error failure → failure.IsClient

variable {s : Sequencer (Node σ) RpcError} {op : Operation} {r : Record (Node σ) RpcError}

/-- An operation that fails for its client before anything is handed over. -/
theorem settled_of_not_sent {failure : Failure RpcError}
    (hsends : ∀ x ∈ r.exchanges, x.transaction? = none) (hresult : r.result = .error failure)
    (hfailure : failure.IsClient) : s.Settled op r where
  sends := .inl hsends
  ok_iff a := by
    rw [hresult]
    refine iff_of_false (by rintro ⟨⟩) ?_
    rintro ⟨x, hx, signature, answer, haccepted, -⟩
    obtain ⟨t, ht⟩ := RpcExchange.exists_transaction?_of_accepted? haccepted
    cases (hsends x hx).symm.trans ht
  isClient failure' h := by
    cases hresult.symm.trans h
    exact hfailure

/-- An operation whose transaction was handed over. -/
theorem settled_of_sent {front : List RpcExchange} {block sent : RpcExchange} {t : Transaction}
    {reply : Except RpcError Signature}
    (hexchanges : r.exchanges = front ++ [block, sent])
    (hfront : ∀ x ∈ front, x.request = .version)
    (hblock : block.blockhash? = some t.message.blockhash) (hsent : sent.transaction? = some t)
    (hread : sent.accepted? = reply.toOption)
    (hok : ∀ a, r.result = .ok a ↔ ∃ signature answer, reply = .ok signature ∧
      op.answer? s.program s.payer.address = some answer ∧ a = answer signature)
    (herror : ∀ failure, r.result = .error failure → failure.IsClient) : s.Settled op r where
  sends := .inr ⟨front, block, sent, t, hexchanges, hfront, hblock, hsent⟩
  ok_iff a := by
    have hlast : ∀ x ∈ r.exchanges, ∀ signature, x.accepted? = some signature → x = sent := by
      intro x hx signature h
      obtain ⟨t', ht'⟩ := RpcExchange.exists_transaction?_of_accepted? h
      rw [hexchanges] at hx
      rcases List.mem_append.1 hx with hx | hx
      · cases (RpcExchange.transaction?_of_version (hfront x hx)).symm.trans ht'
      · rcases List.mem_pair.1 hx with rfl | rfl
        · cases (RpcExchange.transaction?_of_blockhash? hblock).symm.trans ht'
        · rfl
    have hmem : sent ∈ r.exchanges := by
      rw [hexchanges]
      simp
    rw [hok]
    constructor
    · rintro ⟨signature, answer, rfl, hanswer, ha⟩
      exact ⟨sent, hmem, signature, answer, hread, hanswer, ha⟩
    · rintro ⟨x, hx, signature, answer, h, hanswer, ha⟩
      obtain rfl := hlast x hx signature h
      rcases reply with e | signature'
      · cases hread.symm.trans h
      · obtain rfl := Option.some.inj (hread.symm.trans h)
        exact ⟨signature', answer, rfl, hanswer, ha⟩
  isClient := herror

end Sequencer

namespace Node

/-! ## Steps -/

variable {transport : Transport σ} {program : Address} {payer : Signer}

/-- A step only adds exchanges, and keeps the version first. -/
theorem continues_record (transport : Transport σ) (program : Address) (payer : Signer)
    (step : Step) (node : Node σ) :
    node.Continues ((sequencer transport program payer).record step node).after := by
  cases step with
  | operation op =>
    obtain ⟨result, events, node', hrecord, hcourse⟩ :=
      Sequencer.course_record (sequencer transport program payer) op node
    rw [hrecord]
    cases hcourse with
    | nameTooLong | noAddress => exact .refl node
    | submitted _ _ _ hsub =>
      cases hsub with
      | noBlockhash hblock | notSigned hblock | noWireForm hblock =>
        exact .of_latestBlockhash hblock
      | notSent hblock hsign hsend | sent hblock hsign hsend =>
        exact .trans (.of_latestBlockhash hblock) (.of_send hsign hsend)
  | account mint =>
    rcases Sequencer.looks_record (sequencer transport program payer) mint node
      with habandoned | hlooks
    · rw [habandoned.after]
      exact .refl node
    · cases hlooks with
      | found _ hasked | absent _ hasked | failed _ hasked => exact .of_account hasked

/-- A block hash that is refused, or not used, leaves no transaction behind. -/
theorem transaction?_eq_none_of_latestBlockhash {node node' : Node σ}
    {result : Except RpcError Hash}
    (h : (Node.client transport).latestBlockhash node = (result, node')) :
    ∃ xs, node'.exchanges = node.exchanges ++ xs ∧ ∀ x ∈ xs, x.transaction? = none := by
  obtain ⟨xs, hcontact⟩ := NodeM.contact_latestBlockhash h
  refine ⟨xs, hcontact.exchanges_eq, ?_⟩
  intro x hx
  rcases hcontact.request_eq x hx with hrequest | ⟨c, hrequest | hrequest⟩ <;>
    rw [RpcExchange.transaction?, hrequest]

/-- A transaction is handed over in one exchange, right after the one that told its block hash. -/
theorem exchanges_of_send {node mid node' : Node σ} {hash : Hash} {t : Transaction}
    {options : SendOptions} {reply : Except RpcError Signature} {own : Signature}
    (hown : t.signatures.head? = some own)
    (hblock : (Node.client transport).latestBlockhash node = (.ok hash, mid))
    (hsend : (Node.client transport).send t options mid = (reply, node')) :
    ∃ front block sent, node'.exchanges = node.exchanges ++ (front ++ [block, sent]) ∧
      (∀ x ∈ front, x.request = .version) ∧ block.blockhash? = some hash ∧
      sent.transaction? = some t ∧ sent.accepted? = reply.toOption := by
  obtain ⟨xs, hcontact⟩ := NodeM.contact_latestBlockhash hblock
  obtain ⟨front, block, v, rfl, hfront, hhash, hversion⟩ := hcontact.of_ok
  obtain ⟨ys, hcontact'⟩ := NodeM.contact_send hown hsend
  obtain ⟨sent, rfl, ⟨encoding, c, hrequest⟩, hread⟩ := hcontact'.of_known hversion
  refine ⟨front, block, sent, ?_, hfront, hhash, ?_, hread⟩
  · rw [hcontact'.exchanges_eq, hcontact.exchanges_eq, List.append_assoc, List.append_assoc]
    rfl
  · rw [RpcExchange.transaction?, hrequest]

/-- A client of a node echoes, whatever the node replies. -/
theorem echoes_client (transport : Transport σ) : (Node.client transport).Echoes := by
  intro t options node answered node' hsend own hown
  obtain ⟨xs, hcontact⟩ := NodeM.contact_send hown hsend
  cases hcontact with
  | made _ hmain hread =>
    obtain ⟨encoding, c, rfl⟩ := hmain
    obtain ⟨text, -, hfound⟩ := Option.bind_eq_some_iff.1 hread
    -- Only the transaction's own signature passes the filter.
    have hhead : t.signatures.head? = some answered :=
      of_decide_eq_true (Option.filter_eq_some_iff.1 hfound).2
    exact Option.some.inj (hhead.symm.trans hown)

/-- **An operation is settled by its exchanges**, unless it was abandoned for an address that does
not exist. -/
theorem settled_record {op : Operation}
    (hname : ∀ name, op.name? = some name → (Utf8.encode name).length ≤ 32)
    (hdata : op.data.length < CompactLength.bound) (node : Node σ) :
    (sequencer transport program payer).Abandoned
        ((sequencer transport program payer).record (.operation op) node) ∨
      (sequencer transport program payer).Settled op
        ((sequencer transport program payer).record (.operation op) node) := by
  rcases Sequencer.exists_ends hdata node with habandoned | ⟨ending, hends⟩
  · exact .inl habandoned
  right
  cases hends with
  | refused hbuild =>
    obtain ⟨name, hsome, hlong⟩ := Operation.exists_name_of_build hbuild
    exact absurd (hname name hsome) (Nat.not_le_of_lt hlong)
  | noBlockhash _ hblock _ hresult | notSigned _ hblock _ _ hresult =>
    obtain ⟨xs, hxs, hnone⟩ := transaction?_eq_none_of_latestBlockhash hblock
    rw [← Record.exchanges_of_append hxs] at hnone
    exact Sequencer.settled_of_not_sent hnone hresult trivial
  | notSent _ hblock hsign hsend _ hresult =>
    obtain ⟨-, own, -, -, -, rfl⟩ := Transaction.of_sign_eq_ok hsign
    obtain ⟨front, block, sent, hxs, hfront, hhash, hsent, hread⟩ :=
      exchanges_of_send rfl hblock hsend
    refine Sequencer.settled_of_sent (Record.exchanges_of_append hxs) hfront hhash hsent hread ?_ ?_
    · intro a
      rw [hresult]
      exact iff_of_false (by rintro ⟨⟩) (by rintro ⟨_, _, ⟨⟩, -⟩)
    · intro failure h
      cases hresult.symm.trans h
      exact trivial
  | sent _ hblock hsign hsend _ hanswer hresult =>
    obtain ⟨-, own, -, -, -, rfl⟩ := Transaction.of_sign_eq_ok hsign
    obtain ⟨front, block, sent, hxs, hfront, hhash, hsent, hread⟩ :=
      exchanges_of_send rfl hblock hsend
    refine Sequencer.settled_of_sent (Record.exchanges_of_append hxs) hfront hhash hsent hread ?_ ?_
    · intro a
      rw [hresult]
      constructor
      · rintro ⟨⟩
        exact ⟨_, _, rfl, hanswer, rfl⟩
      · rintro ⟨signature, answer, ⟨⟩, hanswer', rfl⟩
        obtain rfl := Option.some.inj (hanswer.symm.trans hanswer')
        rfl
    · intro failure h
      cases hresult.symm.trans h

/-! ## Sessions -/

/-- The exchanges of a session are those of its steps. -/
theorem exists_exchanges_trace (transport : Transport σ) (program : Address) (payer : Signer)
    (steps : List Step) (node : Node σ) :
    ∃ last, node.Continues last ∧ last.exchanges = node.exchanges ++
      ((sequencer transport program payer).trace steps node).flatMap Record.exchanges := by
  induction steps generalizing node with
  | nil => exact ⟨node, .refl node, (List.append_nil _).symm⟩
  | cons step steps ih =>
    have hstep := continues_record transport program payer step node
    obtain ⟨last, hlast, hexchanges⟩ :=
      ih ((sequencer transport program payer).record step node).after
    obtain ⟨xs, hxs⟩ := hstep.exchanges
    refine ⟨last, hstep.trans hlast, ?_⟩
    rw [hexchanges, hxs, List.append_assoc, Sequencer.trace, List.flatMap_cons,
      Record.exchanges_of_append hxs]

/-- Whatever a node replies, a transaction that counts as accepted is answered with the one
signature that it has. -/
theorem signatures_of_mem_trace (transport : Transport σ) (program : Address) (payer : Signer)
    {steps : List Step} {node : Node σ} {r : Record (Node σ) RpcError}
    (hr : r ∈ (sequencer transport program payer).trace steps node) {t : Transaction}
    {options : SendOptions} {answered : Signature}
    (h : Event.send t options (.ok answered) ∈ r.events) : t.signatures = [answered] :=
  Sequencer.signatures_of_mem_send (echoes_client transport) hr h

/-- **A success is the transaction's own signature**: in a session with a node, whatever it replies,
every operation is settled by its exchanges, and over the whole session the version comes first.
What is left out is an operation that needs an address that does not exist. -/
theorem settled_of_mem_trace (transport : Transport σ) (program : Address) (payer : Signer)
    {steps : List Step}
    (hname : ∀ op name, .operation op ∈ steps → op.name? = some name →
      (Utf8.encode name).length ≤ 32)
    (hdata : ∀ op, .operation op ∈ steps → op.data.length ≤ 65535) (c : σ) :
    let s := sequencer transport program payer
    (∀ r ∈ s.trace steps { transport := c }, ∀ op, r.step = .operation op →
        s.Abandoned r ∨ s.Settled op r) ∧
      RpcExchange.VersionFirst ((s.trace steps { transport := c }).flatMap Record.exchanges) := by
  intro s
  constructor
  · intro r hr op hop
    obtain ⟨step, hstep, node, rfl⟩ := Sequencer.exists_record_of_mem_trace hr
    obtain rfl : step = .operation op := hop
    exact settled_record (fun name => hname op name hstep) (Nat.lt_succ_of_le (hdata op hstep)) node
  · obtain ⟨last, hlast, hexchanges⟩ :=
      exists_exchanges_trace transport program payer steps { transport := c }
    have hfirst : ({ transport := c } : Node σ).VersionFirst :=
      (versionFirst_of_none rfl).2 fun x hx => absurd hx List.not_mem_nil
    have hall := (hlast.versionFirst hfirst).exchanges
    rw [hexchanges] at hall
    exact hall

/-- A node that tells its version when it is asked for the second time, and that accepts the first
transaction with another signature than its own. -/
theorem settled_of_mem_trace_scripted :
    let a : Address := ByteVec.replicate 32 7
    let steps : List Step := [.operation (.addConstraint a ⟨"gold", 3, .tokens [a, a]⟩),
      .account a, .operation (.createConstraintModel "pets"),
      .operation (.addConstraint a ⟨"silver", 5, .none⟩)]
    let block : Json := .object [
      ("context", .object [("slot", .number (.natural 1))]),
      ("value", .object [("blockhash", .string a.toText),
        ("lastValidBlockHeight", .number (.natural 2))])]
    let script : ScriptedReply.Table := [
      ("getVersion", [.unreachable "offline",
        .result (.object [("solana-core", .string "1.18.26")])]),
      ("getLatestBlockhash", [.result block, .result block]),
      ("sendTransaction", [.result (.string a.toText), .echoSignature])]
    let s := sequencer ScriptedReply.transport a ⟨a, fun _ => .ok (ByteVec.replicate 64 1)⟩
    (∀ r ∈ s.trace steps { transport := script }, ∀ op, r.step = .operation op →
        s.Abandoned r ∨ s.Settled op r) ∧
      RpcExchange.VersionFirst
        ((s.trace steps { transport := script }).flatMap Record.exchanges) := by
  intro a steps block script s
  refine settled_of_mem_trace ScriptedReply.transport a _ ?_ ?_ script
  · intro op name hop hname
    simp only [steps, List.mem_cons, Step.operation.injEq, reduceCtorEq, List.not_mem_nil,
      or_false, false_or] at hop
    rcases hop with rfl | rfl | rfl <;> cases hname <;> decide
  · intro op hop
    simp only [steps, List.mem_cons, Step.operation.injEq, reduceCtorEq, List.not_mem_nil,
      or_false, false_or] at hop
    rcases hop with rfl | rfl | rfl <;> decide

end Node

end TokenEscrow

import TokenEscrow.Proofs.Fallible
import TokenEscrow.Rpc.Client

/-!
# What a request costs

Each of the three requests of a client comes to at most one exchange with the
node for the version, and one more for the request itself (`Contact`). The first
is left out once the version is known, and the second is left out when the first
fails. Nothing else is exchanged, and the request succeeds exactly when the last
reply tells something: which, is a matter of that one exchange
(`RpcExchange.blockhash?`, `RpcExchange.accepted?`, `RpcExchange.account?`).

So whoever looks at the exchanges with the node knows what came out of a
request, and nothing is carried from one request to the next but the version.
-/

namespace TokenEscrow

/-! ## What a reply tells -/

namespace RpcExchange

/-- What a reading makes of the reply. -/
def tells {α : Type} (read : Json.Reading α) (x : RpcExchange) : Option α :=
  x.answer.toOption.bind fun document => (read document).toOption

/-- The version that a node tells. -/
def version? (x : RpcExchange) : Option Version :=
  match x.request with
  | .version => (x.tells Reply.nodeVersion).bind fun text => (Version.read text).toOption
  | _ => none

/-- The block hash that a node tells. -/
def blockhash? (x : RpcExchange) : Option Hash :=
  match x.request with
  | .latestBlockhash _ => (x.tells Reply.blockhash).bind fun text => (Hash.read text).toOption
  | .fees _ => (x.tells Reply.fees).bind fun text => (Hash.read text).toOption
  | _ => none

/-- The transaction that a node is given. -/
def transaction? (x : RpcExchange) : Option Transaction :=
  match x.request with
  | .send transaction _ _ _ => some transaction
  | _ => none

/-- The signature that a node accepts a transaction with: a reply has to be the transaction's own
first signature. -/
def accepted? (x : RpcExchange) : Option Signature :=
  match x.request with
  | .send transaction _ _ _ => (x.tells Json.Reading.text).bind fun text =>
    (Signature.read text).toOption.filter fun found => transaction.signatures.head? = some found
  | _ => none

/-- The account that a node tells, or that there is none. -/
def account? (x : RpcExchange) : Option (Option Account) :=
  match x.request with
  | .account address _ => x.answer.toOption.bind fun document =>
    (NodeM.readAccount address document).toOption
  | _ => none

end RpcExchange

namespace NodeM

variable {σ : Type} (transport : Transport σ)

/-! ## Exchanges -/

/-- The exchange of a request with a node. -/
def exchangeOf (node : Node σ) (request : RpcRequest) : RpcExchange :=
  ⟨request, (transport request node.transport).1⟩

/-- The node after an exchange. -/
def exchanged (node : Node σ) (request : RpcRequest) : Node σ :=
  { node with
    transport := (transport request node.transport).2
    exchanges := node.exchanges ++ [exchangeOf transport node request] }

/-- What comes of asking for the version. -/
inductive Greeting (node : Node σ) : Except RpcError Version → List RpcExchange → Node σ → Prop
  /-- it is known already -/
  | known {v : Version} (hversion : node.version = some v) : Greeting node (.ok v) [] node
  /-- the node tells it, and it is kept -/
  | learned {v : Version} (hversion : node.version = none)
    (hread : (exchangeOf transport node .version).version? = some v) :
    Greeting node (.ok v) [exchangeOf transport node .version]
      { exchanged transport node .version with version := some v }
  /-- the node does not tell it -/
  | failed {e : RpcError} (hversion : node.version = none)
    (hread : (exchangeOf transport node .version).version? = none) :
    Greeting node (.error e) [exchangeOf transport node .version]
      (exchanged transport node .version)

/-- What comes of a request that is told from others by `isMain` and whose reply is read by
`read?`. -/
inductive Contact {α : Type} (isMain : RpcRequest → Prop) (read? : RpcExchange → Option α)
    (node : Node σ) : Except RpcError α → List RpcExchange → Node σ → Prop
  /-- there is no version, and the request is not made -/
  | unmet {e : RpcError} {xs : List RpcExchange} {node' : Node σ}
    (hgreeting : Greeting transport node (.error e) xs node') :
    Contact isMain read? node (.error e) xs node'
  /-- the request is made, and its reply decides -/
  | made {v : Version} {xs : List RpcExchange} {mid : Node σ} {request : RpcRequest}
    {result : Except RpcError α} (hgreeting : Greeting transport node (.ok v) xs mid)
    (hmain : isMain request)
    (hread : read? (exchangeOf transport mid request) = result.toOption) :
    Contact isMain read? node result (xs ++ [exchangeOf transport mid request])
      (exchanged transport mid request)

variable {transport} {node : Node σ}

/-- A request is one exchange. -/
theorem run_exchange (transport : Transport σ) (node : Node σ) (request : RpcRequest) :
    (exchange transport request).run.run node =
      ((exchangeOf transport node request).answer.mapError TransportError.toRpcError,
        exchanged transport node request) := by
  refine (Fallible.run_bind_ok (Fallible.run_get node)).trans ?_
  rcases h : transport request node.transport with ⟨e | document, state⟩ <;>
    simp only [exchanged, exchangeOf, h] <;> rfl

/-- A request whose reply is read is one exchange, and what it tells is what comes out. -/
theorem run_ask {α : Type} (transport : Transport σ) (read : Json.Reading α) (node : Node σ)
    (request : RpcRequest) :
    ∃ result, (ask transport request read).run.run node =
        (result, exchanged transport node request) ∧
      result.toOption = (exchangeOf transport node request).tells read := by
  have hrun := run_exchange transport node request
  rcases h : (exchangeOf transport node request).answer with e | document
  · rw [h] at hrun
    refine ⟨_, Fallible.run_bind_error hrun, ?_⟩
    rw [RpcExchange.tells, h]
    rfl
  · rw [h] at hrun
    rw [RpcExchange.tells, h]
    rcases hread : read document with m | a
    · refine ⟨.error (.malformed m), (Fallible.run_bind_ok hrun).trans ?_, ?_⟩
      · simp only [hread]
        rfl
      · simp [hread, Except.toOption]
    · refine ⟨.ok a, (Fallible.run_bind_ok hrun).trans ?_, ?_⟩
      · simp only [hread]
        rfl
      · simp [hread, Except.toOption]

/-! ## The version -/

/-- A version that is known is not asked for. -/
theorem run_version_known {v : Version} (h : node.version = some v) :
    (version transport).run.run node = (.ok v, node) := by
  refine (Fallible.run_bind_ok (Fallible.run_get node)).trans ?_
  simp only [h]
  rfl

/-- Asking for the version has no other outcome. -/
theorem greeting_version (transport : Transport σ) (node : Node σ) :
    ∃ result xs node', (version transport).run.run node = (result, node') ∧
      Greeting transport node result xs node' := by
  rcases hversion : node.version with _ | v
  · obtain ⟨result, hask, htells⟩ := run_ask transport Reply.nodeVersion node .version
    have hread : (exchangeOf transport node .version).version? =
        result.toOption.bind fun text => (Version.read text).toOption := by
      change ((exchangeOf transport node .version).tells Reply.nodeVersion).bind _ = _
      rw [htells]
    have hcatch := Fallible.run_tryCatch (ask transport .version Reply.nodeVersion)
      (fun e => throw (.noVersion e)) node
    rw [hask] at hcatch
    have hstart : (version transport).run.run node = _ :=
      Fallible.run_bind_ok (Fallible.run_get node)
    simp only [hversion] at hstart
    rcases result with e | text
    · exact ⟨_, _, _, hstart.trans (Fallible.run_bind_error hcatch), .failed hversion hread⟩
    · have hrun := hstart.trans (Fallible.run_bind_ok hcatch)
      rcases htext : Version.read text with e | v <;> rw [htext] at hrun
      · exact ⟨_, _, _, hrun, .failed hversion (by simp [hread, htext, Except.toOption])⟩
      · exact ⟨_, _, _, hrun, .learned hversion (by simp [hread, htext, Except.toOption])⟩
  · exact ⟨_, _, _, run_version_known hversion, .known hversion⟩

/-- After a version was told it is known. -/
theorem Greeting.version_eq {v : Version} {xs : List RpcExchange} {mid : Node σ}
    (h : Greeting transport node (.ok v) xs mid) : mid.version = some v := by
  cases h with
  | known hversion => exact hversion
  | learned => rfl

/-- Names of commitments depend on the version only. -/
theorem run_commitmentName (transport : Transport σ) {v : Version} (h : node.version = some v)
    (c : Commitment) :
    ∃ name, (commitmentName transport c).run.run node = (.ok name, node) := by
  exact ⟨_, (Fallible.run_bind_ok (run_version_known h)).trans rfl⟩

/-! ## Requests -/

/-- A request that goes by the version is one contact when the rest of it is one exchange. -/
theorem contact_of_version {α : Type} {isMain : RpcRequest → Prop}
    {read? : RpcExchange → Option α} {f : Version → NodeM σ α}
    (hf : ∀ v mid, mid.version = some v → ∃ request result,
      (f v).run.run mid = (result, exchanged transport mid request) ∧ isMain request ∧
        read? (exchangeOf transport mid request) = result.toOption)
    {result : Except RpcError α} {node' : Node σ}
    (h : (version transport >>= f).run.run node = (result, node')) :
    ∃ xs, Contact transport isMain read? node result xs node' := by
  obtain ⟨greeting, xs, mid, hrun, hgreeting⟩ := greeting_version transport node
  rcases greeting with e | v
  · obtain ⟨rfl, rfl⟩ := Prod.mk.inj ((Fallible.run_bind_error hrun).symm.trans h)
    exact ⟨_, .unmet hgreeting⟩
  · obtain ⟨request, result', hrest, hmain, hread⟩ := hf v mid hgreeting.version_eq
    have hrun := (Fallible.run_bind_ok hrun).trans hrest
    obtain ⟨rfl, rfl⟩ := Prod.mk.inj (hrun.symm.trans h)
    exact ⟨_, .made hgreeting hmain hread⟩

/-- The rest of a request, once the version is known: a commitment is named, the request is made,
and its reply is read and then looked at, which makes no further request. -/
theorem exists_made {α β : Type} {c : Commitment} {make : String → RpcRequest}
    {read : Json.Reading α} {f : α → NodeM σ β} {look? : α → Option β}
    {isMain : RpcRequest → Prop} {read? : RpcExchange → Option β} {v : Version}
    (hversion : node.version = some v) (hmain : ∀ name, isMain (make name))
    (hread : ∀ name, read? (exchangeOf transport node (make name)) =
      ((exchangeOf transport node (make name)).tells read).bind look?)
    (hf : ∀ a mid, ∃ result, (f a).run.run mid = (result, mid) ∧ look? a = result.toOption) :
    ∃ request result,
      (commitmentName transport c >>= fun name => ask transport (make name) read >>= f).run.run
          node = (result, exchanged transport node request) ∧
        isMain request ∧ read? (exchangeOf transport node request) = result.toOption := by
  obtain ⟨name, hname⟩ := run_commitmentName transport hversion c
  obtain ⟨result, hask, htells⟩ := run_ask transport read node (make name)
  refine ⟨make name, ?_⟩
  rw [hread, ← htells, Fallible.run_bind_ok hname]
  rcases result with e | a
  · exact ⟨_, Fallible.run_bind_error hask, hmain name, rfl⟩
  · obtain ⟨result, hrun, hlook⟩ := hf a (exchanged transport node (make name))
    exact ⟨result, (Fallible.run_bind_ok hask).trans hrun, hmain name, hlook⟩

/-- Asking for a block hash, under either name that the request has. -/
theorem contact_latestBlockhash {result : Except RpcError Hash} {node' : Node σ}
    (h : (Node.client transport).latestBlockhash node = (result, node')) :
    ∃ xs, Contact transport (fun r => ∃ c, r = .latestBlockhash c ∨ r = .fees c)
      RpcExchange.blockhash? node result xs node' := by
  refine contact_of_version ?_ h
  intro v mid hversion
  by_cases hold : v.precedes 1 9 0 = true
  · simp only [if_pos hold]
    refine exists_made hversion (fun name => ⟨name, .inr rfl⟩) (fun _ => rfl) ?_
    intro text mid
    rcases Hash.read text with _ | _
    · exact ⟨_, rfl, rfl⟩
    · exact ⟨_, rfl, rfl⟩
  · simp only [if_neg hold]
    refine exists_made hversion (fun name => ⟨name, .inl rfl⟩) (fun _ => rfl) ?_
    intro text mid
    rcases Hash.read text with _ | _
    · exact ⟨_, rfl, rfl⟩
    · exact ⟨_, rfl, rfl⟩

/-- Handing over a transaction with a signature. -/
theorem contact_send {t : Transaction} {own : Signature} (hown : t.signatures.head? = some own)
    {options : SendOptions} {result : Except RpcError Signature} {node' : Node σ}
    (h : (Node.client transport).send t options node = (result, node')) :
    ∃ xs, Contact transport (fun r => ∃ encoding c, r = .send t encoding c options)
      RpcExchange.accepted? node result xs node' := by
  refine contact_of_version ?_ h
  intro v mid hversion
  refine exists_made hversion (fun name => ⟨_, name, rfl⟩) (fun _ => rfl) ?_
  intro text mid
  have hhead : t.signatures.headD (ByteVec.zero 64) = own := by
    rw [List.headD_eq_head?_getD, hown]
    rfl
  simp only [hhead, hown]
  rcases Signature.read text with e | found
  · exact ⟨_, rfl, rfl⟩
  · by_cases hfound : found = own
    · refine ⟨.ok own, ?_, ?_⟩
      · simp only [if_pos hfound]
        rfl
      · simp [Except.toOption, hfound]
    · refine ⟨.error (.wrongSignature found own), ?_, ?_⟩
      · simp only [if_neg hfound]
        rfl
      · simp [Except.toOption, Ne.symm hfound]

/-- What is made of the reply to a request for an account. -/
def accountAnswer (address : Address) :
    Except TransportError Json → Except RpcError (Option Account)
  | .ok document => readAccount address document
  | .error e => .error (.accountRequest address e.toRpcError)

/-- A request for an account is one exchange, whose reply is looked at. -/
theorem run_readAccount (transport : Transport σ) (node : Node σ) (address : Address)
    (commitment : String) :
    (do
      let reply ← tryCatch (exchange transport (.account address commitment)) fun e =>
        throw (.accountRequest address e)
      match readAccount address reply with
        | .ok account => return account
        | .error e => throw e : NodeM σ (Option Account)).run.run node =
      (accountAnswer address (exchangeOf transport node (.account address commitment)).answer,
        exchanged transport node (.account address commitment)) := by
  have hcatch := Fallible.run_tryCatch (exchange transport (.account address commitment))
    (fun e => throw (.accountRequest address e)) node
  rw [run_exchange] at hcatch
  rcases hanswer : (exchangeOf transport node (.account address commitment)).answer
    with e | document <;> rw [hanswer] at hcatch
  · exact Fallible.run_bind_error hcatch
  · refine (Fallible.run_bind_ok hcatch).trans ?_
    rw [accountAnswer]
    rcases readAccount address document with e | account <;> rfl

/-- Asking for an account either ends with the version, or makes the request. -/
theorem run_account (transport : Transport σ) (address : Address) (node : Node σ) :
    (∃ e xs mid, Greeting transport node (.error e) xs mid ∧
      (Node.client transport).account address node = (.error e, mid)) ∨
    ∃ v xs mid commitment, Greeting transport node (.ok v) xs mid ∧
      (Node.client transport).account address node =
        (accountAnswer address (exchangeOf transport mid (.account address commitment)).answer,
          exchanged transport mid (.account address commitment)) := by
  obtain ⟨greeting, xs, mid, hgreet, hgreeting⟩ := greeting_version transport node
  rcases greeting with e | v
  · exact .inl ⟨e, xs, mid, hgreeting, Fallible.run_bind_error (Fallible.run_bind_error hgreet)⟩
  · obtain ⟨name, hname⟩ : ∃ name, (commitmentName transport .confirmed).run.run node =
        (.ok name, mid) := ⟨_, (Fallible.run_bind_ok hgreet).trans rfl⟩
    exact .inr ⟨v, xs, mid, name, hgreeting,
      (Fallible.run_bind_ok hname).trans (run_readAccount transport mid address name)⟩

/-- Asking for an account. -/
theorem contact_account {address : Address} {result : Except RpcError (Option Account)}
    {node' : Node σ} (h : (Node.client transport).account address node = (result, node')) :
    ∃ xs, Contact transport (fun r => ∃ c, r = .account address c)
      RpcExchange.account? node result xs node' := by
  rcases run_account transport address node with
    ⟨e, xs, mid, hgreeting, hrun⟩ | ⟨v, xs, mid, commitment, hgreeting, hrun⟩
  · obtain ⟨rfl, rfl⟩ := Prod.mk.inj (hrun.symm.trans h)
    exact ⟨_, .unmet hgreeting⟩
  · obtain ⟨rfl, rfl⟩ := Prod.mk.inj (hrun.symm.trans h)
    refine ⟨_, .made hgreeting ⟨commitment, rfl⟩ ?_⟩
    rw [show RpcExchange.account? _ = (exchangeOf transport mid
      (.account address commitment)).answer.toOption.bind fun document =>
        (readAccount address document).toOption from rfl]
    cases (exchangeOf transport mid (.account address commitment)).answer <;> rfl

end NodeM

end TokenEscrow

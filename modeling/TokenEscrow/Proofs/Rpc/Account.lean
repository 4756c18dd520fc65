import TokenEscrow.Proofs.Bytes.Base58
import TokenEscrow.Proofs.Bytes.Base64
import TokenEscrow.Proofs.Json.Fields
import TokenEscrow.Proofs.Rpc.Session
import TokenEscrow.Proofs.Zstd.Stored

/-!
# Accounts that are not there

A node says that there is no account by replying without one, with `null`, or with
one that cannot be made sense of (`Reply.NoAccount`). Nothing else counts as that: a
request that is not answered, or answered with something else, is an error of the
client, even though the wording of some of these errors says that no account was
found (`NodeM.answeredAs_account`).

Sense can be made of an account whose owner is the text of an address and whose data
spell bytes in the encoding that they name (`Reply.EncodedData.Spells`). There is a
reply for every account (`Reply.exists_givesAccount`).
-/

namespace TokenEscrow

/-! ## What replies say -/

namespace Reply

open Json Json.RecordReader

/-- A reply that holds something beside its context, or leaves it out. A list leaves nothing
out. -/
inductive Holds : Json → Option Json → Prop
  | object {fields : List (String × Json)} {document : Json} {c : UInt64 × Option Version}
    (hcontext : lastField? fields "context" = some document)
    (hread : Reply.context document = .ok c) :
    Holds (.object fields) (lastField? fields "value")
  | list {document value : Json} {c : UInt64 × Option Version}
    (hread : Reply.context document = .ok c) : Holds (.array [document, value]) (some value)

/-- What is made of something that may be left out. -/
def ofHeld {α : Type} (read : Reading α) : Option Json → Except Mismatch (Option α)
  | none => .ok none
  | some value => read.optional value

theorem ofHeld_eq_none_iff {α : Type} {read : Reading α} {o : Option Json} :
    ofHeld read o = .ok none ↔ o = none ∨ o = some .null := by
  rcases o with _ | value
  · exact iff_of_true rfl (.inl rfl)
  · cases value with
    | null => exact iff_of_true rfl (.inr rfl)
    | _ =>
      refine iff_of_false ?_ (by simp)
      rw [ofHeld, Reading.optional]
      · cases read _ <;> exact nofun
      · exact nofun

/-- Where `null` is not read, what is read is there. -/
theorem ofHeld_eq_some_iff {α : Type} {read : Reading α} {o : Option Json} {a : α}
    (hnull : read .null ≠ .ok a) :
    ofHeld read o = .ok (some a) ↔ ∃ value, o = some value ∧ read value = .ok a := by
  rcases o with _ | value
  · exact iff_of_false nofun nofun
  · rw [ofHeld]
    cases value with
    | null => exact iff_of_false nofun (by simpa using hnull)
    | _ =>
      rw [Reading.optional]
      · cases hread : read _ <;> simp [Except.map, hread]
      · exact nofun

theorem ofHeld_account_eq_some_iff {o : Option Json} {encoded : EncodedAccount} :
    ofHeld account o = .ok (some encoded) ↔
      ∃ value, o = some value ∧ account value = .ok encoded :=
  ofHeld_eq_some_iff nofun

/-- A value beside its context is read from a reply that holds it. -/
theorem optionalInContext_eq_ok_iff {α : Type} {read : Reading α} {document : Json}
    {a : Option α} : optionalInContext read document = .ok a ↔
      ∃ o, Holds document o ∧ ofHeld read o = .ok a := by
  rw [optionalInContext, read_eq_ok_iff]
  simp only [fromFields_seq_eq_ok_iff, fromFields_map_eq_ok_iff, fromItems_seq_eq_ok_iff,
    fromItems_map_eq_ok_iff, field, optionalField, fromFields_part_eq_ok_iff,
    fromItems_part_eq_ok_iff]
  constructor
  · rintro (⟨fields, rfl, _, _, ⟨c, hcontext, rfl⟩, hvalue, rfl⟩ |
      ⟨items, rfl, _, _, _, ⟨c, ⟨document, rfl, hcontext⟩, rfl⟩, ⟨value, rfl, hvalue⟩, rfl⟩)
    · -- The context may not be missing, the value may.
      obtain ⟨-, ⟨⟩⟩ | ⟨document, hdocument, hread⟩ := hcontext
      refine ⟨_, .object hdocument hread, ?_⟩
      rcases hvalue with ⟨hmissing, ha⟩ | ⟨value, hsome, ha⟩
      · rw [hmissing, ← Option.some.inj ha]
        rfl
      · rw [hsome]
        exact ha
    · exact ⟨_, .list hcontext, hvalue⟩
  · rintro ⟨o, hholds, ha⟩
    cases hholds with
    | @object fields document c hcontext hread =>
      refine .inl ⟨_, rfl, _, a, ⟨c, .inr ⟨_, hcontext, hread⟩, rfl⟩, ?_, rfl⟩
      rcases hvalue : lastField? fields "value" with _ | value
      · rw [hvalue] at ha
        exact .inl ⟨rfl, congrArg some (Except.ok.inj ha)⟩
      · rw [hvalue] at ha
        exact .inr ⟨value, rfl, ha⟩
    | list hread => exact .inr ⟨_, rfl, _, _, a, ⟨_, ⟨_, rfl, hread⟩, rfl⟩, ⟨_, rfl, ha⟩, rfl⟩

/-- Data that spell bytes, in one of three encodings. A document spells none, and neither does a
text with another name. -/
inductive EncodedData.Spells : EncodedData → Bytes → Prop
  | base58 (data : Bytes) : Spells (.bytes (Base58.encode data) .base58) data
  | base64 (data : Bytes) : Spells (.bytes (Base64.encode data) .base64) data
  | base64Zstd {zipped data : Bytes} (h : Zstd.decode? zipped = some data) :
    Spells (.bytes (Base64.encode zipped) .base64Zstd) data

/-- Exactly what is spelled is decoded. -/
theorem EncodedData.decode?_eq_some_iff {encoded : EncodedData} {data : Bytes} :
    encoded.decode? = some data ↔ encoded.Spells data := by
  constructor
  · intro h
    match encoded with
    | .bytes text .base58 =>
      obtain rfl := Base58.decode?_eq_some_iff.1 h
      exact .base58 data
    | .bytes text .base64 =>
      obtain rfl := Base64.decode?_eq_some_iff.1 h
      exact .base64 data
    | .bytes text .base64Zstd =>
      obtain ⟨zipped, hzipped, hdata⟩ := Option.bind_eq_some_iff.1 h
      obtain rfl := Base64.decode?_eq_some_iff.1 hzipped
      exact .base64Zstd hdata
    | .bytes _ .other | .document => cases h
  · intro h
    cases h with
    | base58 => exact Base58.decode?_eq_some_iff.2 rfl
    | base64 => exact Base64.decode?_eq_some_iff.2 rfl
    | base64Zstd hdata =>
      exact Option.bind_eq_some_iff.2 ⟨_, Base64.decode?_eq_some_iff.2 rfl, hdata⟩

/-- Codes for letters, repetitions and a checksum. -/
example : (EncodedData.bytes "KLUv/SQoHQEAgsIHC9A9YUmARgZADaK0dnWdRQ/dWn7QDSO++2fO84jvAQB6ZbSo"
    .base64Zstd).decode? = some (Utf8.encode "to be or not to be, that is the question") := by
  decide +kernel

/-- A reply that there is no account. -/
inductive NoAccount (document : Json) : Prop
  | leftOut (h : Holds document none)
  | null (h : Holds document (some .null))
  /-- the data of the account spell nothing -/
  | noData {value : Json} {encoded : EncodedAccount} (h : Holds document (some value))
    (hread : account value = .ok encoded) (hdata : ∀ data, ¬ encoded.data.Spells data)
  /-- the owner of the account is no address -/
  | noOwner {value : Json} {encoded : EncodedAccount} (h : Holds document (some value))
    (hread : account value = .ok encoded) (howner : ∀ owner : Address, encoded.owner ≠ owner.toText)

/-- A reply with an account. -/
def GivesAccount (document : Json) (a : Account) : Prop :=
  ∃ value encoded, Holds document (some value) ∧ account value = .ok encoded ∧
    encoded.data.Spells a.data ∧ encoded.owner = a.owner.toText ∧ encoded.lamports = a.lamports

theorem EncodedAccount.decode?_eq_some_iff {encoded : EncodedAccount} {a : Account} :
    encoded.decode? = some a ↔ encoded.data.Spells a.data ∧ encoded.owner = a.owner.toText ∧
      encoded.lamports = a.lamports := by
  obtain ⟨lamports, owner, data⟩ := a
  rw [decode?, ← EncodedData.decode?_eq_some_iff, ← Address.read_eq_ok_iff]
  rcases encoded.data.decode? with _ | data'
  · simp
  · cases Address.read encoded.owner with
    | error e => simp
    | ok owner' =>
      simp
      grind

theorem EncodedAccount.decode?_eq_none_iff {encoded : EncodedAccount} :
    encoded.decode? = none ↔ (∀ data, ¬ encoded.data.Spells data) ∨
      ∀ owner : Address, encoded.owner ≠ owner.toText := by
  constructor
  · intro hnone
    by_contra hboth
    push Not at hboth
    obtain ⟨⟨data, hdata⟩, owner, howner⟩ := hboth
    have hsome : encoded.decode? = some ⟨encoded.lamports, owner, data⟩ :=
      decode?_eq_some_iff.2 ⟨hdata, howner, rfl⟩
    rw [hnone] at hsome
    cases hsome
  · intro h
    apply Option.eq_none_iff_forall_ne_some.2
    intro a ha
    obtain ⟨hdata, howner, -⟩ := decode?_eq_some_iff.1 ha
    rcases h with h | h
    · exact h _ hdata
    · exact h _ howner

/-! ### Replies with accounts -/

/-- The ways in which a node writes data: a text in base58 alone, or a text with its encoding. -/
inductive WritesData : Bytes → Json → Prop
  | alone (data : Bytes) : WritesData data (.string (Base58.encode data))
  | base58 (data : Bytes) :
    WritesData data (.array [.string (Base58.encode data), .string "base58"])
  | base64 (data : Bytes) :
    WritesData data (.array [.string (Base64.encode data), .string "base64"])
  | base64Zstd {zipped data : Bytes} (h : Zstd.decode? zipped = some data) :
    WritesData data (.array [.string (Base64.encode zipped), .string "base64+zstd"])

/-- Data are read from what a node writes. -/
theorem WritesData.exists_spells {bs : Bytes} {document : Json} (h : WritesData bs document) :
    ∃ encoded, data document = .ok encoded ∧ encoded.Spells bs := by
  cases h with
  | alone | base58 => exact ⟨_, rfl, .base58 _⟩
  | base64 => exact ⟨_, rfl, .base64 _⟩
  | base64Zstd h => exact ⟨_, rfl, .base64Zstd h⟩

/-- A reply with an account whose data are written somehow. -/
def accountReply (slot rentEpoch : UInt64) (executable : Bool) (a : Account) (written : Json) :
    Json :=
  .object [("context", .object [("slot", .ofUInt64 slot)]),
    ("value", .object [("lamports", .ofUInt64 a.lamports), ("data", written),
      ("owner", .string a.owner.toText), ("executable", .bool executable),
      ("rentEpoch", .ofUInt64 rentEpoch)])]

/-- An account is read from an object with its parts, in any order and among others. -/
theorem account_object {fields : List (String × Json)} {lamports rentEpoch : UInt64}
    {space : Option UInt64} {owner : String} {executable : Bool} {written : Json}
    {encoded : EncodedData} (hlamports : lastField? fields "lamports" = some (.ofUInt64 lamports))
    (hwritten : lastField? fields "data" = some written) (hdata : data written = .ok encoded)
    (howner : lastField? fields "owner" = some (.string owner))
    (hexecutable : lastField? fields "executable" = some (.bool executable))
    (hrentEpoch : lastField? fields "rentEpoch" = some (.ofUInt64 rentEpoch))
    (hspace : lastField? fields "space" = space.map .ofUInt64) :
    account (.object fields) = .ok ⟨lamports, encoded, owner⟩ := by
  refine read_eq_ok_iff.2 (.inl ⟨fields, rfl, ?_⟩)
  exact Finds.map _ (.field (Reading.wholeBelow_ofUInt64 _) hlamports)
    |>.seq (fromFields_part_eq_ok_iff.2 (.inr ⟨written, hwritten, hdata⟩))
    |>.seq (.field Reading.text_string howner)
    |>.seq (.field Reading.flag_bool hexecutable)
    |>.seq (.field (Reading.wholeBelow_ofUInt64 _) hrentEpoch)
    |>.seq (.optionalField Reading.optional_ofUInt64 hspace)

/-- However a node writes the data of an account, its reply has the account. -/
theorem givesAccount_accountReply (slot rentEpoch : UInt64) (executable : Bool) {a : Account}
    {written : Json} (h : WritesData a.data written) :
    GivesAccount (accountReply slot rentEpoch executable a written) a := by
  obtain ⟨encoded, hdata, hspells⟩ := h.exists_spells
  have hcontext : context (.object [("slot", .ofUInt64 slot)]) = .ok (slot, none) := by
    refine read_eq_ok_iff.2 (.inl ⟨_, rfl, ?_⟩)
    exact Finds.map _ (.field (Reading.wholeBelow_ofUInt64 _) rfl)
      |>.seq (fromFields_part_eq_ok_iff.2 (.inl ⟨rfl, rfl⟩))
  exact ⟨_, ⟨a.lamports, encoded, a.owner.toText⟩, .object rfl hcontext,
    account_object rfl rfl hdata rfl rfl rfl (show _ = Option.map _ none from rfl), hspells, rfl,
    rfl⟩

/-- **There is a reply for every account**, with its data zipped. -/
theorem exists_givesAccount (slot rentEpoch : UInt64) (executable : Bool) (a : Account) :
    ∃ zipped, Zstd.decode? zipped = some a.data ∧
      GivesAccount (accountReply slot rentEpoch executable a
        (.array [.string (Base64.encode zipped), .string "base64+zstd"])) a := by
  obtain ⟨zipped, hzipped⟩ := Zstd.exists_decode?_eq_some a.data
  exact ⟨zipped, hzipped, givesAccount_accountReply slot rentEpoch executable (.base64Zstd hzipped)⟩

end Reply

namespace NodeM

open Reply (Holds NoAccount GivesAccount)

variable {address : Address} {document : Json}

/-- A reply that is understood holds something, or leaves it out. -/
theorem readAccount_eq_ok_iff {a : Option Account} : readAccount address document = .ok a ↔
    ∃ o encoded, Holds document o ∧ Reply.ofHeld Reply.account o = .ok encoded ∧
      encoded.bind Reply.EncodedAccount.decode? = a := by
  by_cases hnull : document = .null
  · subst hnull
    refine iff_of_false nofun ?_
    rintro ⟨o, encoded, ⟨⟩, -⟩
  have hread : readAccount address document =
      ((Reply.optionalInContext Reply.account document).map
        fun encoded => encoded.bind Reply.EncodedAccount.decode?).mapError .malformed := by
    cases document with
    | null => exact absurd rfl hnull
    | bool | number | string | array | object =>
      rw [readAccount]
      · cases Reply.optionalInContext Reply.account _ <;> rfl
      · exact nofun
  rw [hread]
  constructor
  · intro h
    rcases hencoded : Reply.optionalInContext Reply.account document with m | encoded
    · rw [hencoded] at h
      cases h
    · rw [hencoded] at h
      obtain ⟨o, hholds, ho⟩ := Reply.optionalInContext_eq_ok_iff.1 hencoded
      exact ⟨o, encoded, hholds, ho, Except.ok.inj h⟩
  · rintro ⟨o, encoded, hholds, ho, rfl⟩
    rw [Reply.optionalInContext_eq_ok_iff.2 ⟨o, hholds, ho⟩]
    rfl

theorem readAccount_eq_none_iff : readAccount address document = .ok none ↔ NoAccount document := by
  rw [readAccount_eq_ok_iff]
  constructor
  · rintro ⟨o, _ | encoded, hholds, ho, hdecode⟩
    · rcases Reply.ofHeld_eq_none_iff.1 ho with rfl | rfl
      · exact .leftOut hholds
      · exact .null hholds
    · obtain ⟨value, rfl, hvalue⟩ := Reply.ofHeld_account_eq_some_iff.1 ho
      rcases Reply.EncodedAccount.decode?_eq_none_iff.1 hdecode with hdata | howner
      · exact .noData hholds hvalue hdata
      · exact .noOwner hholds hvalue howner
  · intro h
    cases h with
    | leftOut h | null h => exact ⟨_, none, h, rfl, rfl⟩
    | noData h hvalue hdata =>
      exact ⟨_, _, h, Reply.ofHeld_account_eq_some_iff.2 ⟨_, rfl, hvalue⟩,
        Reply.EncodedAccount.decode?_eq_none_iff.2 (.inl hdata)⟩
    | noOwner h hvalue howner =>
      exact ⟨_, _, h, Reply.ofHeld_account_eq_some_iff.2 ⟨_, rfl, hvalue⟩,
        Reply.EncodedAccount.decode?_eq_none_iff.2 (.inr howner)⟩

theorem readAccount_eq_some_iff {a : Account} :
    readAccount address document = .ok (some a) ↔ GivesAccount document a := by
  rw [readAccount_eq_ok_iff]
  constructor
  · rintro ⟨o, _ | encoded, hholds, ho, hdecode⟩
    · cases hdecode
    · obtain ⟨value, rfl, hvalue⟩ := Reply.ofHeld_account_eq_some_iff.1 ho
      exact ⟨value, encoded, hholds, hvalue, Reply.EncodedAccount.decode?_eq_some_iff.1 hdecode⟩
  · rintro ⟨value, encoded, hholds, hvalue, hdecode⟩
    exact ⟨_, _, hholds, Reply.ofHeld_account_eq_some_iff.2 ⟨_, rfl, hvalue⟩,
      Reply.EncodedAccount.decode?_eq_some_iff.2 hdecode⟩

/-! ## What comes of the request -/

/-- The wording of an error says that no account was found. -/
def SaysNotFound (address : Address) (e : RpcError) : Prop :=
  ∃ rest, e.message = "AccountNotFound: pubkey=" ++ address.toText ++ rest

/-- What the exchanges of a request for an account make of it. The version may have been asked for
before the request itself, and only a reply to the latter can tell that there is no account. -/
inductive AnsweredAs (address : Address) :
    List RpcExchange → Except RpcError (Option Account) → Prop
  /-- there is no version, and the request is not made -/
  | noVersion {x : RpcExchange} {e : RpcError} (hx : x.request = .version)
    (hversion : x.version? = none) : AnsweredAs address [x] (.error e)
  /-- no reply comes back, or an error does, and the wording is that of a missing account -/
  | unanswered {front : List RpcExchange} {commitment : String} {e : TransportError}
    (hfront : ∀ x ∈ front, x.request = .version)
    (hwording : SaysNotFound address (.accountRequest address e.toRpcError)) :
    AnsweredAs address (front ++ [⟨.account address commitment, .error e⟩])
      (.error (.accountRequest address e.toRpcError))
  /-- the reply does not say anything about the account -/
  | malformed {front : List RpcExchange} {commitment : String} {document : Json} {e : RpcError}
    (hfront : ∀ x ∈ front, x.request = .version) (hnone : ¬ NoAccount document)
    (hsome : ∀ a, ¬ GivesAccount document a) :
    AnsweredAs address (front ++ [⟨.account address commitment, .ok document⟩]) (.error e)
  /-- the reply says that there is none -/
  | absent {front : List RpcExchange} {commitment : String} {document : Json}
    (hfront : ∀ x ∈ front, x.request = .version) (hnone : NoAccount document) :
    AnsweredAs address (front ++ [⟨.account address commitment, .ok document⟩]) (.ok none)
  /-- the reply has the account -/
  | found {front : List RpcExchange} {commitment : String} {document : Json} {a : Account}
    (hfront : ∀ x ∈ front, x.request = .version) (hsome : GivesAccount document a) :
    AnsweredAs address (front ++ [⟨.account address commitment, .ok document⟩]) (.ok (some a))

/-- What is made of a reply is a matter of what it says. -/
theorem answeredAs_accountAnswer {front : List RpcExchange} (commitment : String)
    (answer : Except TransportError Json) (hfront : ∀ x ∈ front, x.request = .version) :
    AnsweredAs address (front ++ [⟨.account address commitment, answer⟩])
      (accountAnswer address answer) := by
  cases answer with
  | error e => exact .unanswered hfront ⟨": " ++ e.toRpcError.message, String.append_assoc ..⟩
  | ok document =>
    rw [accountAnswer]
    rcases hread : readAccount address document with e | _ | a
    · refine .malformed hfront ?_ ?_
      · intro hnone
        cases hread.symm.trans (readAccount_eq_none_iff.2 hnone)
      · intro a hsome
        cases hread.symm.trans (readAccount_eq_some_iff.2 hsome)
    · exact .absent hfront (readAccount_eq_none_iff.1 hread)
    · exact .found hfront (readAccount_eq_some_iff.1 hread)

/-- **Asking for an account** adds at most one question for the version and one for the account to
the exchanges, and these settle what comes of it. -/
theorem answeredAs_account {σ : Type} {transport : Transport σ} {node node' : Node σ}
    {result : Except RpcError (Option Account)}
    (h : (Node.client transport).account address node = (result, node')) :
    ∃ xs, node'.exchanges = node.exchanges ++ xs ∧ xs.length ≤ 2 ∧
      AnsweredAs address xs result := by
  rcases run_account transport address node with
    ⟨e, xs, mid, hgreeting, hrun⟩ | ⟨v, xs, mid, commitment, hgreeting, hrun⟩
  · obtain ⟨rfl, rfl⟩ := Prod.mk.inj (hrun.symm.trans h)
    refine ⟨xs, hgreeting.exchanges_eq, ?_⟩
    -- Without a version the question for it is the only exchange.
    cases hgreeting with
    | failed hversion hread => exact ⟨by simp, .noVersion rfl hread⟩
  · obtain ⟨rfl, rfl⟩ := Prod.mk.inj (hrun.symm.trans h)
    refine ⟨xs ++ [exchangeOf transport mid (.account address commitment)], ?_, ?_, ?_⟩
    · rw [exchanged, hgreeting.exchanges_eq, List.append_assoc]
    · cases hgreeting <;> simp
    · exact answeredAs_accountAnswer commitment _ hgreeting.request_eq

/-- A node that is asked for the first time, tells its version and then says something about the
account: that is what comes of it. -/
theorem account_of_readAccount {σ : Type} {transport : Transport σ} {node : Node σ}
    {a : Option Account} (hnew : node.version = none)
    (hversion : ((exchangeOf transport node .version).version?).isSome = true)
    (hreply : ∀ v commitment, ∃ document,
      (exchangeOf transport { exchanged transport node .version with version := some v }
        (.account address commitment)).answer = .ok document ∧
        readAccount address document = .ok a) :
    ∃ node', (Node.client transport).account address node = (.ok a, node') := by
  rcases run_account transport address node with
    ⟨e, xs, mid, hgreeting, -⟩ | ⟨v, xs, mid, commitment, hgreeting, hrun⟩
  · cases hgreeting with
    | failed _ hread =>
      rw [hread] at hversion
      cases hversion
  · cases hgreeting with
    | known hknown => cases hnew.symm.trans hknown
    | learned =>
      obtain ⟨document, hanswer, hread⟩ := hreply v commitment
      rw [hanswer, accountAnswer, hread] at hrun
      exact ⟨_, hrun⟩

end NodeM

end TokenEscrow

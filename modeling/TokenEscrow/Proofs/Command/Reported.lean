import TokenEscrow.Proofs.Bytes.Base58
import TokenEscrow.Proofs.Client.Delivery
import TokenEscrow.Proofs.Client.Oversized
import TokenEscrow.Proofs.Command.Addresses
import TokenEscrow.Proofs.Text.Unsigned

/-!
# Reports on transactions

A report is read by people and by other programs. `Tells` says of the text of a
field that it is read back as what is in a transaction: the key of a slot, an
argument in the data, or the signature. `Command.ReportsOn` says so of every field
of the report on a command.
-/

namespace TokenEscrow

/-! ## Reports -/

/-- A report on a command that hands over a transaction. -/
inductive SentReport
  | escrow (report : EscrowReport)
  | transfer (report : TransferReport)
  | signature (report : SignatureReport)
  | model (report : ModelReport)

namespace SentReport

/-- Its fields. -/
def fields : SentReport → List (String × Json)
  | escrow report => Report.fields report
  | transfer report => Report.fields report
  | signature report => Report.fields report
  | model report => Report.fields report

/-- Its text. -/
def text {σ ε : Type} (b : Workbench σ ε) : SentReport → String
  | escrow report => b.answer report
  | transfer report => b.answer report
  | signature report => b.answer report
  | model report => b.answer report

end SentReport

/-- The text that stands for a field. -/
def Json.plainText? : Json → Option String
  | string text => some text
  | number n => some n.text
  | null | bool _ | array _ | object _ => none

/-! ## What a transaction holds -/

/-- The number of tokens that an instruction moves. -/
def EscrowInstruction.amount? : EscrowInstruction → Option UInt64
  | transferIn args => some args.amount
  | transferOut amount => some amount
  | createEscrow | closeEscrow | createConstraintModel _ | addConstraint _ => none

/-- The constraint that a deposit is checked against. -/
def EscrowInstruction.index? : EscrowInstruction → Option UInt64
  | transferIn args => some args.index
  | createEscrow | closeEscrow | transferOut _ | createConstraintModel _ | addConstraint _ => none

/-- The slots whose keys are reported, by the names of the fields. -/
def reportedKeys : List (String × String) :=
  [("mint", "mint"), ("escrow", "escrow"), ("attributeMint", "attribute_mint"),
    ("address", "escrow_constraint_model")]

/-- The text of a field is read back as what is in the transaction. -/
inductive Tells (table : Schema) (i : Instruction) (signature : Signature) : String → String → Prop
  | key {field slot text : String} {key : Address} (hfield : (field, slot) ∈ reportedKeys)
    (hread : Address.read text = .ok key) (hkey : i.key? table slot = some key) :
    Tells table i signature field text
  | amount {e : EscrowInstruction} {text : String} {n : UInt64} (hread : Unsigned.read text = .ok n)
    (hdata : EscrowInstruction.unpack i.data = .ok e) (hamount : e.amount? = some n) :
    Tells table i signature "amount" text
  | index {e : EscrowInstruction} {text : String} {n : UInt64} (hread : Unsigned.read text = .ok n)
    (hdata : EscrowInstruction.unpack i.data = .ok e) (hindex : e.index? = some n) :
    Tells table i signature "index" text
  | name {text : String}
    (hdata : EscrowInstruction.unpack i.data = .ok (.createConstraintModel text)) :
    Tells table i signature "name" text
  | signature {text : String} (hread : Signature.read text = .ok signature) :
    Tells table i signature "signature" text

namespace Command

/-- The fields of the report on a command, in order. -/
def fieldNames : Command → List String
  | createEscrow _ => ["mint", "escrow"]
  | transferIn .. => ["escrow", "attributeMint", "amount", "index", "signature"]
  | transferOut .. => ["escrow", "attributeMint", "amount", "signature"]
  | closeEscrow _ | addConstraint .. => ["signature"]
  | createConstraintModel _ => ["name", "address", "signature"]
  | create _ | address .. | showEscrow _ => []

/-- A report that agrees with the instruction of a command. -/
structure ReportsOn (command : Command) (op : Operation) (i : Instruction)
    (answered : Signature) (report : SentReport) : Prop where
  fields : report.fields.map Prod.fst = command.fieldNames
  tells : ∀ field ∈ report.fields, ∃ text, field.2.plainText? = some text ∧
    Tells op.instruction.schema i answered field.1 text

end Command

/-! ## What is reported -/

namespace Operation

variable {program payer : Address} {op : Operation} {i : Instruction}

/-- A slot of an instruction that was built holds the key of its role. -/
theorem key?_of_build (h : op.build program payer = .ok i) {slot : Slot} (hslot : slot ∈ op.slots) :
    i.key? op.instruction.schema slot.name = op.role? program payer payer slot.name := by
  have hfilled := filled_build program payer op
  rw [h] at hfilled
  cases hfilled with
  | filled hkeys =>
    obtain ⟨n, key, hn, hrole, haccount⟩ := getElem?_place hkeys hslot
    rw [Instruction.key?, hn, hrole, Option.bind_some, haccount]
    rfl

/-- The data of an instruction that was built is read as the instruction that was asked for. -/
theorem unpack_of_build (h : op.build program payer = .ok i) (hfits : op.Fits) :
    EscrowInstruction.unpack i.data = .ok op.instruction := by
  obtain ⟨keys, -, -, rfl⟩ := exists_keys_of_build h
  exact unpack_data_iff.2 (countsFit_of_length_data (Nat.lt_succ_of_le hfits.data))

end Operation

namespace Tells

variable {table : Schema} {i : Instruction} {signature : Signature}

/-- The text of the key in a slot. -/
theorem ofSlot {program payer key : Address} {op : Operation} {slot : Slot} {field : String}
    (hbuild : op.build program payer = .ok i) (hslot : slot ∈ op.slots)
    (hfield : (field, slot.name) ∈ reportedKeys)
    (hrole : op.role? program payer payer slot.name = some key) :
    ∃ text, (Json.string key.toText).plainText? = some text ∧
      Tells op.instruction.schema i signature field text :=
  ⟨_, rfl, .key hfield (Address.read_eq_ok_iff.2 rfl)
    ((Operation.key?_of_build hbuild hslot).trans hrole)⟩

/-- The text of a number. -/
theorem ofUInt64 {field : String} {n : UInt64} (h : ∀ text, Unsigned.read text = .ok n →
      Tells table i signature field text) :
    ∃ text, (Json.ofUInt64 n).plainText? = some text ∧ Tells table i signature field text :=
  ⟨_, rfl, h _ (Unsigned.read_eq_ok_iff.2 (Unsigned.denotes_toString n))⟩

/-- The text of a signature. -/
theorem signatureText : ∃ text, (Json.string signature.toText).plainText? = some text ∧
    Tells table i signature "signature" text :=
  ⟨_, rfl, .signature (Signature.read_eq_ok_iff.2 rfl)⟩

end Tells

/-! ## One command at a time -/

namespace Command

variable {program payer : Address} {mint attributeMint escrow : Address} {nft held : Nft}
  {i : Instruction} {answered : Signature}

theorem reportsOn_createEscrow (hnft : Nft.ofMint? program mint = some nft)
    (hescrow : (Derivation.escrow program nft.mint).address? = some escrow)
    (hbuild : (Operation.createEscrow nft).build program payer = .ok i) :
    (createEscrow mint).ReportsOn (.createEscrow nft) i answered
      (.escrow { mint := mint.toText, escrow := escrow.toText }) where
  fields := rfl
  tells := by
    obtain ⟨rfl, -, -⟩ := Nft.of_ofMint?_eq_some hnft
    refine List.forall_mem_cons.2 ⟨?_, List.forall_mem_singleton.2 ?_⟩
    · exact Tells.ofSlot hbuild (show .readonly "mint" ∈ Schema.createEscrow.slots by decide)
        (show ("mint", "mint") ∈ reportedKeys by decide) rfl
    · exact Tells.ofSlot hbuild (show .written "escrow" ∈ Schema.createEscrow.slots by decide)
        (show ("escrow", "escrow") ∈ reportedKeys by decide) hescrow

theorem reportsOn_transferIn {model : Address} {args : TransferInArgs}
    (hheld : Nft.ofMint? program attributeMint = some held)
    (hbuild : (Operation.transferIn nft escrow held model args).build program payer = .ok i)
    (hfits : (Operation.transferIn nft escrow held model args).Fits) :
    (transferIn mint attributeMint model args).ReportsOn
      (.transferIn nft escrow held model args) i answered
      (.transfer {
        escrow := escrow.toText
        attributeMint := attributeMint.toText
        amount := args.amount
        index := some args.index
        signature := answered.toText }) where
  fields := rfl
  tells := by
    obtain ⟨rfl, -, -⟩ := Nft.of_ofMint?_eq_some hheld
    have hdata := Operation.unpack_of_build hbuild hfits
    refine List.forall_mem_cons.2 ⟨?_, List.forall_mem_cons.2 ⟨?_, List.forall_mem_cons.2 ⟨?_,
      List.forall_mem_cons.2 ⟨?_, List.forall_mem_singleton.2 ?_⟩⟩⟩⟩
    · exact Tells.ofSlot hbuild (show .written "escrow" ∈ Schema.transferIn.slots by decide)
        (show ("escrow", "escrow") ∈ reportedKeys by decide) rfl
    · exact Tells.ofSlot hbuild
        (show .readonly "attribute_mint" ∈ Schema.transferIn.slots by decide)
        (show ("attributeMint", "attribute_mint") ∈ reportedKeys by decide) rfl
    · exact Tells.ofUInt64 fun text hread => .amount hread hdata rfl
    · exact Tells.ofUInt64 fun text hread => .index hread hdata rfl
    · exact Tells.signatureText

theorem reportsOn_transferOut {amount : UInt64}
    (hescrow : (Derivation.escrow program nft.mint).address? = some escrow)
    (hbuild : (Operation.transferOut nft attributeMint amount).build program payer = .ok i)
    (hfits : (Operation.transferOut nft attributeMint amount).Fits) :
    (transferOut mint attributeMint amount).ReportsOn (.transferOut nft attributeMint amount) i
      answered
      (.transfer {
        escrow := escrow.toText
        attributeMint := attributeMint.toText
        amount
        index := none
        signature := answered.toText }) where
  fields := rfl
  tells := by
    have hdata := Operation.unpack_of_build hbuild hfits
    refine List.forall_mem_cons.2 ⟨?_, List.forall_mem_cons.2 ⟨?_, List.forall_mem_cons.2 ⟨?_,
      List.forall_mem_singleton.2 ?_⟩⟩⟩
    · exact Tells.ofSlot hbuild (show .readonly "escrow" ∈ Schema.transferOut.slots by decide)
        (show ("escrow", "escrow") ∈ reportedKeys by decide) hescrow
    · exact Tells.ofSlot hbuild
        (show .readonly "attribute_mint" ∈ Schema.transferOut.slots by decide)
        (show ("attributeMint", "attribute_mint") ∈ reportedKeys by decide) rfl
    · exact Tells.ofUInt64 fun text hread => .amount hread hdata rfl
    · exact Tells.signatureText

/-- The report that consists of the signature. -/
theorem reportsOn_signature {command : Command} {op : Operation}
    (hfields : command.fieldNames = ["signature"]) :
    command.ReportsOn op i answered (.signature { signature := answered.toText }) where
  fields := hfields.symm
  tells := List.forall_mem_singleton.2 Tells.signatureText

theorem reportsOn_createConstraintModel {name : String} {model : Address}
    (hmodel : (Derivation.constraintModel program payer name).address? = some model)
    (hbuild : (Operation.createConstraintModel name).build program payer = .ok i)
    (hfits : (Operation.createConstraintModel name).Fits) :
    (createConstraintModel name).ReportsOn (.createConstraintModel name) i answered
      (.model { name, address := model.toText, signature := answered.toText }) where
  fields := rfl
  tells := by
    refine List.forall_mem_cons.2 ⟨?_, List.forall_mem_cons.2 ⟨?_,
      List.forall_mem_singleton.2 Tells.signatureText⟩⟩
    · exact ⟨name, rfl, .name (Operation.unpack_of_build hbuild hfits)⟩
    · exact Tells.ofSlot hbuild
        (show .written "escrow_constraint_model" ∈ Schema.createConstraintModel.slots by decide)
        (show ("address", "escrow_constraint_model") ∈ reportedKeys by decide) hmodel

end Command

end TokenEscrow

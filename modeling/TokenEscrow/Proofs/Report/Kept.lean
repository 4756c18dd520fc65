import TokenEscrow.Proofs.Json.Fields
import TokenEscrow.Proofs.Json.Layout
import TokenEscrow.Report.Records

/-!
# Reports that are kept

A report that is printed as a document can be read back from what was printed.
`Report.Denotes` says of a text that it holds a record, `Report.LosesNothing` says of
a record that both layouts of it do, with the same fields and none for what is
absent.

For this the fields of a type of reports have to be chosen well: no name occurs
twice, no number is a fraction, and the reader takes from each field what was
written there (`LawfulReport`). The rest is the same for every type.
-/

namespace TokenEscrow

open Json Json.Reading Json.RecordReader

/-! ## Optional parts -/

namespace Report

variable {name : String} {value : Option Json}

@[simp] theorem lastField?_optionalField (other : String) :
    lastField? (optionalField other value) name = if name = other then value else none := by
  cases value with
  | none => simp [optionalField]
  | some value => simp [optionalField]

@[simp] theorem mem_optionalField {field : String × Json} :
    field ∈ optionalField name value ↔ value = some field.2 ∧ field.1 = name := by
  cases value with
  | none => simp [optionalField]
  | some value => simp [optionalField, Prod.ext_iff, eq_comm, and_comm]

/-- A part that may be absent has one field at most. -/
theorem names_optionalField : ((optionalField name value).map Prod.fst).Sublist [name] := by
  cases value with
  | none => exact List.nil_sublist _
  | some value => exact .refl _

/-! ## What a text holds -/

variable {α : Type} [Report α]

/-- A text holds a record: it is a document with these fields, no two of one name, which is read as
the record. An optional part has its field when it is present, and none when it is absent. -/
structure Denotes (text : String) (fields : List (String × Json)) (record : α)
    (optional : List (String × Option Json)) : Prop where
  parse : Json.parse text = .ok (.object fields)
  nodup : (fields.map Prod.fst).Nodup
  read : ofJson (.object fields) = .ok record
  optional : ∀ part ∈ optional, lastField? fields part.1 = part.2

/-- Both layouts of a record hold it, and they have the same fields. A line break may be printed
behind them. -/
def LosesNothing (record : α) (optional : List (String × Option Json)) : Prop :=
  ∃ shown sorted : List (String × Json), shown.Perm sorted ∧ ∀ ending ∈ ["", "\n"],
    Denotes (render .json record ++ ending) shown record optional ∧
      Denotes (render .jsonCompact record ++ ending) sorted record optional

end Report

/-! ## Types of reports -/

/-- A type of reports whose records can be read back from their fields. -/
class LawfulReport (α : Type) [Report α] : Prop where
  whole : ∀ record : α, ∀ field ∈ Report.fields record, field.2.Whole
  nodup : ∀ record : α, ((Report.fields record).map Prod.fst).Nodup
  /-- the reader goes by what it finds under the names of the parts -/
  finds : ∀ (record : α) (fields : List (String × Json)),
    (∀ name, lastField? fields name = lastField? (Report.fields record) name) →
      (Report.reader : RecordReader α).Finds fields record

namespace Report

variable {α : Type} [Report α] [LawfulReport α]

/-- The fields of a record hold it in any order. -/
theorem Denotes.of_perm {record : α} {fields : List (String × Json)} {text : String}
    {optional : List (String × Option Json)} (hperm : (Report.fields record).Perm fields)
    (hparse : Json.parse text = .ok (.object fields))
    (hoptional : ∀ part ∈ optional, lastField? (Report.fields record) part.1 = part.2) :
    Denotes text fields record optional := by
  have hnodup := LawfulReport.nodup record
  refine ⟨hparse, (hperm.map Prod.fst).nodup_iff.1 hnodup, ?_, fun part hpart => ?_⟩
  · refine read_eq_ok_iff.2 (.inl ⟨fields, rfl, ?_⟩)
    exact LawfulReport.finds record fields fun name => lastField?_eq_of_perm hnodup hperm
  · rw [lastField?_eq_of_perm hnodup hperm, hoptional part hpart]

/-- What is special about a type is which of its parts are optional. -/
theorem losesNothing (record : α) {optional : List (String × Option Json)}
    (hoptional : ∀ part ∈ optional, lastField? (Report.fields record) part.1 = part.2) :
    LosesNothing record optional := by
  have hsorted := (perm_sortedFields (LawfulReport.nodup record)).symm
  have hwhole := LawfulReport.whole record
  have hblank : ∀ ending ∈ ["", "\n"], Json.Reader.AllBlank ending.toList := by
    simp [Json.Reader.AllBlank, Json.Reader.isBlank]
  refine ⟨_, _, hsorted, fun ending hending => ⟨.of_perm (.refl _) ?_ hoptional,
    .of_perm hsorted ?_ hoptional⟩⟩
  · exact parse_pretty (.object hwhole) (hblank ending hending)
  · exact parse_compact (.object fun field hfield => hwhole field (hsorted.mem_iff.2 hfield))
      (hblank ending hending)

end Report

/-! ## All reports -/

namespace LawfulReport

open Report (names_optionalField)

instance : LawfulReport ClientReport where
  whole r := by simp [Report.fields]
  nodup r := by
    have hnames : ((Report.fields r).map Prod.fst).Sublist
        ["payer", "jsonRpcUrl", "programId", "ignoredAmount"] := by
      simp only [Report.fields, List.map_append]
      exact (List.Sublist.refl _).append names_optionalField
    exact hnames.nodup (by decide)
  finds := by
    rintro ⟨payer, jsonRpcUrl, programId, ignoredAmount⟩ fields h
    simp only [Report.fields] at h
    exact Finds.map _ (.field text_string (by simp [h]))
      |>.seq (.field text_string (by simp [h]))
      |>.seq (.field text_string (by simp [h]))
      |>.seq (.optionalField optional_ofUInt64 (by simp [h]))

instance : LawfulReport EscrowReport where
  whole r := by simp [Report.fields]
  nodup r := by simp [Report.fields]
  finds := by
    rintro ⟨mint, escrow⟩ fields h
    simp only [Report.fields] at h
    exact Finds.map _ (.field text_string (by simp [h]))
      |>.seq (.field text_string (by simp [h]))

instance : LawfulReport TransferReport where
  whole r := by simp [Report.fields, or_imp, forall_and]
  nodup r := by
    have hnames : ((Report.fields r).map Prod.fst).Sublist
        ["escrow", "attributeMint", "amount", "index", "signature"] := by
      simp only [Report.fields, List.map_append]
      exact ((List.Sublist.refl _).append names_optionalField).append (.refl _)
    exact hnames.nodup (by decide)
  finds := by
    rintro ⟨escrow, attributeMint, amount, index, signature⟩ fields h
    simp only [Report.fields] at h
    exact Finds.map _ (.field text_string (by simp [h]))
      |>.seq (.field text_string (by simp [h]))
      |>.seq (.field (wholeBelow_ofUInt64 _) (by simp [h]))
      |>.seq (.optionalField optional_ofUInt64 (by simp [h]))
      |>.seq (.field text_string (by simp [h]))

instance : LawfulReport SignatureReport where
  whole r := by simp [Report.fields]
  nodup r := by simp [Report.fields]
  finds := by
    rintro ⟨signature⟩ fields h
    simp only [Report.fields] at h
    exact Finds.map _ (.field text_string (by simp [h]))

instance : LawfulReport ModelReport where
  whole r := by simp [Report.fields]
  nodup r := by simp [Report.fields]
  finds := by
    rintro ⟨name, address, signature⟩ fields h
    simp only [Report.fields] at h
    exact Finds.map _ (.field text_string (by simp [h]))
      |>.seq (.field text_string (by simp [h]))
      |>.seq (.field text_string (by simp [h]))

instance : LawfulReport AddressesReport where
  whole r := by simp [Report.fields, or_imp, forall_and]
  nodup r := by
    have hnames : ((Report.fields r).map Prod.fst).Sublist
        ["mint", "escrow", "metadata", "edition", "owner", "escrowTokenAccount", "attributeMint",
          "attributeSource", "attributeDestination"] := by
      simp only [Report.fields, List.map_append]
      exact (((List.Sublist.refl _).append names_optionalField).append names_optionalField).append
        names_optionalField
    exact hnames.nodup (by decide)
  finds := by
    rintro ⟨mint, escrow, metadata, edition, owner, escrowTokenAccount, attributeMint,
      attributeSource, attributeDestination⟩ fields h
    simp only [Report.fields] at h
    exact Finds.map _ (.field text_string (by simp [h]))
      |>.seq (.field text_string (by simp [h]))
      |>.seq (.field text_string (by simp [h]))
      |>.seq (.field text_string (by simp [h]))
      |>.seq (.field text_string (by simp [h]))
      |>.seq (.field text_string (by simp [h]))
      |>.seq (.optionalField optional_string (by simp [h]))
      |>.seq (.optionalField optional_string (by simp [h]))
      |>.seq (.optionalField optional_string (by simp [h]))

instance : LawfulReport AccountReport where
  whole r := by simp [Report.fields, or_imp, forall_and]
  nodup r := by
    have hnames : ((Report.fields r).map Prod.fst).Sublist
        ["escrow", "exists", "owner", "lamports", "dataLen"] := by
      simp only [Report.fields, List.map_append]
      exact ((List.Sublist.refl _).append names_optionalField).append (.refl _)
    exact hnames.nodup (by decide)
  finds := by
    rintro ⟨escrow, exists?, owner, lamports, dataLen⟩ fields h
    simp only [Report.fields] at h
    exact Finds.map _ (.field text_string (by simp [h]))
      |>.seq (.field flag_bool (by simp [h]))
      |>.seq (.optionalField optional_string (by simp [h]))
      |>.seq (.field (wholeBelow_ofUInt64 _) (by simp [h]))
      |>.seq (.field (wholeBelow_ofUInt64 _) (by simp [h]))

end LawfulReport

/-- **Nothing is lost in print**: whatever characters its texts are made of, whatever its numbers
are, and whichever of its optional parts are absent, a report is read back from both layouts. -/
theorem reports_lose_nothing :
    (∀ r : ClientReport,
      Report.LosesNothing r [("ignoredAmount", r.ignoredAmount.map .ofUInt64)]) ∧
    (∀ r : EscrowReport, Report.LosesNothing r []) ∧
    (∀ r : TransferReport, Report.LosesNothing r [("index", r.index.map .ofUInt64)]) ∧
    (∀ r : SignatureReport, Report.LosesNothing r []) ∧
    (∀ r : ModelReport, Report.LosesNothing r []) ∧
    (∀ r : AddressesReport, Report.LosesNothing r
      [("attributeMint", r.attributeMint.map .string),
        ("attributeSource", r.attributeSource.map .string),
        ("attributeDestination", r.attributeDestination.map .string)]) ∧
    ∀ r : AccountReport, Report.LosesNothing r [("owner", r.owner.map .string)] := by
  refine ⟨fun r => ?_, fun r => ?_, fun r => ?_, fun r => ?_, fun r => ?_, fun r => ?_,
    fun r => ?_⟩ <;>
    exact Report.losesNothing r (by simp [Report.fields])

end TokenEscrow

import TokenEscrow.Proofs.Instruction.Roles
import TokenEscrow.Proofs.Instruction.WireForm

/-!
# Who owns a discriminator

Three definitions go by the first byte of an instruction: the reader compares it
with one table after the other, an instruction names its table, and the list of
all tables is searched for it. They agree (`verdict_unpack`):

* a first byte that no table owns is the only cause of `unknownInstruction`,
  whatever follows it;
* what is read has the table that owns the first byte, and goes back into a
  transaction with the same bytes, for as many keys as that table has slots;
* every other input, also the empty one, is refused as `invalidInstructionData`.

The tables have different first bytes, so a search finds a table exactly under
its own byte (`Schema.find?_eq_some_iff`), and each table belongs to some
instruction (`EscrowInstruction.exists_schema_eq`).
-/

namespace TokenEscrow

/-! ## Tables -/

namespace Schema

/-- The table that is found is the one with this first byte. -/
theorem find?_eq_some_iff {d : UInt8} {table : Schema} :
    find? d = some table ↔ table ∈ all ∧ table.discriminator = d := by
  constructor
  · intro h
    refine ⟨List.mem_of_find?_eq_some h, ?_⟩
    have hd := List.find?_some h
    exact beq_iff_eq.1 hd
  · rintro ⟨hmem, rfl⟩
    exact find?_discriminator hmem

end Schema

namespace EscrowInstruction

/-- Every table belongs to an instruction. -/
theorem exists_schema_eq {table : Schema} (h : table ∈ Schema.all) :
    ∃ i : EscrowInstruction, i.schema = table := by
  simp only [Schema.all, List.mem_cons, List.not_mem_nil, or_false] at h
  rcases h with rfl | rfl | rfl | rfl | rfl | rfl
  · exact ⟨createEscrow, rfl⟩
  · exact ⟨closeEscrow, rfl⟩
  · exact ⟨transferOut 0, rfl⟩
  · exact ⟨transferIn {}, rfl⟩
  · exact ⟨createConstraintModel "", rfl⟩
  · exact ⟨addConstraint ⟨"", 0, .none⟩, rfl⟩

/-! ## Readers -/

/-- The verdict on an input goes by the table that owns its first byte. -/
inductive Verdict (input : Bytes) : Except EscrowError EscrowInstruction → Prop
  /-- no table owns it -/
  | unknown {d : UInt8} (hhead : input.head? = some d) (howner : Schema.find? d = none) :
    Verdict input (.error .unknownInstruction)
  /-- there is none, or what follows it are no arguments -/
  | invalid (howner : ∀ d, input.head? = some d → Schema.find? d ≠ none) :
    Verdict input (.error .invalidInstructionData)
  /-- its table is that of the instruction that is read -/
  | read {d : UInt8} {i : EscrowInstruction} (hhead : input.head? = some d)
    (howner : Schema.find? d = some i.schema) : Verdict input (.ok i)

/-- Arguments are read, or the input is refused. -/
theorem readArgs_cases {α : Type} [Wire α] (make : α → EscrowInstruction) (rest : Bytes) :
    (∃ x, readArgs make rest = .ok (make x)) ∨
      readArgs make rest = .error .invalidInstructionData := by
  rw [readArgs]
  rcases (Wire.read rest : Except DecodeError α) with e | x
  · exact .inr rfl
  · exact .inl ⟨x, rfl⟩

theorem readNothing_cases (i : EscrowInstruction) (rest : Bytes) :
    readNothing i rest = .ok i ∨ readNothing i rest = .error .invalidInstructionData := by
  cases rest with
  | nil => exact .inl rfl
  | cons b rest => exact .inr rfl

/-- Behind a known first byte an instruction with its table is read, or the input is refused. -/
theorem unpack_owned (i : EscrowInstruction) (rest : Bytes) :
    (∃ j : EscrowInstruction, unpack (i.schema.discriminator :: rest) = .ok j ∧
        j.schema = i.schema) ∨
      unpack (i.schema.discriminator :: rest) = .error .invalidInstructionData := by
  rw [unpack_cons]
  cases i with
  | createEscrow => exact (readNothing_cases _ rest).imp_left fun h => ⟨_, h, rfl⟩
  | closeEscrow => exact (readNothing_cases _ rest).imp_left fun h => ⟨_, h, rfl⟩
  | transferOut => exact (readArgs_cases _ rest).imp_left fun ⟨_, h⟩ => ⟨_, h, rfl⟩
  | transferIn => exact (readArgs_cases _ rest).imp_left fun ⟨_, h⟩ => ⟨_, h, rfl⟩
  | createConstraintModel => exact (readArgs_cases _ rest).imp_left fun ⟨_, h⟩ => ⟨_, h, rfl⟩
  | addConstraint => exact (readArgs_cases _ rest).imp_left fun ⟨_, h⟩ => ⟨_, h, rfl⟩

/-- A first byte that no table owns passes every comparison of the reader. -/
theorem unpack_unowned {d : UInt8} (h : Schema.find? d = none) (rest : Bytes) :
    unpack (d :: rest) = .error .unknownInstruction := by
  have hne : ∀ table ∈ Schema.all, d ≠ table.discriminator := by
    rintro table hmem rfl
    rw [Schema.find?_discriminator hmem] at h
    cases h
  simp only [Schema.all, List.forall_mem_cons] at hne
  obtain ⟨h0, h1, h2, h3, h4, h5, -⟩ := hne
  rw [unpack, if_neg h0, if_neg h1, if_neg h2, if_neg h3, if_neg h4, if_neg h5]

/-- **The first byte decides**: reader, instructions and tables agree on who owns it. -/
theorem verdict_unpack (input : Bytes) : Verdict input (unpack input) := by
  cases input with
  | nil => exact .invalid nofun
  | cons d rest =>
    rcases howner : Schema.find? d with _ | table
    · rw [unpack_unowned howner]
      exact .unknown rfl howner
    · obtain ⟨hmem, rfl⟩ := Schema.find?_eq_some_iff.1 howner
      obtain ⟨i, rfl⟩ := exists_schema_eq hmem
      rcases unpack_owned i rest with ⟨j, hj, hschema⟩ | h
      · rw [hj]
        exact .read rfl (howner.trans (congrArg some hschema.symm))
      · rw [h]
        refine .invalid fun d' hd' => ?_
        obtain rfl := Option.some.inj hd'
        rw [howner]
        exact Option.some_ne_none _

/-- A first byte without an owner is the one cause of this error. -/
theorem unpack_eq_unknownInstruction_iff {input : Bytes} :
    unpack input = .error .unknownInstruction ↔
      ∃ d, input.head? = some d ∧ Schema.find? d = none := by
  have hverdict := verdict_unpack input
  generalize unpack input = result at hverdict
  cases hverdict with
  | unknown hhead howner => exact iff_of_true rfl ⟨_, hhead, howner⟩
  | invalid howner =>
    refine iff_of_false nofun ?_
    rintro ⟨d, hhead, hnone⟩
    exact howner d hhead hnone
  | read hhead howner =>
    refine iff_of_false nofun ?_
    rintro ⟨d, hhead', hnone⟩
    obtain rfl := Option.some.inj (hhead.symm.trans hhead')
    rw [howner] at hnone
    cases hnone

/-- What is read has the table that owns the first byte. -/
theorem find?_of_unpack {input : Bytes} {i : EscrowInstruction} (h : unpack input = .ok i) :
    ∃ d, input.head? = some d ∧ Schema.find? d = some i.schema := by
  have hverdict := verdict_unpack input
  rw [h] at hverdict
  cases hverdict with
  | read hhead howner => exact ⟨_, hhead, howner⟩

/-- What is neither read nor of an unknown kind is refused for its arguments. -/
theorem unpack_eq_invalidInstructionData_iff {input : Bytes} :
    unpack input = .error .invalidInstructionData ↔
      (∀ i, unpack input ≠ .ok i) ∧ ¬ ∃ d, input.head? = some d ∧ Schema.find? d = none := by
  rw [← unpack_eq_unknownInstruction_iff]
  have hverdict := verdict_unpack input
  generalize unpack input = result at hverdict
  cases hverdict with
  | unknown => exact iff_of_false nofun fun h => h.2 rfl
  | invalid => exact iff_of_true rfl ⟨nofun, nofun⟩
  | read => exact iff_of_false nofun fun h => h.1 _ rfl

/-! ## Inputs and transactions -/

/-- What was read goes into a transaction with the bytes that it was read from. -/
theorem toInstruction_of_unpack {input : Bytes} {i : EscrowInstruction}
    (h : unpack input = .ok i) (program : Address) (keys : List Address) :
    i.toInstruction program keys =
      if keys.length = i.schema.slots.length then
        .ok ⟨program, List.zipWith Slot.place i.schema.slots keys, input⟩
      else .error .accountCountMismatch := by
  obtain ⟨rfl, -⟩ := of_unpack_eq_ok h
  rw [toInstruction, Schema.accounts]
  split_ifs with hlen
  · rfl
  · rfl

/-- **Reader and tables agree**: an input is an unknown instruction exactly when it has a first byte
that no table owns. Whatever is read has the table that owns the first byte, and stands for the
same bytes in a transaction, for exactly the lists with a key for each slot. Any other input is
refused for its arguments. -/
theorem owner_of_unpack (input : Bytes) :
    (unpack input = .error .unknownInstruction ↔
        ∃ d, input.head? = some d ∧ Schema.find? d = none) ∧
      (∀ i, unpack input = .ok i →
        (∃ d, input.head? = some d ∧ Schema.find? d = some i.schema) ∧
          ∀ program keys, i.toInstruction program keys =
            if keys.length = i.schema.slots.length then
              .ok ⟨program, List.zipWith Slot.place i.schema.slots keys, input⟩
            else .error .accountCountMismatch) ∧
      (unpack input = .error .invalidInstructionData ↔
        (∀ i, unpack input ≠ .ok i) ∧
          ¬ ∃ d, input.head? = some d ∧ Schema.find? d = none) := by
  refine ⟨unpack_eq_unknownInstruction_iff, ?_, unpack_eq_invalidInstructionData_iff⟩
  intro i h
  exact ⟨find?_of_unpack h, toInstruction_of_unpack h⟩

-- The byte behind the last table has no owner, and no arguments could make up for that.
example : unpack [44, 1, 0] = .error .unknownInstruction := rfl

end EscrowInstruction

end TokenEscrow

import TokenEscrow.Client.Operation

/-!
# The roles of slots

The name of a slot says what its account is for, in every account table alike,
and `Operation.role?` says which address that is: one that is given, one that is
derived from what is given, or a system account. The update authority of a
constraint model stands on its own here, beside the payer.

Slots are found by their names because no table uses a name twice
(`exists_position?`).
-/

namespace TokenEscrow

/-! ## Slots by name -/

namespace Schema

/-- No table uses a name twice. -/
theorem nodup_names {table : Schema} (h : table ∈ all) : (table.slots.map Slot.name).Nodup := by
  revert table
  decide

/-- A table is found by its discriminator. -/
theorem find?_discriminator {table : Schema} (h : table ∈ all) :
    find? table.discriminator = some table := by
  revert table
  decide

/-- The position of a name is that of its slot. -/
theorem exists_position? {table : Schema} (h : table ∈ all) {slot : Slot}
    (hslot : slot ∈ table.slots) :
    ∃ n, table.position? slot.name = some n ∧ table.slots[n]? = some slot := by
  have hnames := List.pairwise_iff_getElem.1 (List.pairwise_map.1 (nodup_names h))
  obtain ⟨n, hn, rfl⟩ := List.getElem_of_mem hslot
  refine ⟨n, ?_, List.getElem?_eq_getElem hn⟩
  rw [position?, List.findIdx?_eq_some_iff_getElem]
  refine ⟨hn, beq_self_eq_true _, ?_⟩
  intro m hm hname
  exact hnames m n (Nat.lt_trans hm hn) hn hm (beq_iff_eq.1 hname)

end Schema

/-- Every instruction has one of the tables. -/
theorem EscrowInstruction.schema_mem_all (i : EscrowInstruction) : i.schema ∈ Schema.all := by
  cases i <;> simp [EscrowInstruction.schema, Schema.all]

namespace Operation

/-! ## What is given -/

/-- The name that a request carries. -/
def name? : Operation → Option String
  | createConstraintModel name => some name
  | addConstraint _ constraint => some constraint.name
  | createEscrow _ | closeEscrow _ | transferIn .. | transferOut .. => none

/-- The token that carries the escrow. -/
def carrier? : Operation → Option Nft
  | createEscrow nft | closeEscrow nft | transferIn nft .. | transferOut nft .. => some nft
  | createConstraintModel _ | addConstraint .. => none

/-- The mint of the token that is moved. -/
def attributeMint? : Operation → Option Address
  | transferIn _ _ held _ _ => some held.mint
  | transferOut _ attributeMint _ => some attributeMint
  | createEscrow _ | closeEscrow _ | createConstraintModel _ | addConstraint .. => none

/-! ## Roles -/

/-- The escrow: a deposit takes its address as given. -/
def escrow? (program : Address) : Operation → Option Address
  | createEscrow nft | closeEscrow nft | transferOut nft .. =>
    (Derivation.escrow program nft.mint).address?
  | transferIn _ escrow .. => some escrow
  | createConstraintModel _ | addConstraint .. => none

/-- Whose token account a transfer takes tokens from. -/
def sender? (program payer : Address) : Operation → Option Address
  | transferIn .. => some payer
  | op => op.escrow? program

/-- Whose token account a transfer puts them in. -/
def recipient? (program payer : Address) : Operation → Option Address
  | transferOut .. => some payer
  | op => op.escrow? program

/-- The token account of an owner for a mint, once both are known. -/
def tokenAccount? (owner mint : Option Address) : Option Address := do
  (Derivation.tokenAccount (← owner) (← mint)).address?

/-- The key that belongs in the slot with a name. -/
def role? (program payer authority : Address) (op : Operation) : String → Option Address
  | "payer" => some payer
  | "update_authority" => some authority
  | "escrow" => op.escrow? program
  | "metadata" => op.carrier?.map Nft.metadata
  | "mint" | "escrow_mint" => op.carrier?.map Nft.mint
  | "edition" => op.carrier?.map Nft.edition
  | "token_account" | "escrow_account" => tokenAccount? payer (op.carrier?.map Nft.mint)
  | "attribute_mint" => op.attributeMint?
  | "attribute_src" => tokenAccount? (op.sender? program payer) op.attributeMint?
  | "attribute_dst" => tokenAccount? (op.recipient? program payer) op.attributeMint?
  | "attribute_metadata" => match op with
    | transferIn _ _ held _ _ => some held.metadata
    | _ => none
  | "constraint_model" => match op with
    | transferIn _ _ _ model _ => some model
    | _ => none
  | "escrow_constraint_model" => match op with
    | createConstraintModel name => (Derivation.constraintModel program authority name).address?
    | addConstraint model _ => some model
    | _ => none
  | "system_program" => some Known.systemProgram
  | "ata_program" => some Known.associatedTokenProgram
  | "token_program" => some Known.tokenProgram
  | "rent" => some Known.rent
  | "sysvar_instructions" => some Known.instructions
  | _ => none

/-- With one key for both, it is the payer who signs. -/
theorem role?_of_signer {program payer : Address} {op : Operation} {slot : Slot}
    (hslot : slot ∈ op.slots) (hsigner : slot.signer = true) :
    op.role? program payer payer slot.name = some payer := by
  have hnames : ∀ table ∈ Schema.all, ∀ slot ∈ table.slots, slot.signer = true →
      slot.name = "payer" ∨ slot.name = "update_authority" := by decide
  rcases hnames _ op.instruction.schema_mem_all slot hslot hsigner with h | h
  · rw [h]
    rfl
  · rw [h]
    rfl

/-- No table has many slots. -/
theorem length_slots_le (op : Operation) : op.slots.length ≤ 13 := by
  have hlength : ∀ table ∈ Schema.all, table.slots.length ≤ 13 := by decide
  exact hlength _ op.instruction.schema_mem_all

/-- The keys of the slots by role, in the order of the account table. -/
def roles (program payer authority : Address) (op : Operation) : List (Option Address) :=
  op.slots.map fun slot => op.role? program payer authority slot.name

variable {program payer authority : Address} {op : Operation} {keys : List Address}
  (hkeys : op.roles program payer authority = keys.map some)

include hkeys

/-- There is one role for each slot. -/
theorem length_of_roles : keys.length = op.slots.length := by
  have h := congrArg List.length hkeys
  rw [roles, List.length_map, List.length_map] at h
  exact h.symm

/-- The slot with a name holds the key of the role, with the flags of the slot. -/
theorem getElem?_place {slot : Slot} (hslot : slot ∈ op.slots) :
    ∃ n key, op.instruction.schema.position? slot.name = some n ∧
      op.role? program payer authority slot.name = some key ∧
      (List.zipWith Slot.place op.slots keys)[n]? = some (slot.place key) := by
  obtain ⟨n, hn, hget⟩ := Schema.exists_position? op.instruction.schema_mem_all hslot
  change op.slots[n]? = some slot at hget
  have hrole : (keys.map some)[n]? = some (op.role? program payer authority slot.name) := by
    rw [← hkeys, roles, List.getElem?_map, hget]
    rfl
  rw [List.getElem?_map, Option.map_eq_some_iff] at hrole
  obtain ⟨key, hkey, hrole⟩ := hrole
  refine ⟨n, key, hn, hrole.symm, ?_⟩
  rw [List.getElem?_zipWith, hget, hkey]

/-- A key goes to the slot whose role it has. -/
theorem role?_of_mem_zip {p : Slot × Address} (hp : p ∈ op.slots.zip keys) :
    p.1 ∈ op.slots ∧ op.role? program payer authority p.1.name = some p.2 := by
  obtain ⟨n, hn⟩ := List.mem_iff_getElem?.1 hp
  obtain ⟨hslot, hkey⟩ := List.getElem?_zip_eq_some.1 hn
  have hrole : (op.roles program payer authority)[n]? = (keys.map some)[n]? := by rw [hkeys]
  rw [roles, List.getElem?_map, List.getElem?_map, hslot, hkey] at hrole
  exact ⟨List.mem_of_getElem? hslot, Option.some.inj hrole⟩

end Operation

end TokenEscrow

import TokenEscrow.Instruction.Build
import TokenEscrow.Proofs.Address.Search
import TokenEscrow.Proofs.Instruction.Roles
import TokenEscrow.Proofs.Instruction.WireForm

/-!
# How building can end

Builders never look at the names of slots. They put keys in a row, and the row is
put against the table. `filled_buildFor` says that this comes to the same: a
builder that does not refuse a name fills each slot with the key of its role,
unless the key of some slot has no address to be derived; that keys do not match
the table never happens. `carried_of_buildFor` says it in terms of the names of slots
only.

A constraint or a model may be refused for its own name. Where bumps are viable there
is no other reason, and the bound is exact (`exists_buildFor_iff`).

Operations build with the payer in the part of the update authority, and whatever
is said elsewhere about what they build is read off `Filled` by cases.
-/

namespace TokenEscrow

namespace Instruction

theorem seedsFit_escrow (program mint : Address) : (Derivation.escrow program mint).SeedsFit :=
  Derivation.seedsFit_of_name fun _ _ _ h => by cases h

theorem seedsFit_tokenAccount (owner mint : Address) :
    (Derivation.tokenAccount owner mint).SeedsFit :=
  Derivation.seedsFit_of_name fun _ _ _ h => by cases h

end Instruction

namespace Operation

/-! ## Builders -/

/-- Builds the instruction with an update authority of its own. -/
def buildFor (program payer authority : Address) : Operation → Except BuildError Instruction
  | createConstraintModel name => Instruction.createConstraintModel program payer authority name
  | addConstraint model constraint =>
    Instruction.addConstraint program model payer authority constraint
  | op => op.build program payer

/-- The addresses that have to be derived for that. -/
def derivationsFor (program payer authority : Address) : Operation → List Derivation
  | createConstraintModel name => [.constraintModel program authority name]
  | op => op.derivations program payer

/-- Operations build for a payer who is the update authority too. -/
theorem buildFor_payer (program payer : Address) (op : Operation) :
    op.buildFor program payer payer = op.build program payer := by
  cases op <;> rfl

theorem derivationsFor_payer (program payer : Address) (op : Operation) :
    op.derivationsFor program payer payer = op.derivations program payer := by
  cases op <;> rfl

/-- The ways in which a builder ends: no slot is left without the key of its role. -/
inductive Filled (program payer authority : Address) (op : Operation) :
    Except BuildError Instruction → Prop
  /-- the name fits in no seed -/
  | nameTooLong {name : String} (hname : op.name? = some name)
    (hlong : Instruction.maxNameLength < (Utf8.encode name).length) :
    Filled program payer authority op (.error (.escrow .nameTooLong))
  /-- every digest of some derivation is a point of the curve -/
  | noAddress {d : Derivation} (hd : d ∈ op.derivationsFor program payer authority)
    (hexhausted : d.Exhausted) :
    Filled program payer authority op (.error .noAddress)
  /-- every slot has the key of its role -/
  | filled {keys : List Address} (hkeys : op.roles program payer authority = keys.map some)
    (hname : ∀ name, op.name? = some name →
      (Utf8.encode name).length ≤ Instruction.maxNameLength) :
    Filled program payer authority op
      (.ok ⟨program, List.zipWith Slot.place op.slots keys, op.data⟩)

variable {program payer authority : Address} {op : Operation}

/-! ### Parts of a builder -/

/-- A builder that starts by deriving an address. -/
theorem filled_derive {d : Derivation} (hd : d ∈ op.derivationsFor program payer authority)
    (hfit : d.SeedsFit) {f : Address → Except BuildError Instruction}
    (hf : ∀ address, d.address? = some address → op.Filled program payer authority (f address)) :
    op.Filled program payer authority (Instruction.derive d >>= f) := by
  rcases h : d.address? with _ | address
  · rw [Instruction.derive_none h]
    exact .noAddress hd (Derivation.exhausted_of_address?_eq_none hfit h)
  · rw [Instruction.derive_some h]
    exact hf address h

/-- A builder that starts by looking at its name. -/
theorem filled_checkName {name : String} (hname : op.name? = some name)
    {f : Unit → Except BuildError Instruction}
    (hf : (∀ name, op.name? = some name →
        (Utf8.encode name).length ≤ Instruction.maxNameLength) →
      op.Filled program payer authority (f ())) :
    op.Filled program payer authority (Instruction.checkName name >>= f) := by
  by_cases h : Instruction.maxNameLength < (Utf8.encode name).length
  · rw [Instruction.checkName, if_pos h]
    exact .nameTooLong hname h
  · rw [Instruction.checkName, if_neg h]
    refine hf ?_
    intro other hother
    obtain rfl := Option.some.inj (hname.symm.trans hother)
    exact Nat.le_of_not_lt h

/-- A builder that ends by putting the keys of the roles against the table. -/
theorem filled_assemble {keys : List Address}
    (hkeys : op.roles program payer authority = keys.map some)
    (hname : ∀ name, op.name? = some name →
      (Utf8.encode name).length ≤ Instruction.maxNameLength) :
    op.Filled program payer authority (Instruction.assemble op.instruction program keys) := by
  have hlen : keys.length = op.slots.length := length_of_roles hkeys
  have haccounts : op.instruction.schema.accounts keys =
      .ok (List.zipWith Slot.place op.slots keys) := by
    exact if_pos hlen
  rw [Instruction.assemble, EscrowInstruction.toInstruction, haccounts]
  exact .filled hkeys hname

/-! ### The builders -/

/-- **Every slot has the key of its role**: no builder puts a key in the place of another. -/
theorem filled_buildFor (program payer authority : Address) (op : Operation) :
    op.Filled program payer authority (op.buildFor program payer authority) := by
  cases op with
  | createEscrow nft =>
    refine filled_derive (List.mem_singleton_self _)
      (Instruction.seedsFit_escrow _ _) fun escrow hescrow => ?_
    have hroles : (createEscrow nft).roles program payer authority =
        [(Derivation.escrow program nft.mint).address?, some nft.metadata, some nft.mint,
          some nft.edition, some payer, some Known.systemProgram] := rfl
    rw [hescrow] at hroles
    exact filled_assemble hroles fun _ h => by cases h
  | closeEscrow nft =>
    refine filled_derive (by simp [derivationsFor, derivations])
      (Instruction.seedsFit_escrow _ _) fun escrow hescrow => ?_
    refine filled_derive (by simp [derivationsFor, derivations])
      (Instruction.seedsFit_tokenAccount _ _) fun account haccount => ?_
    have hroles : (closeEscrow nft).roles program payer authority =
        [(Derivation.escrow program nft.mint).address?, some nft.metadata, some nft.mint,
          (Derivation.tokenAccount payer nft.mint).address?, some nft.edition, some payer,
          some Known.systemProgram] := rfl
    rw [hescrow, haccount] at hroles
    exact filled_assemble hroles fun _ h => by cases h
  | transferIn nft escrow held model args =>
    refine filled_derive (by simp [derivationsFor, derivations])
      (Instruction.seedsFit_tokenAccount _ _) fun source hsource => ?_
    refine filled_derive (by simp [derivationsFor, derivations])
      (Instruction.seedsFit_tokenAccount _ _) fun destination hdestination => ?_
    refine filled_derive (by simp [derivationsFor, derivations])
      (Instruction.seedsFit_tokenAccount _ _) fun account haccount => ?_
    have hroles : (transferIn nft escrow held model args).roles program payer authority =
        [some escrow, some payer, some held.mint,
          (Derivation.tokenAccount payer held.mint).address?,
          (Derivation.tokenAccount escrow held.mint).address?, some held.metadata, some nft.mint,
          (Derivation.tokenAccount payer nft.mint).address?, some model, some Known.systemProgram,
          some Known.associatedTokenProgram, some Known.tokenProgram, some Known.rent] := rfl
    rw [hsource, hdestination, haccount] at hroles
    exact filled_assemble hroles fun _ h => by cases h
  | transferOut nft attributeMint amount =>
    refine filled_derive (by simp [derivationsFor, derivations])
      (Instruction.seedsFit_escrow _ _) fun escrow hescrow => ?_
    refine filled_derive (by simp [derivationsFor, derivations, hescrow])
      (Instruction.seedsFit_tokenAccount _ _) fun source hsource => ?_
    refine filled_derive (by simp [derivationsFor, derivations])
      (Instruction.seedsFit_tokenAccount _ _) fun destination hdestination => ?_
    refine filled_derive (by simp [derivationsFor, derivations])
      (Instruction.seedsFit_tokenAccount _ _) fun account haccount => ?_
    -- The account that tokens leave is derived from an address that was itself derived.
    have hsender : tokenAccount? (Derivation.escrow program nft.mint).address? attributeMint =
        some source := by
      rw [hescrow]
      exact hsource
    have hroles : (transferOut nft attributeMint amount).roles program payer authority =
        [(Derivation.escrow program nft.mint).address?, some nft.metadata, some payer,
          some attributeMint,
          tokenAccount? (Derivation.escrow program nft.mint).address? attributeMint,
          (Derivation.tokenAccount payer attributeMint).address?, some nft.mint,
          (Derivation.tokenAccount payer nft.mint).address?, some Known.systemProgram,
          some Known.associatedTokenProgram, some Known.tokenProgram,
          some Known.instructions] := rfl
    rw [hsender, hescrow, hdestination, haccount] at hroles
    exact filled_assemble hroles fun _ h => by cases h
  | createConstraintModel name =>
    refine filled_checkName rfl fun hname => ?_
    refine filled_derive (List.mem_singleton_self _)
      (Derivation.seedsFit_of_name ?_) fun model hmodel => ?_
    · intro program' authority' name' h
      cases h
      exact hname name rfl
    have hroles : (createConstraintModel name).roles program payer authority =
        [(Derivation.constraintModel program authority name).address?, some payer, some authority,
          some Known.systemProgram] := rfl
    rw [hmodel] at hroles
    exact filled_assemble hroles hname
  | addConstraint model constraint =>
    refine filled_checkName rfl fun hname => ?_
    have hroles : (addConstraint model constraint).roles program payer authority =
        [some model, some payer, some authority, some Known.systemProgram] := rfl
    exact filled_assemble hroles hname

/-! ### Operations -/

theorem filled_build (program payer : Address) (op : Operation) :
    op.Filled program payer payer (op.build program payer) := by
  rw [← buildFor_payer]
  exact filled_buildFor program payer payer op

/-- An instruction is refused for its name only. -/
theorem eq_nameTooLong_of_build {e : EscrowError}
    (h : op.build program payer = .error (.escrow e)) : e = .nameTooLong := by
  have hfilled := filled_build program payer op
  rw [h] at hfilled
  cases hfilled
  rfl

/-- Only a name that is too long is refused. -/
theorem exists_name_of_build {e : EscrowError} (h : op.build program payer = .error (.escrow e)) :
    ∃ name, op.name? = some name ∧ Instruction.maxNameLength < (Utf8.encode name).length := by
  have hfilled := filled_build program payer op
  rw [h] at hfilled
  cases hfilled with
  | nameTooLong hname hlong => exact ⟨_, hname, hlong⟩

/-- An address is missing only when all its digests are points of the curve. -/
theorem exists_exhausted_of_build (h : op.build program payer = .error .noAddress) :
    ∃ d ∈ op.derivations program payer, d.Exhausted := by
  have hfilled := filled_build program payer op
  rw [h] at hfilled
  cases hfilled with
  | noAddress hd hexhausted =>
    rw [derivationsFor_payer] at hd
    exact ⟨_, hd, hexhausted⟩

/-- A built instruction has one key for each slot, and only the payer signs. -/
theorem exists_keys_of_build {i : Instruction} (h : op.build program payer = .ok i) :
    ∃ keys : List Address, keys.length = op.slots.length ∧
      (∀ p ∈ op.slots.zip keys, p.1.signer = true → p.2 = payer) ∧
      i = ⟨program, List.zipWith Slot.place op.slots keys, op.data⟩ := by
  have hfilled := filled_build program payer op
  rw [h] at hfilled
  cases hfilled with
  | filled hkeys =>
    refine ⟨_, length_of_roles hkeys, fun p hp hsigner => ?_, rfl⟩
    obtain ⟨hslot, hrole⟩ := role?_of_mem_zip hkeys hp
    exact Option.some.inj (hrole.symm.trans (role?_of_signer hslot hsigner))

/-- Building a constraint model derives its address. -/
theorem exists_model_of_build {name : String} {i : Instruction}
    (h : (createConstraintModel name).build program payer = .ok i) :
    ∃ model, (Derivation.constraintModel program payer name).address? = some model := by
  rcases hmodel : (Derivation.constraintModel program payer name).address? with _ | model
  · rw [build, Instruction.createConstraintModel, Instruction.derive_none hmodel] at h
    rcases hname : Instruction.checkName name with e | _ <;> rw [hname] at h <;> cases h
  · exact ⟨model, rfl⟩

/-! ### Names -/

/-- A name that fits in no seed is refused before anything is derived. -/
theorem buildFor_of_long {name : String} (hname : op.name? = some name)
    (hlong : Instruction.maxNameLength < (Utf8.encode name).length) :
    op.buildFor program payer authority = .error (.escrow .nameTooLong) := by
  have hcheck : Instruction.checkName name = .error (.escrow .nameTooLong) := if_pos hlong
  cases op with
  | createEscrow | closeEscrow | transferIn | transferOut => cases hname
  | createConstraintModel =>
    obtain rfl := Option.some.inj hname
    rw [buildFor, Instruction.createConstraintModel, hcheck]
    rfl
  | addConstraint =>
    obtain rfl := Option.some.inj hname
    rw [buildFor, Instruction.addConstraint, hcheck]
    rfl

/-- A request with a name derives no other address than that of a model under the name. -/
theorem eq_constraintModel_of_mem {name : String} {d : Derivation} (hname : op.name? = some name)
    (hd : d ∈ op.derivationsFor program payer authority) :
    d = .constraintModel program authority name := by
  cases op with
  | createEscrow | closeEscrow | transferIn | transferOut => cases hname
  | createConstraintModel =>
    obtain rfl := Option.some.inj hname
    exact List.mem_singleton.1 hd
  | addConstraint => exact absurd hd List.not_mem_nil

/-- **The bound on names is exact**: where bumps are viable, a request is built for every name that
fits in a seed, and for no other. -/
theorem exists_buildFor_iff {name : String} (hname : op.name? = some name)
    (hviable : ∀ d ∈ op.derivationsFor program payer authority, d.SeedsFit → d.Viable) :
    (∃ i, op.buildFor program payer authority = .ok i) ↔
      (Utf8.encode name).length ≤ Instruction.maxNameLength := by
  constructor
  · rintro ⟨i, hbuild⟩
    apply Nat.not_lt.1
    intro hlong
    rw [buildFor_of_long hname hlong] at hbuild
    cases hbuild
  · intro hfits
    have hfilled := filled_buildFor program payer authority op
    generalize op.buildFor program payer authority = result at hfilled
    cases hfilled with
    | nameTooLong hname' hlong =>
      obtain rfl := Option.some.inj (hname.symm.trans hname')
      exact absurd hfits (Nat.not_le_of_lt hlong)
    | @noAddress d hd hexhausted =>
      -- The address that is missing is that of the model, and the name is no reason for it.
      have hfit : d.SeedsFit := by
        rw [eq_constraintModel_of_mem hname hd]
        exact Derivation.seedsFit_constraintModel_iff.2 hfits
      exact absurd hexhausted (hviable d hd hfit).not_exhausted
    | filled => exact ⟨_, rfl⟩

/-! ## What is built -/

/-- Whether the mints of a list have a place in their count. -/
def ListFits : Operation → Prop
  | addConstraint _ constraint => constraint.rule.CountsFit
  | createEscrow _ | closeEscrow _ | transferIn .. | transferOut .. => True
  | createConstraintModel _ => True

/-- A name that fits in a seed has a place in its count, so only a list can be too long. -/
theorem countsFit_instruction_iff (hname : ∀ name, op.name? = some name →
      (Utf8.encode name).length ≤ Instruction.maxNameLength) :
    op.instruction.CountsFit ↔ op.ListFits := by
  have hbound : Instruction.maxNameLength < LawfulWire.countBound := by decide
  cases op with
  | createEscrow | closeEscrow | transferIn | transferOut => exact Iff.rfl
  | createConstraintModel name =>
    exact iff_of_true (Nat.lt_of_le_of_lt (hname name rfl) hbound) trivial
  | addConstraint model constraint =>
    exact and_iff_right (Nat.lt_of_le_of_lt (hname constraint.name rfl) hbound)

/-- Data is read back as the instruction that it packs, exactly when the counts fit. -/
theorem unpack_data_iff :
    EscrowInstruction.unpack op.data = .ok op.instruction ↔ op.instruction.CountsFit :=
  EscrowInstruction.unpack_eq_ok_iff.trans (and_iff_right rfl)

/-- An instruction that is what an operation asks for. -/
structure Carried (program payer authority : Address) (op : Operation) (i : Instruction)
    (table : Schema) : Prop where
  /-- it is for the program -/
  program_eq : i.program = program
  /-- its first byte tells its account table -/
  table_eq : i.data.head?.bind Schema.find? = some table
  /-- it has an account for each slot -/
  length_eq : i.accounts.length = table.slots.length
  /-- found by its name, every slot holds the key of its role with its own flags -/
  slot_eq : ∀ slot ∈ table.slots, ∃ n key, table.position? slot.name = some n ∧
    op.role? program payer authority slot.name = some key ∧ i.accounts[n]? = some (slot.place key)
  /-- its data is read as the instruction with the arguments that were given -/
  unpack_iff : EscrowInstruction.unpack i.data = .ok op.instruction ↔ op.ListFits

/-- **Builders fail only on names**: a request is refused for a name that fits in no seed, or it is
built with the key of its role in every slot. The one other way to end is that a derivation that it
needs has no address, because all its digests are points of the curve. -/
theorem carried_of_buildFor (program payer authority : Address) (op : Operation) :
    (op.buildFor program payer authority = .error (.escrow .nameTooLong) ∧
      ∃ name, op.name? = some name ∧ 32 < (Utf8.encode name).length) ∨
    (op.buildFor program payer authority = .error .noAddress ∧
      ∃ d ∈ op.derivationsFor program payer authority,
        d.Exhausted) ∨
    ∃ i table, op.buildFor program payer authority = .ok i ∧
      op.Carried program payer authority i table := by
  have hfilled := filled_buildFor program payer authority op
  generalize op.buildFor program payer authority = result at hfilled
  cases hfilled with
  | nameTooLong hname hlong => exact .inl ⟨rfl, _, hname, hlong⟩
  | noAddress hd hexhausted => exact .inr (.inl ⟨rfl, _, hd, hexhausted⟩)
  | @filled keys hkeys hname =>
    refine .inr (.inr ⟨_, op.instruction.schema, rfl, ?_⟩)
    have hlen : keys.length = op.slots.length := length_of_roles hkeys
    exact {
      program_eq := rfl
      table_eq := Schema.find?_discriminator op.instruction.schema_mem_all
      length_eq := by
        rw [List.length_zipWith, hlen, Nat.min_self]
        rfl
      slot_eq := fun _ hslot => getElem?_place hkeys hslot
      unpack_iff := unpack_data_iff.trans (countsFit_instruction_iff hname) }

end Operation

end TokenEscrow

import TokenEscrow.Proofs.Transaction.Compile

/-!
# Messages with one instruction

`Message.Carries` says that a message carries one instruction and nothing else:
its indices lead back to the program and to the keys that were put in the slots,
its key list has no key that is not one of these, and its header tells apart
what the account table tells apart. A program that runs the message sees what
its builder wrote, whichever of the keys happen to be the same.

Compiling makes such a message from an account table in which only the payer
signs (`carries_compile`). Nothing is asked of the keys: one key may stand in
several slots, and be the payer or the program as well.
-/

namespace TokenEscrow

/-- A message that carries one instruction for a program, with keys in the slots of a table, paid
for by `payer`. -/
structure Message.Carries (m : Message) (payer program : Address) (slots : List Slot)
    (keys : List Address) (data : Bytes) : Prop where
  /-- the one instruction leads to the program and, in order, to the key of every slot -/
  instruction : ∃ i, m.instructions = [i] ∧ m.keys[i.program.toNat]? = some program ∧
    i.accounts.map (fun index => m.keys[index.toNat]?) = keys.map some ∧ i.data = data
  /-- no key occurs twice -/
  nodup : m.keys.Nodup
  /-- the payer comes first -/
  head : m.keys.head? = some payer
  /-- the keys are the payer, the program and those in the slots -/
  mem_iff : ∀ key, key ∈ m.keys ↔ key = payer ∨ key = program ∨ key ∈ keys
  /-- one signature is required, that of the first key -/
  requiredSignatures : m.header.requiredSignatures = 1
  /-- whoever signs is written -/
  readonlySigned : m.header.readonlySigned = 0
  /-- by the header, a key is written when it is the payer or stands in a slot that is written -/
  isWritable_iff : ∀ index key, m.keys[index]? = some key →
    (m.isWritable index = true ↔
      key = payer ∨ ∃ p ∈ slots.zip keys, p.1.writable = true ∧ p.2 = key)

/-! ## Filled slots -/

namespace Slot

variable {slots : List Slot} {keys : List Address}

/-- Filling slots goes through the pairs of a slot and its key. -/
theorem zipWith_place :
    List.zipWith place slots keys = (slots.zip keys).map fun p => p.1.place p.2 :=
  List.map_uncurry_zip_eq_zipWith.symm

/-- The keys are found again in the slots they fill. -/
theorem address_zipWith_place (hlen : keys.length = slots.length) :
    (List.zipWith place slots keys).map AccountRef.address = keys := by
  rw [zipWith_place, List.map_map]
  exact List.map_snd_zip (Nat.le_of_eq hlen)

/-- A filled slot is a slot with its key. -/
theorem mem_zipWith_place {r : AccountRef} :
    r ∈ List.zipWith place slots keys ↔ ∃ p ∈ slots.zip keys, p.1.place p.2 = r := by
  rw [zipWith_place, List.mem_map]

end Slot

namespace Message

/-! ## Occurrences -/

variable {payer key : Address} {i : Instruction} {blockhash : Hash}

/-- The occurrences of one instruction. -/
theorem occurrences_single (payer : Address) (i : Instruction) :
    occurrences payer [i] = ⟨payer, true, true⟩ :: ⟨i.program, false, false⟩ :: i.accounts := by
  rw [occurrences, List.flatMap_singleton]

/-- The keys of one instruction. -/
theorem mem_keys_single :
    key ∈ (compile payer [i] blockhash).keys ↔
      key = payer ∨ key = i.program ∨ key ∈ i.accounts.map AccountRef.address := by
  rw [mem_keys_compile, occurrences_single, List.map_cons, List.map_cons, List.mem_cons,
    List.mem_cons]

/-- One instruction with few accounts has few keys. -/
theorem length_keys_single_le :
    (compile payer [i] blockhash).keys.length ≤ i.accounts.length + 2 := by
  have hle : (compile payer [i] blockhash).keys.length ≤ (occurrences payer [i]).length :=
    length_keys_compile_le
  rwa [occurrences_single] at hle

/-- The signers of one instruction. -/
theorem signs_single :
    signs (occurrences payer [i]) key = true ↔
      key = payer ∨ ∃ r ∈ i.accounts, r.signer = true ∧ r.address = key := by
  rw [signs_eq_true_iff, occurrences_single, List.exists_mem_cons_iff, List.exists_mem_cons_iff]
  simp only [true_and, Bool.false_eq_true, false_and, false_or]
  exact or_congr_left eq_comm

/-- What one instruction writes. -/
theorem writes_single :
    writes (occurrences payer [i]) key = true ↔
      key = payer ∨ ∃ r ∈ i.accounts, r.writable = true ∧ r.address = key := by
  rw [writes_eq_true_iff, occurrences_single, List.exists_mem_cons_iff, List.exists_mem_cons_iff]
  simp only [true_and, Bool.false_eq_true, false_and, false_or]
  exact or_congr_left eq_comm

/-- When nobody else signs, the groups of other signers are empty. -/
theorem group_signers_eq_nil {refs : List AccountRef} {writable : Bool}
    (h : ∀ key, signs refs key = true → key = payer) : group payer refs true writable = [] := by
  rw [List.eq_nil_iff_forall_not_mem]
  intro key hk
  obtain ⟨hother, hs, -⟩ := mem_group.1 hk
  exact (mem_otherKeys.1 hother).1 (h key hs)

/-- When nobody else signs, one signature is required. -/
theorem requiredSignatures_single
    (h : ∀ key, signs (occurrences payer [i]) key = true → key = payer) (blockhash : Hash) :
    (compile payer [i] blockhash).header.requiredSignatures = 1 := by
  simp only [compile, group_signers_eq_nil h]
  rfl

/-! ## Compiling -/

variable {program : Address} {slots : List Slot} {keys : List Address} {data : Bytes}

/-- **One instruction is carried**: compiling keeps an instruction whose slots only the payer signs
for, whatever keys stand in the slots. -/
theorem carries_compile (hlen : keys.length = slots.length)
    (hsigner : ∀ p ∈ slots.zip keys, p.1.signer = true → p.2 = payer) (hcount : slots.length < 254)
    (hi : i = ⟨program, List.zipWith Slot.place slots keys, data⟩) (blockhash : Hash) :
    (compile payer [i] blockhash).Carries payer program slots keys data := by
  have haddress : i.accounts.map AccountRef.address = keys := by
    rw [hi, Slot.address_zipWith_place hlen]
  have hmem : ∀ r, r ∈ i.accounts ↔ ∃ p ∈ slots.zip keys, p.1.place p.2 = r := by
    intro r
    rw [hi, Slot.mem_zipWith_place]
  have hkeys : (compile payer [i] blockhash).keys.length < 256 := by
    have hle : (compile payer [i] blockhash).keys.length ≤ i.accounts.length + 2 :=
      length_keys_single_le
    rw [← List.length_map AccountRef.address, haddress] at hle
    omega
  have hpayer : ∀ key, signs (occurrences payer [i]) key = true → key = payer := by
    intro key hs
    rcases signs_single.1 hs with rfl | ⟨r, hr, hsign, rfl⟩
    · rfl
    · obtain ⟨p, hp, rfl⟩ := (hmem r).1 hr
      exact hsigner p hp hsign
  have hprogram : i.program = program := by rw [hi]
  have hdata : i.data = data := by rw [hi]
  refine ⟨⟨_, rfl, ?_, ?_, hdata⟩, nodup_keys_compile .., head?_keys_compile .., ?_, ?_, ?_, ?_⟩
  · exact hprogram ▸ resolve_indexOf hkeys (mem_keys_single.2 (.inr (.inl rfl)))
  · rw [← haddress, compileInstruction, List.map_map, List.map_map]
    refine List.map_congr_left fun r hr => ?_
    exact resolve_indexOf hkeys (mem_keys_single.2 (.inr (.inr (List.mem_map_of_mem hr))))
  · intro key
    rw [mem_keys_single, haddress, hprogram]
  · exact requiredSignatures_single hpayer blockhash
  · simp only [compile, group_signers_eq_nil hpayer]
    rfl
  · intro index key hk
    rw [isWritable_compile hkeys hk, writes_single]
    refine or_congr_right ⟨?_, ?_⟩
    · rintro ⟨r, hr, hw, rfl⟩
      obtain ⟨p, hp, rfl⟩ := (hmem r).1 hr
      exact ⟨p, hp, hw, rfl⟩
    · rintro ⟨p, hp, hw, rfl⟩
      exact ⟨_, (hmem _).2 ⟨p, hp, rfl⟩, hw, rfl⟩

end Message

end TokenEscrow

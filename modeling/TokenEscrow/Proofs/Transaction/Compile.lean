import Mathlib.Data.List.Nodup
import Mathlib.Data.List.Perm.Subperm
import TokenEscrow.Transaction.Message

/-!
# What compiling keeps

Compiling a message sorts the keys into groups, drops repetitions and replaces
keys by indices. None of it loses anything:

* the keys are those of the occurrences, each once, the payer first
  (`mem_keys_compile`, `nodup_keys_compile`, `head?_keys_compile`);
* the header counts give back the flags of every key: a position is that of a
  signer, or of a written key, exactly when some occurrence of its key has the
  flag (`isSigner_compile`, `isWritable_compile`);
* every index leads back to the key that it stands for (`resolve_indexOf`).

Indices and counts are bytes, so the last two hold as long as there are not too
many keys, and there are never more keys than occurrences
(`length_keys_compile_le`).

All of it rests on one picture: behind the payer, the key list is the four
groups of `otherKeys` one after the other, and membership in a group is a
statement about flags (`mem_group`).
-/

namespace TokenEscrow

/-! ## Lists without repetitions -/

/-- Dropping repetitions leaves none. -/
theorem nodup_eraseDups {α : Type} [BEq α] [LawfulBEq α] : ∀ l : List α, l.eraseDups.Nodup
  | [] => List.nodup_nil
  | a :: l => by
    have hlt : (l.filter fun b => !b == a).length < l.length + 1 :=
      Nat.lt_succ_of_le (List.length_filter_le _ _)
    rw [List.eraseDups_cons, List.nodup_cons]
    refine ⟨?_, nodup_eraseDups _⟩
    intro h
    have ha := List.mem_filter.1 (List.mem_eraseDups.1 h)
    simp at ha
termination_by l => l.length

namespace Message

/-! ## Flags -/

variable {payer key : Address} {refs : List AccountRef}

theorem signs_eq_true_iff :
    signs refs key = true ↔ ∃ r ∈ refs, r.signer = true ∧ r.address = key := by
  simp [signs]

theorem writes_eq_true_iff :
    writes refs key = true ↔ ∃ r ∈ refs, r.writable = true ∧ r.address = key := by
  simp [writes]

/-! ## Groups -/

theorem mem_otherKeys :
    key ∈ otherKeys payer refs ↔ key ≠ payer ∧ key ∈ refs.map AccountRef.address := by
  rw [otherKeys, List.mem_mergeSort, List.mem_eraseDups, List.mem_filter, bne_iff_ne, and_comm]

theorem nodup_otherKeys : (otherKeys payer refs).Nodup :=
  (List.mergeSort_perm _ _).nodup_iff.2 (nodup_eraseDups _)

/-- A group is a set of flags. -/
theorem mem_group {signer writable : Bool} :
    key ∈ group payer refs signer writable ↔
      key ∈ otherKeys payer refs ∧ signs refs key = signer ∧ writes refs key = writable := by
  rw [group, List.mem_filter, Bool.and_eq_true, beq_iff_eq, beq_iff_eq]

theorem nodup_group {signer writable : Bool} : (group payer refs signer writable).Nodup :=
  nodup_otherKeys.filter _

/-- Groups with different flags have no key in common. -/
theorem disjoint_group {s w s' w' : Bool} (h : ¬ (s = s' ∧ w = w')) :
    List.Disjoint (group payer refs s w) (group payer refs s' w') := by
  intro key hk hk'
  obtain ⟨-, hs, hw⟩ := mem_group.1 hk
  obtain ⟨-, hs', hw'⟩ := mem_group.1 hk'
  exact h ⟨hs.symm.trans hs', hw.symm.trans hw'⟩

theorem payer_not_mem_group {signer writable : Bool} :
    payer ∉ group payer refs signer writable := by
  intro h
  exact (mem_otherKeys.1 (mem_group.1 h).1).1 rfl

/-! ## Keys -/

section

variable (payer : Address) (instructions : List Instruction) (blockhash : Hash)

/-- The keys are the payer and four groups. -/
theorem keys_compile :
    (compile payer instructions blockhash).keys =
      payer :: group payer (occurrences payer instructions) true true
        ++ group payer (occurrences payer instructions) true false
        ++ group payer (occurrences payer instructions) false true
        ++ group payer (occurrences payer instructions) false false := rfl

/-- The number of keys, by the counts of the groups. -/
theorem length_keys_compile :
    (compile payer instructions blockhash).keys.length =
      (payer :: group payer (occurrences payer instructions) true true).length
        + (group payer (occurrences payer instructions) true false).length
        + (group payer (occurrences payer instructions) false true).length
        + (group payer (occurrences payer instructions) false false).length := by
  rw [keys_compile, List.length_append, List.length_append, List.length_append]

/-- The first key is that of the payer. -/
theorem head?_keys_compile : (compile payer instructions blockhash).keys.head? = some payer := rfl

/-- No key occurs twice. -/
theorem nodup_keys_compile : (compile payer instructions blockhash).keys.Nodup := by
  rw [keys_compile, List.nodup_append', List.nodup_append', List.nodup_append', List.nodup_cons]
  refine ⟨⟨⟨⟨payer_not_mem_group, nodup_group⟩, nodup_group, ?_⟩, nodup_group, ?_⟩,
    nodup_group, ?_⟩
  · rw [List.disjoint_cons_left]
    exact ⟨payer_not_mem_group, disjoint_group (by decide)⟩
  · rw [List.disjoint_append_left, List.disjoint_cons_left]
    exact ⟨⟨payer_not_mem_group, disjoint_group (by decide)⟩, disjoint_group (by decide)⟩
  · rw [List.disjoint_append_left, List.disjoint_append_left, List.disjoint_cons_left]
    exact ⟨⟨⟨payer_not_mem_group, disjoint_group (by decide)⟩, disjoint_group (by decide)⟩,
      disjoint_group (by decide)⟩

variable {payer instructions blockhash}

/-- The keys are those of the occurrences. -/
theorem mem_keys_compile :
    key ∈ (compile payer instructions blockhash).keys ↔
      key ∈ (occurrences payer instructions).map AccountRef.address := by
  have hpayer : payer ∈ (occurrences payer instructions).map AccountRef.address :=
    List.mem_cons_self ..
  rw [keys_compile]
  simp only [List.mem_append, List.mem_cons, mem_group, mem_otherKeys]
  constructor
  · rintro ((((rfl | h) | h) | h) | h)
    · exact hpayer
    all_goals exact h.1.2
  · intro h
    by_cases hk : key = payer
    · exact .inl (.inl (.inl (.inl hk)))
    -- Whatever the flags of the key are, there is a group for them.
    · cases hs : signs (occurrences payer instructions) key <;>
        cases hw : writes (occurrences payer instructions) key <;> simp [hk, h]

/-- There are no more keys than occurrences. -/
theorem length_keys_compile_le :
    (compile payer instructions blockhash).keys.length ≤
      (occurrences payer instructions).length := by
  have hsub : (compile payer instructions blockhash).keys ⊆
      (occurrences payer instructions).map AccountRef.address :=
    fun key hk => mem_keys_compile.1 hk
  have hle := ((nodup_keys_compile payer instructions blockhash).subperm hsub).length_le
  rwa [List.length_map] at hle

/-! ## Positions

The four counts of the groups fit in a byte as soon as the number of keys does,
so the header is exact, and a position falls into the group of its key. -/

/-- A position before the end of the front. -/
theorem front_of_getElem? {α : Type} {front back : List α} {x : α} {i : Nat}
    (h : (front ++ back)[i]? = some x) (hi : i < front.length) : front[i]? = some x := by
  rwa [List.getElem?_append_left hi] at h

/-- A position behind the end of the front. -/
theorem mem_back_of_getElem? {α : Type} {front back : List α} {x : α} {i : Nat}
    (h : (front ++ back)[i]? = some x) (hi : front.length ≤ i) : x ∈ back := by
  rw [List.getElem?_append_right hi] at h
  exact List.mem_of_getElem? h

/-- The flags of the payer are set by its first occurrence. -/
theorem signs_payer : signs (occurrences payer instructions) payer = true :=
  signs_eq_true_iff.2 ⟨_, List.mem_cons_self .., rfl, rfl⟩

theorem writes_payer : writes (occurrences payer instructions) payer = true :=
  writes_eq_true_iff.2 ⟨_, List.mem_cons_self .., rfl, rfl⟩

/-- The group of a position, by the counts of the groups. -/
theorem flags_of_getElem? {index : Nat}
    (hk : (compile payer instructions blockhash).keys[index]? = some key) :
    let refs := occurrences payer instructions
    let a := (payer :: group payer refs true true).length
    let b := (group payer refs true false).length
    let c := (group payer refs false true).length
    (index < a ∧ signs refs key = true ∧ writes refs key = true) ∨
      (a ≤ index ∧ index < a + b ∧ signs refs key = true ∧ writes refs key = false) ∨
      (a + b ≤ index ∧ index < a + b + c ∧ signs refs key = false ∧ writes refs key = true) ∨
      (a + b + c ≤ index ∧ signs refs key = false ∧ writes refs key = false) := by
  intro refs a b c
  have hab : (payer :: group payer refs true true ++ group payer refs true false).length = a + b :=
    List.length_append
  have habc : (payer :: group payer refs true true ++ group payer refs true false
      ++ group payer refs false true).length = a + b + c := by
    rw [List.length_append, hab]
  rw [keys_compile] at hk
  -- The position is compared with the end of each group, from the last group to the first.
  by_cases hc : index < a + b + c
  · have hk := front_of_getElem? hk (by rwa [habc])
    by_cases hb : index < a + b
    · have hk := front_of_getElem? hk (by rwa [hab])
      by_cases ha : index < a
      · rcases List.mem_cons.1 (List.mem_of_getElem? (front_of_getElem? hk ha)) with rfl | hmem
        · exact .inl ⟨ha, signs_payer, writes_payer⟩
        · exact .inl ⟨ha, (mem_group.1 hmem).2⟩
      · have hmem := mem_back_of_getElem? hk (Nat.le_of_not_lt ha)
        exact .inr (.inl ⟨Nat.le_of_not_lt ha, hb, (mem_group.1 hmem).2⟩)
    · have hb := Nat.le_of_not_lt hb
      have hmem := mem_back_of_getElem? hk (by rwa [hab])
      exact .inr (.inr (.inl ⟨hb, hc, (mem_group.1 hmem).2⟩))
  · have hc := Nat.le_of_not_lt hc
    have hmem := mem_back_of_getElem? hk (by rwa [habc])
    exact .inr (.inr (.inr ⟨hc, (mem_group.1 hmem).2⟩))

variable (h : (compile payer instructions blockhash).keys.length < 256)
include h

/-- The header counts, as numbers. -/
theorem header_compile :
    let m := compile payer instructions blockhash
    let refs := occurrences payer instructions
    m.header.requiredSignatures.toNat =
        (payer :: group payer refs true true).length + (group payer refs true false).length ∧
      m.header.readonlySigned.toNat = (group payer refs true false).length ∧
      m.header.readonlyUnsigned.toNat = (group payer refs false false).length := by
  intro m refs
  have hlen := length_keys_compile payer instructions blockhash
  rw [hlen] at h
  refine ⟨?_, ?_, ?_⟩
  · rw [← List.length_append]
    refine UInt8.toNat_ofNat_of_lt' ?_
    rw [List.length_append]
    exact Nat.lt_of_le_of_lt (by omega) h
  · exact UInt8.toNat_ofNat_of_lt' (Nat.lt_of_le_of_lt (by omega) h)
  · exact UInt8.toNat_ofNat_of_lt' (Nat.lt_of_le_of_lt (by omega) h)

/-- **Signers by position**: the header tells of every key whether some occurrence of it signs. -/
theorem isSigner_compile {index : Nat}
    (hk : (compile payer instructions blockhash).keys[index]? = some key) :
    (compile payer instructions blockhash).isSigner index =
      signs (occurrences payer instructions) key := by
  obtain ⟨hsigned, -, -⟩ := header_compile h
  rw [isSigner, hsigned]
  rcases flags_of_getElem? hk with ⟨hi, hs, -⟩ | ⟨-, hi, hs, -⟩ | ⟨hi, -, hs, -⟩ | ⟨hi, hs, -⟩ <;>
    rw [hs]
  · exact decide_eq_true (by omega)
  · exact decide_eq_true hi
  · exact decide_eq_false (by omega)
  · exact decide_eq_false (by omega)

/-- **Written keys by position**: the header tells of every key whether some occurrence of it is
written. -/
theorem isWritable_compile {index : Nat}
    (hk : (compile payer instructions blockhash).keys[index]? = some key) :
    (compile payer instructions blockhash).isWritable index =
      writes (occurrences payer instructions) key := by
  obtain ⟨hsigned, hro, hru⟩ := header_compile h
  have hlen := length_keys_compile payer instructions blockhash
  simp only [isWritable, hsigned, hro, hru, hlen]
  rcases flags_of_getElem? hk with
    ⟨hi, -, hw⟩ | ⟨hi, hi', -, hw⟩ | ⟨hi, hi', -, hw⟩ | ⟨hi, -, hw⟩ <;> rw [hw]
  · simp only [Bool.or_eq_true, decide_eq_true_eq]
    exact .inl (by omega)
  · simp only [Bool.or_eq_false_iff, Bool.and_eq_false_iff, decide_eq_false_iff_not]
    exact ⟨by omega, .inl (by omega)⟩
  · simp only [Bool.or_eq_true, Bool.and_eq_true, decide_eq_true_eq]
    exact .inr ⟨hi, by omega⟩
  · simp only [Bool.or_eq_false_iff, Bool.and_eq_false_iff, decide_eq_false_iff_not]
    exact ⟨by omega, .inr (by omega)⟩

/-- **Indices lead back**: the index of a key is a position of that key. -/
theorem resolve_indexOf (hk : key ∈ (compile payer instructions blockhash).keys) :
    (compile payer instructions blockhash).keys[
      (indexOf (compile payer instructions blockhash).keys key).toNat]? = some key := by
  have hlt := List.idxOf_lt_length_of_mem hk
  rw [indexOf, UInt8.toNat_ofNat_of_lt' (Nat.lt_trans hlt h), List.getElem?_eq_getElem hlt,
    List.getElem_idxOf]

end

end Message

end TokenEscrow

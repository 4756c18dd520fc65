import TokenEscrow.Proofs.Address.Search

/-!
# Separation of derived addresses

The seeds of a derivation are hashed one after the other with nothing between
them, and right behind the last seed stands the bump. One seed, the name of a
constraint model, is free text. Still no two derivations hash the same bytes:

* the program and the marker at the end have fixed lengths, so the bump and the
  seeds in front of it are told apart from the end (`of_preimage_eq`);
* the number of bytes of the seeds tells the kind of the derivation
  (`kindOfLength_seeds`), for a name of at most 32 bytes keeps a constraint model
  shorter than all other kinds;
* within a kind every seed but the name has a fixed length (`eq_of_seeds_eq`).

So two derivations with one address are one derivation, or SHA-256 collides on
what they hash (`separated_of_find?`).
-/

namespace TokenEscrow

/-- Two different messages with one digest. -/
def Sha256.Collide (m₁ m₂ : Bytes) : Prop := m₁ ≠ m₂ ∧ Sha256.digest m₁ = Sha256.digest m₂

/-! ## Parts of a byte string -/

/-- Texts with the same bytes are the same. -/
theorem Utf8.encode_injective {s t : String} (h : Utf8.encode s = Utf8.encode t) : s = t := by
  have hs := Utf8.decode_encode s
  rw [h, Utf8.decode_encode] at hs
  exact (Except.ok.inj hs).symm

/-- A byte string of fixed length is told apart from what follows it. -/
theorem ByteVec.append_inj {n : Nat} {v w : ByteVec n} {xs ys : Bytes}
    (h : v.bytes ++ xs = w.bytes ++ ys) : v = w ∧ xs = ys := by
  obtain ⟨hv, hxs⟩ := List.append_inj h (v.length_bytes.trans w.length_bytes.symm)
  exact ⟨ByteVec.ext hv, hxs⟩

namespace Derivation

variable {d d₁ d₂ : Derivation} {b₁ b₂ : UInt8}

/-! ## Kinds -/

/-- What an address is derived for. -/
inductive Kind
  | metadata
  | edition
  | escrow
  | constraintModel
  | tokenAccount
  deriving DecidableEq, Repr

/-- The kind of a derivation. -/
def kind : Derivation → Kind
  | metadata .. => .metadata
  | edition .. => .edition
  | escrow .. => .escrow
  | constraintModel .. => .constraintModel
  | tokenAccount .. => .tokenAccount

/-- The kind whose seeds have this many bytes. -/
def kindOfLength (n : Nat) : Kind :=
  if n = 72 then .metadata
  else if n = 79 then .edition
  else if n = 78 then .escrow
  else if n = 96 then .tokenAccount
  else .constraintModel

/-- **The length tells the kind**: no two kinds have seeds with the same number of bytes. -/
theorem kindOfLength_seeds (h : d.SeedsFit) : kindOfLength d.seeds.flatten.length = d.kind := by
  have hmetadata : (Utf8.encode metadataSeed).length = 8 := by decide
  have hedition : (Utf8.encode editionSeed).length = 7 := by decide
  have hescrow : (Utf8.encode escrowSeed).length = 6 := by decide
  cases d with
  | metadata program mint => simp [seeds, kind, kindOfLength, ByteVec.length_bytes, hmetadata]
  | edition program mint =>
    simp [seeds, kind, kindOfLength, ByteVec.length_bytes, hmetadata, hedition]
  | escrow program mint =>
    simp [seeds, kind, kindOfLength, ByteVec.length_bytes, hmetadata, hescrow]
  | constraintModel program authority name =>
    have hname : (Utf8.encode name).length ≤ 32 := seedsFit_constraintModel_iff.1 h
    have hlen : (constraintModel program authority name).seeds.flatten.length =
        38 + (Utf8.encode name).length := by
      simp [seeds, ByteVec.length_bytes, hescrow]
      omega
    rw [hlen, kind, kindOfLength, if_neg (by omega), if_neg (by omega), if_neg (by omega),
      if_neg (by omega)]
  | tokenAccount owner mint => simp [seeds, kind, kindOfLength, ByteVec.length_bytes]

/-! ## Preimages -/

/-- From the end of what is hashed, the program, the bump and the seeds are told apart. -/
theorem of_preimage_eq (h : d₁.preimage b₁ = d₂.preimage b₂) :
    d₁.seeds.flatten = d₂.seeds.flatten ∧ b₁ = b₂ ∧ d₁.program = d₂.program := by
  obtain ⟨hfront, -⟩ := List.append_inj' h rfl
  obtain ⟨hseeds, hback⟩ := List.append_inj' hfront (by simp [ByteVec.length_bytes])
  obtain ⟨hbump, hprogram⟩ := List.cons.inj hback
  exact ⟨hseeds, hbump, ByteVec.ext hprogram⟩

/-- **Seeds are told apart**: the bytes of all seeds and the program determine a derivation. -/
theorem eq_of_seeds_eq (h₁ : d₁.SeedsFit) (h₂ : d₂.SeedsFit)
    (hseeds : d₁.seeds.flatten = d₂.seeds.flatten) (hprogram : d₁.program = d₂.program) :
    d₁ = d₂ := by
  have hkind : d₁.kind = d₂.kind := by
    rw [← kindOfLength_seeds h₁, hseeds, kindOfLength_seeds h₂]
  -- Derivations of two kinds contradict `hkind`; within a kind the seeds are cut at known lengths.
  cases d₁ with
  | metadata program mint =>
    cases d₂ with
    | metadata program' mint' =>
      obtain rfl : program = program' := hprogram
      have hmint : mint.bytes = mint'.bytes := by simpa [seeds] using hseeds
      rw [ByteVec.ext hmint]
    | edition | escrow | constraintModel | tokenAccount => cases hkind
  | edition program mint =>
    cases d₂ with
    | edition program' mint' =>
      obtain rfl : program = program' := hprogram
      have hmint : mint.bytes = mint'.bytes := by simpa [seeds] using hseeds
      rw [ByteVec.ext hmint]
    | metadata | escrow | constraintModel | tokenAccount => cases hkind
  | escrow program mint =>
    cases d₂ with
    | escrow program' mint' =>
      obtain rfl : program = program' := hprogram
      have hmint : mint.bytes = mint'.bytes := by simpa [seeds] using hseeds
      rw [ByteVec.ext hmint]
    | metadata | edition | constraintModel | tokenAccount => cases hkind
  | constraintModel program authority name =>
    cases d₂ with
    | constraintModel program' authority' name' =>
      obtain rfl : program = program' := hprogram
      have hback : authority.bytes ++ Utf8.encode name = authority'.bytes ++ Utf8.encode name' := by
        simpa [seeds] using hseeds
      obtain ⟨rfl, hname⟩ := ByteVec.append_inj hback
      rw [Utf8.encode_injective hname]
    | metadata | edition | escrow | tokenAccount => cases hkind
  | tokenAccount owner mint =>
    cases d₂ with
    | tokenAccount owner' mint' =>
      have hback : owner.bytes ++ (Known.tokenProgram.bytes ++ mint.bytes) =
          owner'.bytes ++ (Known.tokenProgram.bytes ++ mint'.bytes) := by
        simpa [seeds] using hseeds
      obtain ⟨rfl, hmints⟩ := ByteVec.append_inj hback
      obtain ⟨-, hmint⟩ := ByteVec.append_inj hmints
      rw [ByteVec.ext hmint]
    | metadata | edition | escrow | constraintModel => cases hkind

/-- **Nothing is hashed for two derivations**: what is hashed determines the derivation and the
bump. -/
theorem preimage_injective (h₁ : d₁.SeedsFit) (h₂ : d₂.SeedsFit)
    (h : d₁.preimage b₁ = d₂.preimage b₂) : d₁ = d₂ ∧ b₁ = b₂ := by
  obtain ⟨hseeds, hbump, hprogram⟩ := of_preimage_eq h
  exact ⟨eq_of_seeds_eq h₁ h₂ hseeds hprogram, hbump⟩

/-! ## Addresses -/

/-- **Separation**: different derivations never hash the same bytes, whatever the bumps, so two
derivations that find one address are one derivation, or what they hashed is a collision. -/
theorem separated_of_find? {x₁ x₂ : Address} (h₁ : d₁.find? = some (x₁, b₁))
    (h₂ : d₂.find? = some (x₂, b₂)) :
    (d₁ ≠ d₂ → ∀ c₁ c₂, d₁.preimage c₁ ≠ d₂.preimage c₂) ∧
      (x₁ = x₂ → d₁ = d₂ ∨ Sha256.Collide (d₁.preimage b₁) (d₂.preimage b₂)) := by
  obtain ⟨hfit₁, rfl, -⟩ := of_find?_eq_some h₁
  obtain ⟨hfit₂, rfl, -⟩ := of_find?_eq_some h₂
  have hne : d₁ ≠ d₂ → ∀ c₁ c₂, d₁.preimage c₁ ≠ d₂.preimage c₂ :=
    fun hne c₁ c₂ h => hne (preimage_injective hfit₁ hfit₂ h).1
  refine ⟨hne, fun hdigest => ?_⟩
  by_cases hd : d₁ = d₂
  · exact .inl hd
  · exact .inr ⟨hne hd b₁ b₂, hdigest⟩

/-- Two models of one authority, where the name of the second continues that of the first. -/
theorem separated_of_find?_names :
    let d₁ := constraintModel (ByteVec.replicate 32 7) (ByteVec.replicate 32 2) ""
    let d₂ := constraintModel (ByteVec.replicate 32 7) (ByteVec.replicate 32 2) "gold"
    ∃ x₁ x₂ b₁ b₂, d₁.find? = some (x₁, b₁) ∧ d₂.find? = some (x₂, b₂) ∧
      (∀ c₁ c₂, d₁.preimage c₁ ≠ d₂.preimage c₂) ∧
      (x₁ = x₂ → Sha256.Collide (d₁.preimage b₁) (d₂.preimage b₂)) := by
  intro d₁ d₂
  have hfound₁ : d₁.find?.isSome = true := by decide +kernel
  have hfound₂ : d₂.find?.isSome = true := by decide +kernel
  obtain ⟨⟨x₁, b₁⟩, h₁⟩ := Option.isSome_iff_exists.1 hfound₁
  obtain ⟨⟨x₂, b₂⟩, h₂⟩ := Option.isSome_iff_exists.1 hfound₂
  have hne : d₁ ≠ d₂ := by
    intro h
    injection h with _ _ hname
    exact absurd hname (by decide)
  obtain ⟨hpreimage, haddress⟩ := separated_of_find? h₁ h₂
  exact ⟨x₁, x₂, b₁, b₂, h₁, h₂, hpreimage hne, fun h => (haddress h).resolve_left hne⟩

end Derivation

end TokenEscrow

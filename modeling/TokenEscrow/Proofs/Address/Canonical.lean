import Mathlib.Tactic.SplitIfs
import TokenEscrow.Proofs.Address.Search

/-!
# Canonical addresses

Whoever knows the bump of a derived address can derive it in one step, from the
seeds with the bump as one more seed (`Address.ofSeeds?`). Many bumps may do. The
**canonical** one is the largest: with it the seeds name the address, and with any
larger one they name nothing, because the digest is a point of the curve
(`Canonical`). There is at most one canonical address (`Canonical.unique`).

The search tries bumps downwards, so what it keeps true is that every bump above
the current one was rejected (`rejected_of_searchFrom`). It finds exactly the
canonical address of the seeds that stand in the documentation, unless that needs
the bump 0, which is not tried (`find?_eq_some_iff_canonical`).
-/

namespace TokenEscrow

/-! ## Deriving with a bump -/

/-- Most seeds of an address, the bump included. -/
def maxSeeds : Nat := 16

/-- The address that seeds name under a program, the bump being one of the seeds. There is none
when the seeds are too many or one is too long, or when their digest is a point of the curve. -/
def Address.ofSeeds? (seeds : List Bytes) (program : Address) : Option Address :=
  if seeds.length ≤ maxSeeds ∧ ∀ seed ∈ seeds, seed.length ≤ maxSeedLength then
    let digest := Sha256.digest (seeds.flatten ++ program.bytes ++ derivationMarker)
    if isOnCurve digest then none else some digest
  else none

/-- The address that seeds name under a program with the largest bump. -/
structure Canonical (seeds : List Bytes) (program address : Address) (bump : UInt8) : Prop where
  /-- with the bump, the seeds name it -/
  derived : Address.ofSeeds? (seeds ++ [[bump]]) program = some address
  /-- it is no point of the curve -/
  offCurve : isOnCurve address = false
  /-- for every larger bump the digest is a point of the curve -/
  rejected : ∀ b, bump < b → isOnCurve (Sha256.digest
    ((seeds ++ [[b]]).flatten ++ program.bytes ++ derivationMarker)) = true

namespace Canonical

variable {seeds : List Bytes} {program a₁ a₂ : Address} {b₁ b₂ : UInt8}

/-- An address is the digest for its bump, and its seeds are few and short. -/
theorem of_ofSeeds?_eq_some {address : Address}
    (h : Address.ofSeeds? seeds program = some address) :
    Sha256.digest (seeds.flatten ++ program.bytes ++ derivationMarker) = address ∧
      seeds.length ≤ maxSeeds ∧ ∀ seed ∈ seeds, seed.length ≤ maxSeedLength := by
  rw [Address.ofSeeds?] at h
  split_ifs at h with hfit
  dsimp only at h
  split_ifs at h
  exact ⟨Option.some.inj h, hfit⟩

/-- No bump is larger than a canonical one and canonical too. -/
theorem le (h₁ : Canonical seeds program a₁ b₁) (h₂ : Canonical seeds program a₂ b₂) :
    b₂ ≤ b₁ := by
  apply UInt8.not_lt.1
  intro hlt
  have hcurve := h₁.rejected b₂ hlt
  rw [(of_ofSeeds?_eq_some h₂.derived).1, h₂.offCurve] at hcurve
  cases hcurve

/-- **At most one address is canonical** for seeds and a program. -/
theorem unique (h₁ : Canonical seeds program a₁ b₁) (h₂ : Canonical seeds program a₂ b₂) :
    a₁ = a₂ ∧ b₁ = b₂ := by
  have hbump : b₁ = b₂ := UInt8.le_antisymm (h₂.le h₁) (h₁.le h₂)
  subst hbump
  have haddress := h₁.derived.symm.trans h₂.derived
  exact ⟨Option.some.inj haddress, rfl⟩

end Canonical

namespace Derivation

variable {d : Derivation} {address : Address} {bump : UInt8}

/-! ## Documented seeds -/

/-- The seeds that an address is documented to have, and the program that it is derived under. -/
def documented : Derivation → List Bytes × Address
  | metadata program mint => ([Utf8.encode "metadata", program.bytes, mint.bytes], program)
  | edition program mint =>
    ([Utf8.encode "metadata", program.bytes, mint.bytes, Utf8.encode "edition"], program)
  | escrow program mint =>
    ([Utf8.encode "metadata", program.bytes, mint.bytes, Utf8.encode "escrow"], program)
  | constraintModel program authority name =>
    ([Utf8.encode "escrow", authority.bytes, Utf8.encode name], program)
  | tokenAccount owner mint =>
    ([owner.bytes, Known.tokenProgram.bytes, mint.bytes], Known.associatedTokenProgram)

theorem documented_eq (d : Derivation) : d.documented = (d.seeds, d.program) := by
  cases d <;> rfl

theorem length_seeds_lt (d : Derivation) : d.seeds.length < maxSeeds := by
  cases d <;> simp [seeds, maxSeeds]

/-- What is hashed for a bump is what the seeds and the bump amount to. -/
theorem preimage_eq (d : Derivation) (bump : UInt8) :
    d.preimage bump = (d.seeds ++ [[bump]]).flatten ++ d.program.bytes ++ derivationMarker := by
  simp [preimage]

/-- Deriving with a bump gives the digest for that bump, unless it is a point of the curve. -/
theorem ofSeeds?_seeds (hfit : d.SeedsFit) (bump : UInt8) :
    Address.ofSeeds? (d.seeds ++ [[bump]]) d.program =
      if isOnCurve (d.candidate bump) then none else some (d.candidate bump) := by
  have hcount : (d.seeds ++ [[bump]]).length ≤ maxSeeds := by
    rw [List.length_append]
    exact d.length_seeds_lt
  have hlength : ∀ seed ∈ d.seeds ++ [[bump]], seed.length ≤ maxSeedLength := by
    intro seed hseed
    rcases List.mem_append.1 hseed with hseed | hseed
    · exact hfit seed hseed
    · obtain rfl := List.mem_singleton.1 hseed
      exact Nat.le_of_ble_eq_true rfl
  rw [Address.ofSeeds?, if_pos ⟨hcount, hlength⟩, candidate, preimage_eq]

/-! ## The search -/

/-- **What the search keeps true**: it stops off the curve, and rejected every bump above the one
it stops at. -/
theorem rejected_of_searchFrom {n : Nat} (hn : n ≤ maxBump)
    (h : d.searchFrom n = some (address, bump)) :
    isOnCurve address = false ∧
      ∀ m ≤ n, bump.toNat < m → isOnCurve (d.candidate (UInt8.ofNat m)) = true := by
  induction n with
  | zero => cases h
  | succ n ih =>
    rw [searchFrom] at h
    by_cases hcurve : isOnCurve (d.candidate (UInt8.ofNat (n + 1))) = true
    · -- This bump is rejected too, and the search goes on below it.
      rw [if_pos hcurve] at h
      obtain ⟨hoff, hrejected⟩ := ih (Nat.le_of_succ_le hn) h
      refine ⟨hoff, ?_⟩
      intro m hm hbump
      rcases Nat.le_succ_iff.1 hm with hm | rfl
      · exact hrejected m hm hbump
      · exact hcurve
    · rw [if_neg hcurve] at h
      obtain ⟨rfl, rfl⟩ := Prod.mk.inj (Option.some.inj h)
      refine ⟨Bool.eq_false_iff.2 hcurve, ?_⟩
      intro m hm hbump
      rw [UInt8.toNat_ofNat_of_lt' (Nat.succ_lt_succ hn)] at hbump
      exact absurd hm (Nat.not_le_of_lt hbump)

/-- What is found is canonical. -/
theorem canonical_of_find? (h : d.find? = some (address, bump)) :
    Canonical d.seeds d.program address bump := by
  obtain ⟨hfit, hcandidate, -⟩ := of_find?_eq_some h
  have hsearch : d.searchFrom maxBump = some (address, bump) := by
    rwa [find?, if_pos (all_seeds_iff.2 hfit)] at h
  obtain ⟨hoff, hrejected⟩ := rejected_of_searchFrom (Nat.le_refl _) hsearch
  refine ⟨?_, hoff, ?_⟩
  · rw [ofSeeds?_seeds hfit, hcandidate, hoff]
    rfl
  · intro b hb
    have hdigest := hrejected b.toNat (Nat.le_of_lt_succ b.toNat_lt) hb
    rwa [UInt8.ofNat_toNat, candidate, preimage_eq] at hdigest

/-- What is canonical is found, since the search fails on points of the curve only. -/
theorem exists_find?_of_canonical (hbump : bump ≠ 0)
    (h : Canonical d.seeds d.program address bump) : ∃ found, d.find? = some found := by
  obtain ⟨hdigest, -, hlength⟩ := Canonical.of_ofSeeds?_eq_some h.derived
  have hfit : d.SeedsFit := fun seed hseed => hlength seed (List.mem_append_left _ hseed)
  rcases hfind : d.find? with _ | found
  · have hnone : d.address? = none := Option.map_eq_none_iff.2 hfind
    have hcurve := exhausted_of_address?_eq_none hfit hnone bump hbump
    rw [candidate, preimage_eq, hdigest, h.offCurve] at hcurve
    cases hcurve
  · exact ⟨found, rfl⟩

/-- **The search finds canonical addresses, and finds all of them**: it answers with an address and
a bump exactly when the documented seeds name the address with the bump, the address is no point
of the curve, and for every larger bump the digest is; only the bump 0 is never tried. An address
that is asked for without its bump is canonical for some bump. -/
theorem find?_eq_some_iff_canonical (d : Derivation) (address : Address) :
    (∀ bump, d.find? = some (address, bump) ↔
        bump ≠ 0 ∧ Canonical d.documented.1 d.documented.2 address bump) ∧
      (d.address? = some address ↔
        ∃ bump, bump ≠ 0 ∧ Canonical d.documented.1 d.documented.2 address bump) := by
  rw [documented_eq]
  have hiff : ∀ bump, d.find? = some (address, bump) ↔
      bump ≠ 0 ∧ Canonical d.seeds d.program address bump := by
    intro bump
    refine ⟨fun h => ⟨(of_find?_eq_some h).2.2, canonical_of_find? h⟩, ?_⟩
    rintro ⟨hbump, h⟩
    obtain ⟨⟨address', bump'⟩, hfind⟩ := exists_find?_of_canonical hbump h
    obtain ⟨rfl, rfl⟩ := h.unique (canonical_of_find? hfind)
    exact hfind
  refine ⟨hiff, ?_⟩
  rw [address?, Option.map_eq_some_iff]
  constructor
  · rintro ⟨⟨_, bump⟩, hfind, rfl⟩
    exact ⟨bump, (hiff bump).1 hfind⟩
  · rintro ⟨bump, h⟩
    exact ⟨(address, bump), (hiff bump).2 h, rfl⟩

end Derivation

end TokenEscrow

import TokenEscrow.Address.Derived

/-!
# When the search for an address fails

A derivation has no address in two cases only: a seed is too long, or the
digests for all bumps from 255 down to 1 are points of the curve (`Exhausted`,
`address?_eq_none_iff`). The first is decided by the seeds, and the only seed of
variable length is the name of a constraint model (`seedsFit_of_name`).

An address that is found is the digest for the bump that is found with it
(`of_find?_eq_some`).

That all these digests are points of the curve is not to be expected of any derivation.
Where a statement rests on that, it says so (`Viable`), and then the search fails
exactly for a seed that is too long (`find?_eq_none_iff`).
-/

namespace TokenEscrow

namespace Derivation

variable {d : Derivation}

/-! ## Seeds -/

/-- No seed is too long. -/
def SeedsFit (d : Derivation) : Prop := ∀ seed ∈ d.seeds, seed.length ≤ maxSeedLength

/-- Only the name of a constraint model can be too long a seed. -/
theorem seedsFit_of_name (h : ∀ program authority name,
      d = .constraintModel program authority name → (Utf8.encode name).length ≤ maxSeedLength) :
    d.SeedsFit := by
  have hvec : ∀ v : ByteVec 32, v.bytes.length ≤ maxSeedLength :=
    fun v => Nat.le_of_eq v.length_bytes
  have hmetadata : (Utf8.encode metadataSeed).length ≤ maxSeedLength := by decide
  have hedition : (Utf8.encode editionSeed).length ≤ maxSeedLength := by decide
  have hescrow : (Utf8.encode escrowSeed).length ≤ maxSeedLength := by decide
  cases d with
  | metadata program mint => simp [SeedsFit, seeds, hvec, hmetadata]
  | edition program mint => simp [SeedsFit, seeds, hvec, hmetadata, hedition]
  | escrow program mint => simp [SeedsFit, seeds, hvec, hmetadata, hescrow]
  | constraintModel program authority name =>
    simp [SeedsFit, seeds, hvec, hescrow, h program authority name rfl]
  | tokenAccount owner mint => simp [SeedsFit, seeds, hvec]

/-- Whether the seeds of a constraint model fit is a question of its name. -/
theorem seedsFit_constraintModel_iff {program authority : Address} {name : String} :
    (constraintModel program authority name).SeedsFit ↔
      (Utf8.encode name).length ≤ maxSeedLength := by
  constructor
  · intro h
    exact h _ (by simp [seeds])
  · intro h
    refine seedsFit_of_name ?_
    rintro _ _ _ ⟨⟩
    exact h

/-! ## Bumps -/

/-- Every bump that is tried leads to a point of the curve. -/
def Exhausted (d : Derivation) : Prop := ∀ bump, bump ≠ 0 → isOnCurve (d.candidate bump) = true

/-- The search fails when every digest is a point of the curve. -/
theorem searchFrom_eq_none_iff {n : Nat} :
    d.searchFrom n = none ↔ ∀ m < n, isOnCurve (d.candidate (UInt8.ofNat (m + 1))) = true := by
  induction n with
  | zero => simp [searchFrom]
  | succ n ih =>
    rw [searchFrom, Nat.forall_lt_succ_right, ← ih]
    by_cases h : isOnCurve (d.candidate (UInt8.ofNat (n + 1))) = true
    · rw [if_pos h]
      exact (and_iff_left h).symm
    · rw [if_neg h]
      exact iff_of_false nofun fun hall => h hall.2

/-- The bumps that are tried are not 0. -/
theorem bump_ne_zero {n : Nat} (hn : n < maxBump) : UInt8.ofNat (n + 1) ≠ 0 := by
  intro hzero
  have hbump := congrArg UInt8.toNat hzero
  rw [UInt8.toNat_ofNat_of_lt' (Nat.succ_lt_succ hn)] at hbump
  exact Nat.succ_ne_zero n hbump

/-- With all bumps from 255 downwards, the search fails on derivations that are exhausted. -/
theorem searchFrom_maxBump_eq_none_iff : d.searchFrom maxBump = none ↔ d.Exhausted := by
  rw [searchFrom_eq_none_iff]
  constructor
  · intro h bump hbump
    -- The search meets the bump as the successor of the number before it.
    obtain ⟨m, hm⟩ : ∃ m, bump.toNat = m + 1 := by
      apply Nat.exists_eq_succ_of_ne_zero
      intro hzero
      exact hbump (UInt8.toNat_inj.1 hzero)
    have hbound : m + 1 < 256 := hm ▸ bump.toNat_lt
    have hlast := h m (Nat.lt_of_succ_lt_succ hbound)
    rwa [← hm, UInt8.ofNat_toNat] at hlast
  · intro h m hm
    exact h _ (bump_ne_zero hm)

/-- The search stops at a digest, and not for the bump 0. -/
theorem candidate_of_searchFrom_eq_some {n : Nat} (hn : n ≤ maxBump) {address : Address}
    {bump : UInt8} (h : d.searchFrom n = some (address, bump)) :
    d.candidate bump = address ∧ bump ≠ 0 := by
  induction n with
  | zero => cases h
  | succ n ih =>
    rw [searchFrom] at h
    by_cases hcurve : isOnCurve (d.candidate (UInt8.ofNat (n + 1))) = true
    · rw [if_pos hcurve] at h
      exact ih (Nat.le_of_succ_le hn) h
    · rw [if_neg hcurve] at h
      cases h
      exact ⟨rfl, bump_ne_zero hn⟩

/-- The bound on seeds, as it is tested. -/
theorem all_seeds_iff : d.seeds.all (·.length ≤ maxSeedLength) = true ↔ d.SeedsFit := by
  simp [SeedsFit]

/-- **What is found**: no seed was too long, and the address is the digest for the bump. -/
theorem of_find?_eq_some {address : Address} {bump : UInt8} (h : d.find? = some (address, bump)) :
    d.SeedsFit ∧ d.candidate bump = address ∧ bump ≠ 0 := by
  rw [find?] at h
  by_cases hfit : d.SeedsFit
  · rw [if_pos (all_seeds_iff.2 hfit)] at h
    exact ⟨hfit, candidate_of_searchFrom_eq_some (Nat.le_refl _) h⟩
  · rw [if_neg (fun hall => hfit (all_seeds_iff.1 hall))] at h
    cases h

/-- **When there is no address**: a seed is too long, or every digest is a point of the curve. -/
theorem address?_eq_none_iff : d.address? = none ↔ ¬ d.SeedsFit ∨ d.Exhausted := by
  rw [address?, Option.map_eq_none_iff, find?]
  by_cases hfit : d.SeedsFit
  · rw [if_pos (all_seeds_iff.2 hfit), searchFrom_maxBump_eq_none_iff]
    exact (or_iff_right (not_not_intro hfit)).symm
  · rw [if_neg (fun h => hfit (all_seeds_iff.1 h))]
    exact iff_of_true rfl (.inl hfit)

/-- Seeds that fit leave only the curve. -/
theorem exhausted_of_address?_eq_none (hfit : d.SeedsFit) (h : d.address? = none) : d.Exhausted :=
  (address?_eq_none_iff.1 h).resolve_left (not_not_intro hfit)

/-- Some bump that is tried leads off the curve. -/
def Viable (d : Derivation) : Prop := ∃ bump, bump ≠ 0 ∧ isOnCurve (d.candidate bump) = false

/-- A search does not exhaust a derivation with a viable bump. -/
theorem Viable.not_exhausted (h : d.Viable) : ¬ d.Exhausted := by
  obtain ⟨bump, hbump, hoff⟩ := h
  intro hcurve
  rw [hcurve bump hbump] at hoff
  cases hoff

/-- **With a viable bump** only a seed that is too long keeps an address from being found. -/
theorem find?_eq_none_iff (hviable : d.SeedsFit → d.Viable) : d.find? = none ↔ ¬ d.SeedsFit := by
  rw [← Option.map_eq_none_iff (f := Prod.fst), ← address?, address?_eq_none_iff]
  exact or_iff_left_of_imp fun hcurve hfit => (hviable hfit).not_exhausted hcurve

end Derivation

end TokenEscrow

import Mathlib.Data.List.Basic
import TokenEscrow.Text.Unsigned

/-!
# Decimal text

A text denotes a number when it is that number in decimal digits, perhaps behind
a plus sign and with more zeros in front than it needs (`Unsigned.Denotes`).
Reading accepts these texts and no others (`Unsigned.read_eq_ok_iff`), so it
refuses a text for its value only when the number really does not fit.
-/

namespace TokenEscrow

namespace Unsigned

/-- The text of a number: perhaps a plus sign, then decimal digits. -/
def Denotes (text : String) (n : UInt64) : Prop :=
  ∃ digits : List Char, digits ≠ [] ∧ (text.toList = digits ∨ text.toList = '+' :: digits) ∧
    (∀ c ∈ digits, c.isDigit = true) ∧ Nat.ofDigitChars 10 digits 0 = n.toNat

/-- More digits do not make a number smaller. -/
theorem le_ofDigitChars (digits : List Char) (value : Nat) :
    value ≤ Nat.ofDigitChars 10 digits value := by
  induction digits generalizing value with
  | nil => exact Nat.le_of_eq Nat.ofDigitChars_nil.symm
  | cons c digits ih =>
    rw [Nat.ofDigitChars_cons]
    exact Nat.le_trans (by omega) (ih _)

/-- Reading digits never overflows unless the number does not fit. -/
theorem readDigits_eq_ok_iff {value n : Nat} {chars : List Char} (hvalue : value < UInt64.size) :
    readDigits value chars = .ok n ↔
      (∀ c ∈ chars, c.isDigit = true) ∧ Nat.ofDigitChars 10 chars value = n ∧
        n < UInt64.size := by
  induction chars generalizing value with
  | nil =>
    rw [readDigits, Nat.ofDigitChars_nil, Except.ok.injEq]
    constructor
    · rintro rfl
      exact ⟨by simp, rfl, hvalue⟩
    · rintro ⟨-, rfl, -⟩
      rfl
  | cons c chars ih =>
    rw [readDigits, Nat.ofDigitChars_cons, List.forall_mem_cons, Nat.mul_comm 10]
    by_cases hdigit : c.isDigit = true
    · rw [if_pos hdigit]
      by_cases hnext : value * 10 + (c.toNat - '0'.toNat) < UInt64.size
      · simp only [hnext, if_true, ih hnext, hdigit, true_and]
      · simp only [hnext, if_false, reduceCtorEq, hdigit, true_and, false_iff]
        rintro ⟨-, rfl, hn⟩
        exact hnext (Nat.lt_of_le_of_lt (le_ofDigitChars ..) hn)
    · simp only [hdigit, if_false, reduceCtorEq, false_and, Bool.false_eq_true]

/-- The digits of a text as the number. -/
theorem map_readDigits_eq_ok_iff {chars : List Char} {n : UInt64} :
    (readDigits 0 chars).map UInt64.ofNat = .ok n ↔
      (∀ c ∈ chars, c.isDigit = true) ∧ Nat.ofDigitChars 10 chars 0 = n.toNat := by
  constructor
  · intro h
    rcases hvalue : readDigits 0 chars with e | value
    · rw [hvalue] at h
      cases h
    · rw [hvalue] at h
      obtain rfl := Except.ok.inj h
      obtain ⟨hdigits, heq, hlt⟩ := (readDigits_eq_ok_iff (by decide)).1 hvalue
      exact ⟨hdigits, by rw [heq, UInt64.toNat_ofNat_of_lt' hlt]⟩
  · rintro ⟨hdigits, heq⟩
    rw [(readDigits_eq_ok_iff (by decide)).2 ⟨hdigits, heq, n.toNat_lt_size⟩, Except.map,
      UInt64.ofNat_toNat]

/-- A sign is no digit. -/
theorem not_denotes_plus {text : String} {n : UInt64} (h : text.toList = ['+']) :
    ¬ Denotes text n := by
  rintro ⟨digits, hne, htext | htext, hdigits, -⟩
  · have hplus := hdigits '+' (by rw [← htext, h]; exact List.mem_singleton_self _)
    exact absurd hplus (by decide)
  · exact hne (List.cons.inj (htext.symm.trans h)).2

/-- **Decimal texts**: a text is read as a number exactly if it denotes that number. -/
theorem read_eq_ok_iff {text : String} {n : UInt64} : read text = .ok n ↔ Denotes text n := by
  rw [read]
  split
  next htext =>
    refine iff_of_false nofun ?_
    rintro ⟨digits, hne, hdigits | hdigits, -⟩
    · exact hne (hdigits.symm.trans htext)
    · cases hdigits.symm.trans htext
  next htext => exact iff_of_false nofun (not_denotes_plus htext)
  next rest hrest htext =>
    rw [map_readDigits_eq_ok_iff]
    constructor
    · rintro ⟨hdigits, hvalue⟩
      exact ⟨rest, hrest, .inr htext, hdigits, hvalue⟩
    · rintro ⟨digits, -, hdigits | hdigits, hall, hvalue⟩
      · have hplus := hall '+' (by rw [← hdigits, htext]; exact List.mem_cons_self)
        exact absurd hplus (by decide)
      · obtain rfl := (List.cons.inj (hdigits.symm.trans htext)).2
        exact ⟨hall, hvalue⟩
  next _ hne _ hsign =>
    rw [map_readDigits_eq_ok_iff]
    constructor
    · rintro ⟨hdigits, hvalue⟩
      exact ⟨_, hne, .inl rfl, hdigits, hvalue⟩
    · rintro ⟨digits, -, hdigits | hdigits, hall, hvalue⟩
      · rw [hdigits]
        exact ⟨hall, hvalue⟩
      · exact absurd hdigits (hsign _)

/-- A text denotes one number at most. -/
theorem Denotes.unique {text : String} {n n' : UInt64} (h : Denotes text n)
    (h' : Denotes text n') : n = n' := by
  have hread := read_eq_ok_iff.2 h
  rw [read_eq_ok_iff.2 h'] at hread
  exact (Except.ok.inj hread).symm

/-- The shortest text of a number denotes it. -/
theorem denotes_toString (n : UInt64) : Denotes (toString n.toNat) n := by
  refine ⟨Nat.toDigits 10 n.toNat, Nat.toDigits_ne_nil, .inl ?_, ?_, ?_⟩
  · exact Nat.toList_repr
  · intro c hc
    exact Nat.isDigit_of_mem_toDigits (by decide) (by decide) hc
  · exact Nat.ofDigitChars_ten_toDigits

end Unsigned

end TokenEscrow

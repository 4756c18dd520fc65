import TokenEscrow.Command.Basic
import TokenEscrow.Proofs.Bytes.Base58
import TokenEscrow.Proofs.CommandLine.Accepted
import TokenEscrow.Proofs.Text.Unsigned

/-!
# The values of options

Every value is read twice, once to check it and once for the command. The two
readings agree: where a text was accepted, the command finds the address or the
number that the text stands for (`Level.Accepted.exists_address`,
`Level.Accepted.exists_number`). A fallback is found only where no text was given
(`Level.Accepted.exists_number_of_fallback`).
-/

namespace TokenEscrow

namespace Matches

variable {ms : Matches} {name text : String}

theorem address?_of_value? (h : ms.value? name = some text) :
    ms.address? name = (Address.read text).toOption := by
  rw [address?, h]
  rfl

theorem number?_of_value? (h : ms.value? name = some text) :
    ms.number? name = (Unsigned.read text).toOption := by
  rw [number?, h]
  rfl

end Matches

/-! ## Checks -/

namespace Level

variable {o : OptionSpec} {ms : Matches} {texts : List String} {text : String}

/-- A text that passes as an address is the text of one. -/
theorem exists_address_of_checkValue (hrule : o.rule = .address)
    (h : checkValue o text = .ok ()) : ∃ a : Address, text = a.toText := by
  rcases hread : Address.read text with e | a
  · simp only [checkValue, hrule, ValueRule.fault?, hread] at h
    cases h
  · exact ⟨a, Address.read_eq_ok_iff.1 hread⟩

/-- A text that passes as a number denotes one. -/
theorem exists_number_of_checkValue (hrule : o.rule = .unsigned)
    (h : checkValue o text = .ok ()) : ∃ n, Unsigned.read text = .ok n := by
  rcases hread : Unsigned.read text with e | n
  · simp only [checkValue, hrule, ValueRule.fault?, hread] at h
    cases h
  · exact ⟨n, rfl⟩

/-- A text that passes as a choice is one. -/
theorem mem_of_checkValue {choices : List String} (hrule : o.rule = .oneOf choices)
    (h : checkValue o text = .ok ()) : text ∈ choices := by
  simp only [checkValue, hrule] at h
  split_ifs at h with hmem
  exact List.contains_iff_mem.1 hmem

/-! ## Options -/

namespace Accepted

/-- An option without a fallback has the values that were given. -/
theorem values_eq (h : Accepted o ms texts) (hfallback : o.fallback = none) :
    ms.values o.name = texts := by
  rw [h.values, hfallback]
  rcases texts with _ | ⟨text, texts⟩ <;> rfl

/-- At most one text is given for an option that may not be repeated. -/
theorem eq_toList (h : Accepted o ms texts) (hsingle : o.repeatable = false) :
    texts = texts.head?.toList := by
  have hlength := h.single hsingle
  rcases texts with _ | ⟨text, _ | ⟨text', texts⟩⟩
  · rfl
  · rfl
  · simp at hlength

/-- One text is given for an option that has to be there. -/
theorem exists_text (h : Accepted o ms texts) (hfallback : o.fallback = none)
    (hsingle : o.repeatable = false) (hthere : ms.values o.name ≠ []) :
    ∃ text, texts = [text] ∧ ms.value? o.name = some text ∧ checkValue o text = .ok () := by
  have hvalues := h.values_eq hfallback
  rw [hvalues] at hthere
  obtain ⟨text, htext⟩ := Option.ne_none_iff_exists'.1 (mt List.head?_eq_none_iff.1 hthere)
  have htexts := h.eq_toList hsingle
  rw [htext, Option.toList_some] at htexts
  subst htexts
  refine ⟨text, rfl, ?_, h.valid text ?_⟩
  · rw [Matches.value?_eq, hvalues]
    rfl
  · rw [hvalues]
    exact List.mem_singleton_self text

/-- **An address that has to be there** is given by its text. -/
theorem exists_address (h : Accepted o ms texts) (hrule : o.rule = .address)
    (hfallback : o.fallback = none) (hsingle : o.repeatable = false)
    (hthere : ms.values o.name ≠ []) :
    ∃ a, ms.address? o.name = some a ∧ texts = [a.toText] := by
  obtain ⟨text, rfl, hvalue, hcheck⟩ := h.exists_text hfallback hsingle hthere
  obtain ⟨a, rfl⟩ := exists_address_of_checkValue hrule hcheck
  refine ⟨a, ?_, rfl⟩
  rw [Matches.address?_of_value? hvalue, Address.read_eq_ok_iff.2 rfl]
  rfl

/-- **An address that need not be there** is given by its text when it is. -/
theorem address?_eq (h : Accepted o ms texts) (hrule : o.rule = .address)
    (hfallback : o.fallback = none) (hsingle : o.repeatable = false) :
    texts = ((ms.address? o.name).map ByteVec.toText).toList := by
  by_cases hthere : ms.values o.name = []
  · rw [Matches.address?, Matches.value?_eq, hthere, ← h.values_eq hfallback, hthere]
    rfl
  · obtain ⟨a, ha, rfl⟩ := h.exists_address hrule hfallback hsingle hthere
    rw [ha]
    rfl

/-- **A number that has to be there** is given by a text that denotes it. -/
theorem exists_number (h : Accepted o ms texts) (hrule : o.rule = .unsigned)
    (hfallback : o.fallback = none) (hsingle : o.repeatable = false)
    (hthere : ms.values o.name ≠ []) :
    ∃ n text, ms.number? o.name = some n ∧ texts = [text] ∧ Unsigned.Denotes text n := by
  obtain ⟨text, rfl, hvalue, hcheck⟩ := h.exists_text hfallback hsingle hthere
  obtain ⟨n, hread⟩ := exists_number_of_checkValue hrule hcheck
  refine ⟨n, text, ?_, rfl, Unsigned.read_eq_ok_iff.1 hread⟩
  rw [Matches.number?_of_value? hvalue, hread]
  rfl

/-- Where there is a fallback, it is the value only when no text is given. -/
theorem exists_text_of_fallback {fallback : String} (h : Accepted o ms texts)
    (hfallback : o.fallback = some fallback) (hsingle : o.repeatable = false) :
    ∃ text, ms.value? o.name = some text ∧ checkValue o text = .ok () ∧
      (texts = [] ∧ text = fallback ∨ texts = [text]) := by
  have hvalues := h.values
  have htexts := h.eq_toList hsingle
  rcases texts with _ | ⟨text, texts⟩
  · rw [if_pos rfl, hfallback] at hvalues
    refine ⟨fallback, ?_, h.valid fallback ?_, .inl ⟨rfl, rfl⟩⟩
    · rw [Matches.value?_eq, hvalues]
      rfl
    · rw [hvalues]
      exact List.mem_singleton_self fallback
  · rw [if_neg (List.cons_ne_nil text texts)] at hvalues
    refine ⟨text, ?_, h.valid text ?_, .inr htexts⟩
    · rw [Matches.value?_eq, hvalues]
      rfl
    · rw [hvalues]
      exact List.mem_cons_self

/-- **A number with a fallback** is the fallback only when none is given. -/
theorem exists_number_of_fallback {fallback : String} {default : UInt64}
    (h : Accepted o ms texts) (hrule : o.rule = .unsigned) (hfallback : o.fallback = some fallback)
    (hdefault : Unsigned.read fallback = .ok default) (hsingle : o.repeatable = false) :
    ∃ n, ms.number? o.name = some n ∧
      (texts = [] ∧ n = default ∨ ∃ text, texts = [text] ∧ Unsigned.Denotes text n) := by
  obtain ⟨text, hvalue, hcheck, htext⟩ := h.exists_text_of_fallback hfallback hsingle
  obtain ⟨n, hread⟩ := exists_number_of_checkValue hrule hcheck
  refine ⟨n, ?_, ?_⟩
  · rw [Matches.number?_of_value? hvalue, hread]
    rfl
  · rcases htext with ⟨rfl, rfl⟩ | rfl
    · exact .inl ⟨rfl, Except.ok.inj (hread.symm.trans hdefault)⟩
    · exact .inr ⟨text, rfl, Unsigned.read_eq_ok_iff.1 hread⟩

/-- **Addresses of an option that may be repeated** are given by their texts, one after the
other. -/
theorem exists_addresses (h : Accepted o ms texts) (hrule : o.rule = .address)
    (hfallback : o.fallback = none) (hthere : ms.values o.name ≠ []) :
    ∃ mints, ms.addresses? o.name = some mints ∧ mints ≠ [] ∧
      texts = mints.map ByteVec.toText := by
  have hread : ∀ texts, (∀ text ∈ texts, checkValue o text = .ok ()) →
      ∃ mints : List Address, (texts.mapM fun text => (Address.read text).toOption) = some mints ∧
        texts = mints.map ByteVec.toText := by
    intro texts hvalid
    induction texts with
    | nil => exact ⟨[], rfl, rfl⟩
    | cons text texts ih =>
      obtain ⟨hcheck, hrest⟩ := List.forall_mem_cons.1 hvalid
      obtain ⟨mint, rfl⟩ := exists_address_of_checkValue hrule hcheck
      obtain ⟨mints, hmints, rfl⟩ := ih hrest
      refine ⟨mint :: mints, ?_, rfl⟩
      rw [List.mapM_cons, hmints, Address.read_eq_ok_iff.2 rfl]
      rfl
  obtain ⟨mints, hmints, heq⟩ := hread _ h.valid
  refine ⟨mints, ?_, ?_, (h.values_eq hfallback).symm.trans heq⟩
  · rw [Matches.addresses?, if_pos (h.has_iff.2 hthere), hmints]
  · rintro rfl
    exact hthere heq

end Accepted

end Level

end TokenEscrow

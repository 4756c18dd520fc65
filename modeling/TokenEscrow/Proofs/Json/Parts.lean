import TokenEscrow.Json.Printer
import TokenEscrow.Json.Reader
import TokenEscrow.Proofs.Text.Unsigned

/-!
# Texts and numbers in documents

What a document is written with is read back: every text, whatever characters it
is made of (`quoted_quoteChars`), and every number but fractions
(`number_chars`). Fractions are left out because double precision arithmetic
cannot be reasoned about.

A text ends with its quote. A number ends where nothing follows that it could go
on with (`Reader.Ends`).
-/

namespace TokenEscrow.Json

/-! ## Texts -/

theorem hexValue?_hexDigit : ∀ n < 16, Reader.hexValue? (hexDigit n) = some n := by decide

namespace Reader

variable {text rest : List Char} {done : List Char} {c : Char}

/-- The four digits of a character that has to be escaped by its number. -/
theorem hex4_hexDigits {n : Nat} (hn : n < 256) :
    hex4 ('0' :: '0' :: hexDigit (n / 16) :: hexDigit (n % 16) :: rest) = .ok (n, rest) := by
  have hvalue : hexValue4? '0' '0' (hexDigit (n / 16)) (hexDigit (n % 16)) = some n := by
    have hzero : hexValue? '0' = some 0 := hexValue?_hexDigit 0 (by decide)
    have hhigh := hexValue?_hexDigit (n / 16) (by omega)
    have hlow := hexValue?_hexDigit (n % 16) (by omega)
    simp only [hexValue4?, hzero, hhigh, hlow, Option.bind_eq_bind, Option.bind_some,
      Option.pure_def, Option.some.injEq]
    omega
  rw [hex4, hvalue]

theorem numericEscape_hexDigits (hc : c.toNat < 0x20) :
    numericEscape ('0' :: '0' :: hexDigit (c.toNat / 16) :: hexDigit (c.toNat % 16) :: rest) =
      .ok (c, rest) := by
  rw [numericEscape, hex4_hexDigits (by omega)]
  simp only
  rw [if_neg (by omega), if_neg (by omega), Char.ofNat_toNat]

/-- A character behind a backslash. -/
theorem quotedOnto_backslash (h : escape text = .ok (c, rest)) :
    quotedOnto done ('\\' :: text) = quotedOnto (c :: done) rest := by
  rw [quotedOnto]
  simp only [Char.reduceEq, if_false, if_true]
  split
  · next e rest' he =>
    obtain ⟨rfl, rfl⟩ := Prod.mk.inj (Except.ok.inj (h.symm.trans he))
    rfl
  · next he => cases h.symm.trans he

/-- **One character**: however a character is written in a text, it is read as itself. -/
theorem quotedOnto_escapeChar (c : Char) :
    quotedOnto done (escapeChar c ++ rest) = quotedOnto (c :: done) rest := by
  unfold escapeChar
  split_ifs with hquote hb hf hn hr ht hcontrol
  · obtain rfl | rfl := hquote <;> exact quotedOnto_backslash rfl
  · exact hb ▸ quotedOnto_backslash rfl
  · exact hf ▸ quotedOnto_backslash rfl
  · exact hn ▸ quotedOnto_backslash rfl
  · exact hr ▸ quotedOnto_backslash rfl
  · exact ht ▸ quotedOnto_backslash rfl
  · exact quotedOnto_backslash (numericEscape_hexDigits hcontrol)
  · rw [not_or] at hquote
    rw [List.singleton_append, quotedOnto, if_neg hquote.1, if_neg hquote.2, if_neg hcontrol]

theorem quotedOnto_flatMap (chars : List Char) :
    quotedOnto done (chars.flatMap escapeChar ++ '"' :: rest) =
      .ok (String.ofList (done.reverse ++ chars), rest) := by
  induction chars generalizing done with
  | nil =>
    rw [List.flatMap_nil, List.nil_append, quotedOnto, if_pos rfl, List.append_nil]
  | cons c chars ih =>
    rw [List.flatMap_cons, List.append_assoc, quotedOnto_escapeChar, ih, List.reverse_cons,
      List.append_assoc, List.singleton_append]

/-- **Every text is read back**, from behind its first quote. -/
theorem quoted_quoteChars (s : String) :
    ∃ chars, quoteChars s = '"' :: chars ∧ ∀ rest, quoted (chars ++ rest) = .ok (s, rest) := by
  refine ⟨s.toList.flatMap escapeChar ++ ['"'], rfl, fun rest => ?_⟩
  rw [List.append_assoc, List.singleton_append, quoted, quotedOnto_flatMap, List.reverse_nil,
    List.nil_append, String.ofList_toList]

/-! ## Numbers -/

/-- Nothing that a number could go on with stands in front. -/
def Ends (rest : List Char) : Prop :=
  ∀ c more, rest = c :: more → c.isDigit = false ∧ c ≠ '.' ∧ c ≠ 'e' ∧ c ≠ 'E'

theorem ends_nil : Ends [] := nofun

/-- Blanks, commas and brackets end a number. -/
theorem ends_cons (h : isBlank c = true ∨ c = ',' ∨ c = ']' ∨ c = '\x7d') : Ends (c :: rest) := by
  rintro _ _ ⟨⟩
  rw [isBlank] at h
  simp only [Bool.or_eq_true, beq_iff_eq] at h
  obtain (((rfl | rfl) | rfl) | rfl) | rfl | rfl | rfl := h <;> decide

/-- Digits are taken as long as the number they make stays below the bound. -/
theorem absorb_eq {bound value : Nat} {digits : List Char}
    (h : Nat.ofDigitChars 10 digits value < bound) :
    absorb bound value digits = (Nat.ofDigitChars 10 digits value, digits.length) := by
  induction digits generalizing value with
  | nil => rw [absorb, Nat.ofDigitChars_nil, List.length_nil]
  | cons c digits ih =>
    rw [Nat.ofDigitChars_cons, Nat.mul_comm 10] at h ⊢
    have hnext : value * 10 + digitValue c < bound :=
      Nat.lt_of_le_of_lt (Unsigned.le_ofDigitChars ..) h
    have hrest : absorb bound (value * 10 + digitValue c) digits = _ := ih h
    simp only [absorb, hnext, if_true, hrest]
    rfl

/-- No number but zero begins with a zero. -/
theorem head?_toDigits_ne {n : Nat} (hn : 0 < n) : (Nat.toDigits 10 n).head? ≠ some '0' := by
  have hdigit : ∀ n < 10, 0 < n → [n.digitChar].head? ≠ some '0' := by decide
  induction n using Nat.strongRecOn with
  | _ n ih =>
    rcases Nat.lt_or_ge n 10 with hlt | hge
    · rw [Nat.toDigits_of_lt_base hlt]
      exact hdigit n hlt hn
    · rw [Nat.toDigits_of_base_le (by decide) hge,
        List.head?_append_of_ne_nil _ Nat.toDigits_ne_nil]
      exact ih (n / 10) (by omega) (by omega)

theorem exists_toDigits_eq_cons (n : Nat) :
    ∃ c digits, Nat.toDigits 10 n = c :: digits ∧ c.isDigit = true := by
  rcases hdigits : Nat.toDigits 10 n with _ | ⟨c, digits⟩
  · exact absurd hdigits Nat.toDigits_ne_nil
  · have hmem : c ∈ Nat.toDigits 10 n := hdigits ▸ List.mem_cons_self
    exact ⟨c, digits, rfl, Nat.isDigit_of_mem_toDigits (by decide) (by decide) hmem⟩

/-- The digits of a number and what ends them are told apart. -/
theorem span_toDigits (n : Nat) (h : Ends rest) :
    (Nat.toDigits 10 n ++ rest).takeWhile Char.isDigit = Nat.toDigits 10 n ∧
      (Nat.toDigits 10 n ++ rest).dropWhile Char.isDigit = rest := by
  have hdigits : ∀ c ∈ Nat.toDigits 10 n, c.isDigit = true := fun c hc =>
    Nat.isDigit_of_mem_toDigits (by decide) (by decide) hc
  rw [List.takeWhile_append_of_pos hdigits, List.dropWhile_append_of_pos hdigits]
  rcases rest with _ | ⟨c, more⟩
  · simp
  · simp [h c more rfl]

/-- A whole number without its sign. -/
theorem magnitude_toDigits {negative : Bool} {n : Nat} (hn : n < UInt64.size) (h : Ends rest) :
    magnitude negative (Nat.toDigits 10 n ++ rest) = .ok (whole negative n, rest) := by
  obtain ⟨htake, hdrop⟩ := span_toDigits n h
  have hall : absorb UInt64.size 0 (Nat.toDigits 10 n) = (n, (Nat.toDigits 10 n).length) := by
    rw [absorb_eq (by rwa [Nat.ofDigitChars_ten_toDigits]), Nat.ofDigitChars_ten_toDigits]
  obtain ⟨c, digits, hdigits, hc⟩ := exists_toDigits_eq_cons n
  -- digits behind a zero would be refused
  have hzero : ¬ (c = '0' ∧ 1 < (c :: digits).length) := by
    rintro ⟨rfl, hlength⟩
    rcases Nat.eq_zero_or_pos n with rfl | hpos
    · rw [← hdigits] at hlength
      exact absurd hlength (by decide)
    · exact head?_toDigits_ne hpos (by rw [hdigits]; rfl)
  rw [hdigits] at htake hdrop hall ⊢
  rw [List.cons_append] at htake hdrop ⊢
  rw [magnitude, if_neg (by simp [hc]), htake, hdrop, if_neg hzero, hall]
  simp only [Nat.sub_self, if_true]
  -- what follows is neither a decimal point nor an exponent
  split
  · exact absurd rfl (h _ _ rfl).2.1
  · exact absurd rfl (h _ _ rfl).2.2.1
  · exact absurd rfl (h _ _ rfl).2.2.2
  · rfl

theorem number_of_ne (h : c ≠ '-') : number (c :: rest) = magnitude false (c :: rest) := by
  rw [number]
  rintro more ⟨⟩
  exact h rfl

end Reader

/-- Whole numbers, each in one form: what is called negative is. -/
def Number.IsWhole : Number → Prop
  | natural _ => True
  | negative n => n.toInt < 0
  | fraction _ => False

/-- The digits of a whole number behind its sign. -/
theorem Number.chars_of_isWhole {n : Number} (h : n.IsWhole) :
    ∃ magnitude < UInt64.size, ∃ signed : Bool, Reader.whole signed magnitude = n ∧
      n.chars = (if signed then ['-'] else []) ++ Nat.toDigits 10 magnitude := by
  cases n with
  | natural n =>
    refine ⟨n.toNat, n.toNat_lt_size, false, ?_, Nat.toList_repr⟩
    simp [Reader.whole]
  | negative n =>
    obtain ⟨m, hm⟩ := Int.eq_negSucc_of_lt_zero h
    have hbound : m + 1 ≤ 2 ^ 63 := by
      have := n.le_toInt
      omega
    refine ⟨m + 1, Nat.lt_of_le_of_lt hbound (by decide), true, ?_, ?_⟩
    · have hvalue : Int64.ofInt (-((m + 1 : Nat) : Int)) = n := by
        change Int64.ofInt (Int.negSucc m) = n
        rw [← hm, Int64.ofInt_toInt]
      simp only [Reader.whole, Bool.not_true, Bool.false_eq_true, if_false]
      rw [if_pos ⟨Nat.succ_pos m, hbound⟩, hvalue]
    · rw [chars, text, hm]
      exact String.toList_append.trans (congrArg _ Nat.toList_repr)
  | fraction bits => exact h.elim

/-- A number begins with its sign or with a digit. -/
theorem Number.exists_chars_eq_cons {n : Number} (h : n.IsWhole) :
    ∃ c chars, n.chars = c :: chars ∧ (c = '-' ∨ c.isDigit = true) := by
  obtain ⟨magnitude, -, signed, -, hchars⟩ := chars_of_isWhole h
  obtain ⟨c, digits, hdigits, hc⟩ := Reader.exists_toDigits_eq_cons magnitude
  rw [hchars, hdigits]
  cases signed with
  | true => exact ⟨'-', c :: digits, rfl, .inl rfl⟩
  | false => exact ⟨c, digits, rfl, .inr hc⟩

/-- **Every whole number is read back**, whatever ends it. -/
theorem Reader.number_chars {n : Number} (hn : n.IsWhole) {rest : List Char} (h : Ends rest) :
    number (n.chars ++ rest) = .ok (n, rest) := by
  obtain ⟨magnitude, hbound, signed, rfl, hchars⟩ := Number.chars_of_isWhole hn
  have hread : Reader.magnitude signed (Nat.toDigits 10 magnitude ++ rest) = _ :=
    magnitude_toDigits hbound h
  rw [hchars]
  cases signed with
  | true => exact hread
  | false =>
    obtain ⟨c, digits, hdigits, hc⟩ := exists_toDigits_eq_cons magnitude
    rw [hdigits] at hread ⊢
    refine (number_of_ne ?_).trans hread
    rintro rfl
    cases hc

end TokenEscrow.Json

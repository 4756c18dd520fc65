import Mathlib.Data.Nat.Digits.Lemmas
import TokenEscrow.Bytes.Base58

/-!
# Base58 text is canonical

Every byte string has one text, and reading accepts no other
(`Base58.decode?_eq_some_iff`). So a text that is accepted is the text of what
was read, letter by letter, and what a program prints is read back.

Both directions are one change of base (`rebase`), between 256 and 58, which
keeps leading zeros apart from the value of the other digits. Going there and
back is the identity (`rebase_rebase`). For addresses and signatures it remains
to see that their texts are short enough to be looked at (`length_encode_le`).
-/

namespace TokenEscrow

/-! ## Numbers in a base -/

theorem digitsOf_eq {base : Nat} (hbase : 1 < base) (value : Nat) :
    digitsOf base value = (Nat.digits base value).reverse := by
  have honto : ∀ value digits,
      digitsOnto base value digits = (Nat.digits base value).reverse ++ digits := by
    intro value
    induction value using Nat.strong_induction_on with
    | _ value ih =>
      intro digits
      rw [digitsOnto]
      split_ifs with h
      · obtain rfl : value = 0 := h.resolve_right (Nat.not_lt_of_le hbase)
        rw [Nat.digits_zero]
        rfl
      · have hpos : 0 < value := Nat.pos_of_ne_zero fun hzero => h (.inl hzero)
        rw [ih _ (Nat.div_lt_self hpos hbase), Nat.digits_def' hbase hpos, List.reverse_cons,
          List.append_assoc]
        rfl
  rw [digitsOf, honto, List.append_nil]

theorem ofDigits_eq (base : Nat) (digits : List Nat) :
    ofDigits base digits = Nat.ofDigits base digits.reverse := by
  induction digits using List.reverseRecOn with
  | nil => rfl
  | append_singleton digits digit ih =>
    rw [ofDigits, List.foldl_append, ← ofDigits, ih, List.reverse_append, List.reverse_singleton,
      List.singleton_append, Nat.ofDigits_cons, List.foldl_cons, List.foldl_nil]
    exact (Nat.add_comm _ _).trans (congrArg _ (Nat.mul_comm _ _))

/-- Leading zeros have no value. -/
theorem ofDigits_replicate_zero_append (base zeros : Nat) (digits : List Nat) :
    ofDigits base (List.replicate zeros 0 ++ digits) = ofDigits base digits := by
  rw [ofDigits_eq, ofDigits_eq, List.reverse_append, List.reverse_replicate,
    Nat.ofDigits_append_replicate_zero]

/-- The digits of a number have its value. -/
theorem ofDigits_digitsOf {base : Nat} (hbase : 1 < base) (value : Nat) :
    ofDigits base (digitsOf base value) = value := by
  rw [ofDigits_eq, digitsOf_eq hbase, List.reverse_reverse, Nat.ofDigits_digits]

/-- Digits that do not start with a zero are those of their value. -/
theorem digitsOf_ofDigits {base : Nat} (hbase : 1 < base) {digits : List Nat}
    (hlt : ∀ digit ∈ digits, digit < base) (hhead : digits.head? ≠ some 0) :
    digitsOf base (ofDigits base digits) = digits := by
  rw [digitsOf_eq hbase, ofDigits_eq, Nat.digits_ofDigits base hbase, List.reverse_reverse]
  · intro digit hdigit
    exact hlt digit (List.mem_reverse.1 hdigit)
  · intro hne hzero
    refine hhead ?_
    rw [List.head?_eq_some_head (List.reverse_ne_nil_iff.1 hne), ← hzero, List.getLast_reverse]

theorem lt_of_mem_digitsOf {base value digit : Nat} (hbase : 1 < base)
    (h : digit ∈ digitsOf base value) : digit < base := by
  rw [digitsOf_eq hbase, List.mem_reverse] at h
  exact Nat.digits_lt_base hbase h

/-- The digits of a number do not start with a zero. -/
theorem head?_digitsOf {base : Nat} (hbase : 1 < base) (value : Nat) :
    (digitsOf base value).head? ≠ some 0 := by
  rw [digitsOf_eq hbase]
  intro h
  rw [List.head?_reverse, List.getLast?_eq_some_iff] at h
  obtain ⟨digits, hdigits⟩ := h
  have hvalue : value ≠ 0 := by
    rintro rfl
    rw [Nat.digits_zero] at hdigits
    exact List.cons_ne_nil _ _ (List.append_eq_nil_iff.1 hdigits.symm).2
  have hlast := Nat.getLast_digit_ne_zero base hvalue
  simp only [hdigits, List.getLast_append_singleton, ne_eq, not_true_eq_false] at hlast

/-! ## Changing the base -/

/-- Digits in another base, where leading zeros are kept. -/
def rebase (base other : Nat) (digits : List Nat) : List Nat :=
  digits.takeWhile (· == 0) ++ digitsOf other (ofDigits base digits)

/-- Digits are leading zeros and others. -/
theorem exists_zeros (digits : List Nat) :
    ∃ zeros rest, digits = List.replicate zeros 0 ++ rest ∧ rest.head? ≠ some 0 := by
  induction digits with
  | nil => exact ⟨0, [], rfl, by simp⟩
  | cons digit digits ih =>
    by_cases hzero : digit = 0
    · obtain ⟨zeros, rest, rfl, hrest⟩ := ih
      exact ⟨zeros + 1, rest, by rw [hzero, List.replicate_succ, List.cons_append], hrest⟩
    · exact ⟨0, digit :: digits, rfl, by simpa using hzero⟩

/-- What a change of base does to leading zeros and to the others. -/
theorem rebase_append {base other zeros : Nat} {rest : List Nat} (hrest : rest.head? ≠ some 0) :
    rebase base other (List.replicate zeros 0 ++ rest) =
      List.replicate zeros 0 ++ digitsOf other (ofDigits base rest) := by
  have hstop : rest.takeWhile (· == 0) = [] := by
    cases rest with
    | nil => rfl
    | cons digit rest =>
      have hne : ¬ (digit == 0) = true := fun h => hrest (congrArg some (beq_iff_eq.1 h))
      exact List.takeWhile_cons_of_neg hne
  have hzeros : ∀ digit ∈ List.replicate zeros 0, (digit == 0) = true := by
    intro digit hdigit
    exact beq_iff_eq.2 (List.eq_of_mem_replicate hdigit)
  rw [rebase, ofDigits_replicate_zero_append, List.takeWhile_append_of_pos hzeros, hstop,
    List.append_nil]

/-- **There and back**: changing the base and changing it back again changes nothing. -/
theorem rebase_rebase {base other : Nat} (hbase : 1 < base) (hother : 1 < other)
    {digits : List Nat} (hlt : ∀ digit ∈ digits, digit < base) :
    rebase other base (rebase base other digits) = digits := by
  obtain ⟨zeros, rest, rfl, hrest⟩ := exists_zeros digits
  rw [rebase_append hrest, rebase_append (head?_digitsOf hother _), ofDigits_digitsOf hother,
    digitsOf_ofDigits hbase (fun digit h => hlt digit (List.mem_append_right _ h)) hrest]

/-- Digits in another base are below it. -/
theorem lt_of_mem_rebase {base other : Nat} (hother : 1 < other) {digits : List Nat} {digit : Nat}
    (h : digit ∈ rebase base other digits) : digit < other := by
  obtain ⟨zeros, rest, rfl, hrest⟩ := exists_zeros digits
  rw [rebase_append hrest, List.mem_append] at h
  rcases h with h | h
  · rw [List.eq_of_mem_replicate h]
    exact Nat.zero_lt_of_lt hother
  · exact lt_of_mem_digitsOf hother h

/-- When a base is no larger than the other, numbers of a certain length there are no longer here
than all of them need. -/
theorem length_rebase_le {base other limit : Nat} (hother : 1 < other) (hle : other ≤ base)
    {digits : List Nat} (hlt : ∀ digit ∈ digits, digit < base)
    (hlimit : base ^ digits.length ≤ other ^ limit) :
    (rebase base other digits).length ≤ limit := by
  obtain ⟨zeros, rest, rfl, hrest⟩ := exists_zeros digits
  rw [List.length_append, List.length_replicate] at hlimit
  have hzeros : zeros ≤ limit := by
    refine (Nat.pow_le_pow_iff_right hother).1 (Nat.le_trans ?_ hlimit)
    exact Nat.le_trans (Nat.pow_le_pow_left hle _)
      (Nat.pow_le_pow_right (Nat.zero_lt_of_lt (Nat.lt_of_lt_of_le hother hle)) (by omega))
  -- The zeros take up as much room in the smaller base, so what is left of it has to suffice.
  have hroom : base ^ rest.length ≤ other ^ (limit - zeros) := by
    refine Nat.le_of_mul_le_mul_left ?_ (Nat.pow_pos (n := zeros) (Nat.zero_lt_of_lt hother))
    calc other ^ zeros * base ^ rest.length
      _ ≤ base ^ zeros * base ^ rest.length :=
        Nat.mul_le_mul_right _ (Nat.pow_le_pow_left hle _)
      _ = base ^ (zeros + rest.length) := (Nat.pow_add ..).symm
      _ ≤ other ^ limit := hlimit
      _ = other ^ zeros * other ^ (limit - zeros) := by
        rw [← Nat.pow_add, Nat.add_sub_cancel' hzeros]
  have hvalue : ofDigits base rest < base ^ rest.length := by
    rw [ofDigits_eq, ← List.length_reverse]
    refine Nat.ofDigits_lt_base_pow_length (Nat.lt_of_lt_of_le hother hle) ?_
    intro digit hdigit
    exact hlt digit (List.mem_append_right _ (List.mem_reverse.1 hdigit))
  have hlength : (digitsOf other (ofDigits base rest)).length ≤ limit - zeros := by
    rw [digitsOf_eq hother, List.length_reverse]
    exact (Nat.digits_length_le_iff hother _).2 (Nat.lt_of_lt_of_le hvalue hroom)
  rw [rebase_append hrest, List.length_append, List.length_replicate]
  omega

namespace Base58

/-! ## Letters -/

theorem value?_digit {value : Nat} (h : value < 58) : value? (digit value) = some value := by
  revert value
  decide +kernel

theorem of_value?_eq_some {c : Char} {value : Nat} (h : value? c = some value) :
    value < 58 ∧ digit value = c := by
  obtain ⟨hlt, hget, -⟩ := List.idxOf?_eq_some_iff.1 h
  refine ⟨hlt, ?_⟩
  rw [digit, List.getD_eq_getElem?_getD, List.getElem?_eq_getElem hlt, hget, Option.getD_some]

/-- Letters are read as what they stand for. -/
theorem mapM_value?_eq_some_iff {chars : List Char} {values : List Nat} :
    chars.mapM value? = some values ↔
      (∀ value ∈ values, value < 58) ∧ chars = values.map digit := by
  induction chars generalizing values with
  | nil =>
    rw [List.mapM_nil]
    constructor
    · intro h
      obtain rfl := Option.some.inj h
      exact ⟨by simp, rfl⟩
    · rintro ⟨-, h⟩
      rw [List.map_eq_nil_iff.1 h.symm]
      rfl
  | cons c chars ih =>
    simp only [List.mapM_cons, Option.bind_eq_bind, Option.bind_eq_some_iff, ih, Option.pure_def,
      Option.some.injEq]
    constructor
    · rintro ⟨value, hvalue, values, ⟨hlt, rfl⟩, rfl⟩
      obtain ⟨hlt', rfl⟩ := of_value?_eq_some hvalue
      exact ⟨List.forall_mem_cons.2 ⟨hlt', hlt⟩, rfl⟩
    · rintro ⟨hlt, h⟩
      cases values with
      | nil => cases h
      | cons value values =>
        obtain ⟨rfl, rfl⟩ := List.cons.inj h
        obtain ⟨hlt', hlt⟩ := List.forall_mem_cons.1 hlt
        exact ⟨value, value?_digit hlt', values, ⟨hlt, rfl⟩, rfl⟩

/-! ## Byte strings -/

/-- Writing is a change of base. -/
theorem encode_eq (bs : Bytes) :
    encode bs = String.ofList ((rebase 256 58 (bs.map UInt8.toNat)).map digit) := by
  have hzeros : (bs.takeWhile (· == 0)).map (fun _ => '1') =
      ((bs.map UInt8.toNat).takeWhile (· == 0)).map digit := by
    induction bs with
    | nil => rfl
    | cons b bs ih =>
      by_cases h : b = 0
      · subst h
        exact congrArg _ ih
      · have h' : b.toNat ≠ 0 := fun hzero => h (UInt8.toNat_inj.1 hzero)
        simp [h, h']
  rw [encode, rebase, List.map_append, ← hzeros]

/-- Reading is a change of base. -/
theorem decode?_eq (text : String) :
    decode? text = (text.toList.mapM value?).map fun values =>
      (rebase 58 256 values).map UInt8.ofNat := by
  have hzeros : ∀ values : List Nat, (values.takeWhile (· == 0)).map (fun _ => (0 : UInt8)) =
      (values.takeWhile (· == 0)).map UInt8.ofNat := by
    intro values
    refine List.map_congr_left ?_
    intro value hvalue
    induction values with
    | nil => cases hvalue
    | cons value' values ih =>
      by_cases h : value' = 0
      · subst h
        rcases List.mem_cons.1 hvalue with rfl | hvalue
        · rfl
        · exact ih hvalue
      · simp [h] at hvalue
  rw [decode?]
  rcases text.toList.mapM value? with _ | values
  · rfl
  · rw [Option.map_some, rebase, List.map_append, ← hzeros]
    rfl

/-- **One text for each byte string**: reading accepts the text of what it answers with, and no
other. -/
theorem decode?_eq_some_iff {text : String} {bs : Bytes} :
    decode? text = some bs ↔ text = encode bs := by
  have hbytes : ∀ digit ∈ bs.map UInt8.toNat, digit < 256 := by
    intro digit hdigit
    obtain ⟨b, -, rfl⟩ := List.mem_map.1 hdigit
    exact b.toNat_lt
  rw [decode?_eq, Option.map_eq_some_iff]
  constructor
  · rintro ⟨values, hvalues, rfl⟩
    obtain ⟨hlt, htext⟩ := mapM_value?_eq_some_iff.1 hvalues
    have hback : ((rebase 58 256 values).map UInt8.ofNat).map UInt8.toNat =
        rebase 58 256 values := by
      rw [List.map_map]
      refine (List.map_congr_left fun digit hdigit => ?_).trans (List.map_id _)
      exact UInt8.toNat_ofNat_of_lt' (lt_of_mem_rebase (by decide) hdigit)
    rw [encode_eq, hback, rebase_rebase (by decide) (by decide) hlt, ← htext, String.ofList_toList]
  · rintro rfl
    refine ⟨rebase 256 58 (bs.map UInt8.toNat), ?_, ?_⟩
    · rw [mapM_value?_eq_some_iff, encode_eq, String.toList_ofList]
      exact ⟨fun value => lt_of_mem_rebase (by decide), rfl⟩
    · rw [rebase_rebase (by decide) (by decide) hbytes, List.map_map]
      exact List.map_id'' (fun b => UInt8.ofNat_toNat) bs

/-! ## Texts of a known length -/

theorem utf8ByteSize_ofList {chars : List Char} (h : ∀ c ∈ chars, c.utf8Size = 1) :
    (String.ofList chars).utf8ByteSize = chars.length := by
  induction chars with
  | nil => rfl
  | cons c chars ih =>
    obtain ⟨hc, hchars⟩ := List.forall_mem_cons.1 h
    rw [← List.singleton_append, String.ofList_append, String.utf8ByteSize_append, ih hchars,
      List.length_append, List.length_singleton, ← String.singleton_eq_ofList,
      String.utf8ByteSize_singleton, hc]

theorem digit_mem (value : Nat) : digit value ∈ '1' :: alphabet := by
  rw [digit, List.getD_eq_getElem?_getD]
  rcases hvalue : alphabet[value]? with _ | c
  · exact List.mem_cons_self
  · exact List.mem_cons_of_mem _ (List.mem_of_getElem? hvalue)

/-- Every letter is one byte. -/
theorem utf8Size_digit (value : Nat) : (digit value).utf8Size = 1 := by
  have h : ('1' :: alphabet).all (fun c => c.utf8Size == 1) = true := by decide
  exact beq_iff_eq.1 (List.all_eq_true.1 h _ (digit_mem value))

/-- No letter is a hyphen. -/
theorem digit_ne_hyphen (value : Nat) : digit value ≠ '-' := by
  intro h
  have hmem := digit_mem value
  rw [h] at hmem
  exact absurd hmem (by decide)

/-- When the numbers of a certain length need no more letters than some limit, the texts of the byte
strings of that length do not either. -/
theorem utf8ByteSize_encode_le {bs : Bytes} {limit : Nat} (hlimit : 256 ^ bs.length ≤ 58 ^ limit) :
    (encode bs).utf8ByteSize ≤ limit := by
  rw [encode_eq, utf8ByteSize_ofList, List.length_map]
  · refine length_rebase_le (by decide) (by decide) ?_ (by rwa [List.length_map])
    intro digit hdigit
    obtain ⟨b, -, rfl⟩ := List.mem_map.1 hdigit
    exact b.toNat_lt
  · intro c hc
    obtain ⟨value, -, rfl⟩ := List.mem_map.1 hc
    exact utf8Size_digit value

/-- Where all texts of a length are short enough to be looked at, exactly they are accepted. -/
theorem read_eq_ok_iff {n limit : Nat} (hlimit : 256 ^ n ≤ 58 ^ limit) {text : String}
    {v : ByteVec n} : read n limit text = .ok v ↔ text = v.toText := by
  constructor
  · intro h
    rw [read] at h
    split_ifs at h
    rcases hdecode : decode? text with _ | bs
    · rw [hdecode] at h
      cases h
    rcases hbytes : ByteVec.ofBytes? n bs with _ | v'
    · simp only [hdecode, hbytes, reduceCtorEq] at h
    · simp only [hdecode, hbytes] at h
      obtain rfl := Except.ok.inj h
      rw [decode?_eq_some_iff.1 hdecode, ByteVec.toText, ByteVec.bytes_of_ofBytes? hbytes]
  · rintro rfl
    have hdecode : decode? v.toText = some v.bytes := decode?_eq_some_iff.2 rfl
    have hshort : ¬ limit < v.toText.utf8ByteSize :=
      Nat.not_lt_of_le (utf8ByteSize_encode_le (by rwa [v.length_bytes]))
    simp only [read, if_neg hshort, hdecode, ByteVec.ofBytes?_bytes]

end Base58

/-- **Addresses**: a text is read as an address exactly if it is the text of that address. -/
theorem Address.read_eq_ok_iff {text : String} {a : Address} :
    Address.read text = .ok a ↔ text = a.toText :=
  Base58.read_eq_ok_iff (by decide)

/-- Different addresses have different texts. -/
theorem Address.toText_injective : Function.Injective (ByteVec.toText : Address → String) := by
  intro a a' h
  have hread : Address.read a.toText = .ok a' := Address.read_eq_ok_iff.2 h
  rw [Address.read_eq_ok_iff.2 rfl] at hread
  exact Except.ok.inj hread

/-- **Signatures** likewise. -/
theorem Signature.read_eq_ok_iff {text : String} {s : Signature} :
    Signature.read text = .ok s ↔ text = s.toText :=
  Base58.read_eq_ok_iff (by decide)

end TokenEscrow

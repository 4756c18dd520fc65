import Mathlib.Tactic.SplitIfs
import TokenEscrow.Bytes.Base64

/-!
# One base64 text for each byte string

Reading accepts a text exactly if it is the text of what it answers with
(`Base64.decode?_eq_some_iff`). That rests on two bounds: a digit stands for a value
below 64, and no digit is the mark that pads. The induction is on groups of three
bytes, as the text is written, and on groups of four digits, as it is read.
-/

namespace TokenEscrow

namespace Base64

/-! ## Digits -/

theorem value?_digit {value : Nat} (h : value < 64) : value? (digit value) = some value := by
  revert value
  decide +kernel

theorem of_value?_eq_some {c : Char} {value : Nat} (h : value? c = some value) :
    value < 64 ∧ digit value = c := by
  obtain ⟨hlt, hget, -⟩ := List.idxOf?_eq_some_iff.1 h
  refine ⟨hlt, ?_⟩
  rw [digit, List.getD_eq_getElem?_getD, List.getElem?_eq_getElem hlt, hget, Option.getD_some]

/-- The mark that pads is no digit. -/
theorem value?_mark : value? '=' = none := by decide +kernel

theorem digit_ne_mark {value : Nat} (h : value < 64) : digit value ≠ '=' := by
  intro hmark
  have hvalue := value?_digit h
  rw [hmark, value?_mark] at hvalue
  cases hvalue

/-! ## Groups -/

/-- A byte is what is left of a number modulo 256. -/
theorem ofNat_eq {n : Nat} {b : UInt8} (h : n % 256 = b.toNat) : UInt8.ofNat n = b :=
  UInt8.toNat_inj.1 (UInt8.toNat_ofNat'.trans h)

/-- What is written is read. -/
theorem decodeChars?_encodeChars (bs : Bytes) : decodeChars? (encodeChars bs) = some bs := by
  fun_induction encodeChars bs with
  | case1 => rfl
  | case2 a n =>
    have ha := a.toNat_lt
    have hn : n = a.toNat * 16 := rfl
    clear_value n
    have hwhole : n / 64 * 64 + n % 64 = n := Nat.div_add_mod' n 64
    simp only [decodeChars?, value?_digit (show n / 64 < 64 by omega),
      value?_digit (show n % 64 < 64 by omega), Option.bind_eq_bind, Option.bind_some, hwhole]
    rw [if_pos (by omega), ofNat_eq (show n / 16 % 256 = a.toNat by omega)]
  | case3 a b n =>
    have ha := a.toNat_lt
    have hb := b.toNat_lt
    have hn : n = (a.toNat * 256 + b.toNat) * 4 := rfl
    clear_value n
    have hwhole : (n / 4096 * 64 + n / 64 % 64) * 64 + n % 64 = n := by omega
    rw [decodeChars?.eq_3 _ _ _ fun h => absurd h (digit_ne_mark (by omega))]
    simp only [value?_digit (show n / 4096 < 64 by omega),
      value?_digit (show n / 64 % 64 < 64 by omega), value?_digit (show n % 64 < 64 by omega),
      Option.bind_eq_bind, Option.bind_some, hwhole]
    rw [if_pos (by omega), ofNat_eq (show n / 1024 % 256 = a.toNat by omega),
      ofNat_eq (show n / 4 % 256 = b.toNat by omega)]
  | case4 a b c rest n ih =>
    have ha := a.toNat_lt
    have hb := b.toNat_lt
    have hc := c.toNat_lt
    have hn : n = (a.toNat * 256 + b.toNat) * 256 + c.toNat := rfl
    clear_value n
    have hwhole : ((n / 262144 * 64 + n / 4096 % 64) * 64 + n / 64 % 64) * 64 + n % 64 = n := by
      omega
    have hlast : n % 64 < 64 := by omega
    rw [decodeChars?.eq_4 _ _ _ _ _ (fun _ h => absurd h (digit_ne_mark hlast))
      fun h => absurd h (digit_ne_mark hlast)]
    simp only [value?_digit (show n / 262144 < 64 by omega),
      value?_digit (show n / 4096 % 64 < 64 by omega),
      value?_digit (show n / 64 % 64 < 64 by omega), value?_digit hlast, Option.bind_eq_bind,
      Option.bind_some, hwhole, ih]
    rw [ofNat_eq (show n / 65536 % 256 = a.toNat by omega),
      ofNat_eq (show n / 256 % 256 = b.toNat by omega), ofNat_eq (show n % 256 = c.toNat by omega)]

/-- Only what is written is read. -/
theorem encodeChars_of_decodeChars? {cs : List Char} {bs : Bytes}
    (h : decodeChars? cs = some bs) : encodeChars bs = cs := by
  fun_induction decodeChars? cs generalizing bs with
  | case1 =>
    obtain rfl := Option.some.inj h
    rfl
  | case2 a b =>
    simp only [Option.bind_eq_bind, Option.bind_eq_some_iff] at h
    obtain ⟨m, hm, n, hn, h⟩ := h
    obtain ⟨hm, rfl⟩ := of_value?_eq_some hm
    obtain ⟨hn, rfl⟩ := of_value?_eq_some hn
    split_ifs at h with hzero
    obtain rfl := Option.some.inj h
    simp only [encodeChars, UInt8.toNat_ofNat']
    generalize hx : m * 64 + n = x at hzero ⊢
    rw [show x / 16 % 256 * 16 = x by omega, show x / 64 = m by omega, show x % 64 = n by omega]
  | case3 a b c =>
    simp only [Option.bind_eq_bind, Option.bind_eq_some_iff] at h
    obtain ⟨l, hl, m, hm, n, hn, h⟩ := h
    obtain ⟨hl, rfl⟩ := of_value?_eq_some hl
    obtain ⟨hm, rfl⟩ := of_value?_eq_some hm
    obtain ⟨hn, rfl⟩ := of_value?_eq_some hn
    split_ifs at h with hzero
    obtain rfl := Option.some.inj h
    simp only [encodeChars, UInt8.toNat_ofNat']
    generalize hx : (l * 64 + m) * 64 + n = x at hzero ⊢
    rw [show (x / 1024 % 256 * 256 + x / 4 % 256) * 4 = x by omega,
      show x / 4096 = l by omega, show x / 64 % 64 = m by omega, show x % 64 = n by omega]
  | case4 a b c d rest hplain hmark ih =>
    simp only [Option.bind_eq_bind, Option.bind_eq_some_iff] at h
    obtain ⟨k, hk, l, hl, m, hm, n, hn, others, hothers, h⟩ := h
    obtain ⟨hk, rfl⟩ := of_value?_eq_some hk
    obtain ⟨hl, rfl⟩ := of_value?_eq_some hl
    obtain ⟨hm, rfl⟩ := of_value?_eq_some hm
    obtain ⟨hn, rfl⟩ := of_value?_eq_some hn
    obtain rfl := Option.some.inj h
    simp only [encodeChars, UInt8.toNat_ofNat', ih hothers]
    generalize hx : ((k * 64 + l) * 64 + m) * 64 + n = x
    rw [show (x / 65536 % 256 * 256 + x / 256 % 256) * 256 + x % 256 = x by omega,
      show x / 262144 = k by omega, show x / 4096 % 64 = l by omega,
      show x / 64 % 64 = m by omega, show x % 64 = n by omega]
  | case5 => cases h

/-- **One text for each byte string**: reading accepts the text of what it answers with, and no
other. -/
theorem decode?_eq_some_iff {text : String} {bs : Bytes} :
    decode? text = some bs ↔ text = encode bs := by
  constructor
  · intro h
    rw [encode, encodeChars_of_decodeChars? h, String.ofList_toList]
  · rintro rfl
    rw [decode?, encode, String.toList_ofList, decodeChars?_encodeChars]

end Base64

end TokenEscrow

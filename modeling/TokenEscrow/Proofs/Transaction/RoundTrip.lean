import Mathlib.Tactic.SplitIfs
import TokenEscrow.Transaction.Wire

/-!
# Reading transactions back

A transaction that has a wire form is read back from it as it was
(`Transaction.decode?_encode?`). Every part of the wire form is read back in
front of whatever follows it (`Inverts`), so the statement for a whole is put
together from those for its parts. The lengths are where it could go wrong: they
take one, two or three bytes, and reading tells from each byte whether there is
another (`CompactLength.inverts`).
-/

namespace TokenEscrow

/-- What is written is read back, and what follows is left. -/
def Inverts {α : Type} (write? : α → Option Bytes) (read? : Bytes → Option (α × Bytes)) : Prop :=
  ∀ x bytes, write? x = some bytes → ∀ rest, read? (bytes ++ rest) = some (x, rest)

/-! ## Lengths -/

namespace CompactLength

/-- A byte below 128 is the last one of a length. -/
theorem ofNat_lt_iff {n : Nat} (h : n < 256) : UInt8.ofNat n < 128 ↔ n < 128 := by
  rw [UInt8.lt_iff_toNat_lt, UInt8.toNat_ofNat_of_lt' h]
  rfl

/-- Only zero is written as a zero byte. -/
theorem ofNat_eq_zero_iff {n : Nat} (h : n < 256) : UInt8.ofNat n = 0 ↔ n = 0 := by
  rw [← UInt8.toNat_inj, UInt8.toNat_ofNat_of_lt' h]
  rfl

/-- Lengths are read back, with one byte, with two and with three. -/
theorem inverts : Inverts encode? decode? := by
  intro n bytes h rest
  unfold encode? at h
  split_ifs at h with h₁ h₂ h₃ <;> obtain rfl := Option.some.inj h
  · have ha : UInt8.ofNat n < 128 := (ofNat_lt_iff (by omega)).2 h₁
    simp only [List.cons_append, List.nil_append, decode?, if_pos ha]
    rw [UInt8.toNat_ofNat_of_lt' (by omega : n < 256)]
  · have ha : ¬ UInt8.ofNat (n % 128 + 128) < 128 := by
      rw [ofNat_lt_iff (by omega)]
      omega
    have hzero : ¬ UInt8.ofNat (n / 128) = 0 := by
      rw [ofNat_eq_zero_iff (by omega)]
      omega
    have hb : UInt8.ofNat (n / 128) < 128 := (ofNat_lt_iff (by omega)).2 (by omega)
    simp only [List.cons_append, List.nil_append, decode?, if_neg ha, if_neg hzero, if_pos hb]
    rw [UInt8.toNat_ofNat_of_lt' (by omega : n % 128 + 128 < 256),
      UInt8.toNat_ofNat_of_lt' (by omega : n / 128 < 256)]
    congr 2
    omega
  · have hn : n < 65536 := h₃
    have ha : ¬ UInt8.ofNat (n % 128 + 128) < 128 := by
      rw [ofNat_lt_iff (by omega)]
      omega
    have hzero : ¬ UInt8.ofNat (n / 128 % 128 + 128) = 0 := by
      rw [ofNat_eq_zero_iff (by omega)]
      omega
    have hb : ¬ UInt8.ofNat (n / 128 % 128 + 128) < 128 := by
      rw [ofNat_lt_iff (by omega)]
      omega
    have hc : (UInt8.ofNat (n / 16384)).toNat = n / 16384 :=
      UInt8.toNat_ofNat_of_lt' (by omega : n / 16384 < 256)
    have hlast : ¬ (UInt8.ofNat (n / 16384) = 0 ∨ 3 < UInt8.ofNat (n / 16384)) := by
      rw [ofNat_eq_zero_iff (by omega), UInt8.lt_iff_toNat_lt, hc]
      change ¬ (n / 16384 = 0 ∨ 3 < n / 16384)
      omega
    simp only [List.cons_append, List.nil_append, decode?, if_neg ha, if_neg hzero, if_neg hb,
      if_neg hlast]
    rw [hc, UInt8.toNat_ofNat_of_lt' (by omega : n % 128 + 128 < 256),
      UInt8.toNat_ofNat_of_lt' (by omega : n / 128 % 128 + 128 < 256)]
    congr 2
    omega

end CompactLength

/-! ## Lists -/

section Lists

variable {α : Type} {item? : α → Option Bytes} {read? : Bytes → Option (α × Bytes)}

/-- As many elements as were written are read back one after the other. -/
theorem decodeTimes?_flatten (h : Inverts item? read?) {xs : List α} {items : List Bytes}
    (hitems : xs.mapM item? = some items) (rest : Bytes) :
    decodeTimes? read? xs.length (items.flatten ++ rest) = some (xs, rest) := by
  induction xs generalizing items with
  | nil =>
    cases hitems
    rfl
  | cons x xs ih =>
    rw [List.mapM_cons] at hitems
    obtain ⟨front, hfront, hitems⟩ := Option.bind_eq_some_iff.1 hitems
    obtain ⟨items, hxs, hitems⟩ := Option.bind_eq_some_iff.1 hitems
    obtain rfl := Option.some.inj hitems
    simp only [List.flatten_cons, List.append_assoc, List.length_cons, decodeTimes?,
      h _ _ hfront, Option.bind_eq_bind, Option.bind_some, ih hxs]
    rfl

/-- A list is read back when its elements are. -/
theorem Inverts.list (h : Inverts item? read?) :
    Inverts (encodeList? item?) (decodeList? read?) := by
  intro xs bytes hbytes rest
  obtain ⟨count, hcount, hbytes⟩ := Option.bind_eq_some_iff.1 hbytes
  obtain ⟨items, hitems, hbytes⟩ := Option.bind_eq_some_iff.1 hbytes
  obtain rfl := Option.some.inj hbytes
  rw [decodeList?, List.append_assoc, CompactLength.inverts _ _ hcount]
  exact decodeTimes?_flatten h hitems rest

end Lists

/-! ## Transactions -/

theorem inverts_byte : Inverts (fun b => some [b]) decodeByte? := by
  intro b bytes h rest
  obtain rfl := Option.some.inj h
  rfl

theorem inverts_fixed (n : Nat) :
    Inverts (fun v : ByteVec n => some v.bytes) (decodeFixed? n) := by
  intro v bytes h rest
  obtain rfl := Option.some.inj h
  have hsplit : Bytes.split? n (v.bytes ++ rest) = some (v.bytes, rest) := by
    have hfront := Bytes.split?_append v.bytes rest
    rwa [v.length_bytes] at hfront
  simp only [decodeFixed?, hsplit, Option.bind_eq_bind, Option.bind_some, ByteVec.ofBytes?_bytes]
  rfl

theorem CompiledInstruction.inverts : Inverts encode? decode? := by
  intro i bytes h rest
  obtain ⟨accounts, haccounts, h⟩ := Option.bind_eq_some_iff.1 h
  obtain ⟨count, hcount, h⟩ := Option.bind_eq_some_iff.1 h
  obtain rfl := Option.some.inj h
  simp only [decode?, List.append_assoc, List.cons_append, decodeByte?, Option.bind_eq_bind,
    Option.bind_some, inverts_byte.list _ _ haccounts, CompactLength.inverts _ _ hcount,
    Bytes.split?_append]
  rfl

theorem Message.inverts : Inverts encode? decode? := by
  intro m bytes h rest
  obtain ⟨keys, hkeys, h⟩ := Option.bind_eq_some_iff.1 h
  obtain ⟨instructions, hinstructions, h⟩ := Option.bind_eq_some_iff.1 h
  obtain rfl := Option.some.inj h
  simp only [decode?, List.append_assoc, List.cons_append, decodeByte?, Option.bind_eq_bind,
    Option.bind_some, (inverts_fixed 32).list _ _ hkeys, inverts_fixed 32 _ _ rfl,
    CompiledInstruction.inverts.list _ _ hinstructions]
  rfl

/-- **Transactions are read back**: the wire form of a transaction is read as that transaction. -/
theorem Transaction.decode?_encode? {t : Transaction} {bytes : Bytes}
    (h : t.encode? = some bytes) : decode? bytes = some t := by
  obtain ⟨signatures, hsignatures, h⟩ := Option.bind_eq_some_iff.1 h
  obtain ⟨message, hmessage, h⟩ := Option.bind_eq_some_iff.1 h
  obtain rfl := Option.some.inj h
  have hrest := Message.inverts _ _ hmessage []
  rw [List.append_nil] at hrest
  simp only [decode?, (inverts_fixed 64).list _ _ hsignatures, Option.bind_eq_bind,
    Option.bind_some, hrest]

end TokenEscrow

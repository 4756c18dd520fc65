import TokenEscrow.Codec.Wire

/-!
# Lawful wire forms

A wire form is **lawful** (`LawfulWire`) when writing and reading are inverse to
each other in the middle of any input:

* `decode_encode` — a value that fits is read back from its bytes, and what
  follows them is left alone;
* `of_decode` — whatever is read was written: the input starts with the bytes
  of the value, and the value fits.

A value **fits** when each of its counts has a place in the word in front of it.
Nothing else can go wrong when writing, so `Fits` is the whole side condition,
and the second law says that readers never hand out a value beyond it.

Readers are composed with `bind`, so both laws of a composite type are obtained
from those of its parts by the two rules for `bind` (`Decoder.bind_ok`,
`Decoder.bind_eq_ok`).
-/

namespace TokenEscrow

/-! ## Composing readers -/

namespace Decoder

variable {α β : Type}

/-- Introduction for `bind`. -/
theorem bind_ok {d : Decoder α} {f : α → Decoder β} {bs rest : Bytes} {x : α}
    (h : d bs = .ok (x, rest)) : (d >>= f) bs = f x rest := by
  change (d bs >>= fun p => f p.1 p.2) = f x rest
  rw [h]
  rfl

/-- A fault skips what follows. -/
theorem bind_error {d : Decoder α} {f : α → Decoder β} {bs : Bytes} {e : DecodeError}
    (h : d bs = .error e) : (d >>= f) bs = .error e := by
  change (d bs >>= fun p => f p.1 p.2) = .error e
  rw [h]
  rfl

/-- Inversion for `bind`. -/
theorem bind_eq_ok {d : Decoder α} {f : α → Decoder β} {bs rest : Bytes} {y : β}
    (h : (d >>= f) bs = .ok (y, rest)) :
    ∃ x mid, d bs = .ok (x, mid) ∧ f x mid = .ok (y, rest) := by
  change (d bs >>= fun p => f p.1 p.2) = .ok (y, rest) at h
  rcases hd : d bs with e | ⟨x, mid⟩
  · rw [hd] at h
    cases h
  · rw [hd] at h
    exact ⟨x, mid, rfl, h⟩

@[simp] theorem pure_apply (x : α) (bs : Bytes) : (pure x : Decoder α) bs = .ok (x, bs) := rfl

/-- Inversion for `pure`. -/
theorem pure_eq_ok {x y : α} {bs rest : Bytes} (h : (pure x : Decoder α) bs = .ok (y, rest)) :
    x = y ∧ bs = rest := by
  cases h
  exact ⟨rfl, rfl⟩

/-- A reader that refuses reads nothing. -/
theorem throw_ne_ok {e : DecodeError} {y : α} {bs rest : Bytes} :
    (throw e : Decoder α) bs ≠ .ok (y, rest) := by
  intro h
  cases h

/-! ### Bytes and words -/

theorem bytes_append (front rest : Bytes) :
    bytes front.length (front ++ rest) = .ok (front, rest) := by
  rw [bytes, Bytes.split?_append]

theorem of_bytes_eq_ok {n : Nat} {bs front rest : Bytes} (h : bytes n bs = .ok (front, rest)) :
    bs = front ++ rest ∧ front.length = n := by
  unfold bytes at h
  rcases hs : Bytes.split? n bs with _ | ⟨front', rest'⟩ <;> rw [hs] at h
  · cases h
  · cases h
    exact Bytes.of_split?_eq_some hs

@[simp] theorem byte_cons (b : UInt8) (rest : Bytes) : byte (b :: rest) = .ok (b, rest) := rfl

theorem of_byte_eq_ok {b : UInt8} {bs rest : Bytes} (h : byte bs = .ok (b, rest)) :
    bs = b :: rest := by
  cases bs with
  | nil => cases h
  | cons b' bs =>
    cases h
    rfl

/-- A number that fits in a word is read back from it. -/
theorem word_encode {width n : Nat} (h : n < Nat.pow 256 width) (rest : Bytes) :
    word width (LittleEndian.encode width n ++ rest) = .ok (n, rest) := by
  have hb := bytes_append (LittleEndian.encode width n) rest
  rw [LittleEndian.length_encode] at hb
  rw [word, bind_ok hb, LittleEndian.decode_encode, Nat.mod_eq_of_lt h, pure_apply]

/-- The input of a word reader starts with the word of the number that was read. -/
theorem of_word_eq_ok {width n : Nat} {bs rest : Bytes} (h : word width bs = .ok (n, rest)) :
    bs = LittleEndian.encode width n ++ rest ∧ n < Nat.pow 256 width := by
  obtain ⟨front, mid, hb, hp⟩ := bind_eq_ok h
  obtain ⟨rfl, rfl⟩ := pure_eq_ok hp
  obtain ⟨rfl, rfl⟩ := of_bytes_eq_ok hb
  exact ⟨by rw [LittleEndian.encode_decode], LittleEndian.decode_lt front⟩

end Decoder

/-! ## The laws -/

/-- A wire form in which writing and reading are inverse to each other. -/
class LawfulWire (α : Type) [Wire α] where
  /-- the values whose counts have a place in their words -/
  Fits : α → Prop
  /-- a value that fits is read back, and the rest of the input is left -/
  decode_encode : ∀ {x : α}, Fits x → ∀ rest : Bytes,
    (Wire.decode : Decoder α) (Wire.encode x ++ rest) = .ok (x, rest)
  /-- only the bytes of a value that fits are read as that value -/
  of_decode : ∀ {x : α} {bs rest : Bytes}, (Wire.decode : Decoder α) bs = .ok (x, rest) →
    bs = Wire.encode x ++ rest ∧ Fits x

namespace LawfulWire

open Decoder

/-- One more than the largest count. -/
def countBound : Nat := 4294967296

/-- A count below the bound has a place in its word. -/
theorem lt_pow_of_lt_countBound {n : Nat} (h : n < countBound) : n < Nat.pow 256 4 := h

instance : LawfulWire UInt64 where
  Fits _ := True
  decode_encode {n} _ rest := by
    have hn : n.toNat < Nat.pow 256 8 := n.toNat_lt
    change (word 8 >>= fun m => pure (UInt64.ofNat m)) (LittleEndian.encode 8 n.toNat ++ rest) = _
    rw [bind_ok (word_encode hn rest), UInt64.ofNat_toNat, pure_apply]
  of_decode {n bs rest} h := by
    obtain ⟨m, mid, hw, hp⟩ := bind_eq_ok h
    obtain ⟨rfl, rfl⟩ := pure_eq_ok hp
    obtain ⟨hbs, hm⟩ := of_word_eq_ok hw
    refine ⟨?_, trivial⟩
    change bs = LittleEndian.encode 8 (UInt64.ofNat m).toNat ++ mid
    rw [UInt64.toNat_ofNat_of_lt' hm]
    exact hbs

instance {n : Nat} : LawfulWire (ByteVec n) where
  Fits _ := True
  decode_encode {v} _ rest := by
    have hb := bytes_append v.bytes rest
    rw [v.length_bytes] at hb
    refine (bind_ok hb).trans ?_
    simp only [ByteVec.ofBytes?_bytes]
    rfl
  of_decode {v bs rest} h := by
    obtain ⟨front, mid, hb, hp⟩ := bind_eq_ok h
    obtain ⟨rfl, -⟩ := of_bytes_eq_ok hb
    rcases hv : ByteVec.ofBytes? n front with _ | w <;> rw [hv] at hp
    · exact absurd hp throw_ne_ok
    · obtain ⟨rfl, rfl⟩ := pure_eq_ok hp
      rw [← ByteVec.bytes_of_ofBytes? hv]
      exact ⟨rfl, trivial⟩

instance : LawfulWire String where
  Fits text := (Utf8.encode text).length < countBound
  decode_encode {text} h rest := by
    have hw := word_encode (lt_pow_of_lt_countBound h) (Utf8.encode text ++ rest)
    have hb := bytes_append (Utf8.encode text) rest
    rw [← List.append_assoc] at hw
    refine (bind_ok hw).trans ((bind_ok hb).trans ?_)
    simp only [Utf8.decode_encode]
    rfl
  of_decode {text bs rest} h := by
    obtain ⟨count, mid, hw, h⟩ := bind_eq_ok h
    obtain ⟨front, mid', hb, hp⟩ := bind_eq_ok h
    obtain ⟨rfl, hcount⟩ := of_word_eq_ok hw
    obtain ⟨rfl, rfl⟩ := of_bytes_eq_ok hb
    rcases hd : Utf8.decode front with fault | text' <;> rw [hd] at hp
    · exact absurd hp throw_ne_ok
    · obtain ⟨rfl, rfl⟩ := pure_eq_ok hp
      obtain rfl := Utf8.eq_encode_of_decode hd
      exact ⟨(List.append_assoc ..).symm, hcount⟩

/-! ### Lists -/

variable {α : Type} [Wire α] [LawfulWire α]

/-- As many elements as there are are read back one after the other. -/
theorem times_flatMap {xs : List α} (h : ∀ x ∈ xs, Fits x) (rest : Bytes) :
    times Wire.decode xs.length (xs.flatMap Wire.encode ++ rest) = .ok (xs, rest) := by
  induction xs with
  | nil => rfl
  | cons x xs ih =>
    have hx := decode_encode (h x (List.mem_cons_self ..)) (xs.flatMap Wire.encode ++ rest)
    have hxs := ih fun y hy => h y (List.mem_cons_of_mem x hy)
    rw [List.flatMap_cons, List.append_assoc]
    exact (bind_ok hx).trans (bind_ok hxs)

/-- Elements that were read one after the other were written one after the other. -/
theorem of_times_eq_ok {count : Nat} {xs : List α} {bs rest : Bytes}
    (h : times Wire.decode count bs = .ok (xs, rest)) :
    bs = xs.flatMap Wire.encode ++ rest ∧ xs.length = count ∧ ∀ x ∈ xs, Fits x := by
  induction count generalizing xs bs with
  | zero =>
    obtain ⟨rfl, rfl⟩ := pure_eq_ok h
    exact ⟨rfl, rfl, fun x hx => absurd hx List.not_mem_nil⟩
  | succ count ih =>
    obtain ⟨x, mid, hx, h⟩ := bind_eq_ok h
    obtain ⟨xs', mid', hxs, hp⟩ := bind_eq_ok h
    obtain ⟨rfl, rfl⟩ := pure_eq_ok hp
    obtain ⟨rfl, hfit⟩ := of_decode hx
    obtain ⟨rfl, rfl, hfits⟩ := ih hxs
    refine ⟨?_, rfl, ?_⟩
    · rw [List.flatMap_cons, List.append_assoc]
    · exact List.forall_mem_cons.2 ⟨hfit, hfits⟩

instance : LawfulWire (List α) where
  Fits xs := xs.length < countBound ∧ ∀ x ∈ xs, Fits x
  decode_encode {xs} h rest := by
    have hw := word_encode (lt_pow_of_lt_countBound h.1) (xs.flatMap Wire.encode ++ rest)
    rw [← List.append_assoc] at hw
    exact (bind_ok hw).trans (times_flatMap h.2 rest)
  of_decode {xs bs rest} h := by
    obtain ⟨count, mid, hw, ht⟩ := bind_eq_ok h
    obtain ⟨rfl, hcount⟩ := of_word_eq_ok hw
    obtain ⟨rfl, rfl, hfits⟩ := of_times_eq_ok ht
    exact ⟨(List.append_assoc ..).symm, hcount, hfits⟩

/-! ### Whole inputs -/

/-- A value that fits is read from exactly its bytes. -/
theorem read_encode {x : α} (h : Fits x) : Wire.read (Wire.encode x) = .ok x := by
  have hd := decode_encode h []
  rw [List.append_nil] at hd
  rw [Wire.read, hd]

/-- An input that is read to its end is the bytes of the value. -/
theorem of_read_eq_ok {x : α} {bs : Bytes} (h : Wire.read bs = .ok x) :
    bs = Wire.encode x ∧ Fits x := by
  unfold Wire.read at h
  rcases hd : (Wire.decode : Decoder α) bs with e | ⟨y, _ | ⟨b, rest⟩⟩ <;> rw [hd] at h
  · cases h
  · cases h
    obtain ⟨hbs, hfit⟩ := of_decode hd
    exact ⟨hbs.trans (List.append_nil _), hfit⟩
  · cases h

end LawfulWire

end TokenEscrow

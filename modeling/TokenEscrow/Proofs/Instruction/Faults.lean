import Mathlib.Logic.ExistsUnique
import TokenEscrow.Proofs.Instruction.PrefixFree

/-!
# Faults in arguments

What a reader says of an input is settled by the bytes that it has looked at. A
reader is **stable** (`Decoder.Stable`) when more bytes behind an input change
nothing but the rest, unless the input had ended too early. Stable readers are
composed with `bind` like lawful ones, so whatever the order of the parts of a
type, and whichever of several faults comes first, nothing else has to be said
about its reader.

For whole inputs this tells the faults apart (`Wire.Settled`):

* bytes are left over exactly when a proper prefix is a value, and no two are;
* an input that ends too early does so wherever it is cut;
* a fault of what an input holds stays, whatever follows.

`settled_arguments` says so of the arguments of every instruction that has any.
-/

namespace TokenEscrow

/-! ## Stable readers -/

namespace Decoder

/-- A reader that goes by what it has looked at. -/
structure Stable {α : Type} (d : Decoder α) : Prop where
  /-- more bytes are left alone, unless they were missed -/
  append : ∀ bs more, d bs ≠ .error .unexpectedEnd →
    d (bs ++ more) = (d bs).map fun p => (p.1, p.2 ++ more)
  /-- that bytes are left over is not for a reader to say -/
  ne_trailingBytes : ∀ bs, d bs ≠ .error .trailingBytes

namespace Stable

variable {α β : Type} {d : Decoder α} {f : α → Decoder β} {bs rest : Bytes} {x : α}
  {e : DecodeError}

theorem ok_append (h : d.Stable) (hd : d bs = .ok (x, rest)) (more : Bytes) :
    d (bs ++ more) = .ok (x, rest ++ more) := by
  rw [h.append bs more (by simp [hd]), hd]
  rfl

theorem error_append (h : d.Stable) (hd : d bs = .error e) (he : e ≠ .unexpectedEnd)
    (more : Bytes) : d (bs ++ more) = .error e := by
  rw [h.append bs more (by simpa [hd] using he), hd]
  rfl

/-- **Cut short is cut short**: where an input ends too early, so does every prefix of it. -/
theorem unexpectedEnd_of_append (h : d.Stable) {more : Bytes}
    (hd : d (bs ++ more) = .error .unexpectedEnd) : d bs = .error .unexpectedEnd := by
  rcases hbs : d bs with e | ⟨x, rest⟩
  · by_cases he : e = .unexpectedEnd
    · rw [he]
    · exact absurd (Except.error.inj ((h.error_append hbs he more).symm.trans hd)) he
  · cases hd.symm.trans (h.ok_append hbs more)

theorem pure (x : α) : (Pure.pure x : Decoder α).Stable :=
  ⟨fun _ _ _ => rfl, fun _ h => by cases h⟩

/-- A reader that refuses what it was given. -/
theorem throw (he : e ≠ .trailingBytes) : (throw e : Decoder α).Stable := by
  refine ⟨fun _ _ _ => rfl, ?_⟩
  rintro bs ⟨⟩
  exact he rfl

/-- One stable reader after the other. -/
theorem bind (hd : d.Stable) (hf : ∀ x, (f x).Stable) : (d >>= f).Stable := by
  constructor
  · intro bs more hne
    rcases hbs : d bs with e | ⟨x, mid⟩
    · rw [bind_error hbs] at hne ⊢
      exact bind_error (hd.error_append hbs (fun he => hne (he ▸ rfl)) more)
    · rw [bind_ok hbs] at hne ⊢
      rw [bind_ok (hd.ok_append hbs more)]
      exact (hf x).append mid more hne
  · intro bs
    rcases hbs : d bs with e | ⟨x, mid⟩
    · rw [bind_error hbs]
      rintro ⟨⟩
      exact hd.ne_trailingBytes bs hbs
    · rw [bind_ok hbs]
      exact (hf x).ne_trailingBytes mid

theorem bytes (n : Nat) : (Decoder.bytes n).Stable := by
  constructor
  · intro bs more hne
    unfold Decoder.bytes at hne
    split at hne
    · next front rest hsplit =>
      obtain ⟨rfl, rfl⟩ := Bytes.of_split?_eq_some hsplit
      rw [List.append_assoc, bytes_append, bytes_append]
      rfl
    · exact absurd rfl hne
  · intro bs
    unfold Decoder.bytes
    split <;> nofun

theorem byte : Decoder.byte.Stable := by
  constructor
  · rintro (_ | ⟨b, bs⟩) more hne
    · exact absurd rfl hne
    · rfl
  · rintro (_ | ⟨b, bs⟩) <;> nofun

theorem word (width : Nat) : (Decoder.word width).Stable := (bytes width).bind fun _ => pure _

theorem times (h : d.Stable) (n : Nat) : (d.times n).Stable := by
  induction n with
  | zero => exact pure []
  | succ n ih => exact h.bind fun _ => ih.bind fun _ => pure _

end Stable

end Decoder

/-! ## Types -/

/-- A type with a stable reader. -/
class StableWire (α : Type) [Wire α] : Prop where
  stable : (Wire.decode : Decoder α).Stable

namespace StableWire

open Decoder

instance : StableWire UInt64 := ⟨(Stable.word 8).bind fun _ => .pure _⟩

instance {n : Nat} : StableWire (ByteVec n) where
  stable := (Stable.bytes n).bind fun front => by
    cases ByteVec.ofBytes? n front with
    | none => exact .throw nofun
    | some v => exact .pure v

/-- All bytes of a text are there before it is looked at. -/
instance : StableWire String where
  stable := (Stable.word 4).bind fun count => (Stable.bytes count).bind fun front => by
    cases Utf8.decode front with
    | error fault => exact .throw nofun
    | ok text => exact .pure text

instance {α : Type} [Wire α] [StableWire α] : StableWire (List α) :=
  ⟨(Stable.word 4).bind fun count => stable.times count⟩

instance : StableWire ConstraintRule where
  stable := Stable.byte.bind fun tag => by
    split_ifs
    · exact .pure _
    · exact stable.bind fun _ => .pure _
    · exact stable.bind fun _ => .pure _
    · exact .throw nofun

instance : StableWire Constraint :=
  ⟨stable.bind fun _ => stable.bind fun _ => stable.bind fun _ => .pure _⟩

instance : StableWire TransferInArgs := ⟨stable.bind fun _ => stable.bind fun _ => .pure _⟩

end StableWire

/-! ## Whole inputs -/

/-- A fault of what an input holds, not of where it ends. -/
def DecodeError.OfContents : DecodeError → Prop
  | unknownVariant _ | notText _ => True
  | unexpectedEnd | trailingBytes => False

namespace Wire

/-- What is read of an input and of its prefixes and continuations tells its faults apart. -/
structure Settled (α : Type) [Wire α] (bs : Bytes) : Prop where
  /-- bytes are left over when a proper prefix is a value -/
  trailingBytes_iff : (read bs : Except DecodeError α) = .error .trailingBytes ↔
    ∃ front, front <+: bs ∧ front ≠ bs ∧ ∃ x : α, read front = .ok x
  /-- and then one prefix is -/
  existsUnique : (read bs : Except DecodeError α) = .error .trailingBytes →
    ∃! front, front <+: bs ∧ front ≠ bs ∧ ∃ x : α, read front = .ok x
  /-- an input that ends too early does so wherever it is cut -/
  unexpectedEnd : (read bs : Except DecodeError α) = .error .unexpectedEnd →
    ∀ front, front <+: bs → (read front : Except DecodeError α) = .error .unexpectedEnd
  /-- a fault of the contents stays, whatever follows -/
  contents : ∀ e : DecodeError, e.OfContents → (read bs : Except DecodeError α) = .error e →
    ∀ more, (read (bs ++ more) : Except DecodeError α) = .error e

variable {α : Type} [Wire α] {bs front : Bytes} {e : DecodeError}

theorem read_of_decode_error (h : (decode : Decoder α) bs = .error e) :
    (read bs : Except DecodeError α) = .error e := by
  rw [read, h]

/-- A whole input is refused by the reader, or for what the reader left over. -/
theorem of_read_eq_error (h : (read bs : Except DecodeError α) = .error e) :
    (decode : Decoder α) bs = .error e ∨
      e = .trailingBytes ∧ ∃ x rest, rest ≠ [] ∧ (decode : Decoder α) bs = .ok (x, rest) := by
  unfold read at h
  rcases hd : (decode : Decoder α) bs with e' | ⟨x, _ | ⟨b, rest⟩⟩
  · rw [hd] at h
    exact .inl (congrArg Except.error (Except.error.inj h))
  · rw [hd] at h
    cases h
  · rw [hd] at h
    exact .inr ⟨(Except.error.inj h).symm, x, b :: rest, List.cons_ne_nil b rest, rfl⟩

open LawfulWire

/-- Bytes that are left over stand behind a value. -/
theorem exists_value_of_trailingBytes [LawfulWire α] [StableWire α]
    (h : (read bs : Except DecodeError α) = .error .trailingBytes) :
    ∃ (x : α) (rest : Bytes), rest ≠ [] ∧ Fits x ∧ bs = encode x ++ rest := by
  rcases of_read_eq_error h with hd | ⟨-, x, rest, hrest, hd⟩
  · exact absurd hd (StableWire.stable.ne_trailingBytes bs)
  · obtain ⟨hbs, hfit⟩ := of_decode hd
    exact ⟨x, rest, hrest, hfit, hbs⟩

/-- **The value in front**: inputs that start with values start with the same value. -/
theorem front_unique [LawfulWire α] {front' : Bytes} {x y : α} (hfront : front <+: bs)
    (hx : read front = .ok x) (hfront' : front' <+: bs) (hy : read front' = .ok y) :
    front = front' := by
  obtain ⟨rest, rfl⟩ := hfront
  obtain ⟨rest', hrest⟩ := hfront'
  obtain ⟨rfl, hfitx⟩ := of_read_eq_ok hx
  obtain ⟨rfl, hfity⟩ := of_read_eq_ok hy
  have hdecode := decode_encode hfitx rest
  rw [← hrest, decode_encode hfity rest'] at hdecode
  rw [(Prod.mk.inj (Except.ok.inj hdecode)).1]

theorem settled [LawfulWire α] [StableWire α] (bs : Bytes) : Settled α bs := by
  have hfound : (read bs : Except DecodeError α) = .error .trailingBytes →
      ∃ front, front <+: bs ∧ front ≠ bs ∧ ∃ x : α, read front = .ok x := by
    intro h
    obtain ⟨x, rest, hrest, hfit, rfl⟩ := exists_value_of_trailingBytes h
    refine ⟨encode x, List.prefix_append _ _, ?_, x, read_encode hfit⟩
    exact fun h => hrest (List.self_eq_append_right.1 h)
  refine ⟨⟨hfound, ?_⟩, ?_, ?_, ?_⟩
  · rintro ⟨front, ⟨rest, rfl⟩, hproper, x, hx⟩
    obtain ⟨rfl, hfit⟩ := of_read_eq_ok hx
    refine read_encode_append hfit ?_
    rintro rfl
    exact hproper (List.append_nil _).symm
  · intro h
    obtain ⟨front, hfront, hproper, x, hx⟩ := hfound h
    refine ⟨front, ⟨hfront, hproper, x, hx⟩, ?_⟩
    rintro front' ⟨hfront', -, y, hy⟩
    exact front_unique hfront' hy hfront hx
  · rintro h front ⟨rest, rfl⟩
    rcases of_read_eq_error h with hd | ⟨⟨⟩, -⟩
    exact read_of_decode_error (StableWire.stable.unexpectedEnd_of_append hd)
  · intro e he h more
    rcases of_read_eq_error h with hd | ⟨rfl, -⟩
    · refine read_of_decode_error (StableWire.stable.error_append hd ?_ more)
      rintro rfl
      exact he
    · exact absurd he not_false

end Wire

/-! ## Arguments -/

/-- **Faults tell what an input lacks**: in the name of a model, a constraint, the amount and the
index of a deposit, and the amount of a withdrawal. A constraint is read alike by itself and as what
an instruction appends to a model. -/
theorem settled_arguments (bs : Bytes) :
    Wire.Settled String bs ∧ Wire.Settled Constraint bs ∧ Wire.Settled TransferInArgs bs ∧
      Wire.Settled UInt64 bs :=
  ⟨Wire.settled bs, Wire.settled bs, Wire.settled bs, Wire.settled bs⟩

end TokenEscrow

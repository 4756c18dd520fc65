import Mathlib.Tactic.SplitIfs
import TokenEscrow.Instruction.Basic
import TokenEscrow.Proofs.Codec.Lawful

/-!
# The wire form of instructions

Packing and unpacking are inverse to each other, in both directions:

* `unpack_pack` — an instruction whose counts fit is read back from its bytes;
* `pack_of_unpack` — bytes that are read as an instruction are the bytes of that
  instruction, and of no other input. So the wire form is **canonical**: there
  is one byte string for each instruction, and the reader accepts no other.

The arguments are composed of lawful parts (`LawfulWire`). What is left is the
first byte: which reader runs on the rest (`unpack_cons`), and which readers can
have produced a given result (`of_readNothing_eq_ok`, `of_readArgs_eq_ok`).
-/

namespace TokenEscrow

open Decoder LawfulWire

/-! ## Arguments -/

/-- The count of a rule has a place in its word. -/
def ConstraintRule.CountsFit : ConstraintRule → Prop
  | none | collection _ => True
  | tokens mints => mints.length < countBound

instance : DecidablePred ConstraintRule.CountsFit
  | .none | .collection _ => .isTrue trivial
  | .tokens mints => inferInstanceAs (Decidable (mints.length < countBound))

instance : LawfulWire ConstraintRule where
  Fits := ConstraintRule.CountsFit
  decode_encode {rule} h rest := by
    cases rule with
    | none => rfl
    | collection mint =>
      have hmint := decode_encode (x := mint) trivial rest
      exact (bind_ok (byte_cons 1 _)).trans (bind_ok hmint)
    | tokens mints =>
      have hfit : Fits mints := ⟨h, fun _ _ => trivial⟩
      exact (bind_ok (byte_cons 2 _)).trans (bind_ok (decode_encode hfit rest))
  of_decode {rule bs rest} h := by
    obtain ⟨tag, mid, hb, hr⟩ := bind_eq_ok h
    obtain rfl := of_byte_eq_ok hb
    split_ifs at hr with h0 h1 h2
    · obtain ⟨rfl, rfl⟩ := pure_eq_ok hr
      exact ⟨by rw [h0]; rfl, trivial⟩
    · obtain ⟨mint, mid', hd, hp⟩ := bind_eq_ok hr
      obtain ⟨rfl, rfl⟩ := pure_eq_ok hp
      obtain ⟨rfl, -⟩ := of_decode hd
      exact ⟨by rw [h1]; rfl, trivial⟩
    · obtain ⟨mints, mid', hd, hp⟩ := bind_eq_ok hr
      obtain ⟨rfl, rfl⟩ := pure_eq_ok hp
      obtain ⟨rfl, hfit⟩ := of_decode hd
      exact ⟨by rw [h2]; rfl, hfit.1⟩
    · exact absurd hr throw_ne_ok

/-- The counts of a constraint have a place in their words. -/
def Constraint.CountsFit (c : Constraint) : Prop :=
  (Utf8.encode c.name).length < countBound ∧ c.rule.CountsFit

instance : DecidablePred Constraint.CountsFit := fun c =>
  inferInstanceAs (Decidable ((Utf8.encode c.name).length < countBound ∧ c.rule.CountsFit))

instance : LawfulWire Constraint where
  Fits := Constraint.CountsFit
  decode_encode {c} h rest := by
    have hrule := decode_encode (x := c.rule) h.2 rest
    have hlimit := decode_encode (x := c.tokenLimit) trivial (Wire.encode c.rule ++ rest)
    have hname := decode_encode (x := c.name) h.1
      (Wire.encode c.tokenLimit ++ (Wire.encode c.rule ++ rest))
    rw [← List.append_assoc, ← List.append_assoc] at hname
    exact (bind_ok hname).trans ((bind_ok hlimit).trans (bind_ok hrule))
  of_decode {c bs rest} h := by
    obtain ⟨name, mid, hname, h⟩ := bind_eq_ok h
    obtain ⟨limit, mid', hlimit, h⟩ := bind_eq_ok h
    obtain ⟨rule, mid'', hrule, hp⟩ := bind_eq_ok h
    obtain ⟨rfl, rfl⟩ := pure_eq_ok hp
    obtain ⟨rfl, hfit⟩ := of_decode hname
    obtain ⟨rfl, -⟩ := of_decode hlimit
    obtain ⟨rfl, hfit'⟩ := of_decode hrule
    refine ⟨?_, hfit, hfit'⟩
    rw [← List.append_assoc, ← List.append_assoc]
    rfl

instance : LawfulWire TransferInArgs where
  Fits _ := True
  decode_encode {args} _ rest := by
    have hindex := decode_encode (x := args.index) trivial rest
    have hamount := decode_encode (x := args.amount) trivial (Wire.encode args.index ++ rest)
    rw [← List.append_assoc] at hamount
    exact (bind_ok hamount).trans (bind_ok hindex)
  of_decode {args bs rest} h := by
    obtain ⟨amount, mid, hamount, h⟩ := bind_eq_ok h
    obtain ⟨index, mid', hindex, hp⟩ := bind_eq_ok h
    obtain ⟨rfl, rfl⟩ := pure_eq_ok hp
    obtain ⟨rfl, -⟩ := of_decode hamount
    obtain ⟨rfl, -⟩ := of_decode hindex
    exact ⟨(List.append_assoc ..).symm, trivial⟩

/-! ## Instructions -/

namespace EscrowInstruction

/-- Every count of an instruction has a place in its word: the bytes of a name, and the mints of
a list. -/
def CountsFit : EscrowInstruction → Prop
  | createConstraintModel name => (Utf8.encode name).length < countBound
  | addConstraint constraint => constraint.CountsFit
  | createEscrow | closeEscrow | transferOut _ | transferIn _ => True

instance : DecidablePred CountsFit
  | createConstraintModel name =>
    inferInstanceAs (Decidable ((Utf8.encode name).length < countBound))
  | addConstraint constraint => inferInstanceAs (Decidable constraint.CountsFit)
  | createEscrow | closeEscrow | transferOut _ | transferIn _ => .isTrue trivial

variable {α : Type} [Wire α] [LawfulWire α] {make : α → EscrowInstruction}

/-- Arguments that fit are read from their bytes. -/
theorem readArgs_encode {x : α} (h : Fits x) : readArgs make (Wire.encode x) = .ok (make x) := by
  rw [readArgs, read_encode h]

/-- Inversion for `readArgs`. -/
theorem of_readArgs_eq_ok {input : Bytes} {i : EscrowInstruction}
    (h : readArgs make input = .ok i) : ∃ x, i = make x ∧ input = Wire.encode x ∧ Fits x := by
  unfold readArgs at h
  rcases hr : (Wire.read input : Except DecodeError α) with e | x <;> rw [hr] at h
  · cases h
  · cases h
    obtain ⟨hx, hfit⟩ := of_read_eq_ok hr
    exact ⟨x, rfl, hx, hfit⟩

/-- Inversion for `readNothing`. -/
theorem of_readNothing_eq_ok {input : Bytes} {i j : EscrowInstruction}
    (h : readNothing i input = .ok j) : j = i ∧ input = [] := by
  cases input with
  | nil =>
    cases h
    exact ⟨rfl, rfl⟩
  | cons b rest => cases h

/-- What is read behind the first byte of an instruction. -/
theorem unpack_cons (i : EscrowInstruction) (rest : Bytes) :
    unpack (i.schema.discriminator :: rest) =
      match i with
      | createEscrow => readNothing createEscrow rest
      | closeEscrow => readNothing closeEscrow rest
      | transferOut _ => readArgs transferOut rest
      | transferIn _ => readArgs transferIn rest
      | createConstraintModel _ => readArgs createConstraintModel rest
      | addConstraint _ => readArgs addConstraint rest := by
  cases i <;> rfl

/-- An accepted input is the discriminator and the arguments of the instruction, which fit. -/
theorem of_unpack_eq_ok {input : Bytes} {i : EscrowInstruction} (h : unpack input = .ok i) :
    input = i.pack ∧ i.CountsFit := by
  cases input with
  | nil => cases h
  | cons d rest =>
    simp only [unpack] at h
    split_ifs at h with h0 h1 h2 h3 h4 h5
    · obtain ⟨rfl, rfl⟩ := of_readNothing_eq_ok h
      exact ⟨by rw [h0]; rfl, trivial⟩
    · obtain ⟨rfl, rfl⟩ := of_readNothing_eq_ok h
      exact ⟨by rw [h1]; rfl, trivial⟩
    · obtain ⟨amount, rfl, rfl, -⟩ := of_readArgs_eq_ok h
      exact ⟨by rw [h2]; rfl, trivial⟩
    · obtain ⟨args, rfl, rfl, -⟩ := of_readArgs_eq_ok h
      exact ⟨by rw [h3]; rfl, trivial⟩
    · obtain ⟨name, rfl, rfl, hfit⟩ := of_readArgs_eq_ok h
      exact ⟨by rw [h4]; rfl, hfit⟩
    · obtain ⟨constraint, rfl, rfl, hfit⟩ := of_readArgs_eq_ok h
      exact ⟨by rw [h5]; rfl, hfit⟩

/-- An input is read as an instruction whose counts fit, exactly if it is its wire form. -/
theorem unpack_eq_ok_iff {input : Bytes} {i : EscrowInstruction} :
    unpack input = .ok i ↔ input = i.pack ∧ i.CountsFit := by
  refine ⟨of_unpack_eq_ok, ?_⟩
  rintro ⟨rfl, h⟩
  rw [pack, unpack_cons]
  cases i with
  | createEscrow => rfl
  | closeEscrow => rfl
  | transferOut amount => exact readArgs_encode trivial
  | transferIn args => exact readArgs_encode trivial
  | createConstraintModel name => exact readArgs_encode h
  | addConstraint constraint => exact readArgs_encode h

/-- **Unpacking undoes packing**: an instruction whose counts fit is read back from its wire
form. -/
theorem unpack_pack {i : EscrowInstruction} (h : i.CountsFit) : unpack i.pack = .ok i :=
  unpack_eq_ok_iff.2 ⟨rfl, h⟩

/-- A list with a repeated mint, behind a name that is longer in bytes than in characters. -/
theorem unpack_pack_tokens :
    CountsFit (addConstraint ⟨"Hüte", 18446744073709551615,
      .tokens [ByteVec.replicate 32 7, ByteVec.zero 32, ByteVec.replicate 32 7]⟩) ∧
    unpack (pack (addConstraint ⟨"Hüte", 18446744073709551615,
      .tokens [ByteVec.replicate 32 7, ByteVec.zero 32, ByteVec.replicate 32 7]⟩)) =
    .ok (addConstraint ⟨"Hüte", 18446744073709551615,
      .tokens [ByteVec.replicate 32 7, ByteVec.zero 32, ByteVec.replicate 32 7]⟩) :=
  ⟨by decide, unpack_pack (by decide)⟩

/-- **The wire form is canonical**: an input that is read as an instruction is the wire form of
that instruction, its counts fit, and no other input is read as it. -/
theorem pack_of_unpack {input : Bytes} {i : EscrowInstruction} (h : unpack input = .ok i) :
    i.pack = input ∧ i.CountsFit ∧ ∀ other, unpack other = .ok i → other = input := by
  obtain ⟨hpack, hfit⟩ := unpack_eq_ok_iff.1 h
  refine ⟨hpack.symm, hfit, ?_⟩
  intro other hother
  exact (unpack_eq_ok_iff.1 hother).1.trans hpack.symm

/-- A name of one character and two bytes. -/
theorem pack_of_unpack_name :
    unpack [42, 2, 0, 0, 0, 0xC3, 0xA9] = .ok (createConstraintModel "é") ∧
    pack (createConstraintModel "é") = [42, 2, 0, 0, 0, 0xC3, 0xA9] ∧
    CountsFit (createConstraintModel "é") ∧
    ∀ other, unpack other = .ok (createConstraintModel "é") →
      other = [42, 2, 0, 0, 0, 0xC3, 0xA9] :=
  ⟨rfl, pack_of_unpack rfl⟩

end EscrowInstruction

end TokenEscrow

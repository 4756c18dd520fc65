import TokenEscrow.Proofs.Instruction.Ownership

/-!
# Nothing but the whole is read

No wire form is a proper prefix of another one, for values that fit. A reader that
finds a value leaves the rest of the input alone, so bytes behind the value are left
over (`LawfulWire.read_encode_append`), and an input that was cut short would, if
it were read as some value, leave its missing end over in the same way. So nothing
has to be said about what a reader does where an input ends in the middle of a
field, whichever field that is.

For instructions this comes to `unpack_of_cut_or_continued`: both an input that was
cut short and one that goes on are refused, always with the same error.
-/

namespace TokenEscrow

open LawfulWire

/-! ## Values -/

namespace LawfulWire

variable {α : Type} [Wire α] [LawfulWire α]

/-- What stands behind a value is left over. -/
theorem read_encode_append {x : α} (h : Fits x) {rest : Bytes} (hrest : rest ≠ []) :
    (Wire.read (Wire.encode x ++ rest) : Except DecodeError α) = .error .trailingBytes := by
  rw [Wire.read, decode_encode h]
  cases rest with
  | nil => exact absurd rfl hrest
  | cons b rest => rfl

end LawfulWire

/-! ## Instructions -/

namespace EscrowInstruction

variable {i j : EscrowInstruction}

theorem readArgs_encode_append {α : Type} [Wire α] [LawfulWire α] (make : α → EscrowInstruction)
    {x : α} (h : Fits x) {rest : Bytes} (hrest : rest ≠ []) :
    readArgs make (Wire.encode x ++ rest) = .error .invalidInstructionData := by
  rw [readArgs, read_encode_append h hrest]

/-- **Nothing may follow**: an instruction with bytes behind it is refused. -/
theorem unpack_pack_append (h : i.CountsFit) {rest : Bytes} (hrest : rest ≠ []) :
    unpack (i.pack ++ rest) = .error .invalidInstructionData := by
  rw [pack, List.cons_append, unpack_cons]
  cases i with
  | createEscrow | closeEscrow =>
    cases rest with
    | nil => exact absurd rfl hrest
    | cons b rest => rfl
  | transferOut amount => exact readArgs_encode_append _ trivial hrest
  | transferIn args => exact readArgs_encode_append _ trivial hrest
  | createConstraintModel name => exact readArgs_encode_append _ h hrest
  | addConstraint constraint => exact readArgs_encode_append _ h hrest

/-- **Wire forms are prefix-free**: an instruction whose wire form starts another one is that
one. -/
theorem eq_of_pack_isPrefix (hi : i.CountsFit) (hj : j.CountsFit) (h : i.pack <+: j.pack) :
    i = j := by
  obtain ⟨rest, hrest⟩ := h
  have hread := unpack_pack hj
  rw [← hrest] at hread
  cases rest with
  | nil =>
    rw [List.append_nil, unpack_pack hi] at hread
    exact Except.ok.inj hread
  | cons b rest =>
    rw [unpack_pack_append hi (List.cons_ne_nil b rest)] at hread
    cases hread

/-- **Nothing may be missing**: an instruction that was cut short is refused. -/
theorem unpack_of_isPrefix (h : i.CountsFit) {front : Bytes} (hfront : front <+: i.pack)
    (hcut : front ≠ i.pack) : unpack front = .error .invalidInstructionData := by
  cases front with
  | nil => rfl
  | cons d args =>
    -- The first byte is still there, so the only other way to go on is to read an instruction.
    obtain ⟨hd, -⟩ := List.cons_prefix_cons.1 hfront
    rw [hd] at hfront hcut ⊢
    refine (unpack_owned i args).resolve_left ?_
    rintro ⟨j, hj, -⟩
    obtain ⟨hpack, hfit⟩ := of_unpack_eq_ok hj
    rw [hpack] at hfront hcut
    exact hcut (congrArg pack (eq_of_pack_isPrefix hfit h hfront))

/-- **Nothing but the whole is read**: every proper prefix of an instruction and every proper
continuation of it are refused as malformed, so no instruction is a proper prefix of another
one. -/
theorem unpack_of_cut_or_continued (h : i.CountsFit) :
    (∀ front, front <+: i.pack → front ≠ i.pack →
        unpack front = .error .invalidInstructionData) ∧
      (∀ rest, rest ≠ [] → unpack (i.pack ++ rest) = .error .invalidInstructionData) ∧
      ∀ j : EscrowInstruction, j.CountsFit → i.pack <+: j.pack → i = j :=
  ⟨fun _ => unpack_of_isPrefix h, fun _ => unpack_pack_append h,
    fun _ => eq_of_pack_isPrefix h⟩

/-- A list of two mints behind a name with a character of two bytes: it cannot be cut inside that
character, nor between the mints. -/
theorem unpack_of_cut_or_continued_tokens :
    let i := addConstraint ⟨"Hüte", 3, .tokens [ByteVec.replicate 32 7, ByteVec.zero 32]⟩
    i.CountsFit ∧ i.pack.length = 87 ∧
      (∀ n < 87, unpack (i.pack.take n) = .error .invalidInstructionData) ∧
      (∀ b, unpack (i.pack ++ [b]) = .error .invalidInstructionData) ∧
      ∀ j : EscrowInstruction, j.CountsFit → i.pack <+: j.pack → i = j := by
  intro i
  have hfit : i.CountsFit := by decide
  have hlength : i.pack.length = 87 := by decide
  obtain ⟨hcut, hcontinued, hprefix⟩ := unpack_of_cut_or_continued hfit
  refine ⟨hfit, hlength, ?_, fun b => hcontinued [b] (List.cons_ne_nil b []), hprefix⟩
  intro n hn
  refine hcut _ (List.take_prefix n i.pack) ?_
  intro h
  have hshort := congrArg List.length h
  rw [List.length_take, hlength] at hshort
  omega

end EscrowInstruction

end TokenEscrow

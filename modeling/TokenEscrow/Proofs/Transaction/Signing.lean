import TokenEscrow.Proofs.Transaction.Single
import TokenEscrow.Transaction.Sign

/-!
# Which messages can be signed

What is signed is the wire form of a message, and writing it fails for one
reason only: a list is too long for its count (`Message.isSome_encode?_iff`). A
message with one instruction for few accounts can only be too long in its data
(`Message.isSome_encode?_single_iff`).

Signing itself keeps the message, and puts next to it the one signature that
the signer gave for its wire form (`Transaction.of_sign_eq_ok`). It ends without
an error of the signer exactly when there is no wire form
(`Transaction.sign_eq_noWireForm_iff`).

A message that only its payer signs may be compiled before there is a block
hash: putting the hash in while signing comes to the same as compiling with it
(`Transaction.signFor_unsigned`), also when the hash is the one that stands for
none.
-/

namespace TokenEscrow

/-! ## Lists -/

/-- Two parts are written when both are. -/
theorem isSome_bind_bind_iff {α β γ : Type} {x : Option α} {y : Option β} {f : α → β → γ} :
    (x >>= fun a => y >>= fun b => pure (f a b)).isSome = true ↔
      x.isSome = true ∧ y.isSome = true := by
  rcases x with _ | a
  · simp
  · rcases y with _ | b <;> simp

theorem CompactLength.isSome_encode?_iff {n : Nat} :
    (CompactLength.encode? n).isSome = true ↔ n < CompactLength.bound := by
  unfold CompactLength.encode? CompactLength.bound
  split_ifs with h h' h''
  · exact iff_of_true rfl (by omega)
  · exact iff_of_true rfl (by omega)
  · exact iff_of_true rfl h''
  · exact iff_of_false Bool.false_ne_true h''

/-- The elements of a list are written when each of them is. -/
theorem isSome_mapM_iff {α β : Type} {f : α → Option β} {xs : List α} :
    (xs.mapM f).isSome = true ↔ ∀ x ∈ xs, (f x).isSome = true := by
  induction xs with
  | nil => simp
  | cons x xs ih => rw [List.mapM_cons, isSome_bind_bind_iff, ih, List.forall_mem_cons]

theorem isSome_encodeList?_iff {α : Type} {item? : α → Option Bytes} {xs : List α} :
    (encodeList? item? xs).isSome = true ↔
      xs.length < CompactLength.bound ∧ ∀ x ∈ xs, (item? x).isSome = true := by
  rw [encodeList?, isSome_bind_bind_iff, CompactLength.isSome_encode?_iff, isSome_mapM_iff]

/-! ## Messages -/

theorem CompiledInstruction.isSome_encode?_iff {i : CompiledInstruction} :
    i.encode?.isSome = true ↔
      i.accounts.length < CompactLength.bound ∧ i.data.length < CompactLength.bound := by
  rw [CompiledInstruction.encode?, isSome_bind_bind_iff, isSome_encodeList?_iff,
    CompactLength.isSome_encode?_iff]
  simp

namespace Message

/-- **Which messages have a wire form**: those in which no list is too long for its count. -/
theorem isSome_encode?_iff {m : Message} :
    m.encode?.isSome = true ↔
      m.keys.length < CompactLength.bound ∧ m.instructions.length < CompactLength.bound ∧
        ∀ i ∈ m.instructions,
          i.accounts.length < CompactLength.bound ∧ i.data.length < CompactLength.bound := by
  rw [encode?, isSome_bind_bind_iff, isSome_encodeList?_iff, isSome_encodeList?_iff]
  simp [CompiledInstruction.isSome_encode?_iff]

/-- Few accounts never make a message too long; its data may. -/
theorem isSome_encode?_single_iff {payer : Address} {i : Instruction} {blockhash : Hash}
    (h : i.accounts.length < 254) :
    (compile payer [i] blockhash).encode?.isSome = true ↔ i.data.length < CompactLength.bound := by
  have hkeys : (compile payer [i] blockhash).keys.length ≤ i.accounts.length + 2 :=
    length_keys_single_le
  have hbound : CompactLength.bound = 65536 := rfl
  rw [isSome_encode?_iff]
  constructor
  · rintro ⟨-, -, hi⟩
    exact (hi _ (List.mem_singleton_self _)).2
  · intro hdata
    have hone : (compile payer [i] blockhash).instructions.length = 1 := rfl
    refine ⟨by omega, by omega, ?_⟩
    intro j hj
    obtain rfl := List.mem_singleton.1 hj
    refine ⟨?_, hdata⟩
    rw [compileInstruction, List.length_map]
    omega

end Message

/-! ## Signing -/

namespace Transaction

variable {message : Message} {signer : Signer}

/-- Introduction for `sign`. -/
theorem sign_ok {bytes : Bytes} {signature : Signature} (hbytes : message.encode? = some bytes)
    (hsign : signer.sign bytes = .ok signature) (hzero : signature ≠ ByteVec.zero 64) :
    sign message signer = .ok ⟨[signature], message⟩ := by
  rw [sign, hbytes]
  simp only [hsign, if_neg hzero]

/-- Inversion for `sign`. -/
theorem of_sign_eq_ok {t : Transaction} (h : sign message signer = .ok t) :
    ∃ bytes signature, message.encode? = some bytes ∧ signer.sign bytes = .ok signature ∧
      signature ≠ ByteVec.zero 64 ∧ t = ⟨[signature], message⟩ := by
  unfold sign at h
  rcases hbytes : message.encode? with _ | bytes <;> rw [hbytes] at h
  · cases h
  · rcases hsign : signer.sign bytes with e | signature <;> simp only [hsign] at h
    · cases h
    · by_cases hzero : signature = ByteVec.zero 64
      · rw [if_pos hzero] at h
        cases h
      · rw [if_neg hzero] at h
        cases h
        exact ⟨bytes, signature, rfl, hsign, hzero, rfl⟩

/-- A message without a wire form is the only one that no signer is asked for. -/
theorem sign_eq_noWireForm_iff :
    sign message signer = .error .noWireForm ↔ ¬ message.encode?.isSome = true := by
  rcases hbytes : message.encode? with _ | bytes
  · simp [sign, hbytes]
  · rcases hsign : signer.sign bytes with e | signature
    · simp [sign, hbytes, hsign]
    · by_cases hzero : signature = ByteVec.zero 64 <;> simp [sign, hbytes, hsign, hzero]

/-! ### Signing in steps -/

/-- A block hash that is put in is that of the message; empty signatures stay empty. -/
theorem withBlockhash_unsigned (message : Message) (blockhash : Hash) :
    (unsigned message).withBlockhash blockhash = unsigned { message with blockhash } := by
  unfold withBlockhash
  by_cases h : blockhash = (unsigned message).message.blockhash
  · rw [if_pos h, h]
    rfl
  · rw [if_neg h]
    simp [unsigned]

/-- The payer has the first place. -/
theorem placeOf_unsigned {payer : Address} (hrequired : message.header.requiredSignatures = 1)
    (hpayer : message.keys.head? = some payer) : (unsigned message).placeOf payer = .ok 0 := by
  obtain ⟨keys, hkeys⟩ : ∃ keys, message.keys = payer :: keys := List.head?_eq_some_iff.1 hpayer
  simp [placeOf, unsigned, hrequired, hkeys, List.idxOf?_cons]

/-- **One step is enough**: a message that only its payer signs, compiled without a block hash and
then signed for one, is the message with that block hash, signed. -/
theorem signFor_unsigned (hrequired : message.header.requiredSignatures = 1)
    (hpayer : message.keys.head? = some signer.address) (blockhash : Hash) :
    (unsigned message).signFor signer blockhash = sign { message with blockhash } signer := by
  rw [signFor, placeOf_unsigned hrequired hpayer]
  simp only [withBlockhash_unsigned]
  have hmessage : (unsigned { message with blockhash }).message = { message with blockhash } := rfl
  have hempty : (unsigned { message with blockhash }).signatures = [ByteVec.zero 64] := by
    simp [unsigned, hrequired]
  rw [sign, hmessage, hempty]
  rcases hbytes : ({ message with blockhash } : Message).encode? with _ | bytes
  · rfl
  rcases hsign : signer.sign bytes with e | signature
  · simp only [hsign]
  · by_cases hzero : signature = ByteVec.zero 64 <;> simp [hsign, hzero, isSigned]

end Transaction

end TokenEscrow

import Mathlib.Data.Option.Basic
import TokenEscrow.Zstd.Frame

/-!
# Everything can be zipped

A byte string is a frame if it is read as one whatever follows it (`Zstd.IsFrame`), and
frames one after the other are read as their contents one after the other
(`Zstd.decode?_flatMap`). A frame can hold its content as it is, in blocks of at most
128 KiB (`Zstd.isFrame_stored`). So every byte string is the content of some zipped data
(`Zstd.exists_decode?_eq_some`).

What is shown of blocks is an induction on those that are not final; each leaves the
context as it was but for the bytes that it adds.
-/

namespace TokenEscrow

namespace Zstd

/-- What is put together of parts that are not empty is no shorter than the parts are many. -/
theorem length_le_length_flatMap {α β : Type} {f : α → List β} {xs : List α}
    (h : ∀ x ∈ xs, 0 < (f x).length) : xs.length ≤ (xs.flatMap f).length := by
  induction xs with
  | nil => exact Nat.le_refl 0
  | cons x xs ih =>
    obtain ⟨hx, hxs⟩ := List.forall_mem_cons.1 h
    rw [List.flatMap_cons, List.length_append, List.length_cons]
    have := ih hxs
    omega

/-! ## Frames in a row -/

/-- A byte string that is read as a frame with some content, whatever follows. -/
def IsFrame (bs content : Bytes) : Prop := ∀ rest, anyFrame (bs ++ rest) = some (content, rest)

/-- A frame is not empty. -/
theorem IsFrame.length_pos {bs content : Bytes} (h : IsFrame bs content) : 0 < bs.length := by
  cases bs with
  | nil => cases h []
  | cons b bs => exact Nat.succ_pos _

/-- A frame is read, and then what follows it. -/
theorem IsFrame.frames_append {bs content : Bytes} (h : IsFrame bs content) (room : Nat)
    (rest : Bytes) : frames (room + 1) (bs ++ rest) =
      if rest.isEmpty then some content else (frames room rest).map (content ++ ·) := by
  rw [frames, h rest]
  cases rest with
  | nil => rfl
  | cons => cases hrest : frames room _ <;> simp [hrest]

/-- **Frames one after the other** are read as their contents. -/
theorem decode?_flatMap {fs : List (Bytes × Bytes)} (hne : fs ≠ [])
    (h : ∀ p ∈ fs, IsFrame p.1 p.2) :
    decode? (fs.flatMap Prod.fst) = some (fs.flatMap Prod.snd) := by
  -- There is room for as many frames as there are bytes, so for all of them.
  have hframes : ∀ room, (fs.flatMap Prod.fst).length ≤ room →
      frames room (fs.flatMap Prod.fst) = some (fs.flatMap Prod.snd) := by
    induction fs with
    | nil => exact absurd rfl hne
    | cons p fs ih =>
      intro room hroom
      obtain ⟨hp, hfs⟩ := List.forall_mem_cons.1 h
      have hpos := hp.length_pos
      rw [List.flatMap_cons, List.length_append] at hroom
      obtain ⟨room, rfl⟩ : ∃ n, room = n + 1 := ⟨room - 1, by omega⟩
      rw [List.flatMap_cons, List.flatMap_cons, hp.frames_append]
      cases fs with
      | nil =>
        rw [List.flatMap_nil, List.flatMap_nil, List.append_nil, List.isEmpty_nil, if_pos rfl]
      | cons q fs =>
        have hmore : ((q :: fs).flatMap Prod.fst).isEmpty = false := by
          have hlength := length_le_length_flatMap fun r hr => (hfs r hr).length_pos
          rw [List.isEmpty_eq_false_iff, ← List.length_pos_iff]
          exact Nat.lt_of_lt_of_le (Nat.succ_pos _) hlength
        rw [hmore, ih (List.cons_ne_nil _ _) hfs room (by omega)]
        rfl
  exact hframes _ (Nat.le_refl _)

/-! ## Stored frames -/

/-- A block that holds bytes as they are. -/
def storedBlock (final : Bool) (bs : Bytes) : Bytes :=
  LittleEndian.encode 3 (8 * bs.length + final.toNat) ++ bs

/-- A frame that holds pieces as they are, in a block each. -/
def storedFrame (pieces : List Bytes) (last : Bytes) : Bytes :=
  magic ++ 0x00 :: 0x38 :: pieces.flatMap (storedBlock false) ++ storedBlock true last

theorem length_storedBlock_pos (final : Bool) (bs : Bytes) :
    0 < (storedBlock final bs).length := by
  rw [storedBlock, List.length_append, LittleEndian.length_encode]
  omega

/-- The header of a stored block. -/
theorem read_storedBlock {bs : Bytes} (h : bs.length ≤ maxBlock) (final : Bool) (rest : Bytes) :
    BlockHeader.read (storedBlock final bs ++ rest) =
      some (⟨final, .stored, bs.length⟩, bs ++ rest) := by
  have hsplit := Bytes.split?_append (LittleEndian.encode 3 (8 * bs.length + final.toNat))
    (bs ++ rest)
  rw [LittleEndian.length_encode] at hsplit
  have hfinal := final.toNat_lt
  have hsmall : 8 * bs.length + final.toNat < Nat.pow 256 3 := by
    have : Nat.pow 256 3 = 16777216 := rfl
    simp only [maxBlock] at h
    omega
  rw [storedBlock, List.append_assoc, BlockHeader.read, hsplit]
  simp only [Option.bind_eq_bind, Option.bind_some, LittleEndian.decode_encode,
    Nat.mod_eq_of_lt hsmall]
  rw [show (8 * bs.length + final.toNat) / 2 % 4 = 0 by omega,
    show (8 * bs.length + final.toNat) / 8 = bs.length by omega,
    show (8 * bs.length + final.toNat) % 2 = final.toNat by omega]
  cases final <;> rfl

/-- **What one block does**: it adds its bytes. -/
theorem blocks_storedBlock {bs : Bytes} (h : bs.length ≤ maxBlock) (final : Bool) (room : Nat)
    (c : Context) (rest : Bytes) :
    blocks maxBlock (room + 1) c (storedBlock final bs ++ rest) =
      if final then some ({ c with out := c.out ++ bs.toArray }, rest)
      else blocks maxBlock room { c with out := c.out ++ bs.toArray } rest := by
  have hsize : (c.out ++ bs.toArray).size ≤ c.out.size + maxBlock := by
    simpa using h
  rw [blocks, read_storedBlock h]
  simp only [Option.bind_eq_bind, Option.bind_some, BlockHeader.length, reduceCtorEq, if_false,
    Bytes.split?_append, Context.add, (Option.guard_eq_some' ()).2 h,
    (Option.guard_eq_some' ()).2 hsize]
  rfl

/-- Blocks that are not final add their bytes, and then the final one does. -/
theorem blocks_flatMap_storedBlock {pieces : List Bytes} {last : Bytes}
    (hpieces : ∀ p ∈ pieces, p.length ≤ maxBlock) (hlast : last.length ≤ maxBlock) {room : Nat}
    (hroom : pieces.length < room) (c : Context) (rest : Bytes) :
    blocks maxBlock room c (pieces.flatMap (storedBlock false) ++ storedBlock true last ++ rest) =
      some ({ c with out := c.out ++ (pieces.flatten ++ last).toArray }, rest) := by
  induction pieces generalizing c room with
  | nil =>
    obtain ⟨room, rfl⟩ : ∃ n, room = n + 1 := ⟨room - 1, by omega⟩
    rw [List.flatMap_nil, List.nil_append, blocks_storedBlock hlast]
    rfl
  | cons p pieces ih =>
    obtain ⟨hp, hpieces⟩ := List.forall_mem_cons.1 hpieces
    rw [List.length_cons] at hroom
    obtain ⟨room, rfl⟩ : ∃ n, room = n + 1 := ⟨room - 1, by omega⟩
    rw [List.flatMap_cons, List.append_assoc, List.append_assoc, blocks_storedBlock hp,
      if_neg Bool.false_ne_true, ← List.append_assoc, ih hpieces (by omega)]
    simp

/-- The header of a stored frame: windows are as large as blocks, and there is no checksum. -/
theorem read_storedHeader (rest : Bytes) : Header.read (0x00 :: 0x38 :: rest) =
    some ({ window := maxBlock, size := none, checked := false }, rest) := rfl

/-- **A stored frame** is read as its pieces. -/
theorem isFrame_stored {pieces : List Bytes} {last : Bytes}
    (hpieces : ∀ p ∈ pieces, p.length ≤ maxBlock) (hlast : last.length ≤ maxBlock) :
    IsFrame (storedFrame pieces last) (pieces.flatten ++ last) := by
  intro rest
  let written := pieces.flatMap (storedBlock false) ++ storedBlock true last ++ rest
  have hmagic : Bytes.split? 4 (storedFrame pieces last ++ rest) =
      some (magic, 0x00 :: 0x38 :: written) := by
    have hsplit : Bytes.split? 4 (magic ++ 0x00 :: 0x38 :: written) = _ :=
      Bytes.split?_append magic _
    simpa only [storedFrame, written, List.append_assoc, List.cons_append] using hsplit
  have hroom : pieces.length < written.length := by
    have hlength :=
      length_le_length_flatMap fun p (_ : p ∈ pieces) => length_storedBlock_pos false p
    have hfinal := length_storedBlock_pos true last
    simp only [written, List.length_append]
    omega
  have hblocks : blocks maxBlock written.length {} written = _ :=
    blocks_flatMap_storedBlock hpieces hlast hroom {} rest
  rw [anyFrame, hmagic]
  simp only [Option.bind_eq_bind, Option.bind_some, if_pos]
  rw [frame, read_storedHeader]
  simp only [Option.bind_eq_bind, Option.bind_some, Nat.min_self, hblocks]
  -- No length is told, so there is nothing to be compared with.
  rw [(Option.guard_eq_some' ()).2 (by simp)]
  simp

/-- Every byte string can be cut into pieces that blocks can hold. -/
theorem exists_pieces (bs : Bytes) : ∃ (pieces : List Bytes) (last : Bytes),
    (∀ p ∈ pieces, p.length ≤ maxBlock) ∧ last.length ≤ maxBlock ∧ pieces.flatten ++ last = bs := by
  induction hn : bs.length using Nat.strongRecOn generalizing bs with
  | _ n ih =>
    by_cases hshort : bs.length ≤ maxBlock
    · exact ⟨[], bs, nofun, hshort, rfl⟩
    · have hdrop : (bs.drop maxBlock).length < n := by
        rw [List.length_drop]
        simp only [maxBlock] at hshort ⊢
        omega
      obtain ⟨pieces, last, hpieces, hlast, heq⟩ := ih _ hdrop (bs.drop maxBlock) rfl
      refine ⟨bs.take maxBlock :: pieces, last, ?_, hlast, ?_⟩
      · exact List.forall_mem_cons.2 ⟨List.length_take_le _ _, hpieces⟩
      · rw [List.flatten_cons, List.append_assoc, heq, List.take_append_drop]

/-- **Everything can be zipped.** -/
theorem exists_decode?_eq_some (content : Bytes) : ∃ zipped, decode? zipped = some content := by
  obtain ⟨pieces, last, hpieces, hlast, rfl⟩ := exists_pieces content
  have hframe := isFrame_stored hpieces hlast
  refine ⟨storedFrame pieces last, ?_⟩
  have hdecode : decode? ([(storedFrame pieces last, pieces.flatten ++ last)].flatMap Prod.fst) =
      some _ := decode?_flatMap (List.cons_ne_nil _ _) (List.forall_mem_singleton.2 hframe)
  simpa using hdecode

end Zstd

end TokenEscrow

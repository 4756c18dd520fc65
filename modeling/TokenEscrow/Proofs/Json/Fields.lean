import Mathlib.Data.List.Induction
import Mathlib.Data.List.Nodup
import TokenEscrow.Proofs.Json.Record

/-!
# Fields by name

As long as no name occurs twice, an object is what its fields are, in any order:
sorting them moves them around (`perm_sortedFields`) and leaves every look-up as it
is (`lastField?_eq_of_perm`). Readers of records look fields up, so what they
find (`RecordReader.Finds`) is settled by the look-ups for the names of the parts.
-/

namespace TokenEscrow.Json

variable {fields fields' : List (String × Json)} {name : String} {value : Json}

/-! ## Order -/

theorem lastField?_eq_some_iff (h : (fields.map Prod.fst).Nodup) :
    lastField? fields name = some value ↔ (name, value) ∈ fields := by
  rw [lastField?, List.lookup_eq_some_iff]
  constructor
  · rintro ⟨before, after, hfields, -⟩
    rw [← List.mem_reverse, hfields]
    exact List.mem_append_right _ List.mem_cons_self
  · intro hmem
    rw [← List.mem_reverse] at hmem
    obtain ⟨before, after, hfields⟩ := List.append_of_mem hmem
    refine ⟨before, after, hfields, fun field hfield => bne_iff_ne.2 ?_⟩
    rw [← List.nodup_reverse, ← List.map_reverse, hfields, List.map_append,
      List.nodup_append] at h
    rintro rfl
    exact h.2.2 _ (List.mem_map_of_mem hfield) _ List.mem_cons_self rfl

theorem lastField?_eq_of_perm (h : (fields.map Prod.fst).Nodup) (hperm : fields.Perm fields') :
    lastField? fields' name = lastField? fields name := by
  have h' : (fields'.map Prod.fst).Nodup := (hperm.map Prod.fst).nodup_iff.1 h
  ext value
  rw [lastField?_eq_some_iff h, lastField?_eq_some_iff h', hperm.mem_iff]

/-- A new field is put somewhere among the others. -/
theorem perm_insertField (h : name ∉ fields.map Prod.fst) :
    (insertField name value fields).Perm ((name, value) :: fields) := by
  induction fields with
  | nil => exact .refl _
  | cons field fields ih =>
    rw [List.map_cons, List.mem_cons, not_or] at h
    rw [insertField]
    split_ifs with hlt heq
    · exact .refl _
    · exact absurd heq h.1
    · exact ((ih h.2).cons field).trans (.swap ..)

/-- **Sorting** moves fields around, and none is lost. -/
theorem perm_sortedFields (h : (fields.map Prod.fst).Nodup) :
    (sortedFields fields).Perm fields := by
  -- the last field is the last one that is put in its place
  induction fields using List.reverseRecOn with
  | nil => exact .refl _
  | append_singleton fields field ih =>
    rw [List.map_append, List.map_singleton, List.nodup_append] at h
    obtain ⟨hnodup, -, hne⟩ := h
    have hsorted := ih hnodup
    have hnew : field.1 ∉ (sortedFields fields).map Prod.fst := by
      rw [(hsorted.map Prod.fst).mem_iff]
      exact fun hmem => hne _ hmem _ (List.mem_singleton_self _) rfl
    have hstep : sortedFields (fields ++ [field]) =
        insertField field.1 field.2 (sortedFields fields) := by
      rw [sortedFields, List.foldl_append]
      rfl
    rw [hstep]
    exact ((perm_insertField hnew).trans (hsorted.cons field)).trans
      (List.perm_append_singleton field fields).symm

/-! ## Look-ups -/

@[simp] theorem lastField?_nil : lastField? [] name = none := rfl

@[simp] theorem lastField?_append : lastField? (fields ++ fields') name =
    (lastField? fields' name).or (lastField? fields name) := by
  rw [lastField?, List.reverse_append, List.lookup_append]
  rfl

@[simp] theorem lastField?_cons (field : String × Json) :
    lastField? (field :: fields) name =
      (lastField? fields name).or (if name = field.1 then some field.2 else none) := by
  have hone : lastField? [field] name = if name = field.1 then some field.2 else none := by
    rw [lastField?, List.reverse_singleton, List.lookup_cons]
    split_ifs with hname
    · rw [beq_iff_eq.2 hname]
    · rw [beq_eq_false_iff_ne.2 hname, List.lookup_nil]
  rw [← List.singleton_append, lastField?_append, hone]

/-! ## Readers -/

namespace Reading

theorem text_string (s : String) : text (.string s) = .ok s := rfl

theorem flag_bool (b : Bool) : flag (.bool b) = .ok b := rfl

theorem wholeBelow_ofUInt64 (type : String) (n : UInt64) :
    wholeBelow UInt64.size type (.ofUInt64 n) = .ok n := if_pos n.toNat_lt_size

theorem optional_string (s : String) : text.optional (.string s) = .ok (some s) := rfl

theorem optional_ofUInt64 (n : UInt64) : whole.optional (.ofUInt64 n) = .ok (some n) :=
  congrArg (Except.map some) (wholeBelow_ofUInt64 _ n)

end Reading

namespace RecordReader

/-- What a reader makes of some fields. -/
def Finds {α : Type} (r : RecordReader α) (fields : List (String × Json)) (a : α) : Prop :=
  r.fromFields fields = .ok a

namespace Finds

variable {α β : Type} {f : RecordReader (α → β)} {r : RecordReader α} {g : α → β} {a : α}

theorem map (g : α → β) (hr : r.Finds fields a) : (g <$> r).Finds fields (g a) :=
  fromFields_map_eq_ok_iff.2 ⟨a, hr, rfl⟩

theorem seq (hf : f.Finds fields g) (hr : r.Finds fields a) : (f <*> r).Finds fields (g a) :=
  fromFields_seq_eq_ok_iff.2 ⟨g, a, hf, hr, rfl⟩

theorem field {read : Reading α} {write : α → Json} (hread : ∀ a, read (write a) = .ok a)
    (h : lastField? fields name = some (write a)) : (field name read).Finds fields a :=
  fromFields_part_eq_ok_iff.2 (.inr ⟨write a, h, hread a⟩)

/-- A part that may be missing is absent exactly if it is missing. -/
theorem optionalField {read : Reading α} {write : α → Json} {a : Option α}
    (hread : ∀ a, read.optional (write a) = .ok (some a))
    (h : lastField? fields name = a.map write) : (optionalField name read).Finds fields a := by
  cases a with
  | none => exact fromFields_part_eq_ok_iff.2 (.inl ⟨h, rfl⟩)
  | some a => exact fromFields_part_eq_ok_iff.2 (.inr ⟨write a, h, hread a⟩)

end Finds

end RecordReader

end TokenEscrow.Json

import TokenEscrow.Json.Record

/-!
# What readers of records accept

A reader of records accepts an object and a list, and both come down to its parts:
the last field with the name of a part, or the next item of the list. The lemmas
below go through the ways of building a reader, so what a record is read from can
be taken apart without opening its reader.
-/

namespace TokenEscrow.Json.RecordReader

variable {α β : Type} {fields : List (String × Json)} {items rest : List Json}

/-! ## Parts -/

section

variable {name : String} {absent : Option α} {read : Reading α} {a : α}

/-- A part is the last field with its name, unless it may be missing. -/
theorem fromFields_part_eq_ok_iff : (part name absent read).fromFields fields = .ok a ↔
    (lastField? fields name = none ∧ absent = some a) ∨
      ∃ value, lastField? fields name = some value ∧ read value = .ok a := by
  rcases hfield : lastField? fields name with _ | value
  · cases absent <;> simp [part, hfield]
  · cases hread : read value <;> simp [part, hfield, hread]

/-- A part is the next item of a list. -/
theorem fromItems_part_eq_ok_iff : (part name absent read).fromItems items = .ok (a, rest) ↔
    ∃ value, items = value :: rest ∧ read value = .ok a := by
  rcases items with _ | ⟨value, items⟩
  · simp [part]
  · simp [part]
    grind

end

/-! ## Several parts -/

section

variable {f : RecordReader (α → β)} {r : RecordReader α} {b : β}

theorem fromFields_seq_eq_ok_iff : (f <*> r).fromFields fields = .ok b ↔
    ∃ g a, f.fromFields fields = .ok g ∧ r.fromFields fields = .ok a ∧ b = g a := by
  change (andThen f r).fromFields fields = .ok b ↔ _
  cases hf : f.fromFields fields <;> cases hr : r.fromFields fields <;>
    simp [andThen, hf, hr, eq_comm]

/-- The items for the later parts are those that the earlier parts leave. -/
theorem fromItems_seq_eq_ok_iff : (f <*> r).fromItems items = .ok (b, rest) ↔
    ∃ g mid a, f.fromItems items = .ok (g, mid) ∧ r.fromItems mid = .ok (a, rest) ∧ b = g a := by
  change (andThen f r).fromItems items = .ok (b, rest) ↔ _
  rcases hf : f.fromItems items with e | ⟨g, mid⟩
  · simp [andThen, hf]
  · rcases hr : r.fromItems mid with e | ⟨a, rest'⟩
    · simp [andThen, hf, hr]
    · simp [andThen, hf, hr]
      grind

theorem fromFields_map_eq_ok_iff {g : α → β} : (g <$> r).fromFields fields = .ok b ↔
    ∃ a, r.fromFields fields = .ok a ∧ b = g a := by
  change (nothing g <*> r).fromFields fields = .ok b ↔ _
  rw [fromFields_seq_eq_ok_iff]
  constructor
  · rintro ⟨_, a, ⟨⟩, h⟩
    exact ⟨a, h⟩
  · rintro ⟨a, h⟩
    exact ⟨g, a, rfl, h⟩

theorem fromItems_map_eq_ok_iff {g : α → β} : (g <$> r).fromItems items = .ok (b, rest) ↔
    ∃ a, r.fromItems items = .ok (a, rest) ∧ b = g a := by
  change (nothing g <*> r).fromItems items = .ok (b, rest) ↔ _
  rw [fromItems_seq_eq_ok_iff]
  constructor
  · rintro ⟨_, _, a, ⟨⟩, h⟩
    exact ⟨a, h⟩
  · rintro ⟨a, h⟩
    exact ⟨g, items, a, rfl, h⟩

end

/-! ## Records -/

/-- A record is read from an object, or from a list that its parts use up. -/
theorem read_eq_ok_iff {r : RecordReader α} {name : String} {document : Json} {a : α} :
    r.read name document = .ok a ↔
      (∃ fields, document = .object fields ∧ r.fromFields fields = .ok a) ∨
        ∃ items, document = .array items ∧ r.fromItems items = .ok (a, []) := by
  cases document with
  | object fields => cases hfields : r.fromFields fields <;> simp [read, hfields]
  | array items =>
    rcases hitems : r.fromItems items with (_ | _) | ⟨a', _ | ⟨value, rest⟩⟩ <;>
      simp [read, hitems]
  | null | bool | number | string => simp [read]

end TokenEscrow.Json.RecordReader

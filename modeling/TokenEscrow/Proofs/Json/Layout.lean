import Mathlib.Data.List.DropRight
import TokenEscrow.Json.Parser
import TokenEscrow.Proofs.Json.Parts

/-!
# Layouts of documents

A text **spells** a document (`Reader.Spells`) when the reader finds the document
there, whatever it goes on to find, with no more steps than the text has
characters. A list is spelled by its items with commas between them, an object by
its fields, and blanks may stand in front of either and before the end
(`Reader.Spells.array`, `Reader.Spells.object`). Both layouts spell documents in
this way, so each of them is read back as the document that was written
(`parse_compact`, `parse_pretty`), as long as its numbers are whole.
-/

namespace TokenEscrow.Json

namespace Reader

variable {fuel : Nat} {first : Bool} {text rest blanks : List Char} {document : Json}

/-! ## What spells a document -/

/-- The text is read as the document. -/
def Spells (text : List Char) (document : Json) : Prop :=
  ∀ fuel rest, text.length ≤ fuel → Ends rest → value fuel (text ++ rest) = .ok (document, rest)

/-- Blanks alone. -/
def AllBlank (blanks : List Char) : Prop := ∀ c ∈ blanks, isBlank c = true

theorem allBlank_nil : AllBlank [] := nofun

theorem allBlank_space : AllBlank [' '] := by simp [AllBlank, isBlank]

theorem skipBlanks_append (h : AllBlank blanks) : skipBlanks (blanks ++ text) = skipBlanks text :=
  List.dropWhile_append_of_pos h

theorem value_skipBlanks : value (fuel + 1) (skipBlanks text) = value (fuel + 1) text := by
  rw [value, value, skipBlanks, skipBlanks, List.dropWhile_idempotent]

theorem ends_append (hblanks : AllBlank blanks) (h : Ends rest) : Ends (blanks ++ rest) := by
  cases blanks with
  | nil => exact h
  | cons c blanks => exact ends_cons (.inl (hblanks c List.mem_cons_self))

/-- What begins like a number is read as one. -/
theorem value_of_number {c : Char} (h : c = '-' ∨ c.isDigit = true) :
    value (fuel + 1) (c :: rest) = (number (c :: rest)).map fun p => (.number p.1, p.2) := by
  have hne (d : Char) (hsign : d ≠ '-') (hdigit : d.isDigit = false) : c ≠ d := by
    rintro rfl
    exact h.elim hsign (by simp [hdigit])
  have hblank : isBlank c = false := by
    simp [isBlank, hne ' ' (by decide) rfl, hne '\n' (by decide) rfl, hne '\t' (by decide) rfl,
      hne '\r' (by decide) rfl]
  rw [value, skipBlanks, List.dropWhile_cons_of_neg (by simp [hblank])]
  simp [h, hne 'n' (by decide) rfl, hne 't' (by decide) rfl, hne 'f' (by decide) rfl]

namespace Spells

theorem ne_nil (h : Spells text document) : text ≠ [] := by
  rintro rfl
  cases h 0 [] (Nat.le_refl 0) ends_nil

/-- Blanks in front are passed over. -/
theorem append (hblanks : AllBlank blanks) (h : Spells text document) :
    Spells (blanks ++ text) document := by
  intro fuel rest hfuel hrest
  have hlength := List.length_pos_of_ne_nil h.ne_nil
  rw [List.length_append] at hfuel
  obtain ⟨fuel, rfl⟩ := Nat.exists_eq_succ_of_ne_zero (n := fuel) (by omega)
  rw [List.append_assoc, ← value_skipBlanks, skipBlanks_append hblanks, value_skipBlanks]
  exact h (fuel + 1) rest (by omega) hrest

theorem null : Spells "null".toList .null := by
  rintro (_ | fuel) rest hfuel -
  · cases hfuel
  · rfl

theorem bool (b : Bool) : Spells (if b then "true" else "false").toList (.bool b) := by
  rintro (_ | fuel) rest hfuel -
  · cases b <;> cases hfuel
  · cases b <;> rfl

theorem number {n : Number} (hn : n.IsWhole) : Spells n.chars (.number n) := by
  obtain ⟨c, chars, hchars, hc⟩ := Number.exists_chars_eq_cons hn
  rw [hchars]
  rintro (_ | fuel) rest hfuel hrest
  · cases hfuel
  · rw [List.cons_append, value_of_number hc, ← List.cons_append, ← hchars, number_chars hn hrest]
    rfl

theorem string (s : String) : Spells (quoteChars s) (.string s) := by
  obtain ⟨chars, hchars, hread⟩ := quoted_quoteChars s
  rw [hchars]
  rintro (_ | fuel) rest hfuel -
  · cases hfuel
  · have hvalue : value (fuel + 1) ('"' :: (chars ++ rest)) =
        (quoted (chars ++ rest)).map fun p => (.string p.1, p.2) := rfl
    rw [List.cons_append, hvalue, hread]
    rfl

end Spells

/-! ## Separated items -/

/-- What stands in front of an item. -/
def comma (first : Bool) : List Char := if first then [] else [',']

/-- Texts with commas between them. -/
def separated : Bool → List (List Char) → List Char
  | _, [] => []
  | first, text :: texts => comma first ++ (text ++ separated false texts)

theorem ends_separated (texts : List (List Char)) (h : Ends rest) :
    Ends (separated false texts ++ rest) := by
  cases texts with
  | nil => exact h
  | cons text texts => exact ends_cons (.inr (.inl rfl))

/-- **Item by item**: a reader that takes one item at a time takes all of them. -/
theorem loop_separated {α γ : Type} {loop : Nat → Bool → List α → List Char → Result γ}
    {write : α → List Char} {list : List α} (hwrite : ∀ x ∈ list, write x ≠ [])
    (hstep : ∀ x ∈ list, ∀ fuel first done rest, (write x).length ≤ fuel → Ends rest →
      loop (fuel + 1) first done (comma first ++ (write x ++ rest)) =
        loop fuel false (x :: done) rest)
    (hrest : Ends rest) (done : List α) (hfuel : (separated first (list.map write)).length < fuel) :
    ∃ fuel' first', loop fuel first done (separated first (list.map write) ++ rest) =
      loop (fuel' + 1) first' (list.reverse ++ done) rest := by
  induction list generalizing fuel first done with
  | nil =>
    obtain ⟨fuel, rfl⟩ := Nat.exists_eq_succ_of_ne_zero (Nat.ne_of_gt hfuel)
    exact ⟨fuel, first, rfl⟩
  | cons x list ih =>
    rw [List.forall_mem_cons] at hwrite hstep
    -- an item is at least one character long, which pays for its step
    have hx := List.length_pos_of_ne_nil hwrite.1
    rw [List.map_cons, separated] at hfuel ⊢
    rw [List.length_append, List.length_append] at hfuel
    obtain ⟨fuel, rfl⟩ := Nat.exists_eq_succ_of_ne_zero (n := fuel) (by omega)
    have hlist : (separated false (list.map write)).length < fuel := by omega
    obtain ⟨fuel', first', hloop⟩ := ih hwrite.2 hstep.2 (x :: done) hlist
    refine ⟨fuel', first', ?_⟩
    rw [List.append_assoc, List.append_assoc,
      hstep.1 fuel first done _ (by omega) (ends_separated _ hrest), hloop, List.reverse_cons,
      List.append_assoc, List.singleton_append]

/-! ## Lists -/

/-- A document does not begin where a list ends. -/
theorem exists_skipBlanks_of_value {p : Json × List Char} (h : value fuel text = .ok p) :
    ∃ c more, skipBlanks text = c :: more ∧ c ≠ ']' := by
  rcases fuel with _ | fuel
  · cases h
  · rw [value] at h
    rcases hskip : skipBlanks text with _ | ⟨c, more⟩
    · rw [hskip] at h
      cases h
    · refine ⟨c, more, rfl, ?_⟩
      rintro rfl
      rw [hskip] at h
      cases h

/-- Another item follows where a document can be read. -/
theorem nextItem_of_value {p : Json × List Char} (h : value fuel text = .ok p) :
    nextItem first (comma first ++ text) = .ok (true, skipBlanks text) := by
  obtain ⟨c, more, hskip, hc⟩ := exists_skipBlanks_of_value h
  cases first with
  | true =>
    rw [comma, if_pos rfl, List.nil_append, nextItem.eq_def, hskip]
    simp
  | false =>
    have hcomma : skipBlanks (',' :: text) = ',' :: text := rfl
    rw [comma, if_neg Bool.false_ne_true, List.singleton_append, nextItem.eq_def, hcomma]
    simp [hskip, hc]

theorem items_step (h : Spells text document) (hfuel : text.length ≤ fuel) (hrest : Ends rest)
    (done : List Json) :
    items (fuel + 1) first done (comma first ++ (text ++ rest)) =
      items fuel false (document :: done) rest := by
  have hvalue := h fuel rest hfuel hrest
  have hlength := List.length_pos_of_ne_nil h.ne_nil
  obtain ⟨fuel, rfl⟩ := Nat.exists_eq_succ_of_ne_zero (n := fuel) (by omega)
  rw [items, nextItem_of_value hvalue]
  simp only [value_skipBlanks, hvalue]

theorem items_end (hblanks : AllBlank blanks) (done : List Json) :
    items (fuel + 1) first done (blanks ++ ']' :: rest) = .ok (.array done.reverse, rest) := by
  have hnext : nextItem first (blanks ++ ']' :: rest) = .ok (false, rest) := by
    rw [nextItem, skipBlanks_append hblanks]
    rfl
  rw [items, hnext]

/-- **Lists**: items with commas between them. -/
theorem Spells.array (write : Json → List Char) {list : List Json}
    (h : ∀ item ∈ list, Spells (write item) item) (hblanks : AllBlank blanks) :
    Spells ('[' :: (separated true (list.map write) ++ (blanks ++ [']']))) (.array list) := by
  rintro (_ | fuel) rest hfuel -
  · cases hfuel
  · simp only [List.length_cons, List.length_append] at hfuel
    have hinside : (separated true (list.map write)).length < fuel := by omega
    have hends : Ends (']' :: rest) := ends_cons (.inr (.inr (.inl rfl)))
    obtain ⟨fuel', first', hloop⟩ := loop_separated (fun item hitem => (h item hitem).ne_nil)
      (fun item hitem _ _ done _ hfuel hrest => items_step (h item hitem) hfuel hrest done)
      (ends_append hblanks hends) [] hinside
    have hvalue : ∀ text, value (fuel + 1) ('[' :: text) = items fuel true [] text := fun _ => rfl
    rw [List.cons_append, hvalue, List.append_assoc, List.append_assoc, List.singleton_append,
      hloop, items_end hblanks, List.append_nil, List.reverse_reverse]

/-! ## Objects -/

/-- Another field follows where its name can be read. -/
theorem nextField_comma (hblanks : AllBlank blanks) (name : String) :
    nextField first (comma first ++ (blanks ++ (quoteChars name ++ ':' :: rest))) =
      .ok (some name, rest) := by
  obtain ⟨chars, hchars, hread⟩ := quoted_quoteChars name
  have hskip : skipBlanks (blanks ++ (quoteChars name ++ ':' :: rest)) =
      '"' :: (chars ++ ':' :: rest) := by
    rw [skipBlanks_append hblanks, hchars]
    rfl
  have hcolon : skipBlanks (':' :: rest) = ':' :: rest := rfl
  cases first with
  | true =>
    rw [comma, if_pos rfl, List.nil_append, nextField.eq_def, hskip]
    simp [hread, hcolon]
  | false =>
    have hcomma (text : List Char) : skipBlanks (',' :: text) = ',' :: text := rfl
    rw [comma, if_neg Bool.false_ne_true, List.singleton_append, nextField.eq_def, hcomma]
    simp [hskip, hread, hcolon]

theorem fields_step {name : String} (hblanks : AllBlank blanks) (h : Spells text document)
    (hfuel : (blanks ++ (quoteChars name ++ ':' :: text)).length ≤ fuel) (hrest : Ends rest)
    (done : List (String × Json)) :
    fields (fuel + 1) first done
        (comma first ++ ((blanks ++ (quoteChars name ++ ':' :: text)) ++ rest)) =
      fields fuel false ((name, document) :: done) rest := by
  simp only [List.length_append, List.length_cons] at hfuel
  have hvalue := h fuel rest (by omega) hrest
  rw [List.append_assoc, List.append_assoc, List.cons_append, fields, nextField_comma hblanks]
  simp only [hvalue]

theorem fields_end (hblanks : AllBlank blanks) (done : List (String × Json)) :
    fields (fuel + 1) first done (blanks ++ '\x7d' :: rest) = .ok (.object done.reverse, rest) := by
  have hnext : nextField first (blanks ++ '\x7d' :: rest) = .ok (none, rest) := by
    rw [nextField, skipBlanks_append hblanks]
    rfl
  rw [fields, hnext]

/-- **Objects**: fields with commas between them. -/
theorem Spells.object (write : Json → List Char) {list : List (String × Json)}
    {lead blanks : List Char} (h : ∀ field ∈ list, Spells (write field.2) field.2)
    (hlead : AllBlank lead) (hblanks : AllBlank blanks) :
    Spells ('\x7b' :: (separated true
        (list.map fun field => lead ++ (quoteChars field.1 ++ ':' :: write field.2)) ++
          (blanks ++ ['\x7d']))) (.object list) := by
  rintro (_ | fuel) rest hfuel -
  · cases hfuel
  · simp only [List.length_cons, List.length_append] at hfuel
    have hinside : (separated true (list.map fun field =>
        lead ++ (quoteChars field.1 ++ ':' :: write field.2))).length < fuel := by omega
    have hends : Ends ('\x7d' :: rest) := ends_cons (.inr (.inr (.inr rfl)))
    obtain ⟨fuel', first', hloop⟩ := loop_separated (fun field _ => by simp)
      (fun field hfield _ _ done _ hfuel hrest =>
        fields_step hlead (h field hfield) hfuel hrest done)
      (ends_append hblanks hends) [] hinside
    have hvalue : ∀ text, value (fuel + 1) ('\x7b' :: text) = fields fuel true [] text :=
      fun _ => rfl
    rw [List.cons_append, hvalue, List.append_assoc, List.append_assoc, List.singleton_append,
      hloop, fields_end hblanks, List.append_nil, List.reverse_reverse]

end Reader

/-! ## Documents -/

/-- Documents all of whose numbers are whole. -/
inductive Whole : Json → Prop
  | null : Whole .null
  | bool (b : Bool) : Whole (.bool b)
  | number {n : Number} (h : n.IsWhole) : Whole (.number n)
  | string (s : String) : Whole (.string s)
  | array {items : List Json} (h : ∀ item ∈ items, Whole item) : Whole (.array items)
  | object {fields : List (String × Json)} (h : ∀ field ∈ fields, Whole field.2) :
    Whole (.object fields)

attribute [simp] Whole.null Whole.bool Whole.string

@[simp] theorem whole_ofUInt64 (n : UInt64) : Whole (.ofUInt64 n) := .number trivial

/-! ## Without blanks -/

section

open Reader

theorem compactItems_eq : ∀ items : List Json,
    compactItems items = separated true (items.map compactChars)
  | [] => rfl
  | [item] => (List.append_nil _).symm
  | item :: next :: rest => by
    rw [compactItems, compactItems_eq (next :: rest)]
    · rfl
    · nofun

/-- A field without blanks. -/
def compactField (field : String × Json) : List Char :=
  [] ++ (quoteChars field.1 ++ ':' :: compactChars field.2)

theorem compactFields_eq : ∀ fields : List (String × Json),
    compactFields fields = separated true (fields.map compactField)
  | [] => rfl
  | [(name, value)] => (List.append_nil _).symm
  | (name, value) :: next :: rest => by
    rw [compactFields, compactFields_eq (next :: rest)]
    · rfl
    · nofun

theorem spells_compactChars {document : Json} (h : Whole document) :
    Spells (compactChars document) document := by
  induction h with
  | null => exact .null
  | bool b => exact .bool b
  | number h => exact .number h
  | string s => exact .string s
  | array _ ih =>
    rw [compactChars, compactItems_eq]
    exact .array compactChars ih allBlank_nil
  | object _ ih =>
    rw [compactChars, compactFields_eq]
    exact .object compactChars ih allBlank_nil allBlank_nil

/-! ## On lines -/

theorem allBlank_newline (depth : Nat) : AllBlank (newline depth) := by
  intro c hc
  obtain rfl | hc := List.mem_cons.1 hc
  · rfl
  · rw [List.eq_of_mem_replicate hc]
    rfl

/-- The line break in front of the end, unless there is nothing inside. -/
def lastNewline {α : Type} (depth : Nat) (items : List α) : List Char :=
  if items.isEmpty then [] else newline depth

theorem allBlank_lastNewline {α : Type} (depth : Nat) (items : List α) :
    AllBlank (lastNewline depth items) := by
  unfold lastNewline
  split
  · exact allBlank_nil
  · exact allBlank_newline depth

/-- An item on its line. -/
def prettyItem (depth : Nat) (item : Json) : List Char := newline depth ++ prettyChars depth item

/-- A field on its line. -/
def prettyField (depth : Nat) (field : String × Json) : List Char :=
  newline depth ++ (quoteChars field.1 ++ ':' :: ' ' :: prettyChars depth field.2)

theorem prettyItems_eq (depth : Nat) : ∀ items : List Json,
    prettyItems depth items = separated true (items.map (prettyItem depth))
  | [] => rfl
  | [item] => (List.append_nil _).symm
  | item :: next :: rest => by
    rw [prettyItems, prettyItems_eq depth (next :: rest)]
    · rfl
    · nofun

theorem prettyFields_eq (depth : Nat) : ∀ fields : List (String × Json),
    prettyFields depth fields = separated true (fields.map (prettyField depth))
  | [] => rfl
  | [(name, value)] => by
    rw [prettyFields, List.append_assoc]
    exact (List.append_nil _).symm
  | (name, value) :: next :: rest => by
    rw [prettyFields, prettyFields_eq depth (next :: rest), List.append_assoc (newline depth)]
    · rfl
    · nofun

theorem prettyChars_array (depth : Nat) (items : List Json) :
    prettyChars depth (.array items) =
      '[' :: (separated true (items.map (prettyItem (depth + 1))) ++
        (lastNewline depth items ++ [']'])) := by
  cases items with
  | nil => rfl
  | cons item items =>
    rw [prettyChars, prettyItems_eq, List.append_assoc]
    · rfl
    · nofun

theorem prettyChars_object (depth : Nat) (fields : List (String × Json)) :
    prettyChars depth (.object fields) =
      '\x7b' :: (separated true (fields.map (prettyField (depth + 1))) ++
        (lastNewline depth fields ++ ['\x7d'])) := by
  cases fields with
  | nil => rfl
  | cons field fields =>
    rw [prettyChars, prettyFields_eq, List.append_assoc]
    · rfl
    · nofun

theorem spells_prettyChars {document : Json} (h : Whole document) (depth : Nat) :
    Spells (prettyChars depth document) document := by
  induction h generalizing depth with
  | null => exact .null
  | bool b => exact .bool b
  | number h => exact .number h
  | string s => exact .string s
  | array _ ih =>
    rw [prettyChars_array]
    exact .array (prettyItem (depth + 1))
      (fun item hitem => (ih item hitem _).append (allBlank_newline _))
      (allBlank_lastNewline depth _)
  | object _ ih =>
    rw [prettyChars_object]
    exact .object (fun value => ' ' :: prettyChars (depth + 1) value)
      (fun field hfield => (ih field hfield _).append allBlank_space)
      (allBlank_newline _) (allBlank_lastNewline depth _)

/-! ## Texts -/

theorem parse_of_spells {chars : List Char} {document : Json} {blanks : String}
    (h : Spells chars document) (hblanks : AllBlank blanks.toList) :
    parse (String.ofList chars ++ blanks) = .ok document := by
  have hends : Ends blanks.toList := by simpa using ends_append hblanks ends_nil
  have hread := h (2 * (String.ofList chars ++ blanks).length + 2) blanks.toList
    (by rw [String.length_append, String.length_ofList]; omega) hends
  have hfinish : finish blanks.toList = .ok () := by
    rw [finish, skipBlanks, List.dropWhile_eq_nil_iff.2 hblanks]
  rw [parse, String.toList_append, String.toList_ofList, hread]
  simp only [hfinish]
  rfl

/-- **Written without blanks**, a document is read back, with or without blanks behind it. -/
theorem parse_compact {document : Json} (h : Whole document) {blanks : String}
    (hblanks : AllBlank blanks.toList) : parse (document.compact ++ blanks) = .ok document :=
  parse_of_spells (spells_compactChars h) hblanks

/-- **Written on lines**, a document is read back, with or without blanks behind it. -/
theorem parse_pretty {document : Json} (h : Whole document) {blanks : String}
    (hblanks : AllBlank blanks.toList) : parse (document.pretty ++ blanks) = .ok document :=
  parse_of_spells (spells_prettyChars h 0) hblanks

end

end TokenEscrow.Json

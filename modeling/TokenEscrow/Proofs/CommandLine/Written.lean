import Mathlib.Data.List.Pairwise
import TokenEscrow.Proofs.CommandLine.Scanned

/-!
# Options that are written

An option is written by its word or by its letter, and the text for it stands
behind it or is joined to it (`OptionSpec.Writes`). On a level whose options can be
told apart by what is written (`Level.Readable`), reading takes in an option as a
whole and is where it was before (`Level.scan_writes`). So options may stand in any
order: what is read of one of them is what was written for it
(`Matches.values_writeAll`, `Matches.occurrences_writeAll`).

This is the way back from `Level.shows_of_scan`, which says what was written when a
command line was read.
-/

namespace TokenEscrow

/-! ## Writing an option -/

/-- The ways of writing an option, with the text for it if it takes one. -/
inductive OptionSpec.Writes (o : OptionSpec) : List String → Option String → Prop
  /-- a flag, by its word -/
  | flag (htakes : o.takesValue = false) : Writes o ["--" ++ o.long] none
  /-- a flag, by its letter -/
  | flagLetter (c : Char) (htakes : o.takesValue = false) (hc : o.short = some c) :
    Writes o [String.ofList ['-', c]] none
  /-- the text stands behind the word -/
  | word (text : String) (htakes : o.takesValue = true) (htext : startsOption text = false) :
    Writes o ["--" ++ o.long, text] (some text)
  /-- the text stands behind the word and an equals sign -/
  | equals (text : List Char) (htakes : o.takesValue = true) :
    Writes o ["--" ++ o.long ++ String.ofList ('=' :: text)] (some (withoutEquals text))
  /-- the text stands behind the letter -/
  | letter (c : Char) (text : String) (htakes : o.takesValue = true) (hc : o.short = some c)
    (htext : startsOption text = false) : Writes o [String.ofList ['-', c], text] (some text)
  /-- the text is joined to the letter -/
  | joined (c : Char) (text : List Char) (htakes : o.takesValue = true) (hc : o.short = some c)
    (htext : text ≠ []) : Writes o [String.ofList ('-' :: c :: text)] (some (withoutEquals text))

/-- A text is written exactly for an option that takes one. -/
theorem OptionSpec.Writes.isSome_eq {o : OptionSpec} {words : List String} {text : Option String}
    (h : o.Writes words text) : text.isSome = o.takesValue := by
  cases h with
  | flag htakes => exact htakes.symm
  | flagLetter _ htakes => exact htakes.symm
  | word _ htakes => exact htakes.symm
  | equals _ htakes => exact htakes.symm
  | letter _ _ htakes => exact htakes.symm
  | joined _ _ htakes => exact htakes.symm

/-- An option that is written once. -/
structure Written where
  option : OptionSpec
  words : List String
  /-- the text for it -/
  text : Option String
  writes : option.Writes words text

namespace Written

/-- The option by its word, and the text behind it. -/
def ofWord (o : OptionSpec) (text : String) (htakes : o.takesValue = true)
    (htext : startsOption text = false) : Written where
  option := o
  words := ["--" ++ o.long, text]
  text := some text
  writes := .word text htakes htext

/-- How often an option is written. -/
def timesOf (name : String) (ws : List Written) : Nat := ws.countP fun w => w.option.name == name

/-- The texts for an option, one after the other. -/
def textsOf (name : String) (ws : List Written) : List String :=
  ws.filterMap fun w => if w.option.name = name then w.text else none

variable {name : String} {ws : List Written}

theorem timesOf_cons (w : Written) (ws : List Written) :
    timesOf name (w :: ws) = timesOf name ws + if w.option.name = name then 1 else 0 := by
  simp [timesOf, List.countP_cons]

theorem textsOf_cons (w : Written) (ws : List Written) :
    textsOf name (w :: ws) =
      (if w.option.name = name then w.text.toList else []) ++ textsOf name ws := by
  rw [textsOf, List.filterMap_cons]
  split_ifs
  · cases w.text <;> rfl
  · rfl

/-- Texts are written for an option that is written. -/
theorem length_textsOf_le (name : String) (ws : List Written) :
    (textsOf name ws).length ≤ timesOf name ws := by
  induction ws with
  | nil => exact Nat.le_refl 0
  | cons w ws ih =>
    have hone : w.text.toList.length ≤ 1 := by cases w.text <;> simp
    rw [textsOf_cons, timesOf_cons, List.length_append]
    split_ifs
    · omega
    · simpa using ih

theorem timesOf_append (name : String) (ws ws' : List Written) :
    timesOf name (ws ++ ws') = timesOf name ws + timesOf name ws' := List.countP_append

theorem textsOf_append (name : String) (ws ws' : List Written) :
    textsOf name (ws ++ ws') = textsOf name ws ++ textsOf name ws' := List.filterMap_append

/-- No text is written for an option that stands nowhere. -/
theorem textsOf_eq_nil (h : timesOf name ws = 0) : textsOf name ws = [] :=
  List.length_eq_zero_iff.1 (Nat.le_zero.1 (h ▸ length_textsOf_le name ws))

theorem timesOf_pos_iff : 0 < timesOf name ws ↔ ∃ w ∈ ws, w.option.name = name := by
  simp [timesOf, List.countP_pos_iff]

/-- Options are counted by their names. -/
theorem timesOf_eq_count (name : String) (ws : List Written) :
    timesOf name ws = (ws.map fun w => w.option.name).count name := by
  rw [timesOf, List.count, List.countP_map]
  rfl

theorem timesOf_le_one (h : (ws.map fun w => w.option.name).Nodup) : timesOf name ws ≤ 1 := by
  rw [timesOf_eq_count]
  exact List.nodup_iff_count_le_one.1 h name

theorem mem_textsOf_iff {text : String} :
    text ∈ textsOf name ws ↔ ∃ w ∈ ws, w.option.name = name ∧ w.text = some text := by
  rw [textsOf, List.mem_filterMap]
  constructor
  · rintro ⟨w, hw, h⟩
    split_ifs at h with hname
    exact ⟨w, hw, hname, h⟩
  · rintro ⟨w, hw, hname, h⟩
    exact ⟨w, hw, by rw [if_pos hname, h]⟩

end Written

/-! ## What was written, as it is kept -/

namespace Matches

variable {ms : Matches} {name other : String}

/-- Notes an option that was written, and the text for it. -/
def write (ms : Matches) (name : String) (text : Option String) : Matches :=
  match text with
  | some text => (ms.occur name).addValue name text
  | none => ms.occur name

/-- Notes all options that were written. -/
def writeAll (ms : Matches) (ws : List Written) : Matches :=
  ws.foldl (fun ms w => ms.write w.option.name w.text) ms

theorem writeAll_cons (ms : Matches) (w : Written) (ws : List Written) :
    ms.writeAll (w :: ws) = (ms.write w.option.name w.text).writeAll ws := rfl

theorem occurrences_write (ms : Matches) (name : String) (text : Option String) (other : String) :
    (ms.write name text).occurrences other =
      ms.occurrences other + if name = other then 1 else 0 := by
  cases text <;> simp only [write, occurrences_addValue, occurrences_occur] <;> split_ifs <;> rfl

theorem values_write (ms : Matches) (name : String) (text : Option String) (other : String) :
    (ms.write name text).values other =
      ms.values other ++ if name = other then text.toList else [] := by
  cases text with
  | none => simp [write]
  | some text =>
    rw [write, values_addValue, values_occur]
    split_ifs <;> simp

/-- **Occurrences add up**, whatever stands between them. -/
theorem occurrences_writeAll (ms : Matches) (ws : List Written) (name : String) :
    (ms.writeAll ws).occurrences name = ms.occurrences name + Written.timesOf name ws := by
  induction ws generalizing ms with
  | nil => rfl
  | cons w ws ih =>
    rw [writeAll_cons, ih, occurrences_write, Written.timesOf_cons]
    omega

/-- **Texts are kept in their order**, whatever stands between them. -/
theorem values_writeAll (ms : Matches) (ws : List Written) (name : String) :
    (ms.writeAll ws).values name = ms.values name ++ Written.textsOf name ws := by
  induction ws generalizing ms with
  | nil => exact (List.append_nil _).symm
  | cons w ws ih => rw [writeAll_cons, ih, values_write, Written.textsOf_cons, List.append_assoc]

end Matches

/-! ## Reading it -/

/-- A word and a letter that are read as they are meant. -/
structure Spelling (long : String) (short : Option Char) : Prop where
  long_ne : long ≠ ""
  hyphen : long.toList.head? ≠ some '-'
  equals : '=' ∉ long.toList
  common : long ≠ "help" ∧ long ≠ "version"
  letter : short ≠ some '-' ∧ short ≠ some 'h' ∧ short ≠ some 'V'

instance (long : String) (short : Option Char) : Decidable (Spelling long short) :=
  decidable_of_iff (long ≠ "" ∧ long.toList.head? ≠ some '-' ∧ '=' ∉ long.toList ∧
      (long ≠ "help" ∧ long ≠ "version") ∧
        (short ≠ some '-' ∧ short ≠ some 'h' ∧ short ≠ some 'V'))
    ⟨fun ⟨hne, hhyphen, hequals, hcommon, hletter⟩ => ⟨hne, hhyphen, hequals, hcommon, hletter⟩,
      fun h => ⟨h.long_ne, h.hyphen, h.equals, h.common, h.letter⟩⟩

/-- The letter starts no word, and asks for no help. -/
theorem Spelling.letter_ne {long : String} {short : Option Char} {c : Char}
    (h : Spelling long short) (hc : short = some c) : c ≠ '-' ∧ c ≠ 'h' ∧ c ≠ 'V' := by
  subst hc
  simpa using h.letter

/-- The word ends before an equals sign. -/
theorem Spelling.span_equals {long : String} {short : Option Char} (h : Spelling long short)
    {tail : List Char} (htail : tail.head? = none ∨ tail.head? = some '=') :
    (long.toList ++ tail).takeWhile (· != '=') = long.toList ∧
      (long.toList ++ tail).dropWhile (· != '=') = tail := by
  have hlong : ∀ c ∈ long.toList, (c != '=') = true := by
    intro c hc
    exact bne_iff_ne.2 fun heq => h.equals (heq ▸ hc)
  rw [List.takeWhile_append_of_pos hlong, List.dropWhile_append_of_pos hlong]
  rcases tail with _ | ⟨c, tail⟩
  · simp
  · rcases htail with h | h
    · cases h
    · obtain rfl := Option.some.inj h
      simp

/-- No hyphen in front of the word belongs to it. -/
theorem Spelling.dropWhile_hyphen {long : String} {short : Option Char} (h : Spelling long short)
    (tail : List Char) :
    ("--" ++ long ++ String.ofList tail).toList.dropWhile (· == '-') = long.toList ++ tail := by
  rw [String.toList_append, String.toList_append, String.toList_ofList]
  rcases hchars : long.toList with _ | ⟨c, chars⟩
  · exact absurd (String.toList_eq_nil_iff.1 hchars) h.long_ne
  · have hc : c ≠ '-' := by
      rintro rfl
      exact h.hyphen (by rw [hchars]; rfl)
    simp [hc]

namespace Level

/-- The options can be told apart, by words and by letters, and no option stops the reading. -/
structure Readable (l : Level) : Prop extends l.Proper where
  option : ∀ o ∈ l.options, Spelling o.long o.short
  letters : l.options.Pairwise fun o o' => o.short = none ∨ o.short ≠ o'.short
  stop : ∀ word rest, startsOption word = true → l.stop? word rest = none

variable {l : Level} {s : Scan} {ms : Matches} {o : OptionSpec} {word : String}
  {rest : List String}

/-- An option is found by its letter. -/
theorem Readable.short?_eq (hl : l.Readable) (ho : o ∈ l.options) {c : Char}
    (hc : o.short = some c) : l.short? c = some o := by
  rcases hfound : l.short? c with _ | o'
  · have hnone := List.find?_eq_none.1 hfound o ho
    rw [hc] at hnone
    simp at hnone
  · have ho' : o' ∈ l.options := List.mem_of_find?_eq_some hfound
    have hc' := List.find?_some (p := fun o : OptionSpec => o.short == some c) hfound
    rw [beq_iff_eq] at hc'
    have hsymm : Std.Symm fun o o' : OptionSpec => o.short = none ∨ o.short ≠ o'.short := by
      refine ⟨?_⟩
      rintro o o' (h | h)
      · by_cases h' : o'.short = none
        · exact .inl h'
        · exact .inr (h.symm ▸ h')
      · exact .inr h.symm
    by_contra hne
    have hdistinct := hl.letters.forall ho' ho fun h => hne (congrArg some h)
    rw [hc, hc'] at hdistinct
    simp at hdistinct

/-! ### One word -/

/-- A word that starts with two hyphens is read as such. -/
theorem scan_long (hended : s.ended = false) (hlong : isLong word = true) (hword : word ≠ "--")
    (hstop : l.stop? word rest = none) :
    l.scan s (word :: rest) = l.readLong s word rest >>= fun s => l.scan s rest := by
  have hnone : (if s.pending.isNone = true then l.stop? word rest else none) = none := by
    rw [hstop, ite_self]
  rcases word_cases word with ⟨chars, hchars, -⟩ | ⟨c, letters, -, -, hshort, -⟩ | ⟨hstarts, -⟩
  · simp only [scan, hended, Bool.false_eq_true, if_false, hword, hnone, hchars]
  · rw [hlong] at hshort
    cases hshort
  · rw [startsOption_of_isLong hlong] at hstarts
    cases hstarts

/-- A word that starts with one hyphen is read letter by letter. -/
theorem scan_letters {c : Char} {letters : List Char} (hended : s.ended = false) (hc : c ≠ '-')
    (hstop : l.stop? (String.ofList ('-' :: c :: letters)) rest = none) :
    l.scan s (String.ofList ('-' :: c :: letters) :: rest) =
      l.readShort { s with pending := none } (c :: letters) >>= fun s => l.scan s rest := by
  have hword : String.ofList ('-' :: c :: letters) ≠ "--" := by
    intro h
    have hchars : '-' :: c :: letters = ['-', '-'] := by
      rw [← String.toList_ofList (l := '-' :: c :: letters), h]
      rfl
    exact hc (List.cons.inj (List.cons.inj hchars).2).1
  have hnone : (if s.pending.isNone = true then
      l.stop? (String.ofList ('-' :: c :: letters)) rest else none) = none := by
    rw [hstop, ite_self]
  rw [scan]
  simp only [hended, Bool.false_eq_true, if_false, hword, hnone, String.toList_ofList]

/-- A word that starts no option is a value of the option that waits for one. -/
theorem scan_value (hended : s.ended = false) (hpending : s.pending = some o)
    (hstarts : startsOption word = false) :
    l.scan s (word :: rest) =
      l.scan { s with noted := s.noted.addValue o.name word, pending := none } rest := by
  have hword : word ≠ "--" := by
    rintro rfl
    cases hstarts
  rcases word_cases word with ⟨chars, -, hlong⟩ | ⟨c, letters, -, -, -, hshort⟩ | ⟨-, hchars⟩
  · rw [startsOption_of_isLong hlong] at hstarts
    cases hstarts
  · rw [hshort] at hstarts
    cases hstarts
  · rw [scan]
    simp only [hended, Bool.false_eq_true, if_false, hword, hpending, Option.isNone_some]
    split
    next chars heq => exact absurd heq (hchars _ _)
    next c letters hne heq => exact absurd heq (hchars _ _)
    next => rfl

/-- The name of a command stops the reading. -/
theorem scan_stop {stop : Stop} (hended : s.ended = false) (hpending : s.pending = none)
    (hword : word ≠ "--") (hstop : l.stop? word rest = some stop) :
    l.scan s (word :: rest) = .ok (s, stop) := by
  rw [scan]
  simp only [hended, Bool.false_eq_true, if_false, hword, hpending, Option.isNone_none, if_true,
    hstop]

/-! ### One option -/

@[simp] theorem ended_note (s : Scan) (o : OptionSpec) (value : Option (List Char)) :
    (note s o value).ended = s.ended := by
  cases value <;> rfl

/-- The word of an option is read as the option, with what stands behind an equals sign. -/
theorem readLong_eq (hl : l.Readable) (ho : o ∈ l.options) (tail : List Char)
    (htail : tail.head? = none ∨ tail.head? = some '=') :
    l.readLong s ("--" ++ o.long ++ String.ofList tail) rest =
      .ok (note s o (if o.takesValue then tail.tail? else none)) := by
  have hspelt := hl.option o ho
  obtain ⟨hname, hvalue⟩ := hspelt.span_equals htail
  have hfound : l.long? o.long = some o := hl.toProper.long?_eq_some_iff.2 ⟨ho, rfl⟩
  simp only [readLong, hspelt.dropWhile_hyphen, hname, hvalue, String.ofList_toList,
    hspelt.common.1, hspelt.common.2, if_false, hfound]
  rcases tail with _ | ⟨c, tail⟩
  · rfl
  · rcases htail with h | h
    · cases h
    · obtain rfl := Option.some.inj h
      rfl

/-- The letter of an option is read as the option, with what is joined to it if it takes a text. -/
theorem readShort_eq (hl : l.Readable) (ho : o ∈ l.options) {c : Char} (hc : o.short = some c)
    (text : List Char) (htext : o.takesValue = false → text = []) :
    l.readShort s (c :: text) =
      .ok (note s o (if o.takesValue ∧ text ≠ [] then some text else none)) := by
  obtain ⟨-, hhelp, hversion⟩ := (hl.option o ho).letter_ne hc
  rw [readShort, if_neg hhelp, if_neg hversion, hl.short?_eq ho hc]
  by_cases htakes : o.takesValue = true
  · rcases text with _ | ⟨c', text⟩ <;> simp [htakes]
  · rw [Bool.not_eq_true] at htakes
    obtain rfl := htext htakes
    simp [htakes, readShort]

/-- The word of an option is noted, with what stands behind an equals sign. -/
theorem scan_word (hl : l.Readable) (ho : o ∈ l.options) (hended : s.ended = false)
    {tail : List Char} (htail : tail.head? = none ∨ tail.head? = some '=') :
    l.scan s (("--" ++ o.long ++ String.ofList tail) :: rest) =
      l.scan (note s o (if o.takesValue then tail.tail? else none)) rest := by
  have hchars : ("--" ++ o.long ++ String.ofList tail).toList =
      '-' :: '-' :: (o.long.toList ++ tail) := by
    simp [String.toList_append]
  have hlong : isLong ("--" ++ o.long ++ String.ofList tail) = true := by
    simp [isLong, hchars]
  have hword : "--" ++ o.long ++ String.ofList tail ≠ "--" := by
    intro h
    have hnil : o.long.toList ++ tail = [] := by
      rw [h] at hchars
      exact (List.cons.inj (List.cons.inj hchars).2).2.symm
    exact (hl.option o ho).long_ne (String.toList_eq_nil_iff.1 (List.append_eq_nil_iff.1 hnil).1)
  rw [scan_long hended hlong hword (hl.stop _ _ (startsOption_of_isLong hlong)),
    readLong_eq hl ho tail htail]
  rfl

/-- The letter of an option is noted, with what is joined to it. -/
theorem scan_letter (hl : l.Readable) (ho : o ∈ l.options) (hended : s.ended = false) {c : Char}
    (hc : o.short = some c) {text : List Char} (htext : o.takesValue = false → text = []) :
    l.scan s (String.ofList ('-' :: c :: text) :: rest) =
      l.scan (note { s with pending := none } o
        (if o.takesValue ∧ text ≠ [] then some text else none)) rest := by
  have hstarts : startsOption (String.ofList ('-' :: c :: text)) = true := by
    simp [startsOption]
  rw [scan_letters hended ((hl.option o ho).letter_ne hc).1 (hl.stop _ _ hstarts),
    readShort_eq hl ho hc text htext]
  rfl

/-- **An option that was written** is read, and nothing waits for a text after it. -/
theorem scan_writes (hl : l.Readable) (ho : o ∈ l.options) {words : List String}
    {text : Option String} (h : o.Writes words text) (ms : Matches) (rest : List String) :
    l.scan { noted := ms } (words ++ rest) =
      l.scan { noted := ms.write o.name text } rest := by
  have hempty : "--" ++ o.long = "--" ++ o.long ++ String.ofList [] := by simp
  cases h with
  | flag htakes =>
    rw [List.singleton_append, hempty, scan_word hl ho rfl (.inl rfl)]
    simp [note, Matches.write, htakes]
  | flagLetter c htakes hc =>
    rw [List.singleton_append, scan_letter hl ho rfl hc fun _ => rfl]
    simp [note, Matches.write, htakes]
  | word text htakes htext =>
    rw [List.cons_append, List.singleton_append, hempty, scan_word hl ho rfl (.inl rfl),
      scan_value (o := o) (ended_note ..) (by simp [htakes]) htext]
    simp [note, Matches.write]
  | equals text htakes =>
    rw [List.singleton_append, scan_word hl ho rfl (.inr rfl), htakes]
    rfl
  | letter c text htakes hc htext =>
    rw [List.cons_append, List.singleton_append, scan_letter hl ho rfl hc fun _ => rfl,
      scan_value (o := o) (ended_note ..) (by simp [htakes]) htext]
    simp [note, Matches.write]
  | joined c text htakes hc htext =>
    rw [List.singleton_append, scan_letter hl ho rfl hc (by simp [htakes]), if_pos ⟨htakes, htext⟩]
    rfl

/-- **Options that were written**, one after the other. -/
theorem scan_written (hl : l.Readable) {ws : List Written} (hws : ∀ w ∈ ws, w.option ∈ l.options)
    (ms : Matches) (rest : List String) :
    l.scan { noted := ms } (ws.flatMap Written.words ++ rest) =
      l.scan { noted := ms.writeAll ws } rest := by
  induction ws generalizing ms with
  | nil => rfl
  | cons w ws ih =>
    obtain ⟨hw, hws⟩ := List.forall_mem_cons.1 hws
    rw [List.flatMap_cons, List.append_assoc, scan_writes hl hw w.writes, ih hws,
      Matches.writeAll_cons]

end Level

end TokenEscrow

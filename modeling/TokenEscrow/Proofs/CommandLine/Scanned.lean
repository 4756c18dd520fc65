import Mathlib.Data.List.Nodup
import TokenEscrow.CommandLine.Parser
import TokenEscrow.Proofs.CommandLine.Given
import TokenEscrow.Proofs.CommandLine.Matches

/-!
# What is read of a command line

What is read of a command line is what was given and nothing else: the values of
an option are the texts given for it, in order (`Level.shows_of_scan`). Nothing
is lost and nothing is made up, whatever the other options are. For an option of
a command it does not matter what stands before the name of the command
(`Level.given_of_scan`).

Both rest on `Level.reading_of_scan`: reading goes word by word, and each word is
read in one of four ways.
-/

namespace TokenEscrow

/-- Where keys are unique, an entry is found by its key. -/
theorem find?_key_eq_some_iff {α : Type} {key : α → String} {entries : List α}
    (h : (entries.map key).Nodup) {k : String} {entry : α} :
    (entries.find? fun e => key e == k) = some entry ↔ entry ∈ entries ∧ key entry = k := by
  have hfound : ∀ entry, (entries.find? fun e => key e == k) = some entry →
      entry ∈ entries ∧ key entry = k := fun entry hentry =>
    ⟨List.mem_of_find?_eq_some hentry,
      beq_iff_eq.1 (List.find?_some (p := fun e => key e == k) hentry)⟩
  refine ⟨hfound entry, ?_⟩
  rintro ⟨hentry, hkey⟩
  rcases hother : entries.find? fun e => key e == k with _ | other
  · exact absurd (beq_iff_eq.2 hkey) (List.find?_eq_none.1 hother entry hentry)
  · obtain ⟨hmem, hkey'⟩ := hfound other hother
    rw [List.inj_on_of_nodup_map h hmem hentry (hkey'.trans hkey.symm)]

namespace Level

/-! ## Reading words -/

/-- The ways in which a word is read. -/
inductive Reads (l : Level) (s : Scan) (word : String) : Scan → Prop
  /-- it ends the options -/
  | ends (hword : word = "--") : Reads l s word { s with ended := true }
  /-- it names an option -/
  | long {o : OptionSpec} (hlong : isLong word = true) (ho : l.long? (longName word) = some o) :
    Reads l s word (note s o (if o.takesValue then afterEquals? word else none))
  /-- it names options by their letters -/
  | letters {s' : Scan} {letters : List Char} (hlong : isLong word = false)
    (hstarts : startsOption word = true)
    (hread : l.readShort { s with pending := none } letters = .ok s') : Reads l s word s'
  /-- it is a value -/
  | value {o : OptionSpec} (hstarts : startsOption word = false) (ho : s.pending = some o) :
    Reads l s word { s with noted := s.noted.addValue o.name word, pending := none }

/-- Words that are read one after the other. -/
inductive Reading (l : Level) : Scan → List String → Scan → Prop
  | nil {s : Scan} : Reading l s [] s
  | cons {s s' s'' : Scan} {word : String} {words : List String} (hended : s.ended = false)
    (hread : Reads l s word s') (hreading : Reading l s' words s'') :
    Reading l s (word :: words) s''

/-- Where reading stops: after the last word, or at one that stops it. -/
inductive Stops (l : Level) : List String → Stop → Prop
  | atEnd : Stops l [] .atEnd
  | word {word : String} {rest : List String} {stop : Stop} (h : l.stop? word rest = some stop) :
    Stops l (word :: rest) stop

variable {l : Level} {s s' s'' : Scan} {word : String} {words rest : List String} {o : OptionSpec}

/-- What stands behind the name is the equals sign. -/
theorem eq_equals_of_dropWhile {chars text : List Char} {c : Char}
    (h : chars.dropWhile (· != '=') = c :: text) : c = '=' := by
  have hhead := List.head?_dropWhile_not (· != '=') chars
  rw [h] at hhead
  simpa using hhead

theorem reads_of_readLong (hlong : isLong word = true) (h : l.readLong s word rest = .ok s') :
    l.Reads s word s' := by
  have hvalue : ∀ value, afterEquals? word = value → ∀ o, l.long? (longName word) = some o →
      s' = note s o (if o.takesValue then value else none) → l.Reads s word s' := by
    rintro value rfl o ho rfl
    exact .long hlong ho
  simp only [readLong] at h
  split_ifs at h
  split at h
  next o ho =>
    obtain rfl := Except.ok.inj h
    refine hvalue _ ?_ o ho rfl
    rcases hrest : (afterHyphens word).dropWhile (· != '=') with _ | ⟨c, text⟩
    · rw [afterEquals?, hrest]
      rw [afterHyphens] at hrest
      rw [hrest]
      rfl
    · obtain rfl := eq_equals_of_dropWhile hrest
      rw [afterEquals?, hrest]
      rw [afterHyphens] at hrest
      rw [hrest]
      rfl
  next => cases h

/-- What a word looks like: two hyphens in front, one hyphen and something else, or neither. -/
theorem word_cases (word : String) :
    (∃ chars, word.toList = '-' :: '-' :: chars ∧ isLong word = true) ∨
    (∃ c letters, word.toList = '-' :: c :: letters ∧ c ≠ '-' ∧ isLong word = false ∧
      startsOption word = true) ∨
    startsOption word = false ∧ ∀ c letters, word.toList ≠ '-' :: c :: letters := by
  rcases h : word.toList with _ | ⟨a, _ | ⟨b, chars⟩⟩
  · exact .inr (.inr ⟨by simp [startsOption, h], by simp⟩)
  · exact .inr (.inr ⟨by simp [startsOption, h], by simp⟩)
  · by_cases ha : a = '-'
    · subst ha
      by_cases hb : b = '-'
      · subst hb
        exact .inl ⟨chars, rfl, by simp [isLong, h]⟩
      · exact .inr (.inl ⟨b, chars, rfl, hb, by simp [isLong, h, hb], by simp [startsOption, h]⟩)
    · exact .inr (.inr ⟨by simp [startsOption, h, ha], by simp [ha]⟩)

/-- Reading goes in one of the listed ways. -/
theorem reading_of_scan {stop : Stop} (h : l.scan s words = .ok (s', stop)) :
    ∃ read tail, words = read ++ tail ∧ l.Reading s read s' ∧ l.Stops tail stop := by
  induction words generalizing s with
  | nil =>
    rw [scan] at h
    obtain ⟨⟩ := h
    exact ⟨[], [], rfl, .nil, .atEnd⟩
  | cons word words ih =>
    rw [scan] at h
    by_cases hended : s.ended = true
    · rw [if_pos hended] at h
      cases h
    rw [if_neg hended] at h
    by_cases hword : word = "--"
    · rw [if_pos hword] at h
      obtain ⟨read, tail, rfl, hreading, hstops⟩ := ih h
      exact ⟨word :: read, tail, rfl, .cons (by simpa using hended) (.ends hword) hreading, hstops⟩
    rw [if_neg hword] at h
    split at h
    next stop' hstop =>
      obtain ⟨⟩ := h
      split_ifs at hstop with hpending
      exact ⟨[], word :: words, rfl, .nil, .word hstop⟩
    next hstop =>
      have hnext : ∃ s₁, l.Reads s word s₁ ∧ l.scan s₁ words = .ok (s', stop) := by
        rcases word_cases word with ⟨chars, hchars, hlong⟩ |
          ⟨c, letters, hchars, hc, hlong, hstarts⟩ | ⟨hstarts, hchars⟩
        · rw [hchars] at h
          rcases hread : l.readLong s word words with e | s₁
          · rw [hread] at h
            cases h
          · rw [hread] at h
            exact ⟨s₁, reads_of_readLong hlong hread, h⟩
        · rcases hread : l.readShort { s with pending := none } (c :: letters) with e | s₁
          · simp only [hchars, hread] at h
            cases h
          · simp only [hchars, hread] at h
            exact ⟨s₁, .letters hlong hstarts hread, h⟩
        · split at h
          next chars hlong => exact absurd hlong (hchars _ _)
          next c letters hne hletters => exact absurd hletters (hchars _ _)
          next hlong hletters =>
            split at h
            next => cases h
            next o ho => exact ⟨_, .value hstarts ho, h⟩
      obtain ⟨s₁, hread, hscan⟩ := hnext
      obtain ⟨read, tail, rfl, hreading, hstops⟩ := ih hscan
      exact ⟨word :: read, tail, rfl, .cons (by simpa using hended) hread hreading, hstops⟩

/-! ## Options that can be told apart -/

/-- No two options have the same name or the same word. -/
structure Proper (l : Level) : Prop where
  names : (l.options.map OptionSpec.name).Nodup
  longs : (l.options.map OptionSpec.long).Nodup

namespace Proper

variable (hl : l.Proper) {o' : OptionSpec}

include hl

theorem name_ne (ho : o ∈ l.options) (ho' : o' ∈ l.options) (h : o' ≠ o) : o'.name ≠ o.name :=
  fun hname => h (List.inj_on_of_nodup_map hl.names ho' ho hname)

/-- An option is found by its word. -/
theorem long?_eq_some_iff {long : String} :
    l.long? long = some o ↔ o ∈ l.options ∧ o.long = long :=
  find?_key_eq_some_iff hl.longs

end Proper

/-! ## Values -/

@[simp] theorem values_note (s : Scan) (o : OptionSpec) (value : Option (List Char))
    (name : String) :
    (note s o value).noted.values name =
      if o.name = name then s.noted.values name ++ (value.map withoutEquals).toList
      else s.noted.values name := by
  rcases value with _ | v
  · simp [note]
  · simp [note, Matches.values_addValue, withoutEquals]

@[simp] theorem occurrences_note (s : Scan) (o : OptionSpec) (value : Option (List Char))
    (name : String) :
    (note s o value).noted.occurrences name =
      if o.name = name then s.noted.occurrences name + 1 else s.noted.occurrences name := by
  rcases value with _ | v <;> simp [note, Matches.occurrences_occur]

/-- Only an option that takes a value, and has none yet, waits for one. -/
@[simp] theorem pending_note_eq_some_iff {value : Option (List Char)} {o' : OptionSpec} :
    (note s o value).pending = some o' ↔ value = none ∧ o.takesValue = true ∧ o = o' := by
  rcases value with _ | v <;> simp [note]

/-- What was read shows some texts for an option: they are its values, and each has an occurrence
of its own, as has the text that the option may still be waiting for. -/
structure Shows (l : Level) (o : OptionSpec) (s : Scan) (texts : List String) (waiting : Bool) :
    Prop where
  values : s.noted.values o.name = texts
  count : texts.length + waiting.toNat ≤ s.noted.occurrences o.name
  waiting : s.ended = false → (waiting = true ↔ s.pending = some o)
  pending : ∀ o', s.pending = some o' → o' ∈ l.options

/-- An option with a value, written by its word and never by a letter. -/
structure Plain (l : Level) (o : OptionSpec) : Prop where
  mem : o ∈ l.options
  takesValue : o.takesValue = true
  noLetter : o.short = none
  long_ne : o.long ≠ ""

namespace Shows

variable {texts : List String} {waiting : Bool} {o' : OptionSpec} {letters : List Char}

/-- The option itself is noted. -/
theorem note_self (h : l.Shows o s texts waiting) (ho : l.Plain o) (value : Option (List Char)) :
    l.Shows o (note s o value) (texts ++ (value.map withoutEquals).toList) value.isNone where
  values := by rw [values_note, if_pos rfl, h.values]
  count := by
    have hone : (value.map withoutEquals).toList.length + value.isNone.toNat = 1 := by
      rcases value with _ | v <;> rfl
    have hcount := h.count
    rw [occurrences_note, if_pos rfl, List.length_append]
    omega
  waiting _ := by simp [ho.takesValue]
  pending o' ho' := by
    obtain ⟨-, -, rfl⟩ := pending_note_eq_some_iff.1 ho'
    exact ho.mem

/-- Another option is noted. -/
theorem note_other (h : l.Shows o s texts waiting) (hl : l.Proper) (ho : l.Plain o)
    (ho' : o' ∈ l.options) (hne : o' ≠ o) (value : Option (List Char)) :
    l.Shows o (note s o' value) texts false where
  values := by rw [values_note, if_neg (hl.name_ne ho.mem ho' hne), h.values]
  count := by
    rw [occurrences_note, if_neg (hl.name_ne ho.mem ho' hne)]
    exact Nat.le_trans (Nat.le_add_right ..) h.count
  waiting _ := by simp [hne]
  pending o'' ho'' := by
    obtain ⟨-, -, rfl⟩ := pending_note_eq_some_iff.1 ho''
    exact ho'

/-- The option does not wait any longer. -/
theorem stopWaiting (h : l.Shows o s texts waiting) :
    l.Shows o { s with pending := none } texts false where
  values := h.values
  count := Nat.le_trans (Nat.le_add_right ..) h.count
  waiting _ := by simp
  pending := by simp

/-- An option without a letter is not among those that are named by letters. -/
theorem readShort (h : l.Shows o s texts false) (hl : l.Proper) (ho : l.Plain o)
    (hread : l.readShort s letters = .ok s') : l.Shows o s' texts false := by
  induction letters generalizing s with
  | nil =>
    obtain rfl := Except.ok.inj hread
    exact h
  | cons c letters ih =>
    rw [Level.readShort] at hread
    by_cases hhelp : c = 'h'
    · rw [if_pos hhelp] at hread
      cases hread
    by_cases hversion : c = 'V'
    · rw [if_neg hhelp, if_pos hversion] at hread
      cases hread
    rw [if_neg hhelp, if_neg hversion] at hread
    rcases hfound : l.short? c with _ | o'
    · rw [hfound] at hread
      cases hread
    have ho' : o' ∈ l.options := List.mem_of_find?_eq_some hfound
    have hne : o' ≠ o := by
      rintro rfl
      have hletter := List.find?_some (p := fun o : OptionSpec => o.short == some c) hfound
      rw [ho.noLetter] at hletter
      cases hletter
    by_cases htakes : o'.takesValue = true
    · simp only [hfound, htakes, if_true] at hread
      obtain rfl := Except.ok.inj hread
      exact h.note_other hl ho ho' hne _
    · simp only [hfound, htakes, Bool.false_eq_true, if_false] at hread
      exact ih (h.note_other hl ho ho' hne none) hread

/-- A text is added that the option, or another one, was waiting for. -/
theorem addValue (h : l.Shows o s texts waiting) (hl : l.Proper) (ho : l.Plain o)
    (hended : s.ended = false) (ho' : s.pending = some o') (word : String) :
    l.Shows o { s with noted := s.noted.addValue o'.name word, pending := none }
      (texts ++ if waiting then [word] else []) false := by
  have hcount := h.count
  by_cases heq : o' = o
  · subst heq
    obtain rfl := (h.waiting hended).2 ho'
    refine ⟨?_, ?_, by simp, by simp⟩
    · rw [Matches.values_addValue, if_pos rfl, h.values]
      rfl
    · rw [Matches.occurrences_addValue, List.length_append]
      exact hcount
  · have hwaiting : waiting = false := by
      rw [Bool.eq_false_iff]
      intro hwaiting
      exact heq (Option.some.inj (ho'.symm.trans ((h.waiting hended).1 hwaiting)))
    subst hwaiting
    refine ⟨?_, ?_, by simp, by simp⟩
    · rw [Matches.values_addValue, if_neg (hl.name_ne ho.mem (h.pending _ ho') heq), h.values]
      exact (List.append_nil _).symm
    · rw [Matches.occurrences_addValue, List.length_append]
      exact hcount

/-- **One word** adds to the texts for an option what it holds for it. -/
theorem reads (h : l.Shows o s texts waiting) (hl : l.Proper) (ho : l.Plain o)
    (hended : s.ended = false) (hread : l.Reads s word s') :
    l.Shows o s' (texts ++ (textIn o.long waiting word).toList) (waitsAfter o.long word) := by
  have hother : namesOption o.long word = false → startsOption word = true →
      l.Shows o s' texts false →
      l.Shows o s' (texts ++ (textIn o.long waiting word).toList) (waitsAfter o.long word) := by
    intro hnames hstarts h
    rw [textIn_of_startsOption hnames hstarts, waitsAfter, hnames, Option.toList_none,
      List.append_nil]
    exact h
  cases hread with
  | ends hword =>
    subst hword
    refine hother (beq_eq_false_iff_ne.2 ho.long_ne.symm) rfl ?_
    exact ⟨h.values, Nat.le_trans (Nat.le_add_right ..) h.count, by simp, h.pending⟩
  | long hlong ho' =>
    obtain ⟨hmem, hword⟩ := hl.long?_eq_some_iff.1 ho'
    by_cases heq : longName word = o.long
    · obtain rfl := List.inj_on_of_nodup_map hl.longs hmem ho.mem (hword.trans heq)
      have hself := h.note_self ho (afterEquals? word)
      rw [← Option.isNone_map] at hself
      rw [textIn, waitsAfter, namesOption, hlong, beq_iff_eq.2 heq, if_pos ho.takesValue]
      exact hself
    · have hne : _ ≠ o := fun hsame => heq (hword.symm.trans (congrArg OptionSpec.long hsame))
      refine hother ?_ (startsOption_of_isLong hlong) (h.note_other hl ho hmem hne _)
      rw [namesOption, beq_eq_false_iff_ne.2 heq, Bool.and_false]
  | letters hlong hstarts hread =>
    refine hother ?_ hstarts (h.stopWaiting.readShort hl ho hread)
    rw [namesOption, hlong, Bool.false_and]
  | value hstarts ho' =>
    have hnames := namesOption_of_not_startsOption o.long hstarts
    have hadd := h.addValue hl ho hended ho' word
    rw [textIn, waitsAfter, hnames, hstarts, Bool.not_false, Bool.and_true]
    rcases waiting with _ | _ <;> exact hadd

/-- **All words** show the texts given for an option. -/
theorem reading {words : List String} (h : l.Shows o s texts waiting) (hl : l.Proper)
    (ho : l.Plain o) (hreading : l.Reading s words s') :
    ∃ waiting', l.Shows o s' (texts ++ givenFrom o.long waiting words) waiting' := by
  induction hreading generalizing texts waiting with
  | nil => exact ⟨waiting, by rwa [givenFrom, List.append_nil]⟩
  | cons hended hread _ ih =>
    rw [givenFrom, ← List.append_assoc]
    exact ih (h.reads hl ho hended hread)

end Shows

/-- Nothing was read, so nothing is shown. -/
theorem shows_nil (l : Level) (o : OptionSpec) : l.Shows o {} [] false :=
  ⟨rfl, Nat.le_refl 0, fun _ => by simp, nofun⟩

/-- **Nothing is lost and nothing is made up**: on a level that no word ends, the values of an
option are the texts given for it. -/
theorem shows_of_scan {stop : Stop} (hl : l.Proper) (ho : l.Plain o)
    (hstop : ∀ word rest, l.stop? word rest = none) (h : l.scan {} words = .ok (s, stop)) :
    ∃ waiting, l.Shows o s (given o.long words) waiting := by
  obtain ⟨read, tail, rfl, hreading, hstops⟩ := reading_of_scan h
  cases hstops with
  | atEnd =>
    rw [List.append_nil]
    exact (l.shows_nil o).reading hl ho hreading
  | word hword =>
    rw [hstop] at hword
    cases hword

/-! ## Before the name of the command -/

/-- A word is read only if it does not name an unknown option. -/
theorem Reads.namesOption_eq_false {long : String} (h : l.Reads s word s') (hne : long ≠ "")
    (hunknown : l.long? long = none) : namesOption long word = false := by
  cases h with
  | ends hword =>
    subst hword
    exact beq_eq_false_iff_ne.2 hne.symm
  | long hlong ho =>
    rw [namesOption, hlong, Bool.true_and, beq_eq_false_iff_ne]
    rintro rfl
    rw [hunknown] at ho
    cases ho
  | letters hlong => rw [namesOption, hlong, Bool.false_and]
  | value hstarts => exact namesOption_of_not_startsOption long hstarts

theorem Reading.namesOption_eq_false {long : String} (h : l.Reading s words s') (hne : long ≠ "")
    (hunknown : l.long? long = none) : ∀ word ∈ words, namesOption long word = false := by
  induction h with
  | nil => simp
  | cons _ hread _ ih =>
    exact List.forall_mem_cons.2 ⟨hread.namesOption_eq_false hne hunknown, ih⟩

/-- A word at which reading stops for a command is its name. -/
theorem of_stop?_eq_atCommand {c : CommandSpec} {options : List OptionSpec} {tail : List String}
    (h : l.stop? word tail = some (.atCommand c options rest)) :
    (c, options) ∈ l.commands ∧ c.name = word ∧ tail = rest := by
  rw [stop?] at h
  split at h
  next c' options' hfound =>
    cases h
    have hname := List.find?_some (p := fun c : CommandSpec × List OptionSpec => c.1.name == word)
      hfound
    exact ⟨List.mem_of_find?_eq_some hfound, beq_iff_eq.1 hname, rfl⟩
  next =>
    split_ifs at h
    cases h

theorem mem_of_scan_eq_atCommand {c : CommandSpec} {options : List OptionSpec}
    (h : l.scan s words = .ok (s', .atCommand c options rest)) : (c, options) ∈ l.commands := by
  obtain ⟨read, tail, rfl, -, hstops⟩ := reading_of_scan h
  cases hstops with
  | word hword => exact (of_stop?_eq_atCommand hword).1

/-- **The texts for an option of a command stand behind its name**, where reading goes on. -/
theorem given_of_scan {long : String} {c : CommandSpec} {options : List OptionSpec}
    (hne : long ≠ "") (hunknown : l.long? long = none) (hname : startsOption c.name = false)
    (h : l.scan s words = .ok (s', .atCommand c options rest)) :
    given long words = given long rest := by
  obtain ⟨read, tail, rfl, hreading, hstops⟩ := reading_of_scan h
  cases hstops with
  | word hword =>
    obtain ⟨-, rfl, rfl⟩ := of_stop?_eq_atCommand hword
    have hother := namesOption_of_not_startsOption long hname
    rw [given_append (hreading.namesOption_eq_false hne hunknown)]
    exact given_append (List.forall_mem_singleton.2 hother) _

end Level

end TokenEscrow

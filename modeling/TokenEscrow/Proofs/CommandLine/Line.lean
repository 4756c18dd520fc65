import TokenEscrow.Proofs.CommandLine.Complete

/-!
# Command lines that are written

A `Line` is a command line by its parts: the name of a command, and the options on
both sides of it. When both sides are complete it is accepted, and all that is known
of an option afterwards is what was written for it on one side, the one behind the
name if it is there at all (`Grammar.parse_words`). So for what an option means it
makes no difference on which side it stands, nor among which others.
-/

namespace TokenEscrow

/-! ## Options before and after the name of the command -/

namespace Matches

variable {ms ms' : Matches} {name : String}

theorem values_congr (h : ms.get? name = ms'.get? name) : ms.values name = ms'.values name := by
  rw [values, values, h]

theorem occurrences_congr (h : ms.get? name = ms'.get? name) :
    ms.occurrences name = ms'.occurrences name := by
  rw [occurrences, occurrences, h]

theorem has_congr (h : ms.get? name = ms'.get? name) : ms.has name = ms'.has name := by
  rw [has_eq, has_eq, h]

/-- What stands on both sides is there for a global option. -/
theorem get?_inherit_of_mem {globals : List OptionSpec}
    (hnames : (globals.map OptionSpec.name).Nodup) {o : OptionSpec} (ho : o ∈ globals)
    (before after : Matches) :
    (inherit globals before after).get? o.name =
      later (before.get? o.name) (after.get? o.name) := by
  have hown : (after.filter fun m => !globals.any fun o => o.name == m.name).find?
      (fun m => m.name == o.name) = none := by
    rw [List.find?_eq_none]
    intro m hm hname
    have hany := (List.mem_filter.1 hm).2
    rw [beq_iff_eq.1 hname, Bool.not_eq_true', List.any_eq_false] at hany
    exact hany o ho (beq_self_eq_true _)
  rw [inherit, get?, List.find?_append, hown, Option.none_or]
  clear hown
  -- The names of the global options are unique, so the entry found is the one of this option.
  induction globals with
  | nil => cases ho
  | cons o' globals ih =>
    obtain ⟨hfirst, hnames⟩ := List.nodup_cons.1 hnames
    rw [List.filterMap_cons]
    rcases List.mem_cons.1 ho with rfl | ho
    · rcases hlater : later (before.get? o.name) (after.get? o.name) with _ | m
      · refine List.find?_eq_none.2 ?_
        intro m hm hname
        obtain ⟨o', ho', hm'⟩ := List.mem_filterMap.1 hm
        rw [beq_iff_eq, name_of_later hm'] at hname
        exact hfirst (hname ▸ List.mem_map_of_mem ho')
      · exact List.find?_cons_of_pos (beq_iff_eq.2 (name_of_later hlater))
    · have hne : o'.name ≠ o.name := fun h => hfirst (h ▸ List.mem_map_of_mem ho)
      have hrest := ih hnames ho
      rcases hlater : later (before.get? o'.name) (after.get? o'.name) with _ | m
      · exact hrest
      · refine (List.find?_cons_of_neg ?_).trans hrest
        rw [name_of_later hlater]
        exact fun h => hne (beq_iff_eq.1 h)

/-! ### Which entry counts -/

variable {before after : Matches}

theorem later_of_after (h : 0 < after.occurrences name) :
    later (before.get? name) (after.get? name) = after.get? name := by
  rw [occurrences] at h
  rcases hafter : after.get? name with _ | a
  · rw [hafter] at h
    exact absurd h (Nat.lt_irrefl 0)
  · rw [hafter] at h
    cases before.get? name with
    | none => rfl
    | some b => exact if_neg fun hboth => Nat.ne_of_gt h hboth.2

theorem later_of_before (h : 0 < before.occurrences name) (hafter : after.occurrences name = 0) :
    later (before.get? name) (after.get? name) = before.get? name := by
  rw [occurrences] at h hafter
  rcases hbefore : before.get? name with _ | b
  · rw [hbefore] at h
    exact absurd h (Nat.lt_irrefl 0)
  · rw [hbefore] at h
    rcases hget : after.get? name with _ | a
    · rfl
    · rw [hget] at hafter
      exact if_pos ⟨h, hafter⟩

/-- An entry that was not written does not count where there is another one. -/
theorem later_of_unwritten (h : before.occurrences name = 0)
    (hhas : before.has name = true → after.has name = true) :
    later (before.get? name) (after.get? name) = after.get? name := by
  rw [occurrences] at h
  rw [has_eq, has_eq] at hhas
  rcases hbefore : before.get? name with _ | b
  · rfl
  · rw [hbefore] at h hhas
    obtain ⟨a, ha⟩ := Option.isSome_iff_exists.1 (hhas rfl)
    rw [ha]
    exact if_neg fun hboth => Nat.ne_of_gt hboth.1 h

end Matches

/-! ## Lines -/

/-- A command line by its parts. -/
structure Line where
  command : CommandSpec
  /-- the options before the name of the command -/
  before : List Written
  /-- the options behind it -/
  behind : List Written

namespace Line

open Written

/-- The words of a command line. -/
def words (line : Line) : List String :=
  line.before.flatMap Written.words ++ line.command.name :: line.behind.flatMap Written.words

/-- The side that counts for an option: behind the name if it stands there. -/
def side (line : Line) (name : String) : List Written :=
  if 0 < timesOf name line.behind then line.behind else line.before

/-- The texts for an option on the side that counts. -/
def texts (line : Line) (name : String) : List String := textsOf name (line.side name)

/-- The text for an option that may be given once. -/
def text? (line : Line) (name : String) : Option String := (line.texts name).head?

/-- How often an option stands on the side that counts. -/
def times (line : Line) (name : String) : Nat := timesOf name (line.side name)

/-- Both sides are complete. -/
structure Complete (g : Grammar) (line : Line) : Prop where
  command : line.command ∈ g.commands
  before : g.topLevel.Complete line.before
  behind : (g.commandLevel line.command).Complete line.behind

instance (g : Grammar) (line : Line) : Decidable (line.Complete g) :=
  decidable_of_iff (line.command ∈ g.commands ∧ g.topLevel.Complete line.before ∧
      (g.commandLevel line.command).Complete line.behind)
    ⟨fun ⟨hcommand, hbefore, hbehind⟩ => ⟨hcommand, hbefore, hbehind⟩,
      fun h => ⟨h.command, h.before, h.behind⟩⟩

/-- All that is known of an option is what was written for it on the side that counts, or else its
fallback. -/
structure Shown (line : Line) (o : OptionSpec) (ms : Matches) : Prop where
  values : ms.values o.name =
    if line.texts o.name = [] then o.fallback.toList else line.texts o.name
  occurrences : ms.occurrences o.name = line.times o.name
  has_iff : ms.has o.name = true ↔ 0 < line.times o.name ∨ ms.values o.name ≠ []

variable {line : Line} {l : Level} {o : OptionSpec} {ms : Matches} {ws : List Written}

/-- An option is shown as it was written on one side when that side counts. -/
theorem shown_of_get? (hl : l.Proper) (ho : o ∈ l.options)
    (hget : ms.get? o.name = (l.matchesOf ws).get? o.name) (hside : line.side o.name = ws) :
    line.Shown o ms where
  values := by
    rw [Matches.values_congr hget, Level.values_matchesOf hl ho, texts, hside]
    rfl
  occurrences := by
    rw [Matches.occurrences_congr hget, Level.occurrences_matchesOf, times, hside]
  has_iff := by
    rw [Matches.has_congr hget, Matches.values_congr hget, (l.regular_matchesOf ws).has_iff,
      Level.occurrences_matchesOf, times, hside]

/-- The value of an option is its text, or else its fallback. -/
theorem Shown.value?_eq (h : line.Shown o ms) :
    ms.value? o.name = (line.text? o.name).or o.fallback := by
  rw [Matches.value?_eq, h.values, text?]
  rcases line.texts o.name with _ | ⟨text, texts⟩
  · rw [if_pos rfl, Option.head?_toList]
    rfl
  · rfl

/-- An option that stands nowhere is shown as on any side. -/
theorem shown_of_unwritten (hl : l.Proper) (ho : o ∈ l.options)
    (hget : ms.get? o.name = (l.matchesOf ws).get? o.name) (hws : timesOf o.name ws = 0)
    (hside : line.times o.name = 0) : line.Shown o ms where
  values := by
    rw [Matches.values_congr hget, Level.values_matchesOf hl ho, textsFor, textsOf_eq_nil hws,
      texts, textsOf_eq_nil hside]
  occurrences := by
    rw [Matches.occurrences_congr hget, Level.occurrences_matchesOf, hws, hside]
  has_iff := by
    rw [Matches.has_congr hget, Matches.values_congr hget, (l.regular_matchesOf ws).has_iff,
      Level.occurrences_matchesOf, hws, hside]

end Line

/-! ## Grammars -/

namespace Grammar

open Written Level

/-- Every option can be told apart from the others of its command, its fallback passes, and so can
the commands. -/
structure Usable (g : Grammar) : Prop extends g.Proper where
  option : ∀ c ∈ g.commands, ∀ o ∈ g.optionsOf c, Spelling o.long o.short
  letters : ∀ c ∈ g.commands,
    (g.optionsOf c).Pairwise fun o o' => o.short = none ∨ o.short ≠ o'.short
  fallback : ∀ c ∈ g.commands, ∀ o ∈ g.optionsOf c, ∀ text, o.fallback = some text →
    checkValue o text = .ok ()
  names : (g.commands.map CommandSpec.name).Nodup

namespace Usable

variable {g : Grammar} (hg : g.Usable) {c : CommandSpec} (hc : c ∈ g.commands)

include hg hc

/-- What is written behind the name of a command can be read. -/
theorem commandLevel : (g.commandLevel c).Usable where
  toProper := hg.level c hc
  option := hg.option c hc
  letters := hg.letters c hc
  stop _ _ _ := rfl
  fallback := hg.fallback c hc

/-- What is written before it can be read as well. -/
theorem topLevel : g.topLevel.Usable where
  names := by
    have hnames := (hg.level c hc).names
    rw [Grammar.commandLevel, optionsOf, List.map_append] at hnames
    exact hnames.of_append_right
  longs := by
    have hlongs := (hg.level c hc).longs
    rw [Grammar.commandLevel, optionsOf, List.map_append] at hlongs
    exact hlongs.of_append_right
  option o ho := hg.option c hc o (List.mem_append_right _ ho)
  letters := (hg.letters c hc).sublist (List.sublist_append_right ..)
  stop word rest hstarts := by
    have hne : ∀ c ∈ g.commands, c.name ≠ word := by
      rintro c hc rfl
      rw [hg.command c hc] at hstarts
      cases hstarts
    have hhelp : word ≠ "help" := by
      rintro rfl
      cases hstarts
    have hnone : g.topLevel.commands.find? (fun p => p.1.name == word) = none := by
      rw [List.find?_eq_none]
      intro p hp
      obtain ⟨c, hc, rfl⟩ := List.mem_map.1 hp
      simpa using hne c hc
    have hword : g.topLevel.commandNames.contains word = false := by
      rw [Bool.eq_false_iff]
      intro hword
      rcases List.mem_append.1 (List.contains_iff_mem.1 hword) with hmem | hmem
      · obtain ⟨c, hc, rfl⟩ := List.mem_map.1 hmem
        exact hne c hc rfl
      · exact hhelp (List.mem_singleton.1 hmem)
    rw [stop?, hnone, hword]
    rfl
  fallback o ho := hg.fallback c hc o (List.mem_append_right _ ho)

/-- Reading stops at the name of a command. -/
theorem stop?_name (rest : List String) :
    g.topLevel.stop? c.name rest = some (.atCommand c (g.optionsOf c) rest) := by
  have hkeys : (g.topLevel.commands.map fun p => p.1.name).Nodup := by
    rw [Grammar.topLevel, List.map_map]
    exact hg.names
  have hfound : g.topLevel.commands.find? (fun p => p.1.name == c.name) =
      some (c, g.optionsOf c) :=
    (find?_key_eq_some_iff hkeys).2 ⟨List.mem_map_of_mem hc, rfl⟩
  rw [stop?, hfound]

end Usable

variable {g : Grammar} {line : Line}

/-- What stands before the name of the command is read up to it. -/
theorem scan_before (hg : g.Usable) {c : CommandSpec} (hc : c ∈ g.commands) {ws : List Written}
    (hws : ∀ w ∈ ws, w.option ∈ g.globals) (rest : List String) :
    g.topLevel.scan {} (ws.flatMap Written.words ++ c.name :: rest) =
      .ok ({ noted := Matches.writeAll [] ws }, .atCommand c (g.optionsOf c) rest) := by
  have hname : c.name ≠ "--" := by
    intro h
    have hstarts := hg.command c hc
    rw [h] at hstarts
    cases hstarts
  rw [show ({} : Scan) = { noted := [] } from rfl,
    scan_written (hg.topLevel hc).toReadable hws]
  exact scan_stop rfl rfl hname (hg.stop?_name hc rest)

/-- What is known of the options of a complete line. -/
def optionsKnown (g : Grammar) (line : Line) : Matches :=
  Matches.inherit g.globals (g.topLevel.matchesOf line.before)
    ((g.commandLevel line.command).matchesOf line.behind)

/-- **A complete line is accepted.** -/
theorem parse_words (hg : g.Usable) (h : line.Complete g) :
    g.parse line.words = .ok (line.command.command, g.optionsKnown line) := by
  have htop := hg.topLevel h.command
  have hlevel := hg.commandLevel h.command
  have hbehind : (g.commandLevel line.command).scan {} (line.behind.flatMap Written.words) =
      .ok ({ noted := Matches.writeAll [] line.behind }, .atEnd) := by
    rw [← List.append_nil (line.behind.flatMap Written.words),
      show ({} : Scan) = { noted := [] } from rfl,
      scan_written hlevel.toReadable h.behind.known]
    rfl
  rw [parse, Line.words, scan_before hg h.command h.before.known]
  simp only [bind, Except.bind, hbehind, finish_written hlevel h.behind,
    finish_written htop h.before]
  rfl

/-- Only options of the command and global ones stand on the side that counts. -/
theorem mem_optionsOf_of_side (h : line.Complete g) {name : String} {w : Written}
    (hw : w ∈ line.side name) : w.option ∈ g.optionsOf line.command := by
  rw [Line.side] at hw
  split_ifs at hw
  · exact h.behind.known w hw
  · exact List.mem_append_right _ (h.before.known w hw)

/-- An option with a text has one exactly if it stands somewhere. -/
theorem isSome_text? (hg : g.Usable) (h : line.Complete g) {o : OptionSpec}
    (ho : o ∈ g.optionsOf line.command) (htakes : o.takesValue = true) :
    (line.text? o.name).isSome = decide (0 < line.times o.name) := by
  rw [Bool.eq_iff_iff, decide_eq_true_iff, Line.text?, List.isSome_head?, Line.times, Line.texts]
  constructor
  · intro htexts
    exact Nat.lt_of_lt_of_le (List.length_pos_of_ne_nil htexts) (length_textsOf_le ..)
  · exact textsOf_ne_nil (hg.level _ h.command) (fun w hw => mem_optionsOf_of_side h hw) ho htakes

/-- A flag has no text. -/
theorem texts_of_flag (hg : g.Usable) (h : line.Complete g) {o : OptionSpec}
    (ho : o ∈ g.optionsOf line.command) (htakes : o.takesValue = false) :
    line.texts o.name = [] := by
  rw [Line.texts, List.eq_nil_iff_forall_not_mem]
  intro text htext
  obtain ⟨w, hw, hname, hsome⟩ := mem_textsOf_iff.1 htext
  have hoption := List.inj_on_of_nodup_map (hg.level _ h.command).names
    (mem_optionsOf_of_side h hw) ho hname
  have hflag := w.writes.isSome_eq
  rw [hoption, htakes, hsome] at hflag
  cases hflag

/-- An option of the command is not among global ones. -/
theorem timesOf_globals (hg : g.Usable) {c : CommandSpec} (hc : c ∈ g.commands) {o : OptionSpec}
    (ho : o ∈ c.options) {ws : List Written} (hws : ∀ w ∈ ws, w.option ∈ g.globals) :
    timesOf o.name ws = 0 := by
  refine Nat.eq_zero_of_not_pos fun hpos => ?_
  obtain ⟨w, hw, hname⟩ := timesOf_pos_iff.1 hpos
  exact hg.name_ne hc ho (hws w hw) hname.symm

/-- The texts for an option of the command are those behind its name. -/
theorem texts_own (hg : g.Usable) (h : line.Complete g) {o : OptionSpec}
    (ho : o ∈ line.command.options) : line.texts o.name = textsOf o.name line.behind := by
  rw [Line.texts, Line.side]
  split_ifs with hbehind
  · rfl
  · rw [textsOf_eq_nil (timesOf_globals hg h.command ho h.before.known),
      textsOf_eq_nil (Nat.eq_zero_of_not_pos hbehind)]

/-- **What is known of an option** is what was written for it on the side that counts. -/
theorem shown_optionsKnown (hg : g.Usable) (h : line.Complete g) {o : OptionSpec}
    (ho : o ∈ g.optionsOf line.command) : line.Shown o (g.optionsKnown line) := by
  have htop := (hg.topLevel h.command).toReadable.toProper
  have hlevel := (hg.commandLevel h.command).toReadable.toProper
  rcases List.mem_append.1 ho with hown | hglobal
  · have hget := Matches.get?_inherit (fun o' ho' => (hg.name_ne h.command hown ho').symm)
      (g.topLevel.matchesOf line.before) ((g.commandLevel line.command).matchesOf line.behind)
    by_cases hbehind : 0 < timesOf o.name line.behind
    · exact Line.shown_of_get? hlevel ho hget (if_pos hbehind)
    · refine Line.shown_of_unwritten hlevel ho hget (Nat.eq_zero_of_not_pos hbehind) ?_
      rw [Line.times, Line.side, if_neg hbehind,
        timesOf_globals hg h.command hown h.before.known]
  · have hget := Matches.get?_inherit_of_mem htop.names hglobal
      (g.topLevel.matchesOf line.before) ((g.commandLevel line.command).matchesOf line.behind)
    by_cases hbehind : 0 < timesOf o.name line.behind
    · refine Line.shown_of_get? hlevel ho (hget.trans (Matches.later_of_after ?_)) (if_pos hbehind)
      rwa [occurrences_matchesOf]
    by_cases hbefore : 0 < timesOf o.name line.before
    · refine Line.shown_of_get? htop hglobal (hget.trans (Matches.later_of_before ?_ ?_))
        (if_neg hbehind)
      · rwa [occurrences_matchesOf]
      · rw [occurrences_matchesOf, Nat.eq_zero_of_not_pos hbehind]
    · -- It stands nowhere: either both sides have its fallback, or neither has anything.
      have hzero := Nat.eq_zero_of_not_pos hbehind
      have hzero' := Nat.eq_zero_of_not_pos hbefore
      refine Line.shown_of_unwritten hlevel ho (hget.trans (Matches.later_of_unwritten ?_ ?_))
        hzero ?_
      · rw [occurrences_matchesOf, hzero']
      · rw [(regular_matchesOf ..).has_iff, (regular_matchesOf ..).has_iff, occurrences_matchesOf,
          occurrences_matchesOf, values_matchesOf htop hglobal, values_matchesOf hlevel ho,
          textsFor, textsFor, textsOf_eq_nil hzero, textsOf_eq_nil hzero', hzero, hzero']
        exact id
      · rw [Line.times, Line.side, if_neg hbehind, hzero']

end Grammar

end TokenEscrow

import TokenEscrow.Proofs.CommandLine.Scanned
import TokenEscrow.Proofs.Fallible

/-!
# What an accepted command line contains

When a command line is accepted, everything that its command needs was given, and
everything that was given has passed its check. `Accepted` says so of one option
in terms of the texts given for it: they are its values, and when there are none
its fallback is.
-/

namespace TokenEscrow

namespace Level

open Fallible

variable {l : Level} {s : Scan} {ms : Matches} {o : OptionSpec} {m : Match}

/-- What the check of an entry rests on. -/
theorem of_checkMatch (hl : l.Proper) (ho : o ∈ l.options) (hname : o.name = m.name)
    (h : l.checkMatch m = .ok ()) :
    (o.takesValue = true → m.values ≠ []) ∧ (∀ value ∈ m.values, checkValue o value = .ok ()) ∧
      (o.repeatable = false → m.occurrences ≤ 1) := by
  simp only [checkMatch, (find?_key_eq_some_iff hl.names).2 ⟨ho, hname⟩] at h
  by_cases hempty : (o.takesValue && m.values.isEmpty) = true
  · rw [if_pos hempty] at h
    cases h
  rw [if_neg hempty, bind_eq_ok_iff] at h
  obtain ⟨_, hvalues, hcount⟩ := h
  refine ⟨?_, forM_eq_ok_iff.1 hvalues, ?_⟩
  · rintro htakes hnil
    rw [htakes, hnil] at hempty
    exact hempty rfl
  · intro hrepeatable
    by_contra hmany
    rw [if_pos (by simpa [hrepeatable] using hmany)] at hcount
    cases hcount

/-- What was read is filled in, and passes the checks. -/
theorem of_finish (h : l.finish s = .ok ms) :
    ms = s.noted.fillIn l.options ∧ l.checkMissing ms = .ok () ∧
      ∀ m ∈ ms, l.checkMatch m = .ok () := by
  have hrest : (do
      List.forM (s.noted.fillIn l.options) l.checkMatch
      pure (s.noted.fillIn l.options) : Except UsageError Matches) = .ok ms →
      ms = s.noted.fillIn l.options ∧ ∀ m ∈ ms, l.checkMatch m = .ok () := by
    intro h
    obtain ⟨_, hchecks, hms⟩ := bind_eq_ok_iff.1 h
    obtain rfl := Except.ok.inj hms
    exact ⟨rfl, forM_eq_ok_iff.1 hchecks⟩
  simp only [finish, bind_eq_ok_iff] at h
  obtain ⟨_, hmissing, h⟩ := h
  split at h
  next o ho =>
    split_ifs at h
    · cases h
    · obtain ⟨rfl, hchecks⟩ := hrest h
      exact ⟨rfl, hmissing, hchecks⟩
  next =>
    obtain ⟨rfl, hchecks⟩ := hrest h
    exact ⟨rfl, hmissing, hchecks⟩

/-- What is not missing. -/
theorem of_checkMissing (ho : o ∈ l.options) (h : l.checkMissing ms = .ok ()) :
    (o.required = true → ms.has o.name = true) ∧
      ∀ other value, o.requiredIf = some (other, value) → value ∈ ms.values other →
        ms.has o.name = true := by
  have habsent : ¬ ms.has o.name = true → o ∈ l.options.filter fun o => !ms.has o.name := by
    intro habsent
    rw [List.mem_filter, Bool.not_eq_true']
    exact ⟨ho, Bool.eq_false_iff.2 habsent⟩
  simp only [checkMissing] at h
  split_ifs at h with hmissing
  refine ⟨?_, ?_⟩
  · intro hrequired
    by_contra hhas
    refine hmissing ?_
    rw [Bool.not_eq_true', Bool.eq_false_iff, Ne, List.isEmpty_iff]
    exact List.ne_nil_of_mem (List.mem_filter.2 ⟨habsent hhas, hrequired⟩)
  · intro other value hif hvalue
    by_contra hhas
    split at h
    next => cases h
    next hfound =>
      have hunwanted := List.find?_eq_none.1 hfound o (habsent hhas)
      rw [hif] at hunwanted
      exact hunwanted (List.contains_iff_mem.2 hvalue)

/-! ## One option -/

/-- What an accepted command line contains of an option, given the texts written for it. -/
structure Accepted (o : OptionSpec) (ms : Matches) (texts : List String) : Prop where
  /-- a text that was written is never replaced by the fallback -/
  values : ms.values o.name = if texts = [] then o.fallback.toList else texts
  valid : ∀ value ∈ ms.values o.name, checkValue o value = .ok ()
  single : o.repeatable = false → texts.length ≤ 1
  has_iff : ms.has o.name = true ↔ ms.values o.name ≠ []
  required : o.required = true → ms.values o.name ≠ []
  requiredIf : ∀ other value, o.requiredIf = some (other, value) → value ∈ ms.values other →
    ms.values o.name ≠ []

/-- **What was read is complete and acceptable.** -/
theorem accepted_of_finish {texts : List String} {waiting : Bool} (hl : l.Proper) (ho : l.Plain o)
    (hshows : l.Shows o s texts waiting) (h : l.finish s = .ok ms) : Accepted o ms texts := by
  obtain ⟨hms, hmissing, hchecks⟩ := of_finish h
  obtain ⟨hrequired, hrequiredIf⟩ := of_checkMissing ho.mem hmissing
  have hentry : ∀ m, ms.get? o.name = some m → m.values ≠ [] ∧
      (∀ value ∈ m.values, checkValue o value = .ok ()) ∧
        (o.repeatable = false → m.occurrences ≤ 1) := by
    intro m hm
    obtain ⟨hvalues, hrest⟩ := of_checkMatch hl ho.mem (Matches.name_of_get? hm).symm
      (hchecks m (List.mem_of_find?_eq_some hm))
    exact ⟨hvalues ho.takesValue, hrest⟩
  have hhas : ms.has o.name = true → ms.values o.name ≠ [] := by
    intro hhas
    rw [Matches.has_eq, Option.isSome_iff_exists] at hhas
    obtain ⟨m, hm⟩ := hhas
    rw [Matches.values, hm]
    exact (hentry m hm).1
  refine {
    values := ?_
    valid := ?_
    single := ?_
    has_iff := ⟨hhas, ?_⟩
    required := fun h => hhas (hrequired h)
    requiredIf := fun other value hif hvalue => hhas (hrequiredIf other value hif hvalue) }
  · rw [hms, Matches.values_fillIn hl.names ho.mem, hshows.values]
  · intro value hvalue
    rcases hm : ms.get? o.name with _ | m
    · rw [Matches.values, hm] at hvalue
      cases hvalue
    · rw [Matches.values, hm] at hvalue
      exact (hentry m hm).2.1 value hvalue
  · intro hrepeatable
    have hcount := hshows.count
    rw [← Matches.occurrences_fillIn l.options, ← hms] at hcount
    rcases hm : ms.get? o.name with _ | m
    · rw [Matches.occurrences, hm] at hcount
      exact Nat.le_trans (Nat.le_trans (Nat.le_add_right ..) hcount) (Nat.zero_le 1)
    · rw [Matches.occurrences, hm] at hcount
      exact Nat.le_trans (Nat.le_trans (Nat.le_add_right ..) hcount) ((hentry m hm).2.2 hrepeatable)
  · intro hvalues
    rcases hm : ms.get? o.name with _ | m
    · rw [Matches.values, hm] at hvalues
      exact absurd rfl hvalues
    · rw [Matches.has_eq, hm]
      rfl

end Level

/-! ## Whole command lines -/

/-- What is known of an option does not change when nothing changes about it, and about the option
on which it depends. -/
theorem Level.Accepted.congr {o : OptionSpec} {ms ms' : Matches} {texts : List String}
    (h : Level.Accepted o ms texts) (hself : ms'.get? o.name = ms.get? o.name)
    (hother : ∀ other value, o.requiredIf = some (other, value) →
      ms'.get? other = ms.get? other) : Level.Accepted o ms' texts := by
  have hvalues : ms'.values o.name = ms.values o.name := by
    rw [Matches.values, hself, ← Matches.values]
  have hhas : ms'.has o.name = ms.has o.name := by rw [Matches.has_eq, hself, ← Matches.has_eq]
  refine {
    values := hvalues ▸ h.values
    valid := hvalues ▸ h.valid
    single := h.single
    has_iff := by rw [hhas, hvalues, h.has_iff]
    required := hvalues ▸ h.required
    requiredIf := ?_ }
  intro other value hif hvalue
  rw [Matches.values, hother other value hif, ← Matches.values] at hvalue
  rw [hvalues]
  exact h.requiredIf other value hif hvalue

namespace Grammar

open Fallible

/-- The options of each command can be told apart from each other and from the global ones, no name
of a command looks like an option, and what a command requires depends on its own options only. -/
structure Proper (g : Grammar) : Prop where
  level : ∀ c ∈ g.commands, (g.commandLevel c).Proper
  command : ∀ c ∈ g.commands, startsOption c.name = false
  requiredIf : ∀ c ∈ g.commands, ∀ o ∈ c.options, ∀ p ∈ o.requiredIf,
    p.1 ∈ c.options.map OptionSpec.name

namespace Proper

variable {g : Grammar} (hg : g.Proper) {c : CommandSpec} (hc : c ∈ g.commands) {o o' : OptionSpec}
  (ho : o ∈ c.options) (ho' : o' ∈ g.globals)

include hg hc ho ho'

/-- A global option has another name than the options of a command. -/
theorem name_ne : o.name ≠ o'.name := by
  have hnames := (hg.level c hc).names
  rw [commandLevel, optionsOf, List.map_append] at hnames
  exact fun h => List.disjoint_of_nodup_append hnames (List.mem_map_of_mem ho)
    (h ▸ List.mem_map_of_mem ho')

/-- A global option has another word than the options of a command. -/
theorem long_ne : o.long ≠ o'.long := by
  have hlongs := (hg.level c hc).longs
  rw [commandLevel, optionsOf, List.map_append] at hlongs
  exact fun h => List.disjoint_of_nodup_append hlongs (List.mem_map_of_mem ho)
    (h ▸ List.mem_map_of_mem ho')

end Proper

variable {g : Grammar} {words : List String} {name : CommandName} {ms : Matches}

/-- What an accepted command line consists of. -/
theorem of_parse (h : g.parse words = .ok (name, ms)) :
    ∃ before c options rest after stop own outer,
      g.topLevel.scan {} words = .ok (before, .atCommand c options rest) ∧
      (g.commandLevel c).scan {} rest = .ok (after, stop) ∧
      (g.commandLevel c).finish after = .ok own ∧ g.topLevel.finish before = .ok outer ∧
      name = c.command ∧ ms = Matches.inherit g.globals outer own := by
  rw [parse, bind_eq_ok_iff] at h
  obtain ⟨⟨before, stop⟩, htop, h⟩ := h
  cases stop with
  | atEnd => cases h
  | atHelp rest =>
    rcases hhelp : g.helpFor rest with word | page
    · simp only [hhelp] at h
      cases h
    · simp only [hhelp] at h
      cases h
  | atCommand c options rest =>
    simp only [bind_eq_ok_iff] at h
    obtain ⟨⟨after, stop⟩, hscan, own, hown, outer, houter, hms⟩ := h
    obtain ⟨rfl, rfl⟩ := Prod.mk.inj (Except.ok.inj hms)
    exact ⟨_, _, _, _, _, _, _, _, htop, hscan, hown, houter, rfl, rfl⟩

/-- **Accepted command lines**: what is known of an option of the command is what was written for
it, wherever on the command line, and it was checked. -/
theorem accepted_of_parse (hg : g.Proper) (h : g.parse words = .ok (name, ms)) :
    ∃ c ∈ g.commands, c.command = name ∧ ∀ o ∈ c.options, (g.commandLevel c).Plain o →
      Level.Accepted o ms (given o.long words) := by
  obtain ⟨before, c, options, rest, after, stop, own, outer, htop, hscan, hown, -, rfl, rfl⟩ :=
    of_parse h
  obtain ⟨c', hc, heq⟩ := List.mem_map.1 (Level.mem_of_scan_eq_atCommand htop)
  obtain ⟨rfl, rfl⟩ := Prod.mk.inj heq
  have hl := hg.level c' hc
  refine ⟨c', hc, rfl, fun o ho hplain => ?_⟩
  have hgiven : given o.long words = given o.long rest := by
    refine Level.given_of_scan hplain.long_ne ?_ (hg.command c' hc) htop
    exact List.find?_eq_none.2 fun o' ho' hlong =>
      hg.long_ne hc ho ho' (beq_iff_eq.1 hlong).symm
  obtain ⟨waiting, hshows⟩ := Level.shows_of_scan hl hplain (fun _ _ => rfl) hscan
  rw [hgiven]
  refine (Level.accepted_of_finish hl hplain hshows hown).congr ?_ ?_
  · exact Matches.get?_inherit (fun o' ho' => (hg.name_ne hc ho ho').symm) outer own
  · intro other value hif
    obtain ⟨o', ho', rfl⟩ := List.mem_map.1 (hg.requiredIf c' hc o ho (other, value) hif)
    exact Matches.get?_inherit (fun o'' ho'' => (hg.name_ne hc ho' ho'').symm) outer own

end Grammar

end TokenEscrow

import Mathlib.Data.List.Basic
import TokenEscrow.CommandLine.Matches

/-!
# What is known about an option

All that is known about one option is its entry, and an option that was not
written has an empty one (`Matches.entry`). Each way of changing what a command
line contained changes one entry and leaves the others alone; the fallbacks are
filled in for each option by itself (`Matches.entry_fillIn`).
-/

namespace TokenEscrow

namespace Matches

variable {ms : Matches} {name other : String}

/-! ## Entries -/

/-- The entry of an option, empty when there is none. -/
def entry (ms : Matches) (name : String) : Match := (ms.get? name).getD { name }

theorem values_eq (ms : Matches) (name : String) : ms.values name = (ms.entry name).values := by
  rw [values, entry]
  rcases ms.get? name with _ | m <;> rfl

theorem occurrences_eq (ms : Matches) (name : String) :
    ms.occurrences name = (ms.entry name).occurrences := by
  rw [occurrences, entry]
  rcases ms.get? name with _ | m <;> rfl

theorem value?_eq (ms : Matches) (name : String) : ms.value? name = (ms.values name).head? := by
  rw [value?, values]
  rcases ms.get? name with _ | m <;> rfl

theorem name_of_get? {m : Match} (h : ms.get? name = some m) : m.name = name :=
  beq_iff_eq.1 (List.find?_some (p := fun m : Match => m.name == name) h)

theorem has_eq (ms : Matches) (name : String) : ms.has name = (ms.get? name).isSome :=
  List.isSome_find?.symm

/-! ## Changing an entry -/

theorem get?_cons (m : Match) (ms : Matches) (name : String) :
    get? (m :: ms) name = if m.name = name then some m else get? ms name := by
  rw [get?, List.find?_cons]
  by_cases h : m.name = name
  · rw [if_pos h, beq_iff_eq.2 h]
  · rw [if_neg h, beq_eq_false_iff_ne.2 h]
    rfl

theorem entry_cons (m : Match) (ms : Matches) (name : String) :
    entry (m :: ms) name = if m.name = name then m else entry ms name := by
  rw [entry, get?_cons]
  split_ifs <;> rfl

/-- The entry that is changed is changed, and made if need be, and no other. -/
theorem entry_update {f : Match → Match} (hf : ∀ m, (f m).name = m.name) (ms : Matches)
    (name other : String) :
    (ms.update name f).entry other =
      if name = other then f (ms.entry other) else ms.entry other := by
  induction ms with
  | nil =>
    rw [update, entry_cons, hf]
    split_ifs with h
    · subst h
      rfl
    · rfl
  | cons m ms ih =>
    by_cases hname : m.name = name
    · rw [update, if_pos hname, entry_cons, entry_cons, hf, hname]
      split_ifs <;> rfl
    · rw [update, if_neg hname, entry_cons, entry_cons]
      by_cases hother : m.name = other
      · have hne : name ≠ other := fun h => hname (hother.trans h.symm)
        rw [if_pos hother, if_pos hother, if_neg hne]
      · rw [if_neg hother, if_neg hother]
        exact ih

theorem entry_occur (ms : Matches) (name other : String) :
    (ms.occur name).entry other =
      if name = other then { ms.entry other with occurrences := (ms.entry other).occurrences + 1 }
      else ms.entry other :=
  entry_update (f := fun m => { m with occurrences := m.occurrences + 1 }) (fun _ => rfl) ..

theorem entry_addValue (ms : Matches) (name value other : String) :
    (ms.addValue name value).entry other =
      if name = other then { ms.entry other with values := (ms.entry other).values ++ [value] }
      else ms.entry other :=
  entry_update (f := fun m => { m with values := m.values ++ [value] }) (fun _ => rfl) ..

@[simp] theorem values_occur (ms : Matches) (name other : String) :
    (ms.occur name).values other = ms.values other := by
  rw [values_eq, values_eq, entry_occur]
  split_ifs <;> rfl

theorem occurrences_occur (ms : Matches) (name other : String) :
    (ms.occur name).occurrences other =
      if name = other then ms.occurrences other + 1 else ms.occurrences other := by
  rw [occurrences_eq, occurrences_eq, entry_occur]
  split_ifs <;> rfl

theorem values_addValue (ms : Matches) (name value other : String) :
    (ms.addValue name value).values other =
      if name = other then ms.values other ++ [value] else ms.values other := by
  rw [values_eq, values_eq, entry_addValue]
  split_ifs <;> rfl

@[simp] theorem occurrences_addValue (ms : Matches) (name value other : String) :
    (ms.addValue name value).occurrences other = ms.occurrences other := by
  rw [occurrences_eq, occurrences_eq, entry_addValue]
  split_ifs <;> rfl

/-! ## Fallbacks -/

/-- Gives one option its fallback when it has no value. -/
def fill (ms : Matches) (o : OptionSpec) : Matches :=
  match o.fallback with
  | some value => if (ms.values o.name).isEmpty then ms.addValue o.name value else ms
  | none => ms

theorem fillIn_cons (o : OptionSpec) (options : List OptionSpec) (ms : Matches) :
    fillIn (o :: options) ms = fillIn options (ms.fill o) := rfl

theorem values_fill (ms : Matches) (o : OptionSpec) (name : String) :
    (ms.fill o).values name =
      if o.name = name ∧ ms.values name = [] then o.fallback.toList else ms.values name := by
  rw [fill]
  by_cases hname : o.name = name
  · subst hname
    rcases hvalues : ms.values o.name with _ | ⟨v, vs⟩
    · rcases o.fallback with _ | value
      · simp [hvalues]
      · simp [values_addValue, hvalues]
    · rcases o.fallback with _ | value
      · simp [hvalues]
      · simp [hvalues]
  · rcases o.fallback with _ | value
    · simp [hname]
    · simp only [hname, false_and, if_false]
      split_ifs
      · rw [values_addValue, if_neg hname]
      · rfl

@[simp] theorem occurrences_fill (ms : Matches) (o : OptionSpec) (name : String) :
    (ms.fill o).occurrences name = ms.occurrences name := by
  rw [fill]
  split
  · split_ifs
    · exact occurrences_addValue ..
    · rfl
  · rfl

/-- Fallbacks are not counted. -/
theorem occurrences_fillIn (options : List OptionSpec) (ms : Matches) (name : String) :
    (ms.fillIn options).occurrences name = ms.occurrences name := by
  induction options generalizing ms with
  | nil => rfl
  | cons o options ih => rw [fillIn_cons, ih, occurrences_fill]

theorem values_fillIn_of_ne {options : List OptionSpec} (h : ∀ o ∈ options, o.name ≠ name)
    (ms : Matches) : (ms.fillIn options).values name = ms.values name := by
  induction options generalizing ms with
  | nil => rfl
  | cons o options ih =>
    obtain ⟨ho, h⟩ := List.forall_mem_cons.1 h
    rw [fillIn_cons, ih h, values_fill, if_neg fun h => ho h.1]

/-- Values that were written count, and the fallback where there are none. -/
theorem values_fillIn {options : List OptionSpec} (hnames : (options.map OptionSpec.name).Nodup)
    {o : OptionSpec} (ho : o ∈ options) (ms : Matches) :
    (ms.fillIn options).values o.name =
      if ms.values o.name = [] then o.fallback.toList else ms.values o.name := by
  induction options generalizing ms with
  | nil => cases ho
  | cons o' options ih =>
    obtain ⟨hfirst, hnames⟩ := List.nodup_cons.1 hnames
    rw [fillIn_cons]
    have hothers : ∀ o ∈ options, o.name ≠ o'.name := by
      intro o ho heq
      exact hfirst (heq ▸ List.mem_map_of_mem ho)
    rcases List.mem_cons.1 ho with rfl | ho
    · rw [values_fillIn_of_ne hothers, values_fill]
      simp only [true_and]
    · have hne : ¬ (o'.name = o.name ∧ ms.values o.name = []) := fun h => hothers o ho h.1.symm
      rw [ih hnames ho, values_fill, if_neg hne]

/-! ## Options before and after the name of the command -/

theorem name_of_later {before after : Matches} {m : Match}
    (h : later (before.get? name) (after.get? name) = some m) : m.name = name := by
  rcases hbefore : before.get? name with _ | b
  · rw [hbefore, later] at h
    exact name_of_get? h
  rcases hafter : after.get? name with _ | a
  · rw [hbefore, hafter, later] at h
    rw [← Option.some.inj h]
    exact name_of_get? hbefore
  · rw [hbefore, hafter, later] at h
    split_ifs at h
    · rw [← Option.some.inj h]
      exact name_of_get? hbefore
    · rw [← Option.some.inj h]
      exact name_of_get? hafter

/-- What stands before the name of the command does not matter for an option of the command. -/
theorem get?_inherit {globals : List OptionSpec} (h : ∀ o ∈ globals, o.name ≠ name)
    (before after : Matches) : (inherit globals before after).get? name = after.get? name := by
  have hown : (after.filter fun m => !globals.any fun o => o.name == m.name).find?
      (fun m => m.name == name) = after.get? name := by
    rw [get?, List.find?_filter]
    congr 1
    funext m
    by_cases hm : m.name = name
    · have hnone : (globals.any fun o => o.name == m.name) = false := by
        rw [List.any_eq_false]
        intro o ho
        rw [beq_iff_eq, hm]
        exact h o ho
      rw [hnone, beq_iff_eq.2 hm]
      rfl
    · simp [hm]
  have houter : (globals.filterMap fun o => later (before.get? o.name) (after.get? o.name)).find?
      (fun m => m.name == name) = none := by
    rw [List.find?_eq_none]
    intro m hm
    obtain ⟨o, ho, hlater⟩ := List.mem_filterMap.1 hm
    rw [beq_iff_eq, name_of_later hlater]
    exact h o ho
  rw [inherit, get?, List.find?_append, hown, houter, Option.or_none]

end Matches

end TokenEscrow

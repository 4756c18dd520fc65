import TokenEscrow.Proofs.CommandLine.Accepted
import TokenEscrow.Proofs.CommandLine.Written

/-!
# Complete command lines

What is written on one level is complete when the options that have to be there are
there, their texts pass, and only options that may be repeated are
(`Level.Complete`). Then nothing is left to refuse (`Level.finish_written`), and an
option has the texts that were written for it, or else its fallback
(`Level.values_matchesOf`).
-/

namespace TokenEscrow

/-! ## Entries that stand for something -/

namespace Matches

variable {ms : Matches} {name other : String}

theorem get?_update {f : Match → Match} (hf : ∀ m, (f m).name = m.name) (ms : Matches)
    (name other : String) :
    (ms.update name f).get? other =
      if name = other then some (f (ms.entry other)) else ms.get? other := by
  induction ms with
  | nil =>
    rw [update, get?_cons, hf]
    split_ifs with h
    · subst h
      rfl
    · rfl
  | cons m ms ih =>
    by_cases hname : m.name = name
    · rw [update, if_pos hname, get?_cons, get?_cons, entry_cons, hf, hname]
      split_ifs <;> rfl
    · rw [update, if_neg hname, get?_cons, get?_cons, entry_cons, ih]
      by_cases hother : m.name = other
      · have hne : name ≠ other := fun h => hname (hother.trans h.symm)
        rw [if_pos hother, if_neg hne, if_pos hother]
      · rw [if_neg hother, if_neg hother, if_neg hother]

theorem mem_map_name_iff : name ∈ ms.map Match.name ↔ ms.has name = true := by
  simp only [has, List.mem_map, List.any_eq_true, beq_iff_eq]

theorem has_cons (m : Match) (ms : Matches) (name : String) :
    has (m :: ms) name = (m.name == name || has ms name) := List.any_cons

/-- Only the entry that is changed may be new. -/
theorem map_name_update {f : Match → Match} (hf : ∀ m, (f m).name = m.name) (ms : Matches)
    (name : String) :
    (ms.update name f).map Match.name =
      if ms.has name then ms.map Match.name else ms.map Match.name ++ [name] := by
  induction ms with
  | nil => simp [update, has, hf]
  | cons m ms ih =>
    by_cases hname : m.name = name
    · rw [update, if_pos hname, has_cons, beq_iff_eq.2 hname, Bool.true_or, if_pos rfl,
        List.map_cons, hf, List.map_cons]
    · rw [update, if_neg hname, has_cons, beq_eq_false_iff_ne.2 hname, Bool.false_or,
        List.map_cons, ih, List.map_cons]
      split_ifs <;> rfl

/-- Entries stand for different options, and each for one that was written or has a value. -/
structure Regular (ms : Matches) : Prop where
  names : (ms.map Match.name).Nodup
  used : ∀ name, ms.has name = true → 0 < ms.occurrences name ∨ ms.values name ≠ []

theorem regular_nil : Regular [] := ⟨List.nodup_nil, fun name h => by simp [has] at h⟩

/-- A change keeps entries regular when the changed entry stands for something. -/
theorem Regular.update (h : ms.Regular) {f : Match → Match} (hf : ∀ m, (f m).name = m.name)
    (hused : ∀ m, 0 < (f m).occurrences ∨ (f m).values ≠ []) : (ms.update name f).Regular where
  names := by
    rw [map_name_update hf]
    split_ifs with hhas
    · exact h.names
    · rw [← mem_map_name_iff] at hhas
      exact List.nodup_append.2 ⟨h.names, by simp, by
        rintro a ha b hb rfl
        obtain rfl := List.mem_singleton.1 hb
        exact hhas ha⟩
  used other hhas := by
    rw [has_eq, get?_update hf] at hhas
    rw [occurrences_eq, values_eq, entry_update hf]
    split_ifs at hhas ⊢ with hname
    · exact hused _
    · rw [← has_eq] at hhas
      rw [← occurrences_eq, ← values_eq]
      exact h.used other hhas

theorem Regular.occur (h : ms.Regular) : (ms.occur name).Regular :=
  h.update (fun _ => rfl) fun m => .inl (Nat.succ_pos m.occurrences)

theorem Regular.addValue {value : String} (h : ms.Regular) : (ms.addValue name value).Regular :=
  h.update (fun _ => rfl) fun m => .inr (List.append_ne_nil_of_right_ne_nil _ (by simp))

theorem Regular.write (h : ms.Regular) (text : Option String) : (ms.write name text).Regular := by
  cases text with
  | none => exact h.occur
  | some text => exact h.occur.addValue

theorem Regular.writeAll (h : ms.Regular) (ws : List Written) : (ms.writeAll ws).Regular := by
  induction ws generalizing ms with
  | nil => exact h
  | cons w ws ih => exact ih (h.write w.text)

theorem Regular.fillIn (h : ms.Regular) (options : List OptionSpec) :
    (ms.fillIn options).Regular := by
  induction options generalizing ms with
  | nil => exact h
  | cons o options ih =>
    rw [fillIn_cons]
    refine ih ?_
    rw [fill]
    split
    · split_ifs
      · exact h.addValue
      · exact h
    · exact h

/-- An option has an entry exactly if it was written or has a value. -/
theorem Regular.has_iff (h : ms.Regular) :
    ms.has name = true ↔ 0 < ms.occurrences name ∨ ms.values name ≠ [] := by
  refine ⟨h.used name, fun hused => ?_⟩
  rw [has_eq]
  rcases hm : ms.get? name with _ | m
  · rw [occurrences, values, hm] at hused
    simp at hused
  · rfl

theorem Regular.get?_of_mem (h : ms.Regular) {m : Match} (hm : m ∈ ms) :
    ms.get? m.name = some m :=
  (find?_key_eq_some_iff h.names).2 ⟨hm, rfl⟩

end Matches

/-! ## One level -/

namespace Written

/-- The texts for an option, or else its fallback. -/
def textsFor (o : OptionSpec) (ws : List Written) : List String :=
  if textsOf o.name ws = [] then o.fallback.toList else textsOf o.name ws

/-- The order of texts does not matter for which there are. -/
theorem mem_textsFor_of_perm {o : OptionSpec} {ws ws' : List Written} {text : String}
    (h : (textsOf o.name ws').Perm (textsOf o.name ws)) (htext : text ∈ textsFor o ws') :
    text ∈ textsFor o ws := by
  rw [textsFor] at htext ⊢
  by_cases hnil : textsOf o.name ws = []
  · rw [hnil] at h
    rw [if_pos h.eq_nil] at htext
    rwa [if_pos hnil]
  · have hnil' : textsOf o.name ws' ≠ [] := by
      intro hnil'
      rw [hnil'] at h
      exact hnil h.nil_eq.symm
    rw [if_neg hnil'] at htext
    rw [if_neg hnil]
    exact h.mem_iff.1 htext

end Written

namespace Level

open Fallible Written

/-- What is written can be read, and every fallback passes. -/
structure Usable (l : Level) : Prop extends l.Readable where
  fallback : ∀ o ∈ l.options, ∀ text, o.fallback = some text → checkValue o text = .ok ()

/-- What is written is complete and acceptable. -/
structure Complete (l : Level) (ws : List Written) : Prop where
  known : ∀ w ∈ ws, w.option ∈ l.options
  valid : ∀ w ∈ ws, ∀ text ∈ w.text, checkValue w.option text = .ok ()
  single : ∀ o ∈ l.options, o.repeatable = false → timesOf o.name ws ≤ 1
  required : ∀ o ∈ l.options, o.required = true → 0 < timesOf o.name ws
  requiredIf : ∀ o ∈ l.options, ∀ p ∈ o.requiredIf, ∀ o' ∈ l.options, o'.name = p.1 →
    p.2 ∈ textsFor o' ws → 0 < timesOf o.name ws

instance (l : Level) (ws : List Written) : Decidable (l.Complete ws) :=
  decidable_of_iff
    ((∀ w ∈ ws, w.option ∈ l.options) ∧
      (∀ w ∈ ws, ∀ text ∈ w.text, checkValue w.option text = .ok ()) ∧
      (∀ o ∈ l.options, o.repeatable = false → timesOf o.name ws ≤ 1) ∧
      (∀ o ∈ l.options, o.required = true → 0 < timesOf o.name ws) ∧
      ∀ o ∈ l.options, ∀ p ∈ o.requiredIf, ∀ o' ∈ l.options, o'.name = p.1 →
        p.2 ∈ textsFor o' ws → 0 < timesOf o.name ws)
    ⟨fun ⟨hknown, hvalid, hsingle, hrequired, hif⟩ => ⟨hknown, hvalid, hsingle, hrequired, hif⟩,
      fun h => ⟨h.known, h.valid, h.single, h.required, h.requiredIf⟩⟩

/-- What is known of the options after they were written. -/
def matchesOf (l : Level) (ws : List Written) : Matches :=
  (Matches.writeAll [] ws).fillIn l.options

variable {l : Level} {ws : List Written} {ms : Matches} {o : OptionSpec} {m : Match}

theorem regular_matchesOf (l : Level) (ws : List Written) : (l.matchesOf ws).Regular :=
  (Matches.regular_nil.writeAll ws).fillIn l.options

@[simp] theorem occurrences_matchesOf (l : Level) (ws : List Written) (name : String) :
    (l.matchesOf ws).occurrences name = timesOf name ws := by
  rw [matchesOf, Matches.occurrences_fillIn, Matches.occurrences_writeAll]
  exact Nat.zero_add _

theorem values_matchesOf (hl : l.Proper) (ho : o ∈ l.options) (ws : List Written) :
    (l.matchesOf ws).values o.name = textsFor o ws := by
  rw [matchesOf, Matches.values_fillIn hl.names ho, Matches.values_writeAll]
  rfl

/-- Nothing is known of options that do not exist. -/
theorem values_matchesOf_of_ne {name : String} (hws : ∀ w ∈ ws, w.option ∈ l.options)
    (hname : ∀ o ∈ l.options, o.name ≠ name) : (l.matchesOf ws).values name = [] := by
  rw [matchesOf, Matches.values_fillIn_of_ne hname, Matches.values_writeAll,
    List.eq_nil_iff_forall_not_mem]
  intro text htext
  obtain ⟨w, hw, hwname, -⟩ := mem_textsOf_iff.1 htext
  exact hname _ (hws w hw) hwname

/-- Nothing is missing. -/
theorem checkMissing_eq_ok (hrequired : ∀ o ∈ l.options, o.required = true → ms.has o.name = true)
    (hrequiredIf : ∀ o ∈ l.options, ∀ other value, o.requiredIf = some (other, value) →
      value ∈ ms.values other → ms.has o.name = true) : l.checkMissing ms = .ok () := by
  have habsent : ∀ o, o ∈ l.options.filter (fun o => !ms.has o.name) →
      o ∈ l.options ∧ ¬ ms.has o.name = true := by
    intro o ho
    rw [List.mem_filter] at ho
    exact ⟨ho.1, by simpa using ho.2⟩
  have hnone : ((l.options.filter fun o => !ms.has o.name).filter OptionSpec.required) = [] := by
    rw [List.filter_eq_nil_iff]
    intro o ho hreq
    exact (habsent o ho).2 (hrequired o (habsent o ho).1 hreq)
  simp only [checkMissing, hnone, List.isEmpty_nil, Bool.not_true, Bool.false_eq_true, if_false]
  split
  next o hfound =>
    obtain ⟨ho, hhas⟩ := habsent o (List.mem_of_find?_eq_some hfound)
    have hwanted := List.find?_some hfound
    split at hwanted
    next other value hif =>
      exact absurd (hrequiredIf o ho other value hif (List.contains_iff_mem.1 hwanted)) hhas
    next => cases hwanted
  next => rfl

/-- An entry passes when its values do and there are neither too few nor too many. -/
theorem checkMatch_eq_ok (hl : l.Proper) (h : ∀ o ∈ l.options, o.name = m.name →
      (o.takesValue = true → m.values ≠ []) ∧ (∀ value ∈ m.values, checkValue o value = .ok ()) ∧
        (o.repeatable = false → m.occurrences ≤ 1)) : l.checkMatch m = .ok () := by
  rcases hfound : l.options.find? fun o => o.name == m.name with _ | o
  · simp only [checkMatch, hfound]
  · obtain ⟨ho, hname⟩ := (find?_key_eq_some_iff hl.names).1 hfound
    obtain ⟨hvalues, hvalid, hsingle⟩ := h o ho hname
    have hsome : (o.takesValue && m.values.isEmpty) = false := by
      by_cases htakes : o.takesValue = true
      · simp [hvalues htakes]
      · simp [htakes]
    have hcount : (decide (1 < m.occurrences) && !o.repeatable) = false := by
      cases hrepeatable : o.repeatable with
      | true => simp
      | false => simpa using hsingle hrepeatable
    have hchecked : m.values.forM (checkValue o) = .ok () := forM_eq_ok_iff.2 hvalid
    simp only [checkMatch, hfound, hsome, hcount, hchecked, Bool.false_eq_true, if_false]
    rfl

/-- An option that takes a text and was written has one. -/
theorem textsOf_ne_nil (hl : l.Proper) (hws : ∀ w ∈ ws, w.option ∈ l.options) (ho : o ∈ l.options)
    (htakes : o.takesValue = true) (htimes : 0 < timesOf o.name ws) : textsOf o.name ws ≠ [] := by
  obtain ⟨w, hw, hname⟩ := timesOf_pos_iff.1 htimes
  have hoption := List.inj_on_of_nodup_map hl.names (hws w hw) ho hname
  have hsome := w.writes.isSome_eq
  rw [hoption, htakes] at hsome
  obtain ⟨text, htext⟩ := Option.isSome_iff_exists.1 hsome
  exact List.ne_nil_of_mem (mem_textsOf_iff.2 ⟨w, hw, hname, htext⟩)

/-- An option that is there was written, or has its fallback. -/
theorem textsFor_ne_nil (hl : l.Proper) (hws : ∀ w ∈ ws, w.option ∈ l.options) (ho : o ∈ l.options)
    (htakes : o.takesValue = true) (hhas : (l.matchesOf ws).has o.name = true) :
    textsFor o ws ≠ [] := by
  rcases (l.regular_matchesOf ws).has_iff.1 hhas with hused | hused
  · rw [occurrences_matchesOf] at hused
    have htexts := textsOf_ne_nil hl hws ho htakes hused
    rwa [textsFor, if_neg htexts]
  · rwa [values_matchesOf hl ho] at hused

/-- Every text that counts for an option passes its check. -/
theorem checkValue_of_mem_textsFor (hl : l.Usable) (h : l.Complete ws) (ho : o ∈ l.options)
    {text : String} (htext : text ∈ textsFor o ws) : checkValue o text = .ok () := by
  rw [textsFor] at htext
  split_ifs at htext
  · exact hl.fallback o ho text (by simpa using htext)
  · obtain ⟨w, hw, hname, hsome⟩ := mem_textsOf_iff.1 htext
    rw [← List.inj_on_of_nodup_map hl.names (h.known w hw) ho hname]
    exact h.valid w hw text hsome

/-- What is known passes. -/
theorem checkMatch_matchesOf (hl : l.Usable) (h : l.Complete ws) (hm : m ∈ l.matchesOf ws) :
    l.checkMatch m = .ok () := by
  have hproper := hl.toReadable.toProper
  have hget := (l.regular_matchesOf ws).get?_of_mem hm
  refine checkMatch_eq_ok hproper ?_
  intro o ho hname
  have hvalues : m.values = textsFor o ws := by
    rw [← values_matchesOf hproper ho, hname, Matches.values, hget]
  have htimes : m.occurrences = timesOf o.name ws := by
    rw [← occurrences_matchesOf l, hname, Matches.occurrences, hget]
  rw [hvalues, htimes]
  refine ⟨?_, ?_, h.single o ho⟩
  · intro htakes
    apply textsFor_ne_nil hproper h.known ho htakes
    rw [hname]
    exact Matches.mem_map_name_iff.1 (List.mem_map_of_mem hm)
  · intro value hvalue
    exact checkValue_of_mem_textsFor hl h ho hvalue

/-- **Nothing is left to refuse** when what was written is complete. -/
theorem finish_written (hl : l.Usable) (h : l.Complete ws) :
    l.finish { noted := Matches.writeAll [] ws } = .ok (l.matchesOf ws) := by
  have hproper := hl.toReadable.toProper
  have hhas : ∀ {name}, 0 < timesOf name ws → (l.matchesOf ws).has name = true := by
    intro name htimes
    exact (l.regular_matchesOf ws).has_iff.2 (.inl (by rwa [occurrences_matchesOf]))
  have hmissing : l.checkMissing (l.matchesOf ws) = .ok () := by
    refine checkMissing_eq_ok (fun o ho hrequired => hhas (h.required o ho hrequired)) ?_
    intro o ho other value hif hvalue
    -- An option that does not exist has no value that another one could depend on.
    by_cases hother : ∃ o' ∈ l.options, o'.name = other
    · obtain ⟨o', ho', rfl⟩ := hother
      rw [values_matchesOf hproper ho'] at hvalue
      exact hhas (h.requiredIf o ho (o'.name, value) hif o' ho' rfl hvalue)
    · rw [values_matchesOf_of_ne h.known fun o' ho' hname => hother ⟨o', ho', hname⟩] at hvalue
      cases hvalue
  have hchecks : List.forM (l.matchesOf ws) l.checkMatch = .ok () :=
    forM_eq_ok_iff.2 fun m hm => checkMatch_matchesOf hl h hm
  change (do
      l.checkMissing (l.matchesOf ws)
      List.forM (l.matchesOf ws) l.checkMatch
      pure (l.matchesOf ws) : Except UsageError Matches) = _
  rw [hmissing, hchecks]
  rfl

end Level

end TokenEscrow

/-!
# Running what may fail

Sessions and requests to a node are both computations over a state that may stop
with an error. These are the rules for running one from a given state: a part
that succeeds hands its result and its state on, and a part that fails ends the
whole, unless its error is caught.

Checks have no state, so all that is to be said of them is when they succeed.
-/

namespace TokenEscrow.Fallible

variable {σ ε α β : Type} {m : ExceptT ε (StateM σ) α} {s s' : σ} {a : α} {e : ε}

/-- The state is at hand. -/
theorem run_get (s : σ) : (get : ExceptT ε (StateM σ) σ).run.run s = (.ok s, s) := rfl

/-- What succeeds is there for what follows. -/
theorem run_bind_ok {f : α → ExceptT ε (StateM σ) β} (h : m.run.run s = (.ok a, s')) :
    (m >>= f).run.run s = (f a).run.run s' := by
  change (m.run.run s >>= fun p => ExceptT.bindCont f p.1 p.2 : Id _) = _
  rw [h]
  rfl

/-- A failure skips what follows. -/
theorem run_bind_error {f : α → ExceptT ε (StateM σ) β} (h : m.run.run s = (.error e, s')) :
    (m >>= f).run.run s = (.error e, s') := by
  change (m.run.run s >>= fun p => ExceptT.bindCont f p.1 p.2 : Id _) = _
  rw [h]
  rfl

/-- Running what catches errors, with the two ways in which it goes on. -/
theorem run_tryCatch (m : ExceptT ε (StateM σ) α) (f : ε → ExceptT ε (StateM σ) α) (s : σ) :
    (tryCatch m f).run.run s =
      match m.run.run s with
      | (.ok a, s') => (.ok a, s')
      | (.error e, s') => (f e).run.run s' := by
  change (m.run.run s >>= fun p => StateT.run (match p.1 with
    | .ok a => pure (.ok a)
    | .error e => (f e).run) p.2 : Id _) = _
  rcases m.run.run s with ⟨e | a, s'⟩ <;> rfl

/-! ## Without a state -/

/-- What succeeds has succeeded in every part. -/
theorem bind_eq_ok_iff {x : Except ε α} {f : α → Except ε β} {b : β} :
    x >>= f = .ok b ↔ ∃ a, x = .ok a ∧ f a = .ok b := by
  rcases x with e | a
  · exact iff_of_false nofun nofun
  · refine ⟨fun h => ⟨a, rfl, h⟩, ?_⟩
    rintro ⟨a', ⟨⟩, h⟩
    exact h

/-- A list of checks succeeds when each of them does. -/
theorem forM_eq_ok_iff {check : α → Except ε Unit} {items : List α} :
    items.forM check = .ok () ↔ ∀ item ∈ items, check item = .ok () := by
  induction items with
  | nil => exact iff_of_true rfl nofun
  | cons item items ih =>
    simp only [List.forM_eq_forM, List.forM_cons, bind_eq_ok_iff, List.forall_mem_cons] at ih ⊢
    exact ⟨fun ⟨_, hitem, h⟩ => ⟨hitem, ih.1 h⟩, fun ⟨hitem, h⟩ => ⟨_, hitem, ih.2 h⟩⟩

end TokenEscrow.Fallible

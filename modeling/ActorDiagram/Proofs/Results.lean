import Mathlib
import ActorDiagram.Error

/-!
# Results of runs

How a run that succeeds splits into its steps, and when two runs agree: both succeed with related
results, or both fail for the same cause. Where a failure points at is left out of the comparison.
-/

namespace ActorDiagram

theorem bind_eq_ok_iff {ε α β : Type} {x : Except ε α} {f : α → Except ε β} {b : β} :
    (x >>= f) = .ok b ↔ ∃ a, x = .ok a ∧ f a = .ok b := by
  cases x with
  | error e => simp [Bind.bind, Except.bind]
  | ok a => simp [Bind.bind, Except.bind]

theorem bind_eq_error_iff {ε α β : Type} {x : Except ε α} {f : α → Except ε β} {e : ε} :
    (x >>= f) = .error e ↔ x = .error e ∨ ∃ a, x = .ok a ∧ f a = .error e := by
  cases x with
  | error e' => simp [Bind.bind, Except.bind]
  | ok a => simp [Bind.bind, Except.bind]

theorem map_eq_ok_iff {ε α β : Type} {x : Except ε α} {f : α → β} {b : β} :
    x.map f = .ok b ↔ ∃ a, x = .ok a ∧ f a = b := by
  cases x with
  | error e => simp [Except.map]
  | ok a => simp [Except.map]

theorem map_eq_error_iff {ε α β : Type} {x : Except ε α} {f : α → β} {e : ε} :
    x.map f = .error e ↔ x = .error e := by
  cases x <;> simp [Except.map]

/-- A list is run through item by item. -/
theorem forall₂_of_mapM_eq_ok {α β : Type} {f : α → Except Error β} {l : List α} {r : List β}
    (h : l.mapM f = .ok r) : List.Forall₂ (fun a b => f a = .ok b) l r := by
  induction l generalizing r with
  | nil =>
    simp only [List.mapM_nil, pure, Except.pure, Except.ok.injEq] at h
    subst r
    exact .nil
  | cons a l ih =>
    rw [List.mapM_cons, bind_eq_ok_iff] at h
    obtain ⟨b, hb, h⟩ := h
    rw [bind_eq_ok_iff] at h
    obtain ⟨bs, hbs, h⟩ := h
    cases h
    exact .cons hb (ih hbs)

lemma exists_mapM_eq_ok {α β : Type} {f : α → Except Error β} {l : List α}
    (h : ∀ a ∈ l, ∃ b, f a = .ok b) : ∃ bs, l.mapM f = .ok bs := by
  induction l with
  | nil => exact ⟨[], rfl⟩
  | cons a l ih =>
    obtain ⟨b, hb⟩ := h a List.mem_cons_self
    obtain ⟨bs, hbs⟩ := ih fun a' ha' => h a' (List.mem_cons_of_mem _ ha')
    refine ⟨b :: bs, ?_⟩
    rw [List.mapM_cons, hb, hbs]
    rfl

/-- A run through a list fails as one of the items does. -/
lemma exists_mem_of_mapM_eq_error {α β : Type} {f : α → Except Error β} {l : List α} {e : Error}
    (h : l.mapM f = .error e) : ∃ a ∈ l, f a = .error e := by
  induction l with
  | nil => simp [List.mapM_nil, pure, Except.pure] at h
  | cons a l ih =>
    rw [List.mapM_cons, bind_eq_error_iff] at h
    rcases h with h | ⟨b, -, h⟩
    · exact ⟨a, List.mem_cons_self, h⟩
    · rw [bind_eq_error_iff] at h
      obtain ⟨a', ha', h⟩ := ih (h.resolve_right (by simp [pure, Except.pure]))
      exact ⟨a', List.mem_cons_of_mem _ ha', h⟩

lemma exists_of_mem_left {α β : Type} {r : α → β → Prop} {l : List α} {l' : List β}
    (h : List.Forall₂ r l l') {a : α} (ha : a ∈ l) : ∃ b ∈ l', r a b := by
  induction h with
  | nil => simp at ha
  | cons hab _ ih =>
    rcases List.mem_cons.mp ha with rfl | ha
    · exact ⟨_, List.mem_cons_self, hab⟩
    · obtain ⟨b, hb, hr⟩ := ih ha
      exact ⟨b, List.mem_cons_of_mem _ hb, hr⟩

/-- A run through the numbers below a bound stops at the first one that fails. -/
theorem mapM_range_eq_error_iff {β : Type} {f : Nat → Except Error β} {n : Nat} {e : Error} :
    (List.range n).mapM f = .error e ↔ ∃ i < n, f i = .error e ∧ ∀ j < i, ∃ b, f j = .ok b := by
  induction n with
  | zero => simp [List.mapM_nil, pure, Except.pure]
  | succ n ih =>
    have hlast : ∀ bs, ([n].mapM f >>= fun b => pure (bs ++ b)) = .error e ↔ f n = .error e := by
      intro bs
      cases hn : f n <;> simp [List.mapM_cons, hn, Bind.bind, Except.bind, pure, Except.pure]
    rw [List.range_succ, List.mapM_append, bind_eq_error_iff, ih]
    simp only [hlast]
    constructor
    · rintro (⟨i, hi, hfails, hbefore⟩ | ⟨bs, hbs, hfails⟩)
      · exact ⟨i, by omega, hfails, hbefore⟩
      · refine ⟨n, by omega, hfails, fun j hj => ?_⟩
        obtain ⟨b, -, hb⟩ := exists_of_mem_left (forall₂_of_mapM_eq_ok hbs) (List.mem_range.mpr hj)
        exact ⟨b, hb⟩
    · rintro ⟨i, hi, hfails, hbefore⟩
      rcases Nat.lt_succ_iff_lt_or_eq.mp hi with hlt | rfl
      · exact .inl ⟨i, hlt, hfails, hbefore⟩
      · obtain ⟨bs, hbs⟩ := exists_mapM_eq_ok (f := f) (l := List.range i)
          fun j hj => hbefore j (List.mem_range.mp hj)
        exact .inr ⟨bs, hbs, hfails⟩

end ActorDiagram

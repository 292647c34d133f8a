import Mathlib
import ActorDiagram.Error

/-!
# Turns of a loop

A turn of a loop ends it with a result, or leaves a state to go on from. Where each turn moves on in a
bounded range there are only so many turns, and what they come to is settled.
-/

namespace ActorDiagram

variable {σ α : Type} {inside : σ → Prop} {n : Nat} {index : σ → Nat}
  {turn : σ → Except Error (α ⊕ σ)}

/-- A loop that ends: from the states inside, each turn moves to a later index up to `n`, and `run` gives
what the turns come to. -/
structure Ends (inside : σ → Prop) (n : Nat) (index : σ → Nat) (turn : σ → Except Error (α ⊕ σ))
    (run : σ → Except Error α) : Prop where
  advances : ∀ x y, inside x → turn x = .ok (.inr y) → inside y ∧ index x < index y ∧ index y ≤ n
  runs : ∀ x, inside x → run x = turn x >>= Sum.elim .ok run

/-- Two runs of a loop give one result where they do after the turn. -/
lemma bind_turn_congr {x : σ} {run run' : σ → Except Error α}
    (h : ∀ y, turn x = .ok (.inr y) → run y = run' y) :
    turn x >>= Sum.elim .ok run = turn x >>= Sum.elim .ok run' := by
  cases hturn : turn x with
  | error e => rfl
  | ok next =>
    cases next with
    | inl a => rfl
    | inr y => exact h y hturn

/-- The turns of a loop that ends come to one thing only. -/
theorem Ends.unique {run run' : σ → Except Error α} (h : Ends inside n index turn run)
    (h' : Ends inside n index turn run') {x : σ} (hx : inside x) : run x = run' x := by
  induction hm : n - index x using Nat.strong_induction_on generalizing x with
  | _ m ih =>
    rw [h.runs x hx, h'.runs x hx]
    apply bind_turn_congr
    intro y hy
    obtain ⟨hinside, hlt, hle⟩ := h.advances x y hx hy
    exact ih (n - index y) (by omega) hinside rfl

/-- A loop with fuel ends by its turns, where no fuel is asked for at the end of the range. -/
theorem Ends.of_fuel (runFrom : Nat → σ → Except Error α)
    (hturn : ∀ x y, inside x → turn x = .ok (.inr y) → inside y ∧ index x < index y ∧ index y ≤ n)
    (hsucc : ∀ fuel x, runFrom (fuel + 1) x = turn x >>= Sum.elim .ok (runFrom fuel))
    (hlast : ∀ fuel x, inside x → n ≤ index x → runFrom 0 x = runFrom fuel x) :
    Ends inside n index turn (runFrom n) := by
  have hfuel : ∀ fuel fuel' x, inside x → n ≤ index x + fuel → n ≤ index x + fuel' →
      runFrom fuel x = runFrom fuel' x := by
    intro fuel
    induction fuel with
    | zero => exact fun fuel' x hx hle _ => hlast fuel' x hx hle
    | succ fuel ih =>
      intro fuel' x hx hle hle'
      cases fuel' with
      | zero => exact (hlast (fuel + 1) x hx hle').symm
      | succ fuel' =>
        rw [hsucc, hsucc]
        apply bind_turn_congr
        intro y hy
        obtain ⟨hinside, hlt, -⟩ := hturn x y hx hy
        exact ih fuel' y hinside (by omega) (by omega)
  refine ⟨hturn, fun x hx => ?_⟩
  rw [hfuel n (n + 1) x hx (by omega) (by omega), hsucc]

end ActorDiagram

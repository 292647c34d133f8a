import Mathlib
import ActorDiagram.Source.Token

/-!
# Places in a text

The place of a character is told by the text before it. A character that comes later lies further on, by
offset and by line and column alike.
-/

namespace ActorDiagram.Position

/-- Place of the character behind a text: the text's length, one more line than it has line breaks, and
one more column than it has characters after the last of them. -/
def behind (text : List Char) : Position :=
  ⟨text.length, text.count '\n' + 1, (text.reverse.takeWhile (· != '\n')).length + 1⟩

lemma behind_concat (text : List Char) (c : Char) :
    behind (text ++ [c]) = (behind text).next c := by
  unfold behind next
  by_cases hc : c = '\n'
  · simp [hc]
  · simp [hc]

lemma behind_append (text cs : List Char) : behind (text ++ cs) = (behind text).after cs := by
  induction cs using List.reverseRecOn with
  | nil => rw [List.append_nil, after_nil]
  | append_singleton cs c ih =>
    rw [← List.append_assoc, behind_concat, ih, after_append]
    rfl

/-- `p` comes before `q`: by its offset, and by its line, or by its column on the same line. -/
def Before (p q : Position) : Prop :=
  p.offset < q.offset ∧ (p.line < q.line ∨ p.line = q.line ∧ p.column < q.column)

lemma Before.trans {p q r : Position} (h : p.Before q) (h' : q.Before r) : p.Before r := by
  unfold Before at *
  omega

lemma before_next (p : Position) (c : Char) : p.Before (p.next c) := by
  unfold next Before
  split_ifs
  · exact ⟨Nat.lt_succ_self _, .inl (Nat.lt_succ_self _)⟩
  · exact ⟨Nat.lt_succ_self _, .inr ⟨rfl, Nat.lt_succ_self _⟩⟩

lemma behind_before (text : List Char) {cs : List Char} (h : cs ≠ []) :
    (behind text).Before (behind (text ++ cs)) := by
  induction cs using List.reverseRecOn with
  | nil => exact absurd rfl h
  | append_singleton cs c ih =>
    rw [← List.append_assoc, behind_concat]
    by_cases hcs : cs = []
    · rw [hcs, List.append_nil]
      exact before_next _ c
    · exact (ih hcs).trans (before_next _ c)

end ActorDiagram.Position

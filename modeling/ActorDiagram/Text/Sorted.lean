/-!
Sorting by a text, in the order of code points.
-/

namespace ActorDiagram.Text

/-- Puts an item in front of the first one whose key is not below its own. -/
def insertByKey {α : Type} (key : α → String) (a : α) : List α → List α
  | [] => [a]
  | b :: bs => if key b < key a then b :: insertByKey key a bs else a :: b :: bs

/-- Items in the order of their keys; items of one key keep their order. -/
def sortByKey {α : Type} (key : α → String) (items : List α) : List α :=
  items.foldr (insertByKey key) []

def sorted (texts : List String) : List String := sortByKey id texts

end ActorDiagram.Text

import BlockSketch.Text.Basic

/-!
# BlockSketch.Text.Order

Sorting by a text.  Texts are in order of their code points, and what has equal
texts keeps its order.
-/

namespace BlockSketch.Text

/-- A list in order of a text of its items, equal ones keeping their order. -/
def sortOn {α : Type} (key : α → Text) (xs : List α) : List α :=
  xs.mergeSort fun a b => !(key b).codes.lex (key a).codes Nat.blt

theorem sortOn_perm {α : Type} (key : α → Text) (xs : List α) : (sortOn key xs).Perm xs :=
  List.mergeSort_perm xs _

end BlockSketch.Text

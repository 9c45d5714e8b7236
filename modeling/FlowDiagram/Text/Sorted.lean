/-! # Order by name

Items that have a name, ordered by the code points of their names.  Items of one name keep their
order.
-/

namespace FlowDiagram.Text

def sortedBy {α : Type} (name : α → String) (items : List α) : List α :=
  items.mergeSort fun a b => !decide (name b < name a)

def sorted (names : List String) : List String := sortedBy id names

end FlowDiagram.Text

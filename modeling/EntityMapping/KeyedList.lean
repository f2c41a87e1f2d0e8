/-
Module: EntityMapping.KeyedList
Purpose: Lists that are sets of keys in the order of insertion: the first element of a key stays,
  and a later one is turned away.
Main exports: appendIfNew
-/

namespace EntityMapping

/-- Appends `item` unless some element has its key. The flag tells whether it was appended. -/
def appendIfNew {α κ : Type} [BEq κ] (key : α → κ) (items : List α) (item : α) :
    List α × Bool :=
  if items.any fun existing => key existing == key item then (items, false)
  else (items ++ [item], true)

end EntityMapping

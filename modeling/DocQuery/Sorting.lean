/-! A stable sort that is defined for every relation, orders or not. -/
namespace DocQuery

/-- Sorts both halves and merges them. Of two items that come first in their halves, the one on the
left is taken unless the other one has to come before it. -/
def mergeHalves (before : α → α → Bool) (items : List α) : List α :=
  if h : items.length ≤ 1 then items
  else
    List.merge (mergeHalves before (items.take (items.length / 2)))
      (mergeHalves before (items.drop (items.length / 2))) fun x y => !before y x
termination_by items.length
decreasing_by all_goals simp only [List.length_take, List.length_drop]; omega

end DocQuery

import DocQuery.Proofs.Machine.Evaluate
import DocQuery.Regex.Library

/-! Items of arrays by their index. An index counts from the front or, if it is negative, from the end, so that
reversing an array turns one way of counting into the other. In arrays that are joined, counting goes on from one to
the next. -/
namespace DocQuery
namespace CollectionFunction

section Positions

variable {items : List Value} {index : Int}

theorem itemAt?_of_nonneg (h : 0 ≤ index) : itemAt? items index = items[index.toNat]? := by
  rw [itemAt?, if_neg (Int.not_lt.mpr h), if_pos h]

theorem itemAt?_of_neg (h : index < 0) :
    itemAt? items index = if 0 ≤ items.length + index then items[(items.length + index).toNat]? else none := by
  rw [itemAt?, if_pos h]

/-- There is an item where the index is within the length, on either side. -/
theorem itemAt?_eq (items : List Value) (index : Int) :
    itemAt? items index =
      if -items.length ≤ index ∧ index < items.length then
        items[(if index < 0 then items.length + index else index).toNat]?
      else none := by
  by_cases negative : index < 0
  · rw [itemAt?_of_neg negative, if_pos negative]
    split <;> split <;> first | rfl | omega
  · rw [itemAt?_of_nonneg (Int.not_lt.mp negative), if_neg negative]
    split
    next => rfl
    next outside => exact List.getElem?_eq_none (by omega)

/-- Counted from the other end, an index is less than zero by as much as it was more, and by one. -/
theorem itemAt?_reverse (items : List Value) (index : Int) :
    itemAt? items.reverse index = itemAt? items (-1 - index) := by
  have from_front (items : List Value) {index : Int} (h : 0 ≤ index) :
      itemAt? items.reverse index = itemAt? items (-1 - index) := by
    rw [itemAt?_of_nonneg h, itemAt?_of_neg (by omega)]
    by_cases inside : index.toNat < items.length
    · rw [List.getElem?_reverse inside, if_pos (by omega)]
      congr 1
      omega
    · rw [List.getElem?_eq_none (by simpa using inside), if_neg (by omega)]
  by_cases negative : index < 0
  · have mirrored : 0 ≤ -1 - index := by omega
    have back := from_front items.reverse mirrored
    rw [List.reverse_reverse] at back
    rw [back]
    congr 1
    omega
  · exact from_front items (Int.not_lt.mp negative)

/-- The item that is reached by walking through lists in order: a list that ends before the place is passed. -/
def walk : List (List α) → Nat → Option α
  | [], _ => none
  | items :: rest, n => if n < items.length then items[n]? else walk rest (n - items.length)

theorem getElem?_flatten (lists : List (List α)) (n : Nat) : lists.flatten[n]? = walk lists n := by
  induction lists generalizing n with
  | nil => rfl
  | cons items rest ih => rw [List.flatten_cons, List.getElem?_append, ih, walk]

end Positions

section Calls

variable {rules : RegexRules} {row : Row} {array index : Expr} {items : List Value} {i : Int64}

def itemCall (array index : Expr) : Expr := .call (.collection .arrayGet) [array, index]

/-- The outcome of looking for an item. -/
def itemOutcome (item : Option Value) : Outcome := item.elim (.error (.outOfRange (.collection .arrayGet))) .value

theorem evaluates_item (ha : evaluate rules row array = .value (.array items))
    (hi : evaluate rules row index = .value (.integer i)) :
    Machine.Evaluates rules row (itemCall array index) (itemOutcome (itemAt? items i.toInt)) := by
  have applied : (Builtin.collection .arrayGet).apply rules [.value (.array items), .value (.integer i)] =
      .ofExcept (getItem (.collection .arrayGet) (.value (.array items)) (.value (.integer i))) := rfl
  have read : getItem (.collection .arrayGet) (.value (.array items)) (.value (.integer i)) =
      (itemAt? items i.toInt).elim (.error (.outOfRange (.collection .arrayGet))) .ok := by
    have array : (Outcome.value (.array items)).array (.collection .arrayGet) = .ok items := rfl
    have index : (Outcome.value (.integer i)).integer (.collection .arrayGet) = .ok i := rfl
    rw [getItem, array, index]
    simp only [bind, Except.bind]
    cases itemAt? items i.toInt <;> rfl
  refine (Machine.evaluates_iff rules row).mpr ?_
  rw [itemCall, evaluate_application rfl, List.map_cons, List.map_cons, List.map_nil, ha, hi, applied, read]
  cases itemAt? items i.toInt <;> rfl

theorem evaluate_reverse (ha : evaluate rules row array = .value (.array items)) :
    evaluate rules row (.call (.collection .arrayReverse) [array]) = .value (.array items.reverse) := by
  rw [evaluate_application rfl, List.map_cons, List.map_nil, ha]
  rfl

theorem join_arrays (f : Builtin) (lists : List (List Value)) :
    join f (lists.map fun items => .value (.array items)) = .ok lists.flatten := by
  induction lists with
  | nil => rfl
  | cons items rest ih =>
    rw [List.map_cons, join, ih]
    rfl

theorem evaluate_arrayConcat {arrays : List Expr} {lists : List (List Value)} (nonempty : lists ≠ [])
    (ha : arrays.map (evaluate rules row) = lists.map fun items => .value (.array items)) :
    evaluate rules row (.call (.collection .arrayConcat) arrays) = .value (.array lists.flatten) := by
  have admitted : (Builtin.collection .arrayConcat).arity.admits lists.length = true :=
    decide_eq_true (List.length_pos_iff.mpr nonempty)
  have applied (args : List Outcome) : (Builtin.collection .arrayConcat).run rules args =
      .ofExcept ((join (.collection .arrayConcat) args).map .array) := rfl
  rw [evaluate_application rfl, ha, Builtin.apply, List.length_map, if_pos admitted, applied, join_arrays]
  rfl

/-- An index leads to the item at its place, or from the end, and out of range beyond either end. Reversed arrays are
counted from their other end, and joined arrays one after another. -/
theorem items_by_index (rules : RegexRules) (row : Row) (ha : evaluate rules row array = .value (.array items)) :
    let reads (e : Expr) (i : Int64) := evaluate rules row e = .value (.integer i)
    let yields := Machine.Evaluates rules row
    (∀ index i, reads index i →
        let within := -items.length ≤ i.toInt ∧ i.toInt < items.length
        let place : Int := if i.toInt < 0 then items.length + i.toInt else i.toInt
        (within → ∃ v, items[place.toNat]? = some v ∧ yields (itemCall array index) (.value v)) ∧
          (¬ within → yields (itemCall array index) (.error (.outOfRange (.collection .arrayGet))))) ∧
      (∀ index mirrored i j, reads index i → reads mirrored j → j.toInt = -1 - i.toInt →
        ∃ o, yields (itemCall (.call (.collection .arrayReverse) [array]) index) o ∧
          yields (itemCall array mirrored) o) ∧
      ∀ arrays lists index i, arrays.map (evaluate rules row) = lists.map (fun items => .value (.array items)) →
        lists ≠ [] → reads index i → 0 ≤ i.toInt →
        yields (itemCall (.call (.collection .arrayConcat) arrays) index) (itemOutcome (walk lists i.toInt.toNat)) := by
  intro reads yields
  refine ⟨fun index i hi => ⟨fun within => ?_, fun outside => ?_⟩, fun index mirrored i j hi hj mirror => ?_,
    fun arrays lists index i joined nonempty hi front => ?_⟩
  · have found := evaluates_item ha hi
    rw [itemAt?_eq, if_pos within] at found
    generalize place : (if i.toInt < 0 then (items.length : Int) + i.toInt else i.toInt) = p at found ⊢
    have inside : p.toNat < items.length := by
      rw [← place]
      split <;> omega
    rw [List.getElem?_eq_getElem inside] at found ⊢
    exact ⟨_, rfl, found⟩
  · have found := evaluates_item ha hi
    rwa [itemAt?_eq, if_neg outside] at found
  · refine ⟨_, evaluates_item (evaluate_reverse ha) hi, ?_⟩
    rw [itemAt?_reverse, ← mirror]
    exact evaluates_item ha hj
  · have found := evaluates_item (evaluate_arrayConcat nonempty joined) hi
    rwa [itemAt?_of_nonneg front, getElem?_flatten] at found

/-- Three items from either end, one place beyond them, and as far beyond as indices go; then an item behind an empty
array. -/
theorem items_by_index_at_ends :
    let row : Row := .ofFields [("a", .array [.boolean true, .null, .integer 7])]
    let array : Expr := .field ⟨["a"]⟩
    let reversed : Expr := .call (.collection .arrayReverse) [array]
    let int (i : Int64) : Expr := .constant (.integer i)
    let yields := Machine.Evaluates 0 row
    let outOfRange : Outcome := .error (.outOfRange (.collection .arrayGet))
    evaluate 0 row array = .value (.array [.boolean true, .null, .integer 7]) ∧
      yields (itemCall array (int (-1))) (.value (.integer 7)) ∧ yields (itemCall array (int (-4))) outOfRange ∧
      (∃ o, yields (itemCall reversed (int Int64.minValue)) o ∧ yields (itemCall array (int Int64.maxValue)) o) ∧
      yields (itemCall (.call (.collection .arrayConcat) [array, .list [], .list [int 8]]) (int 3))
        (.value (.integer 8)) := by
  intro row array reversed int yields outOfRange
  have ha : evaluate 0 row array = .value (.array [.boolean true, .null, .integer 7]) := rfl
  obtain ⟨items, mirrored, joined⟩ := items_by_index 0 row ha
  obtain ⟨v, last, found⟩ := (items (int (-1)) _ rfl).1 (by decide)
  obtain rfl : Value.integer 7 = v := Option.some.inj last
  exact ⟨ha, found, (items (int (-4)) _ rfl).2 (by decide), mirrored (int Int64.minValue) _ _ _ rfl rfl rfl,
    joined [array, .list [], .list [int 8]] [_, [], [.integer 8]] (int 3) 3 rfl (by simp) rfl (by decide)⟩

end Calls
end CollectionFunction
end DocQuery

import DocQuery.Json.Reader
import DocQuery.Value.Basic

/-! JSON as values: entries sorted by key, the last of equal keys kept. -/
namespace DocQuery

/-- Whole numbers in range are integers, all other numbers doubles. -/
def JsonNumber.toValue? (n : JsonNumber) : Option Value :=
  match n.toInt? with
  | some i =>
    if -0x8000000000000000 ≤ i ∧ i < 0x8000000000000000 then some (.integer (Int64.ofInt i))
    else n.toDouble?.map .double
  | none => n.toDouble?.map .double

mutual

/-- None where a number is too large for a double or a text is not well formed. -/
def Json.toValue? : Json → Option Value
  | .null => some .null
  | .boolean b => some (.boolean b)
  | .number n => n.toValue?
  | .string s => s.map .string
  | .array items => (itemsToValues? items).map .array
  | .object members =>
    (membersToEntries? members).map fun entries =>
      .map (Entries.sortByKey (Entries.ofPairs entries))

def itemsToValues? : List Json → Option (List Value)
  | [] => some []
  | item :: items => do return (← item.toValue?) :: (← itemsToValues? items)

def membersToEntries? : List (JsonText × Json) → Option Fields
  | [] => some []
  | (key, value) :: members => do
    return (← key, ← value.toValue?) :: (← membersToEntries? members)

end

/-- Arrays and objects nested deeper than this are refused. -/
def maximalDepth : Nat := 127

def Value.parseJson? (text : String) : Option Value := do
  let json ← Json.parse? text
  if json.depth ≤ maximalDepth then json.toValue? else none

end DocQuery

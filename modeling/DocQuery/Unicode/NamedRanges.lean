import DocQuery.Unicode.CodeRanges

/-! Sets of characters with the names under which they are looked up. -/
namespace DocQuery.Unicode

structure NamedRanges where
  names : List String
  lines : List String

def NamedRanges.find? (table : List NamedRanges) (name : String) : Option CodeRanges :=
  (table.find? fun entry => entry.names.contains name).map fun entry => .ofLines entry.lines

end DocQuery.Unicode

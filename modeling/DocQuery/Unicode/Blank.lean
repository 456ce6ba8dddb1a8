import DocQuery.Unicode.CodeRanges

/-! The characters with the property White_Space. -/
namespace DocQuery.Unicode

def whiteSpace : CodeRanges := .ofLines
  ["9-D 20 85 A0 1680 2000-200A 2028-2029 202F 205F 3000"]

def isBlank (c : Char) : Bool := whiteSpace.contains c

/-- Removes the blanks at both ends. -/
def trimBlanks (s : String) : String :=
  let front := s.toList.dropWhile isBlank
  String.ofList (front.reverse.dropWhile isBlank).reverse

end DocQuery.Unicode

/-! Cutting a text at every occurrence of a separator. -/
namespace DocQuery

/-- Puts a character in front of the first piece. -/
def extendFirst (c : Char) : List (List Char) → List (List Char)
  | [] => [[c]]
  | piece :: pieces => (c :: piece) :: pieces

/-- The pieces between separators, empty ones included; there is always one more than separators. -/
def splitAt (separator : Char) : List Char → List (List Char)
  | [] => [[]]
  | c :: cs =>
    if c = separator then [] :: splitAt separator cs else extendFirst c (splitAt separator cs)

end DocQuery

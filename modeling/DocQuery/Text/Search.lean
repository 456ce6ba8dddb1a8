/-! Finding and replacing texts within texts. -/
namespace DocQuery

def containsText (needle : List Char) : List Char → Bool
  | [] => needle.isEmpty
  | c :: cs => needle.isPrefixOf (c :: cs) || containsText needle cs

/-- Replaces occurrences from the left, up to a number of times where one is given. The first
argument counts the characters that a replaced occurrence still covers. -/
def replaceFrom (needle replacement : List Char) : Nat → Option Nat → List Char → List Char
  | _, _, [] => []
  | covered + 1, times, _ :: cs => replaceFrom needle replacement covered times cs
  | 0, times, c :: cs =>
    if times ≠ some 0 ∧ needle.isPrefixOf (c :: cs) then
      replacement ++ replaceFrom needle replacement (needle.length - 1) (times.map (· - 1)) cs
    else c :: replaceFrom needle replacement 0 times cs

/-- An empty needle is never found. -/
def replaceText (needle replacement : List Char) (times : Option Nat) (cs : List Char) :
    List Char :=
  if needle.isEmpty then cs else replaceFrom needle replacement 0 times cs

end DocQuery

import DocQuery.Unicode.Age
import DocQuery.Unicode.Category
import DocQuery.Unicode.GraphemeBreak
import DocQuery.Unicode.Property
import DocQuery.Unicode.ScriptExtension
import DocQuery.Unicode.SentenceBreak
import DocQuery.Unicode.WordBreak

/-! Finding a set of characters by the name of a property, or of a property and its value. Names are
compared without case, separators and the word `is` in front. -/
namespace DocQuery.Unicode

/-- Either listed ranges, or the union or the complement of such. -/
inductive NamedSet where
  | ranges (ranges : CodeRanges)
  | unionOf (sets : List CodeRanges)
  | complementOf (ranges : CodeRanges)

def isSeparator (c : Char) : Bool := c = ' ' || c = '_' || c = '-'

/-- The lone letter `c` keeps its front, because `isc` names no category. -/
def looseName (name : String) : String :=
  let (hasFront, cs) :=
    match name.toList with
    | a :: b :: rest =>
      if (a = 'i' ∨ a = 'I') ∧ (b = 's' ∨ b = 'S') then (true, rest) else (false, a :: b :: rest)
    | cs => (false, cs)
  let kept := (cs.filter fun c => !isSeparator c && c.toNat < 128).map Char.toLower
  if hasFront ∧ kept = ['c'] then "isc" else String.ofList kept

/-- The groups of categories, each with its names and its members. -/
def categoryGroups : List (List String × List String) := [
  (["lc", "casedletter"], ["lu", "ll", "lt"]),
  (["l", "letter"], ["lu", "ll", "lt", "lm", "lo"]),
  (["m", "mark", "combiningmark"], ["mn", "mc", "me"]),
  (["n", "number"], ["nd", "nl", "no"]),
  (["p", "punctuation", "punct"], ["pc", "pd", "ps", "pe", "pi", "pf", "po"]),
  (["s", "symbol"], ["sm", "sc", "sk", "so"]),
  (["z", "separator"], ["zs", "zl", "zp"]),
  (["c", "other"], ["cc", "cf", "co", "cn"])]

def category? (name : String) : Option NamedSet :=
  if name = "any" then some (.ranges ⟨[(0, 0x10FFFF)]⟩)
  else if name = "ascii" then some (.ranges ⟨[(0, 0x7F)]⟩)
  else if name = "assigned" then (NamedRanges.find? categories "cn").map .complementOf
  else
    match NamedRanges.find? categories name with
    | some ranges => some (.ranges ranges)
    | none =>
      (categoryGroups.find? fun group => group.1.contains name).map fun group =>
        .unionOf (group.2.filterMap (NamedRanges.find? categories))

def script? (name : String) : Option NamedSet := (NamedRanges.find? scripts name).map .ranges

def scriptExtension? (name : String) : Option NamedSet :=
  ((NamedRanges.find? extendedScripts name).or (NamedRanges.find? scripts name)).map .ranges

/-- The characters of a version and of all before it. -/
def age? (version : String) : Option NamedSet :=
  let older := ages.takeWhile fun entry => !entry.names.contains version
  (ages.drop older.length).head?.map fun newest =>
    .unionOf ((older ++ [newest]).map fun entry => .ofLines entry.lines)

/-- A property, a category or a script, in this order. Three short names are those of categories
although properties have them too. -/
def byName? (name : String) : Option NamedSet :=
  let name := looseName name
  let property :=
    if ["cf", "sc", "lc"].contains name then none else NamedRanges.find? properties name
  match property with
  | some ranges => some (.ranges ranges)
  | none => (category? name).or (script? name)

def byValue? (property value : String) : Option NamedSet :=
  let property := looseName property
  let value := looseName value
  if ["gc", "generalcategory"].contains property then category? value
  else if ["sc", "script"].contains property then script? value
  else if ["scx", "scriptextensions"].contains property then scriptExtension? value
  else if property = "age" then age? value
  else if ["gcb", "graphemeclusterbreak"].contains property then
    (NamedRanges.find? graphemeBreaks value).map .ranges
  else if ["wb", "wordbreak"].contains property then
    (NamedRanges.find? wordBreaks value).map .ranges
  else if ["sb", "sentencebreak"].contains property then
    (NamedRanges.find? sentenceBreaks value).map .ranges
  else none

end DocQuery.Unicode

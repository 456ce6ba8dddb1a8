/-! Why an expression is refused. -/
namespace DocQuery.Regex

inductive Fault where
  | unclosedGroup
  | unopenedGroup
  | missingOperand
  | badRepetition
  | badEscape
  | backReference
  | lookAround
  | badFlags
  | badGroupName
  | duplicateGroupName (name : String)
  | unclosedClass
  | badClass
  | unknownProperty (name : String)
  | unicodeDisabled
  | nestedTooDeep
  deriving DecidableEq

def Fault.message : Fault → String
  | unclosedGroup => "unclosed group"
  | unopenedGroup => "unopened group"
  | missingOperand => "repetition operator without an operand"
  | badRepetition => "malformed repetition count"
  | badEscape => "unrecognized escape sequence"
  | backReference => "back-references are not supported"
  | lookAround => "look-around is not supported"
  | badFlags => "malformed flags"
  | badGroupName => "malformed group name"
  | duplicateGroupName name => "duplicate group name " ++ name
  | unclosedClass => "unclosed character class"
  | badClass => "malformed character class"
  | unknownProperty name => "unknown property " ++ name
  | unicodeDisabled => "not possible without Unicode support"
  | nestedTooDeep => "nested too deep"

end DocQuery.Regex

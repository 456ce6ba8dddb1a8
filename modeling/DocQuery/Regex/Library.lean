import DocQuery.Regex.Matcher
import DocQuery.Regex.Reader
import DocQuery.Regex.Rules
import DocQuery.Regex.Weight

/-! A library of regular expressions with the documented characters of expressions and their matches. The size of an
expression is an estimate, and the reasons are short texts of its own. -/
namespace DocQuery

namespace Regex

/-- The characters that mean something in an expression, in or out of classes. -/
def isMeta (c : Char) : Bool := "\\.+*?()|[]\x7b\x7d^$#&-~".toList.contains c

def escape (text : List Char) : List Char := text.flatMap fun c => if isMeta c then ['\\', c] else [c]

def build (limit : Nat) (source : List Char) : Except RegexRefusal CompiledRegex :=
  match parse source with
  | .error fault => .error (.malformed fault.message)
  | .ok a =>
    if a.fits limit then .ok ⟨a.matchesIn⟩
    else .error (.tooLarge ("Compiled regex exceeds size limit of " ++ toString limit ++ " bytes."))

def rules : RegexLibrary := fun limit => ⟨build limit, escape⟩

end Regex

/-! Where no other library is given, a limit stands for the rules of this one. -/

instance : Coe Nat RegexRules := ⟨Regex.rules⟩

instance (limit : Nat) : OfNat RegexRules limit := ⟨Regex.rules limit⟩

end DocQuery

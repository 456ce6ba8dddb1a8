import DocQuery.Unicode.Printable

/-! Quoted texts: what cannot be shown, or would end the text, is escaped. -/
namespace DocQuery.Quoted

def isPlain (c : Char) : Bool :=
  if c.toNat < 127 then 32 ≤ c.toNat else Unicode.isPrintable c

/-- A code point in hexadecimal digits between braces. -/
def codeEscape (c : Char) : List Char :=
  ['\\', 'u', '\x7b'] ++ Nat.toDigits 16 c.toNat ++ ['\x7d']

def escape (c : Char) : List Char :=
  match c with
  | '\x00' => ['\\', '0']
  | '\t' => ['\\', 't']
  | '\r' => ['\\', 'r']
  | '\n' => ['\\', 'n']
  | '\\' => ['\\', '\\']
  | '"' => ['\\', '"']
  | c => if isPlain c then [c] else codeEscape c

def encode (s : String) : String :=
  String.ofList ('"' :: s.toList.flatMap escape ++ ['"'])

end DocQuery.Quoted

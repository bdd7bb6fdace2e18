import RuleLexer.Unicode.Additions

/-! Quoted text. What a reader could not see or tell apart is escaped, so that a quoted text
stands on one line and holds no control character. -/

namespace RuleLexer

namespace Quoted

def unicodeEscape (c : Char) : List Char :=
  '\\' :: 'u' :: '\x7b' :: (Nat.toDigits 16 c.toNat ++ ['\x7d'])

/-- One character between quotes of the kind `quote`; the other kind needs no escape. -/
def escape (quote c : Char) : List Char :=
  if c = '\x00' then ['\\', '0']
  else if c = '\t' then ['\\', 't']
  else if c = '\r' then ['\\', 'r']
  else if c = '\n' then ['\\', 'n']
  else if c = '\\' then ['\\', '\\']
  else if c = quote then ['\\', quote]
  else if Unicode.isVisible c then [c]
  else unicodeEscape c

end Quoted

def quoteString (s : String) : String :=
  String.ofList ('"' :: (s.toList.flatMap (Quoted.escape '"') ++ ['"']))

def quoteChar (c : Char) : String :=
  String.ofList ('\'' :: (Quoted.escape '\'' c ++ ['\'']))

end RuleLexer

import RuleLexer.Symbol
import RuleLexer.Value

/-! Tokens, the output of a scan. -/

namespace RuleLexer

inductive Token
  | symbol (s : Symbol)
  | value (v : Value)
  deriving DecidableEq, Repr

namespace Token

def symbol? : Token → Option Symbol
  | symbol s => some s
  | value _ => none

def value? : Token → Option Value
  | symbol _ => none
  | value v => some v

def display : Token → String
  | symbol s => s.name
  | value v => v.display

end Token

end RuleLexer

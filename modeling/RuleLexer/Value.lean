import RuleLexer.Numeral.Decimal
import RuleLexer.Numeral.Shortest
import RuleLexer.Text.Quoted

/-! What rules make of the text they match. -/

namespace RuleLexer

inductive Value
  | str (s : String)
  | int (n : Int)
  | float (x : Binary64)
  | bool (b : Bool)
  | char (c : Char)
  deriving DecidableEq, Repr

namespace Value

def str? : Value → Option String
  | str s => some s
  | _ => none

def int? : Value → Option Int
  | int n => some n
  | _ => none

def float? : Value → Option Binary64
  | float x => some x
  | _ => none

/-- Texts and characters are shown in quotes. -/
def display : Value → String
  | str s => quoteString s
  | int n => n.repr
  | float x => x.text
  | bool b => if b then "true" else "false"
  | char c => quoteChar c

end Value

end RuleLexer

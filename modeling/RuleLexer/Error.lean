import RuleLexer.Numeral.Decimal
import RuleLexer.Numeral.Integer
import RuleLexer.Symbol
import RuleLexer.Text.Position
import RuleLexer.Text.Quoted

/-! The faults of a configuration, found while rules and tokenizers are built, and the faults of a
scan. -/

namespace RuleLexer

/-- Why a converter refuses the text it was given. -/
inductive ConvertError
  | integer (fault : IntegerFault)
  | float (fault : FloatFault)
  | other (message : String)
  deriving DecidableEq, Repr

def ConvertError.message : ConvertError → String
  | integer fault => fault.message
  | float fault => fault.message
  | other message => message

inductive ConfigError
  /-- A rule may not both drop its match and convert it. -/
  | conflictingAction (pattern : String)
  | invalidPattern (pattern : String)
  /-- Two symbols claim one literal. -/
  | duplicateLiteral (literal : String) (first second : Symbol)
  | emptyLiteral (symbol : Symbol)
  deriving DecidableEq, Repr

/-- The message for an invalid pattern ends before the colon behind which the compiler of regular
expressions tells the fault in its own words; no words are modelled for the faults of patterns. -/
def ConfigError.message : ConfigError → String
  | conflictingAction pattern =>
    "rule " ++ quoteString pattern ++ " cannot use a converter while ignoring its match"
  | invalidPattern pattern => "invalid rule pattern " ++ quoteString pattern
  | duplicateLiteral literal first second =>
    "literal " ++ quoteString literal ++ " is registered by both " ++ first.name ++ " and "
      ++ second.name
  | emptyLiteral symbol => "symbol " ++ symbol.name ++ " has an empty literal"

inductive ScanError
  /-- Nothing matches at a character, which starts at byte `offset`. -/
  | invalidToken (character : Char) (position : Position) (offset : Nat)
  | convert (fault : ConvertError)
  deriving DecidableEq, Repr

namespace ScanError

def message : ScanError → String
  | invalidToken character position _ =>
    "invalid token " ++ quoteChar character ++ " at line " ++ position.line.repr ++ ", column "
      ++ position.column.repr
  | convert fault => fault.message

/-- An error found in a line alone, as an error of the text in which that line is the `line`-th and
starts at byte `start`. -/
def onLine (line start : Nat) : ScanError → ScanError
  | invalidToken character position offset =>
    invalidToken character ⟨line, position.column⟩ (start + offset)
  | convert fault => convert fault

end ScanError

end RuleLexer

import RuleLexer.Rule.Group

/-! Ready-made rules for the lexical categories of most languages. Groups of integers and floats try
the floats first, since an integer rule would stop at the point. -/

namespace RuleLexer

namespace Library

/-! ### Converters -/

/-- A numeral without the underscores that separate its digits. -/
def stripSeparators (s : String) : List Char :=
  s.toList.filter (· != '_')

def readInt : Converter := fun s =>
  match IntegerKind.signed64.read 10 (stripSeparators s) with
  | .ok n => .ok (.int n)
  | .error e => .error (.integer e)

def readHex : Converter := fun s =>
  match IntegerKind.signed64.read 16 s.toList with
  | .ok n => .ok (.int n)
  | .error e => .error (.integer e)

def readFloat : Converter := fun s =>
  match Binary64.read (stripSeparators s) with
  | .ok x => .ok (.float x)
  | .error e => .error (.float e)

/-! ### Patterns -/

def intPattern : String := "[0-9](?:[0-9_]*[0-9])?"

def exponentPattern : String := "(?:[eE][+\\-]?[0-9](?:[0-9_]*[0-9])?)"

def decimalPattern : String := intPattern ++ "\\.(?:[0-9]+)?|\\.[0-9]+"

/-- A point with digits on one side at least and perhaps an exponent, or digits and an exponent. -/
def floatPattern : String :=
  intPattern ++ exponentPattern ++ "|(?:" ++ intPattern ++ "\\.[0-9]*|\\.[0-9]+)"
    ++ exponentPattern ++ "?"

def signed (pattern : String) : String := "[+\\-]" ++ pattern

/-! ### Text rules -/

/-- A backslash takes the character after it into the string, a quote too. -/
def singleQuotedString : Rule :=
  .ofValid "'(?:[^'\\\\\\n]|\\\\[^\\n])*'" .emit (by decide +kernel)

def doubleQuotedString : Rule :=
  .ofValid "\"(?:[^\"\\\\\\n]|\\\\[^\\n])*\"" .emit (by decide +kernel)

/-- One character, or an escaped quote, between quotes. -/
def char : Rule := .ofValid "'(?:[^']|\\\\')'" .emit (by decide +kernel)

def letter : Rule := .ofValid "[A-Za-z]" .emit (by decide +kernel)

def word : Rule := .ofValid "[A-Za-z]+" .emit (by decide +kernel)

def cName : Rule := .ofValid "[_A-Za-z][_A-Za-z0-9]*" .emit (by decide +kernel)

def newline : Rule := .ofValid "\\r?\\n" .emit (by decide +kernel)

/-! ### Number rules -/

def digit : Rule := .ofValid "[0-9]" (.convert readInt) (by decide +kernel)

def hexDigit : Rule := .ofValid "[0-9A-Fa-f]" (.convert readHex) (by decide +kernel)

def int : Rule := .ofValid intPattern (.convert readInt) (by decide +kernel)

def signedInt : Rule := .ofValid (signed intPattern) (.convert readInt) (by decide +kernel)

def decimal : Rule := .ofValid decimalPattern (.convert readFloat) (by decide +kernel)

def float : Rule := .ofValid floatPattern (.convert readFloat) (by decide +kernel)

def signedFloat : Rule :=
  .ofValid (signed ("(?:" ++ floatPattern ++ ")")) (.convert readFloat) (by decide +kernel)

/-! ### Groups -/

def string : RuleGroup := ⟨[singleQuotedString, doubleQuotedString]⟩

def number : RuleGroup := ⟨[float, int]⟩

def signedNumber : RuleGroup := ⟨[signedFloat, signedInt]⟩

def anyInt : RuleGroup := ⟨[signedInt, int]⟩

def anyFloat : RuleGroup := ⟨[signedFloat, float]⟩

def anyNumber : RuleGroup := anyFloat.union anyInt

/-- Every rule and group of the library under its name. -/
def groups : List (String × RuleGroup) := [
  ("single_quoted_string", .one singleQuotedString),
  ("double_quoted_string", .one doubleQuotedString),
  ("string", string),
  ("char", .one char),
  ("letter", .one letter),
  ("word", .one word),
  ("c_name", .one cName),
  ("newline", .one newline),
  ("digit", .one digit),
  ("hexdigit", .one hexDigit),
  ("int", .one int),
  ("signed_int", .one signedInt),
  ("decimal", .one decimal),
  ("float", .one float),
  ("signed_float", .one signedFloat),
  ("number", number),
  ("signed_number", signedNumber),
  ("any_int", anyInt),
  ("any_float", anyFloat),
  ("any_number", anyNumber)]

def names : List String := groups.map Prod.fst

def named? (name : String) : Option RuleGroup :=
  (groups.find? fun entry => entry.1 == name).map Prod.snd

end Library

end RuleLexer

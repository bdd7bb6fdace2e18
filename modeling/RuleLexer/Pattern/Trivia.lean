import RuleLexer.Unicode.Binary

/-! White space and comments of verbose pattern texts, and reading past them. -/

namespace RuleLexer

namespace Pattern

/-- The text from the first character on that is neither white space nor in a comment. A comment
runs from `#` to the end of its line. -/
def skipTrivia (inComment : Bool) : List Char → List Char
  | [] => []
  | c :: rest =>
    if inComment then skipTrivia (c != '\n') rest
    else if Unicode.isWhiteSpace c then skipTrivia false rest
    else if c = '#' then skipTrivia true rest
    else c :: rest

/-- Nothing is skipped outside verbose mode. -/
def skip (verbose : Bool) (text : List Char) : List Char :=
  if verbose then skipTrivia false text else text

/-- The text up to `close`, without trivia in verbose mode, and the text after it. -/
def readUntil? (close : Char) (verbose inComment : Bool) :
    List Char → Option (List Char × List Char)
  | [] => none
  | c :: rest =>
    if inComment then readUntil? close verbose (c != '\n') rest
    else if c = close then some ([], rest)
    else if verbose && Unicode.isWhiteSpace c then readUntil? close verbose false rest
    else if verbose && c == '#' then readUntil? close verbose true rest
    else (readUntil? close verbose false rest).map fun (content, rest) => (c :: content, rest)

def hexDigit? (c : Char) : Option Nat :=
  if '0' ≤ c ∧ c ≤ '9' then some (c.toNat - '0'.toNat)
  else if 'a' ≤ c ∧ c ≤ 'f' then some (c.toNat - 'a'.toNat + 10)
  else if 'A' ≤ c ∧ c ≤ 'F' then some (c.toNat - 'A'.toNat + 10)
  else none

/-- `count` hexadecimal digits read onto `value`, with trivia between them in verbose mode. -/
def readHex? (verbose inComment : Bool) (count value : Nat) :
    List Char → Option (Nat × List Char)
  | [] => if count = 0 then some (value, []) else none
  | c :: rest =>
    if count = 0 then some (value, c :: rest)
    else if inComment then readHex? verbose (c != '\n') count value rest
    else if verbose && Unicode.isWhiteSpace c then readHex? verbose false count value rest
    else if verbose && c == '#' then readHex? verbose true count value rest
    else match hexDigit? c with
      | some d => readHex? verbose false (count - 1) (16 * value + d) rest
      | none => none

/-- The character with a code point. -/
def charOfPoint? (point : Nat) : Option Char :=
  if h : point.isValidChar then some (Char.ofNatAux point h) else none

/-- The character that a run of hexadecimal digits gives, all of them read. -/
def charOfHex? (digits : List Char) : Option Char :=
  if digits = [] then none
  else do
    let values ← digits.mapM hexDigit?
    charOfPoint? (values.foldl (fun value d => 16 * value + d) 0)

end Pattern

end RuleLexer

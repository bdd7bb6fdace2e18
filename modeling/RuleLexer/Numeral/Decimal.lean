import RuleLexer.Numeral.Binary64

/-! Decimal numerals: digits with a point and an exponent, or the name of a number that has no
digits. -/

namespace RuleLexer

inductive FloatFault
  | empty
  | malformed
  deriving DecidableEq, Repr

def FloatFault.message : FloatFault → String
  | .empty => "cannot parse float from empty string"
  | .malformed => "invalid float literal"

/-- The number `digits · 10 ^ exponent`. -/
structure Decimal where
  digits : Nat
  exponent : Int
  deriving DecidableEq, Repr

namespace Decimal

def isDigit (c : Char) : Bool := decide ('0' ≤ c) && decide (c ≤ '9')

/-- The value of a run of decimal digits. -/
def natOfDigits (digits : List Char) : Nat :=
  digits.foldl (fun n c => 10 * n + (c.toNat - '0'.toNat)) 0

/-- An exponent part up to the end of the text: nothing, or `e`, a sign and digits. -/
def readExponent? : List Char → Option Int
  | [] => some 0
  | e :: rest =>
    if e = 'e' ∨ e = 'E' then
      let (negative, digits) := match rest with
        | '+' :: digits => (false, digits)
        | '-' :: digits => (true, digits)
        | digits => (false, digits)
      if digits ≠ [] ∧ digits.all isDigit then
        let n : Int := natOfDigits digits
        some (if negative then -n else n)
      else none
    else none

/-- An unsigned numeral: digits before or after a point, at least one of them, and an exponent. -/
def read? (text : List Char) : Option Decimal :=
  let whole := text.takeWhile isDigit
  let rest := text.dropWhile isDigit
  let (fraction, rest) := match rest with
    | '.' :: rest => (rest.takeWhile isDigit, rest.dropWhile isDigit)
    | rest => ([], rest)
  if whole = [] ∧ fraction = [] then none
  else (readExponent? rest).map fun e => ⟨natOfDigits (whole ++ fraction), e - fraction.length⟩

/-- The nearest binary number. Decimals of at least `10 ^ 310` and below `10 ^ -330` are beyond its
range, so their powers of ten need not be computed. -/
def toBinary64 (negative : Bool) (d : Decimal) : Binary64 :=
  let places : Int := (Nat.toDigits 10 d.digits).length
  if d.digits = 0 ∨ places + d.exponent < -330 then .zero negative
  else if 310 < places + d.exponent then .infinity negative
  else if 0 ≤ d.exponent then
    .ofRatio negative (d.digits * Nat.pow 10 d.exponent.toNat) 1 (by decide)
  else
    .ofRatio negative d.digits (Nat.pow 10 (-d.exponent).toNat) (Nat.pow_pos (by decide))

end Decimal

/-- An unsigned number by its name or its numeral. Names are read in any case. -/
def Binary64.readMagnitude (negative : Bool) (text : List Char) : Except FloatFault Binary64 :=
  let word := text.map Char.toLower
  if word = ['n', 'a', 'n'] then .ok .nan
  else if word = ['i', 'n', 'f'] ∨ word = ['i', 'n', 'f', 'i', 'n', 'i', 't', 'y'] then
    .ok (.infinity negative)
  else match Decimal.read? text with
    | some d => .ok (d.toBinary64 negative)
    | none => .error .malformed

def Binary64.read : List Char → Except FloatFault Binary64
  | [] => .error .empty
  | '+' :: text => readMagnitude false text
  | '-' :: text => readMagnitude true text
  | text => readMagnitude false text

end RuleLexer

/-! Integers in a radix, within the bounds of a kind of integer. -/

namespace RuleLexer

inductive IntegerFault
  | empty
  | invalidDigit
  | tooLarge
  | tooSmall
  deriving DecidableEq, Repr

def IntegerFault.message : IntegerFault → String
  | .empty => "cannot parse integer from empty string"
  | .invalidDigit => "invalid digit found in string"
  | .tooLarge => "number too large to fit in target type"
  | .tooSmall => "number too small to fit in target type"

structure IntegerKind where
  least : Int
  greatest : Int
  deriving DecidableEq, Repr

namespace IntegerKind

def signed64 : IntegerKind := ⟨-9223372036854775808, 9223372036854775807⟩

def byte : IntegerKind := ⟨0, 255⟩

/-- The value of a digit, which may be any letter or decimal digit that the radix reaches. -/
def digit? (radix : Nat) (c : Char) : Option Nat :=
  let value :=
    if '0' ≤ c ∧ c ≤ '9' then c.toNat - '0'.toNat
    else if 'a' ≤ c ∧ c ≤ 'z' then c.toNat - 'a'.toNat + 10
    else if 'A' ≤ c ∧ c ≤ 'Z' then c.toNat - 'A'.toNat + 10
    else radix
  if value < radix then some value else none

/-- Reads digits from the left onto `value`. At each digit a bad digit is the fault before a value
out of bounds is. -/
def readDigits (kind : IntegerKind) (radix : Nat) (negative : Bool) (value : Int) :
    List Char → Except IntegerFault Int
  | [] => .ok value
  | c :: rest =>
    match digit? radix c with
    | none => .error .invalidDigit
    | some d =>
      let next := if negative then value * radix - d else value * radix + d
      if kind.greatest < next then .error .tooLarge
      else if next < kind.least then .error .tooSmall
      else readDigits kind radix negative next rest

/-- A sign and digits. A sign alone is a bad digit, and so is a minus where the kind has no negative
numbers. -/
def read (kind : IntegerKind) (radix : Nat) : List Char → Except IntegerFault Int
  | [] => .error .empty
  | ['+'] => .error .invalidDigit
  | ['-'] => .error .invalidDigit
  | '+' :: digits => kind.readDigits radix false 0 digits
  | '-' :: digits =>
    if kind.least < 0 then kind.readDigits radix true 0 digits else .error .invalidDigit
  | digits => kind.readDigits radix false 0 digits

end IntegerKind

end RuleLexer

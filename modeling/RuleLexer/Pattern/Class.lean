import RuleLexer.Pattern.Mode
import RuleLexer.Unicode.CaseFold
import RuleLexer.Unicode.Property

/-! Character classes as they are written in a pattern, and the sets that they stand for in a
mode. -/

namespace RuleLexer

namespace Pattern

/-- A single character. One that is written as a byte, by two hexadecimal digits, stands for a
character only below 128 when Unicode is off. -/
structure Literal where
  char : Char
  byte : Bool
  deriving DecidableEq, Repr

inductive Shorthand
  | digit | space | word
  deriving DecidableEq, Repr

inductive SetOperation
  | intersection | difference | symmetricDifference
  deriving DecidableEq, Repr

inductive Class
  | nothing
  | literal (l : Literal)
  | range (first last : Literal)
  | shorthand (s : Shorthand) (negated : Bool)
  /-- A class with a name for ASCII characters, by its ranges. -/
  | posix (ranges : List (Char × Char)) (negated : Bool)
  | property (p : Unicode.Property) (negated : Bool)
  | bracket (body : Class) (negated : Bool)
  | union (a b : Class)
  | operation (op : SetOperation) (a b : Class)
  deriving DecidableEq

namespace Shorthand

def unicodeSet : Shorthand → CharSet
  | digit => Unicode.Category.decimalNumber.set
  | space => Unicode.whiteSpaceSet
  | word => Unicode.wordSet

def asciiSet : Shorthand → CharSet
  | digit => .ofRanges [('0', '9')]
  | space => .ofRanges [('\t', '\r'), (' ', ' ')]
  | word => .ofRanges [('0', '9'), ('A', 'Z'), ('_', '_'), ('a', 'z')]

def set (s : Shorthand) (mode : Mode) : CharSet :=
  if mode.unicode then s.unicodeSet else s.asciiSet

end Shorthand

/-- The names of ASCII classes with their ranges. -/
def posixRanges : List (String × List (Char × Char)) := [
  ("alnum", [('0', '9'), ('A', 'Z'), ('a', 'z')]),
  ("alpha", [('A', 'Z'), ('a', 'z')]),
  ("ascii", [('\x00', '\x7f')]),
  ("blank", [('\t', '\t'), (' ', ' ')]),
  ("cntrl", [('\x00', '\x1f'), ('\x7f', '\x7f')]),
  ("digit", [('0', '9')]),
  ("graph", [('!', '~')]),
  ("lower", [('a', 'z')]),
  ("print", [(' ', '~')]),
  ("punct", [('!', '/'), (':', '@'), ('[', '\x60'), ('\x7b', '~')]),
  ("space", [('\t', '\r'), (' ', ' ')]),
  ("upper", [('A', 'Z')]),
  ("word", [('0', '9'), ('A', 'Z'), ('_', '_'), ('a', 'z')]),
  ("xdigit", [('0', '9'), ('A', 'F'), ('a', 'f')])]

def posixRanges? (name : List Char) : Option (List (Char × Char)) :=
  (posixRanges.find? fun entry => entry.1.toList == name).map Prod.snd

def SetOperation.apply (op : SetOperation) (s t : CharSet) : CharSet :=
  match op with
  | .intersection => s.inter t
  | .difference => s.diff t
  | .symmetricDifference => s.symmDiff t

/-- A set and what its characters become in another case, where case is ignored. -/
def Mode.fold (mode : Mode) (s : CharSet) : CharSet :=
  if mode.ignoreCase then (if mode.unicode then s.ignoringCase else s.ignoringAsciiCase) else s

/-- With Unicode off a set must hold ASCII alone, so no class may be negated. -/
def Mode.negate? (mode : Mode) (negated : Bool) (s : CharSet) : Option CharSet :=
  if negated && !mode.unicode then none else some (s.negateIf negated)

/-- The character of a literal inside a class. -/
def Mode.classChar? (mode : Mode) (l : Literal) : Option Char :=
  if mode.unicode || decide (l.char.toNat < 0x80) then some l.char else none

namespace Class

/-- The set of a class in a mode. Case is ignored before a set is negated or combined, and the
shorthand classes are what they are in any case. -/
def set? (mode : Mode) : Class → Option CharSet
  | nothing => some .none
  | literal l => (mode.classChar? l).map .one
  | range first last => do
    let first ← mode.classChar? first
    let last ← mode.classChar? last
    some (.range first last)
  | shorthand s negated => mode.negate? negated (s.set mode)
  | posix ranges negated => mode.negate? negated (mode.fold (.ofRanges ranges))
  | property p negated =>
    if mode.unicode then some ((mode.fold p.set).negateIf negated) else none
  | bracket body negated => do
    let s ← set? mode body
    mode.negate? negated (mode.fold s)
  | union a b => do
    let s ← set? mode a
    let t ← set? mode b
    some (s.union t)
  | operation op a b => do
    let s ← set? mode a
    let t ← set? mode b
    some (op.apply (mode.fold s) (mode.fold t))

end Class

end Pattern

end RuleLexer

import RuleLexer.Unicode.Binary

/-! Assertions about a gap between two characters. They match without consuming anything. -/

namespace RuleLexer

/-- A place in a text, by the characters on its two sides. -/
structure Gap where
  before : Option Char
  after : Option Char
  deriving DecidableEq, Repr

/-- How a gap may stand to the words around it. A half edge asks about one side only. -/
inductive WordEdge
  | boundary | inside | start | stop | startHalf | stopHalf
  deriving DecidableEq, Repr

inductive Look
  | textStart | textEnd
  | lineStart | lineEnd
  /-- Lines that end with a line feed, a carriage return or both. -/
  | crlfLineStart | crlfLineEnd
  | word (edge : WordEdge) (ascii : Bool)
  deriving DecidableEq, Repr

namespace Look

def isAsciiWord (c : Char) : Bool :=
  c.isAlphanum || c == '_'

def WordEdge.holds (edge : WordEdge) (before after : Bool) : Bool :=
  match edge with
  | .boundary => before != after
  | .inside => before == after
  | .start => !before && after
  | .stop => before && !after
  | .startHalf => !before
  | .stopHalf => !after

def holds (l : Look) (gap : Gap) : Bool :=
  match l with
  | textStart => gap.before.isNone
  | textEnd => gap.after.isNone
  | lineStart => gap.before.isNone || gap.before == some '\n'
  | lineEnd => gap.after.isNone || gap.after == some '\n'
  | crlfLineStart =>
    gap.before.isNone || gap.before == some '\n'
      || (gap.before == some '\r' && gap.after != some '\n')
  | crlfLineEnd =>
    gap.after.isNone || gap.after == some '\r'
      || (gap.after == some '\n' && gap.before != some '\r')
  | word edge ascii =>
    let isWord := if ascii then isAsciiWord else Unicode.isWord
    WordEdge.holds edge (gap.before.any isWord) (gap.after.any isWord)

end Look

end RuleLexer

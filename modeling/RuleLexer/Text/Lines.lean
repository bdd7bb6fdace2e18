import RuleLexer.Text.Position

/-! Cutting a text into lines at every kind of line boundary. A boundary at the end of the text
does not start another line, and the empty text has none. -/

namespace RuleLexer

def isLineBoundary (c : Char) : Bool :=
  c == '\n' || c == '\r' || c == '\x0b' || c == '\x0c' || c == '\x1c' || c == '\x1d' || c == '\x1e'
    || c == '\u0085' || c == '\u2028' || c == '\u2029'

/-- A line without its terminator, and the byte of the whole text at which it starts. -/
structure Line where
  start : Nat
  text : List Char
  deriving DecidableEq, Repr

namespace Line

/-- `seen` is what has been read of the line that starts at `start`, last character first. A
carriage return takes a line feed after it into its own boundary. -/
def splitFrom (start : Nat) (seen : List Char) : List Char → List Line
  | [] => if seen.isEmpty then [] else [⟨start, seen.reverse⟩]
  | '\r' :: '\n' :: rest =>
    ⟨start, seen.reverse⟩ :: splitFrom (start + byteLength seen + 2) [] rest
  | c :: rest =>
    if isLineBoundary c then
      ⟨start, seen.reverse⟩ :: splitFrom (start + byteLength seen + c.utf8Size) [] rest
    else splitFrom start (c :: seen) rest

def split (text : List Char) : List Line :=
  splitFrom 0 [] text

@[simp] theorem split_nil : split [] = [] := rfl

end Line

end RuleLexer

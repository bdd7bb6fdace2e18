/-! The switches that decide what a pattern text means, and changes to them inside the text. -/

namespace RuleLexer

namespace Pattern

/-- The switches in force at a place of a pattern text. -/
structure Mode where
  ignoreCase : Bool
  /-- `^` and `$` hold at every line. -/
  multiLine : Bool
  /-- `.` stands for line feeds too. -/
  dotAll : Bool
  /-- Repetitions are lazy unless marked, and greedy if marked. -/
  swapGreed : Bool
  /-- Off, the shorthand classes and letter case are those of ASCII. -/
  unicode : Bool
  /-- Carriage returns end lines as line feeds do. -/
  crlf : Bool
  /-- White space and comments mean nothing. -/
  verbose : Bool
  deriving DecidableEq, Repr

def Mode.default : Mode := ⟨false, false, false, false, true, false, false⟩

inductive Switch
  | ignoreCase | multiLine | dotAll | swapGreed | unicode | crlf | verbose
  deriving DecidableEq, Repr

def Switch.ofLetter? (c : Char) : Option Switch :=
  match c with
  | 'i' => some ignoreCase
  | 'm' => some multiLine
  | 's' => some dotAll
  | 'U' => some swapGreed
  | 'u' => some unicode
  | 'R' => some crlf
  | 'x' => some verbose
  | _ => none

def Mode.set (mode : Mode) (switch : Switch) (on : Bool) : Mode :=
  match switch with
  | .ignoreCase => { mode with ignoreCase := on }
  | .multiLine => { mode with multiLine := on }
  | .dotAll => { mode with dotAll := on }
  | .swapGreed => { mode with swapGreed := on }
  | .unicode => { mode with unicode := on }
  | .crlf => { mode with crlf := on }
  | .verbose => { mode with verbose := on }

/-- Switches turned on or off, from left to right. -/
abbrev ModeChange := List (Switch × Bool)

def Mode.change (mode : Mode) (changes : ModeChange) : Mode :=
  changes.foldl (fun mode change => mode.set change.1 change.2) mode

end Pattern

end RuleLexer

import RuleLexer.Pattern.Footprint
import RuleLexer.Pattern.Lexeme

/-! Building patterns from their texts. Lexemes are taken one after another by a builder that holds
the groups still open. Only a closing parenthesis looks below the innermost of them. -/

namespace RuleLexer

namespace Pattern

/-- A part of a branch: a pattern, or nothing where there was a directive, and how deep it is
nested. -/
structure Item where
  pattern : Option Pattern
  depth : Nat
  deriving DecidableEq

/-- An open group: its number if it is counted, the mode in force, and what has been read of it,
last first. -/
structure Level where
  index : Option Nat
  mode : Mode
  branches : List Item
  items : List Item
  deriving DecidableEq

namespace Level

def deepest (items : List Item) : Nat :=
  items.foldr (fun i d => max i.depth d) 0

/-- The branch that has been read, as one item. -/
def branch (l : Level) : Item :=
  ⟨some (concat (l.items.reverse.filterMap Item.pattern)),
    deepest l.items + if l.items.length ≤ 1 then 0 else 1⟩

def addBranch (l : Level) : Level :=
  { l with branches := l.branch :: l.branches, items := [] }

/-- All branches, as one item. -/
def group (l : Level) : Item :=
  let branches := l.branch :: l.branches
  let body := alternate (branches.reverse.filterMap Item.pattern)
  ⟨some (match l.index with
    | some index => capture index body
    | none => body),
    deepest branches + if branches.length ≤ 1 then 0 else 1⟩

def add (l : Level) (p : Pattern) (depth : Nat) : Level :=
  { l with items := ⟨some p, depth⟩ :: l.items }

/-- Repeats the last item, which must be a pattern. -/
def repeat? (l : Level) (low : Nat) (high : Option Nat) (marked : Bool) : Option Level :=
  match l.items with
  | ⟨some p, depth⟩ :: items =>
    let greedy := marked == l.mode.swapGreed
    some { l with items := ⟨some (repeated low high greedy p), depth + 1⟩ :: items }
  | _ => none

end Level

/-- The pattern of a literal outside a class. -/
def Literal.pattern? (mode : Mode) (l : Literal) : Option Pattern :=
  if !mode.unicode && l.byte && decide (0x80 ≤ l.char.toNat) then none
  else if mode.ignoreCase then some (ofSet (mode.fold (.one l.char)))
  else some (.literal l.char [])

/-- The pattern of an atom. With Unicode off nothing may match a part of a character, so there is
no dot. -/
def Atom.pattern? (mode : Mode) : Atom → Option Pattern
  | literal l => l.pattern? mode
  | dot =>
    if !mode.unicode then none
    else if mode.dotAll then some (.set .any)
    else if mode.crlf then some (.set (CharSet.ofList ['\r', '\n']).compl)
    else some (.set (CharSet.one '\n').compl)
  | caret =>
    some (.look (if !mode.multiLine then .textStart
      else if mode.crlf then .crlfLineStart else .lineStart))
  | dollar =>
    some (.look (if !mode.multiLine then .textEnd
      else if mode.crlf then .crlfLineEnd else .lineEnd))
  | textStart => some (.look .textStart)
  | textEnd => some (.look .textEnd)
  | word edge => some (.look (.word edge (!mode.unicode)))
  | set c _ => (c.set? mode).map ofSet

def Atom.depth : Atom → Nat
  | set _ depth => depth
  | _ => 0

/-- The innermost open group, those around it from the inside out, the number of groups that have
been counted, and the names taken. -/
structure Builder where
  level : Level
  outer : List Level
  count : Nat
  names : List (List Char)
  deriving DecidableEq

namespace Builder

def start (mode : Mode) : Builder := ⟨⟨none, mode, [], []⟩, [], 0, []⟩

def enter (b : Builder) (index : Option Nat) (mode : Mode) : Builder :=
  { b with level := ⟨index, mode, [], []⟩, outer := b.level :: b.outer }

def push? (b : Builder) : Lexeme → Option Builder
  | .atom a => (a.pattern? b.level.mode).map fun p => { b with level := b.level.add p a.depth }
  | .repetition low high marked =>
    (b.level.repeat? low high marked).map fun l => { b with level := l }
  | .bar => some { b with level := b.level.addBranch }
  | .directive changes =>
    some { b with level :=
      { b.level with mode := b.level.mode.change changes, items := ⟨none, 0⟩ :: b.level.items } }
  | .opening (.group changes) => some (b.enter none (b.level.mode.change changes))
  | .opening (.capture name) =>
    if name.any b.names.contains then none
    else some { b.enter (some (b.count + 1)) b.level.mode with
      count := b.count + 1, names := name.toList ++ b.names }
  | .closing =>
    match b.outer with
    | [] => none
    | l :: outer =>
      let g := b.level.group
      some { b with level := { l with items := { g with depth := g.depth + 1 } :: l.items }, outer }

/-- Takes the lexemes of a text. Each step reads a character at least, so the length of the text is
enough fuel. -/
def read? : Nat → Builder → List Char → Option Builder
  | 0, b, text => if skip b.level.mode.verbose text = [] then some b else none
  | fuel + 1, b, text =>
    match skip b.level.mode.verbose text with
    | [] => some b
    | c :: rest =>
      match Lexeme.read? b.level.mode.verbose (c :: rest) with
      | none => none
      | some (lexeme, rest) =>
        match b.push? lexeme with
        | none => none
        | some b => read? fuel b rest

/-- The most levels of nesting that a pattern may have. -/
def depthLimit : Nat := 250

/-- The pattern, if no group is open and it keeps within the limit. -/
def finish? (b : Builder) : Option Pattern :=
  match b.outer, b.level.group with
  | [], ⟨some p, depth⟩ => if depth ≤ depthLimit then some p else none
  | _, _ => none

end Builder

/-- The pattern of a text that is read in a mode. -/
def parse? (mode : Mode) (text : List Char) : Option Pattern := do
  let b ← Builder.read? text.length (.start mode) text
  b.finish?

/-- The same, if the pattern is not too large to be matched. -/
def compile? (mode : Mode) (text : List Char) : Option Pattern := do
  let p ← parse? mode text
  if p.fits then some p else none

end Pattern

end RuleLexer

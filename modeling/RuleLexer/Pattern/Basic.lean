import RuleLexer.CharSet
import RuleLexer.Pattern.Look

/-! Patterns. Of the ways in which a pattern matches a text one is preferred: a choice prefers
its first branch, and a repetition prefers one more round if it is greedy and one less if it is
not. Patterns are put together by functions that keep them in a normal form: sequences and choices
lean to the right, no two literals follow one another, and a set has more or less than one
character. -/

namespace RuleLexer

inductive Pattern
  | empty
  /-- One character after another. -/
  | literal (c : Char) (cs : List Char)
  /-- Any one character of the set. -/
  | set (s : CharSet)
  | look (l : Look)
  /-- A group that is counted. -/
  | capture (index : Nat) (p : Pattern)
  | seq (p q : Pattern)
  | alt (p q : Pattern)
  /-- At least `low` and, if there is a bound, at most `high` rounds. -/
  | rounds (low : Nat) (high : Option Nat) (greedy : Bool) (p : Pattern)
  deriving DecidableEq

namespace Pattern

/-! ### Lengths -/

/-- The least number of characters that the pattern matches. There is none if the pattern has a
branch or a part that matches nothing. -/
def minLength : Pattern → Option Nat
  | empty => some 0
  | literal _ cs => some (cs.length + 1)
  | set s => if s.bounds = [] then none else some 1
  | look _ => some 0
  | capture _ p => p.minLength
  | seq p q => do
    let m ← p.minLength
    let n ← q.minLength
    some (m + n)
  | alt p q => do
    let m ← p.minLength
    let n ← q.minLength
    some (min m n)
  | rounds low _ _ p => p.minLength.map (low * ·)

/-- Whether every match of the pattern is known to consume something. -/
def consumes (p : Pattern) : Bool :=
  p.minLength.any (0 < ·)

/-- Whether no match of the pattern consumes anything. -/
def isZeroWidth : Pattern → Bool
  | empty => true
  | literal .. => false
  | set _ => false
  | look _ => true
  | capture _ p => p.isZeroWidth
  | seq p q => p.isZeroWidth && q.isZeroWidth
  | alt p q => p.isZeroWidth && q.isZeroWidth
  | rounds _ high _ p => high.isSome && p.isZeroWidth

/-! ### Sets -/

/-- One character of a set. -/
def ofSet (s : CharSet) : Pattern :=
  match s.single? with
  | some c => literal c []
  | none => set s

/-! ### Sequences -/

def seqs : List Pattern → Pattern
  | [] => empty
  | [p] => p
  | p :: ps => seq p (seqs ps)

/-- The patterns that a sequence is made of. -/
def parts : Pattern → List Pattern
  | empty => []
  | seq p q => p :: q.parts
  | p => [p]

/-- Makes one literal of literals that follow one another. -/
def joinLiterals : List Pattern → List Pattern
  | [] => []
  | literal c cs :: ps =>
    match joinLiterals ps with
    | literal d ds :: qs => literal c (cs ++ d :: ds) :: qs
    | qs => literal c cs :: qs
  | p :: ps => p :: joinLiterals ps

/-- The patterns one after another. -/
def concat (ps : List Pattern) : Pattern :=
  seqs (joinLiterals (ps.flatMap parts))

/-! ### Choices -/

def alts : List Pattern → Pattern
  | [] => empty
  | [p] => p
  | p :: ps => alt p (alts ps)

/-- The patterns that a choice is made between. -/
def branches : Pattern → List Pattern
  | alt p q => p :: q.branches
  | p => [p]

def char? : Pattern → Option Char
  | literal c [] => some c
  | _ => none

def set? : Pattern → Option CharSet
  | set s => some s
  | _ => none

/-- The set that a choice between characters, or between sets, comes to. -/
def unitedSet? (ps : List Pattern) : Option CharSet :=
  ((ps.mapM char?).map .ofList).or ((ps.mapM set?).map .unions)

/-- The parts of a sequence of two at least. -/
def seqParts? : Pattern → Option (List Pattern)
  | seq p q => some (p :: q.parts)
  | _ => none

/-- What two lists begin with. -/
def shared : List Pattern → List Pattern → List Pattern
  | p :: ps, q :: qs => if p = q then p :: shared ps qs else []
  | _, _ => []

/-- What all the patterns begin with if they are sequences, and what each goes on with. -/
def factor? (ps : List Pattern) : Option (List Pattern × List Pattern) :=
  match ps.mapM seqParts? with
  | some (first :: others) =>
    match others.foldl shared first with
    | [] => none
    | start => some (start, (first :: others).map fun parts => concat (parts.drop start.length))
  | _ => none

/-- A choice with choices among its branches written as one. -/
def choice (ps : List Pattern) : Pattern :=
  match ps.flatMap branches with
  | [p] => p
  | ps =>
    match unitedSet? ps with
    | some s => ofSet s
    | none => alts ps

/-- The first of the patterns that leads to a match. What all of them begin with stands before the
choice. -/
def alternate (ps : List Pattern) : Pattern :=
  match choice ps with
  | alt p q =>
    match factor? (p :: q.branches) with
    | some (start, ends) => concat (start ++ [choice ends])
    | none => alt p q
  | p => p

/-! ### Repetitions -/

/-- At least `low` and, if there is a bound, at most `high` rounds. Of rounds that consume nothing
one is as good as many. -/
def repeated (low : Nat) (high : Option Nat) (greedy : Bool) (p : Pattern) : Pattern :=
  let (low, high) := if p.isZeroWidth then (min low 1, some (min (high.getD 1) 1)) else (low, high)
  if high = some 0 then empty
  else if low = 1 ∧ high = some 1 then p
  else rounds low high greedy p

end Pattern

end RuleLexer

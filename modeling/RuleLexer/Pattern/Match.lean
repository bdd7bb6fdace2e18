import Std.Data.TreeSet.Basic
import RuleLexer.Pattern.Basic

/-! Matching. All ways to match are followed at once through the text, from the most to the least
preferred, so that a text is read once. Every choice and every character of a pattern whose
repetitions are written out has a place of its own, by its number. At each gap of the text a place
is gone through once: what it leads to another time is less preferred than what it led to first.
The answer is the length of the preferred match. -/

namespace RuleLexer

namespace Pattern

/-! ### Places -/

/-- The number of places in a pattern whose repetitions are written out. An unbounded repetition
has one before its last round, at which it begins again, and one more at which it may be left out
where a round may consume nothing. -/
def places : Pattern → Nat
  | empty => 0
  | literal _ cs => cs.length + 1
  | set _ => 1
  | look _ => 0
  | capture _ p => p.places
  | seq p q => p.places + q.places
  | alt p q => 1 + p.places + q.places
  | rounds low (some high) _ p => low * p.places + (high - low) * (1 + p.places)
  | rounds 0 none _ p => if p.consumes then 1 + p.places else 2 + p.places
  | rounds (low + 1) none _ p => low * p.places + (1 + p.places)

/-- What is still to be matched: a pattern whose places begin at a number, or what follows a round
of an unbounded repetition. -/
inductive Pending
  | pattern (place : Nat) (p : Pattern)
  | again (place : Nat) (greedy : Bool) (p : Pattern)
  deriving DecidableEq

/-- What is to be matched one after another. -/
abbrev Residual := List Pending

/-- A way to go on at a gap: to read a character of a set. -/
structure Thread where
  set : CharSet
  rest : Residual
  deriving DecidableEq

def Thread.step? (t : Thread) (c : Char) : Option Residual :=
  if t.set.contains c then some t.rest else none

/-- How far the ways to go on at a gap have been followed: the places gone through, the threads
found, last first, what has been put off, and whether what follows has been reached. -/
structure Frontier where
  seen : Std.TreeSet Nat
  threads : List Thread
  later : List Residual
  reached : Bool

namespace Frontier

def start (residuals : List Residual) : Frontier := ⟨{}, [], residuals, false⟩

def fail (f : Frontier) : Frontier := { f with reached := false }

/-- Puts off what is less preferred than all that the way being followed leads to. -/
def putOff (f : Frontier) (r : Residual) : Frontier := { f with later := r :: f.later }

/-- Goes through a place if nothing has been there before. -/
def atPlace (f : Frontier) (place : Nat) (go : Frontier → Frontier) : Frontier :=
  if f.seen.contains place then f.fail else go { f with seen := f.seen.insert place }

def read (f : Frontier) (place : Nat) (s : CharSet) (rest : Residual) : Frontier :=
  f.atPlace place fun f => { f with threads := ⟨s, rest⟩ :: f.threads, reached := false }

end Frontier

/-! ### Expansions -/

/-- Follows the most preferred way through a pattern, up to what comes after it, given the number
that its places begin at and what comes after it. -/
abbrev Expansion := Nat → Residual → Frontier → Frontier

/-- Another round at the place between two rounds, or none. A round that consumes nothing leads
back to the place. -/
def expandAgain (greedy : Bool) (p : Pattern) (round : Expansion) (place : Nat) (rest : Residual)
    (f : Frontier) : Frontier :=
  f.atPlace place fun f =>
    let next := .again place greedy p :: rest
    if greedy then (round (place + 1) next (f.putOff rest)).fail
    else f.putOff (.pattern (place + 1) p :: next)

/-- One round at least. If the first consumes nothing, another would find nothing new. -/
def expandOneOrMore (greedy : Bool) (p : Pattern) (round : Expansion) (place : Nat)
    (rest : Residual) (f : Frontier) : Frontier :=
  let f := round (place + 1) (.again place greedy p :: rest) f
  if f.reached then f.atPlace place id else f

/-- Any number of rounds, each of which may consume nothing. -/
def expandZeroOrMore (greedy : Bool) (p : Pattern) (round : Expansion) (place : Nat)
    (rest : Residual) (f : Frontier) : Frontier :=
  f.atPlace place fun f =>
    if greedy then expandOneOrMore greedy p round (place + 1) rest (f.putOff rest)
    else f.putOff (.pattern (place + 1) (rounds 1 none greedy p) :: rest)

/-- At least so many rounds. -/
def expandUnbounded (greedy : Bool) (p : Pattern) (round : Expansion) (size : Nat)
    (rest : Residual) : Nat → Nat → Frontier → Frontier
  | 0, place, f =>
    if p.consumes then expandAgain greedy p round place rest f
    else expandZeroOrMore greedy p round place rest f
  | 1, place, f => expandOneOrMore greedy p round place rest f
  | low + 2, place, f =>
    let next := place + size
    let f := round place (.pattern next (rounds (low + 1) none greedy p) :: rest) f
    if f.reached then expandUnbounded greedy p round size rest (low + 1) next f else f

/-- What is left of rounds with a bound, if anything. -/
def leftOver (low high : Nat) (greedy : Bool) (p : Pattern) (place : Nat) (rest : Residual) :
    Residual :=
  if high = 0 then rest else .pattern place (rounds low (some high) greedy p) :: rest

/-- At most so many rounds. -/
def expandOptional (greedy : Bool) (p : Pattern) (round : Expansion) (size : Nat)
    (rest : Residual) : Nat → Nat → Frontier → Frontier
  | 0, _, f => f
  | high + 1, place, f =>
    if f.seen.contains place then f.fail
    else
      let f := { f with seen := f.seen.insert place }
      let next := place + 1 + size
      let others := leftOver 0 high greedy p next rest
      if greedy then
        let f := round (place + 1) others (f.putOff rest)
        if f.reached then expandOptional greedy p round size rest high next f else f
      else f.putOff (.pattern (place + 1) p :: others)

/-- So many rounds, and then at most `more`. -/
def expandBounded (greedy : Bool) (p : Pattern) (round : Expansion) (size : Nat)
    (rest : Residual) (more : Nat) : Nat → Nat → Frontier → Frontier
  | 0, place, f => expandOptional greedy p round size rest more place f
  | low + 1, place, f =>
    let next := place + size
    let f := round place (leftOver low (low + more) greedy p next rest) f
    if f.reached then expandBounded greedy p round size rest more low next f else f

/-- Whatever is less preferred than what comes of the way being followed is put off. -/
def expand (gap : Gap) : Pattern → Nat → Residual → Frontier → Frontier
  | empty, _, _, f => f
  | literal c cs, place, rest, f =>
    f.read place (.one c) (match cs with
      | [] => rest
      | d :: ds => .pattern (place + 1) (literal d ds) :: rest)
  | set s, place, rest, f => f.read place s rest
  | look l, _, _, f => if l.holds gap then f else f.fail
  | capture _ p, place, rest, f => expand gap p place rest f
  | seq p q, place, rest, f =>
    let next := place + p.places
    let f := expand gap p place (.pattern next q :: rest) f
    if f.reached then expand gap q next rest f else f
  | alt p q, place, rest, f =>
    f.atPlace place fun f =>
      expand gap p (place + 1) rest (f.putOff (.pattern (place + 1 + p.places) q :: rest))
  | rounds low none greedy p, place, rest, f =>
    expandUnbounded greedy p (expand gap p) p.places rest low place f
  | rounds low (some high) greedy p, place, rest, f =>
    expandBounded greedy p (expand gap p) p.places rest (high - low) low place f

def Pending.expand (gap : Gap) (rest : Residual) (f : Frontier) : Pending → Frontier
  | pattern place p => p.expand gap place rest f
  | again place greedy p => expandAgain greedy p (p.expand gap) place rest f

def expandAll (gap : Gap) : Residual → Frontier → Frontier
  | [], f => f
  | p :: rest, f =>
    let f := p.expand gap rest f
    if f.reached then expandAll gap rest f else f

/-! ### Running -/

/-- The threads at a gap, most preferred first, up to a match that ends there, and whether there is
one. Whatever is put off is put off at a place of its own, so the number of places and of what is
put off at first is enough fuel. -/
def explore (gap : Gap) : Nat → Frontier → List Thread × Bool
  | 0, f => (f.threads.reverse, false)
  | fuel + 1, f =>
    match f.later with
    | [] => (f.threads.reverse, false)
    | r :: later =>
      let f := expandAll gap r { f with later, reached := true }
      if f.reached then (f.threads.reverse, true) else explore gap fuel f

/-- The threads of residuals of a pattern with so many places. -/
def threads (size : Nat) (gap : Gap) (residuals : List Residual) : List Thread × Bool :=
  explore gap (residuals.length + size) (.start residuals)

/-- The length of the preferred match of the residuals at the start of a text, `count` characters
of which have been read, if there is one; else `best`. Threads that are preferred to a match come
before it if they come to a match later. -/
def run (size : Nat) (before : Option Char) (residuals : List Residual) (count : Nat)
    (best : Option Nat) : List Char → Option Nat
  | [] => if (threads size ⟨before, none⟩ residuals).2 then some count else best
  | c :: text =>
    let (ts, accepts) := threads size ⟨before, some c⟩ residuals
    let best := if accepts then some count else best
    let next := ts.filterMap fun t => t.step? c
    if next.isEmpty then best else run size (some c) next (count + 1) best text

/-- The length of the match of `p` that starts at a gap, given the text on its two sides. -/
def matchAt? (p : Pattern) (before : Option Char) (text : List Char) : Option Nat :=
  run p.places before [[.pattern 0 p]] 0 none text

/-- The length of the match at the start of a text. -/
def matchPrefix? (p : Pattern) (text : List Char) : Option Nat :=
  p.matchAt? none text

/-- The first gap of a text at which the pattern matches, counted in characters from `offset`, and
the length of the match there. -/
def searchFrom (p : Pattern) (before : Option Char) (offset : Nat) : List Char → Option (Nat × Nat)
  | [] => (p.matchAt? before []).map fun n => (offset, n)
  | c :: text =>
    match p.matchAt? before (c :: text) with
    | some n => some (offset, n)
    | none => searchFrom p (some c) (offset + 1) text

def search? (p : Pattern) (text : List Char) : Option (Nat × Nat) :=
  p.searchFrom none 0 text

end Pattern

end RuleLexer

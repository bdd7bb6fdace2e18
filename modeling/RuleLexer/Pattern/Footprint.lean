import Std.Data.TreeMap.Basic
import RuleLexer.Pattern.Basic
import RuleLexer.Text.Utf8

/-! How much memory the automata of a pattern take. A pattern stands for two automata on bytes, one
that reads forwards and one that reads backwards, with bounded repetitions written out. A pattern
whose automata are too large is refused. -/

namespace RuleLexer

namespace Pattern

inductive Direction
  | forwards | backwards
  deriving DecidableEq, Repr

/-- The states of an automaton so far and the bytes that they take. -/
structure Footprint where
  states : Nat
  bytes : Nat
  deriving DecidableEq, Repr

namespace Footprint

/-- The most bytes that an automaton may take. -/
def limit : Nat := 10485760

def none : Footprint := ⟨0, 0⟩

/-- A state, and what it needs beside its own place. -/
def add (f : Footprint) (extra : Nat) : Footprint := ⟨f.states + 1, f.bytes + 32 + extra⟩

/-- A state with this many transitions, each on a range of bytes. -/
def addTransitions (f : Footprint) (count : Nat) : Footprint := f.add (8 * count)

/-- Ways out of a state that leads on without reading. -/
def addBranches (f : Footprint) (count : Nat) : Footprint := { f with bytes := f.bytes + 4 * count }

def addMany (f : Footprint) : Nat → Footprint
  | 0 => f
  | n + 1 => addMany (f.add 0) n

/-- Adds the same again and again, no longer than the limit is kept. -/
def iterate (step : Footprint → Footprint) : Nat → Footprint → Footprint
  | 0, f => f
  | n + 1, f => if limit < f.bytes then f else iterate step n (step f)

/-! ### Sets -/

/-- The hash of a sequence of numbers below `2 ^ 64`: for each a bitwise difference and a
product. -/
def hash (values : List UInt64) : UInt64 :=
  values.foldl (fun h v => (h ^^^ v) * 1099511628211) 14695981039346656037

/-- A transition on a range of bytes to a state by its number. -/
structure Transition where
  range : Utf8.ByteRange
  target : Nat
  deriving DecidableEq

def Transition.values (t : Transition) : List UInt64 :=
  [t.range.first.toUInt64, t.range.last.toUInt64, t.target.toUInt64]

/-- An automaton in the making and the states of it that may be used again. What is remembered in a
slot is forgotten when another state comes into the slot. -/
structure Sharing (α : Type) where
  footprint : Footprint
  slots : Std.TreeMap Nat (α × Nat)

namespace Sharing

/-- The state that is remembered in a slot as one for `key`. -/
def find? {α : Type} [DecidableEq α] (m : Sharing α) (slot : Nat) (key : α) : Option Nat :=
  match m.slots[slot]? with
  | some (key', state) => if key' = key then some state else .none
  | .none => .none

/-- The number of a state that is remembered for `key`, or else of a new one. -/
def intern {α : Type} [DecidableEq α] (m : Sharing α) (slot : Nat) (key : α)
    (add : Footprint → Footprint) : Sharing α × Nat :=
  match m.find? slot key with
  | some state => (m, state)
  | .none =>
    let state := m.footprint.states
    (⟨add m.footprint, m.slots.insert slot (key, state)⟩, state)

/-- A state by all its transitions. -/
def internTransitions (m : Sharing (List Transition)) (ts : List Transition) :
    Sharing (List Transition) × Nat :=
  m.intern ((hash (ts.flatMap Transition.values)).toNat % 10000) ts fun f =>
    f.addTransitions ts.length

/-- A state by its only transition. -/
def internTransition (m : Sharing Transition) (t : Transition) : Sharing Transition × Nat :=
  let values := [t.target.toUInt64, t.range.first.toUInt64, t.range.last.toUInt64]
  m.intern ((hash values).toNat % 1000) t fun f => f.add 0

end Sharing

/-- Sequences with the same first range, one after another, by this range. -/
def groupByFirst : List (List Utf8.ByteRange) → List (Utf8.ByteRange × List (List Utf8.ByteRange))
  | [] => []
  | [] :: sequences => groupByFirst sequences
  | (r :: rest) :: sequences =>
    match groupByFirst sequences with
    | (r', rests) :: groups =>
      if r = r' then (r, rest :: rests) :: groups else (r, [rest]) :: (r', rests) :: groups
    | [] => [(r, [rest])]

/-- The transitions of a state from which sequences of at most `depth` ranges lead to `target`, the
states that they lead to made before. -/
def transitions (target : Nat) : Nat → List (List Utf8.ByteRange) → Sharing (List Transition) →
    Sharing (List Transition) × List Transition
  | 0, _, m => (m, [])
  | depth + 1, sequences, m =>
    let (m, ts) := (groupByFirst sequences).foldl (fun (m, ts) (r, rests) =>
      if rests = [[]] then (m, ⟨r, target⟩ :: ts)
      else
        let (m, inner) := transitions target depth rests m
        let (m, state) := m.internTransitions inner
        (m, ⟨r, state⟩ :: ts)) (m, [])
    (m, ts.reverse)

/-- The states of a set, the last of a sequence shared with others. -/
def addForwards (f : Footprint) (sequences : List (List Utf8.ByteRange)) : Footprint :=
  let (m, ts) := transitions f.states 4 sequences ⟨f.add 0, {}⟩
  (m.internTransitions ts).1.footprint

/-- The states that read a sequence backwards to `target`. -/
def addSequence (target : Nat) (m : Sharing Transition) (sequence : List Utf8.ByteRange) :
    Sharing Transition :=
  (sequence.foldl (fun (m, state) r => m.internTransition ⟨r, state⟩) (m, target)).1

/-- The states of a set in an automaton that reads backwards. -/
def addBackwards (f : Footprint) (sequences : List (List Utf8.ByteRange)) : Footprint :=
  let target := f.states + 1
  let m := sequences.foldl (addSequence target) ⟨f.addMany 2, {}⟩
  m.footprint.addBranches sequences.length

def addSet (d : Direction) (s : CharSet) (f : Footprint) : Footprint :=
  let ranges := s.ranges
  if ranges.all fun r => r.2 < 0x80 then (f.add 0).addTransitions ranges.length
  else
    match d with
    | .forwards => f.addForwards (Utf8.sequences s)
    | .backwards => f.addBackwards (Utf8.sequences s)

/-! ### Choices between literals -/

/-- A list cut at its empty members. -/
def cutAtEmpty (words : List (List UInt8)) : List (List (List UInt8)) :=
  words.foldr (fun word pieces =>
    match word, pieces with
    | [], pieces => [] :: pieces
    | word, piece :: pieces => (word :: piece) :: pieces
    | word, [] => [[word]]) [[]]

/-- Empty words at the start are one. -/
def dropRepeatedEnds : List (List UInt8) → List (List UInt8)
  | [] :: [] :: words => dropRepeatedEnds ([] :: words)
  | words => words

/-- The words that begin with a byte, without it. -/
def wordsAfter (byte : UInt8) (words : List (List UInt8)) : List (List UInt8) :=
  words.filterMap fun word => if word.head? = some byte then some word.tail else .none

/-- The states of a tree of words of at most `depth` bytes. Where a word ends the tree is cut, since
the words after it are less preferred. -/
def addWords : Nat → List (List UInt8) → Footprint → Footprint
  | 0, _, f => f
  | depth + 1, words, f =>
    let pieces := cutAtEmpty (dropRepeatedEnds words)
    let f := pieces.foldl (fun f piece =>
      let bytes := (piece.filterMap List.head?).eraseDups
      let f := bytes.foldl (fun f byte =>
        let rest := wordsAfter byte piece
        if rest.all List.isEmpty then f else addWords depth rest f) f
      match bytes with
      | [] => f
      | [_] => (f.add 0).addBranches 1
      | bytes => (f.addTransitions bytes.length).addBranches 1) f
    (f.add 0).addBranches (pieces.length - 1)

def literalBytes? : Pattern → Option (List UInt8)
  | literal c cs => some ((c :: cs).flatMap String.utf8EncodeChar)
  | _ => .none

def addLiterals (d : Direction) (words : List (List UInt8)) (f : Footprint) : Footprint :=
  let words := match d with
    | .forwards => words
    | .backwards => words.map List.reverse
  addWords (words.foldr (fun word n => max word.length n) 0 + 1) words (f.add 0)

/-! ### Patterns -/

/-- Where a pattern stands among the branches of a choice. -/
inductive Branch
  | whole | second | later

/-- What a choice needs beside its branches, counted at the second of them and at each after. -/
def addBranch (f : Footprint) : Branch → Footprint
  | .whole => f
  | .second => (f.addMany 2).addBranches 2
  | .later => f.addBranches 1

/-- The states of a repetition, given how a round adds its own. -/
def addRounds (consumes : Bool) (round : Footprint → Footprint) (low : Nat) (high : Option Nat)
    (f : Footprint) : Footprint :=
  match low, high with
  | 0, .none =>
    if consumes then (round (f.add 0)).addBranches 2
    else ((((round f).add 0).addBranches 1).addMany 2).addBranches 3
  | low, .none => ((iterate round low f).add 0).addBranches 2
  | 0, some 1 => ((round (f.add 0)).add 0).addBranches 2
  | low, some high =>
    let f := iterate round low (if low = 0 then f.add 0 else f)
    if low = high then f
    else iterate (fun f => (round (f.add 0)).addBranches 2) (high - low) (f.add 0)

/-- The states of a pattern. -/
def addPattern (d : Direction) : Pattern → Branch → Footprint → Footprint
  | alt p q, .whole, f =>
    match (p :: q.branches).mapM literalBytes? with
    | some words => f.addLiterals d words
    | .none => addPattern d q .second (addPattern d p .whole f)
  | alt p q, branch, f => addPattern d q .later ((addPattern d p .whole f).addBranch branch)
  | empty, branch, f => (f.add 0).addBranch branch
  | look _, branch, f => (f.add 0).addBranch branch
  | literal c cs, branch, f =>
    (f.addMany ((c :: cs).foldl (fun n c => n + c.utf8Size) 0)).addBranch branch
  | set s, branch, f => (f.addSet d s).addBranch branch
  | capture _ p, branch, f =>
    (match d with
    | .forwards => (addPattern d p .whole (f.add 0)).add 0
    | .backwards => addPattern d p .whole f).addBranch branch
  | seq p q, branch, f =>
    (match d with
    | .forwards => addPattern d q .whole (addPattern d p .whole f)
    | .backwards => addPattern d p .whole (addPattern d q .whole f)).addBranch branch
  | rounds low high _ p, branch, f =>
    (addRounds p.consumes (fun f => addPattern d p .whole f) low high f).addBranch branch

end Footprint

/-- Whether the pattern matches only where the text starts. -/
def startsText : Pattern → Bool
  | look l => l = .textStart
  | capture _ p => p.startsText
  | seq p q => p.startsText || (p.isZeroWidth && q.startsText)
  | alt p q => p.startsText && q.startsText
  | rounds low _ _ p => decide (0 < low) && p.startsText
  | _ => false

/-- Whether the pattern matches only where the text ends. -/
def endsText : Pattern → Bool
  | look l => l = .textEnd
  | capture _ p => p.endsText
  | seq p q => q.endsText || (q.isZeroWidth && p.endsText)
  | alt p q => p.endsText && q.endsText
  | rounds low _ _ p => decide (0 < low) && p.endsText
  | _ => false

/-- The automaton of a pattern: a start that skips a part of the text unless the pattern is bound to
one end, the marks of the whole match if it reads forwards, and the end. -/
def footprint (d : Direction) (p : Pattern) : Footprint :=
  let bound := match d with
    | .forwards => p.startsText
    | .backwards => p.endsText
  let f := Footprint.none.add 0
  let f := if bound then f else ((f.addTransitions 1).add 0).addBranches 2
  match d with
  | .forwards => (f.add 0).addPattern d p .whole |>.addMany 2
  | .backwards => f.addPattern d p .whole |>.add 0

/-- Whether both automata of the pattern keep within the limit. -/
def fits (p : Pattern) : Bool :=
  decide ((p.footprint .forwards).bytes ≤ Footprint.limit)
    && decide ((p.footprint .backwards).bytes ≤ Footprint.limit)

end Pattern

end RuleLexer

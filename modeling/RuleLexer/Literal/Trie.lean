/-! Prefix trees over literals, and the longest literal at the start of a text. -/

namespace RuleLexer

/-- A node has the character that leads to it, what the literal ending there stands for, the nodes
one character further, and the nodes beside it. -/
inductive Trie (α : Type)
  | nil
  | branch (label : Char) (terminal : Option α) (below beside : Trie α)
  deriving DecidableEq, Repr

namespace Trie

variable {α : Type}

def isEmpty : Trie α → Bool
  | nil => true
  | branch .. => false

/-- The tree of the one literal `c :: rest`. -/
def path (value : α) (c : Char) : List Char → Trie α
  | [] => branch c (some value) nil nil
  | d :: rest => branch c none (path value d rest) nil

/-- Adds the literal `c :: rest`, or gives it another value. -/
def insert (value : α) : Trie α → Char → List Char → Trie α
  | nil, c, rest => path value c rest
  | branch label terminal below beside, c, rest =>
    if c = label then
      match rest with
      | [] => branch label (some value) below beside
      | d :: rest => branch label terminal (insert value below d rest) beside
    else branch label terminal below (insert value beside c rest)

/-- Adds the literals from left to right. Empty literals are left out. -/
def ofPairs (pairs : List (List Char × α)) : Trie α :=
  pairs.foldl (fun t pair =>
    match pair.1 with
    | [] => t
    | c :: rest => t.insert pair.2 c rest) nil

/-- The longest literal at the start of a text, with its value. -/
def longest? : Trie α → List Char → Option (α × List Char)
  | nil, _ => none
  | branch .., [] => none
  | branch label terminal below beside, c :: rest =>
    if c = label then
      match below.longest? rest with
      | some (value, literal) => some (value, c :: literal)
      | none => terminal.map fun value => (value, [c])
    else beside.longest? (c :: rest)

end Trie

end RuleLexer

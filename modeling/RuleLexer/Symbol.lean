/-! Symbols, the tokens with fixed spellings, and enumerations of them. -/

namespace RuleLexer

/-- Symbols are told apart by their index. The name is for display, and several symbols may share
one. -/
structure Symbol where
  index : Nat
  name : String
  deriving DecidableEq, Repr

/-- A symbol and its spellings. -/
structure Variant where
  symbol : Symbol
  literals : List String
  deriving DecidableEq, Repr

abbrev Enumeration := List Variant

namespace Enumeration

/-- The enumeration that has the names in the order in which they are declared. -/
def ofNames (declared : List (String × List String)) : Enumeration :=
  declared.mapIdx fun i (name, literals) => ⟨⟨i, name⟩, literals⟩

/-- Every symbol with every literal of it, in declaration order. -/
def claims (e : Enumeration) : List (String × Symbol) :=
  e.flatMap fun v => v.literals.map fun l => (l, v.symbol)

end Enumeration

end RuleLexer

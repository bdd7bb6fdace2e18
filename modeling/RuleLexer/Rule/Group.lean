import RuleLexer.Rule.Basic

/-! Groups of rules, of which the first that applies is the one that counts. -/

namespace RuleLexer

structure RuleGroup where
  rules : List Rule
  deriving Inhabited

namespace RuleGroup

def one (r : Rule) : RuleGroup := ⟨[r]⟩

def union (g h : RuleGroup) : RuleGroup := ⟨g.rules ++ h.rules⟩

/-- The rules of all groups, in order. -/
def flatten (groups : List RuleGroup) : RuleGroup := ⟨groups.flatMap rules⟩

instance : BEq RuleGroup where
  beq g h := g.rules == h.rules

/-- The outcome of the first rule that applies. A converter that fails ends the search. -/
def applyFirst : List Rule → List Char → Except ConvertError Outcome
  | [], _ => .ok .notApplied
  | r :: rules, text =>
    match r.apply text with
    | .error e => .error e
    | .ok .notApplied => applyFirst rules text
    | .ok outcome => .ok outcome

def apply (g : RuleGroup) (text : List Char) : Except ConvertError Outcome :=
  applyFirst g.rules text

/-- The number of groups of which no two are equal. -/
def countDistinct : List RuleGroup → Nat
  | [] => 0
  | g :: groups => countDistinct groups + if groups.any (· == g) then 0 else 1

end RuleGroup

end RuleLexer

import RuleLexer.Error
import RuleLexer.Pattern.Match
import RuleLexer.Pattern.Parser
import RuleLexer.Value

/-! Rules. A rule has a pattern that matches at the start of a text only, and an action that makes
something of the matched text. -/

namespace RuleLexer

structure RuleFlags where
  ignoreCase : Bool := false
  multiLine : Bool := false
  dotAll : Bool := false
  verbose : Bool := false
  deriving DecidableEq, Repr

namespace RuleFlags

def mode (f : RuleFlags) : Pattern.Mode :=
  { Pattern.Mode.default with
    ignoreCase := f.ignoreCase, multiLine := f.multiLine, dotAll := f.dotAll, verbose := f.verbose }

/-- The flags with their names, from the lowest bit up. -/
def named (f : RuleFlags) : List (Bool × String) :=
  [(f.ignoreCase, "IGNORE_CASE"), (f.multiLine, "MULTI_LINE"), (f.dotAll, "DOT_ALL"),
   (f.verbose, "VERBOSE")]

def bits (f : RuleFlags) : Nat :=
  f.named.foldr (fun flag n => 2 * n + flag.1.toNat) 0

def display (f : RuleFlags) : String :=
  let names := (f.named.filter Prod.fst).map Prod.snd
  "RuleFlags(" ++ (if names = [] then "0x0" else " | ".intercalate names) ++ ")"

end RuleFlags

abbrev Converter := String → Except ConvertError Value

inductive Action
  | emit
  | ignore
  | convert (converter : Converter)

/-- The text that is compiled for a pattern: the pattern in a group behind an assertion that the
text starts there. The group is closed on a line of its own in verbose mode, where the pattern may
end in a comment. -/
def anchoredText (flags : RuleFlags) (pattern : List Char) : List Char :=
  ['\\', 'A', '(', '?', ':'] ++ pattern ++ (if flags.verbose then ['\n', ')'] else [')'])

/-- The pattern must be valid by itself, so that it cannot close the group around it. -/
def compile? (pattern : String) (flags : RuleFlags) : Option Pattern :=
  match Pattern.compile? flags.mode pattern.toList with
  | none => none
  | some _ => Pattern.compile? flags.mode (anchoredText flags pattern.toList)

structure Rule where
  pattern : String
  flags : RuleFlags
  matcher : Pattern
  action : Action
  compiled : compile? pattern flags = some matcher

/-- What came of applying a rule at the start of a text, with the text it matched. -/
inductive Outcome
  | notApplied
  | ignored (matched : List Char)
  | applied (value : Value) (matched : List Char)
  deriving DecidableEq, Repr

namespace Outcome

def isApplied : Outcome → Bool
  | notApplied => false
  | _ => true

/-- The number of bytes matched. -/
def len? : Outcome → Option Nat
  | notApplied => none
  | ignored matched => some (byteLength matched)
  | applied _ matched => some (byteLength matched)

end Outcome

namespace Rule

/-- A rule whose pattern is known to be valid. -/
def ofValid (pattern : String) (action : Action) (h : (compile? pattern {}).isSome) : Rule :=
  ⟨pattern, {}, (compile? pattern {}).get h, action, by simp⟩

def isIgnored (r : Rule) : Bool :=
  match r.action with
  | .ignore => true
  | _ => false

def hasConverter (r : Rule) : Bool :=
  match r.action with
  | .convert _ => true
  | _ => false

/-- Whether something else than the matched text comes of a match. -/
def hasEffect (r : Rule) : Bool :=
  match r.action with
  | .emit => false
  | _ => true

/-- Converters are not compared, nor told apart from dropping the match. -/
instance : BEq Rule where
  beq r s := r.pattern == s.pattern && r.flags == s.flags && r.hasEffect == s.hasEffect

/-- The text that the rule matches at the start of `text`. -/
def match? (r : Rule) (text : List Char) : Option (List Char) :=
  (r.matcher.matchPrefix? text).map text.take

def apply (r : Rule) (text : List Char) : Except ConvertError Outcome :=
  match r.match? text with
  | none => .ok .notApplied
  | some matched =>
    match r.action with
    | .emit => .ok (.applied (.str (String.ofList matched)) matched)
    | .ignore => .ok (.ignored matched)
    | .convert converter =>
      (converter (String.ofList matched)).map fun value => .applied value matched

def display (r : Rule) : String :=
  let action := match r.action with
    | .emit => "emit"
    | .ignore => "ignore"
    | .convert _ => "<converter>"
  "Rule \x7b pattern: " ++ quoteString r.pattern ++ ", flags: " ++ r.flags.display ++ ", action: "
    ++ quoteString action ++ " \x7d"

end Rule

/-- What a rule is to be. -/
structure RuleDraft where
  pattern : String
  flags : RuleFlags := {}
  converter : Option Converter := none
  ignore : Bool := false

namespace RuleDraft

def action? (d : RuleDraft) : Except ConfigError Action :=
  match d.ignore, d.converter with
  | true, some _ => .error (.conflictingAction d.pattern)
  | true, none => .ok .ignore
  | false, some converter => .ok (.convert converter)
  | false, none => .ok .emit

/-- The action is looked at before the pattern is. -/
def build (d : RuleDraft) : Except ConfigError Rule :=
  match d.action? with
  | .error e => .error e
  | .ok action =>
    match h : compile? d.pattern d.flags with
    | none => .error (.invalidPattern d.pattern)
    | some matcher => .ok ⟨d.pattern, d.flags, matcher, action, h⟩

end RuleDraft

end RuleLexer

import RuleLexer.Rule.Group

/-! How a tokenizer is to scan. -/

namespace RuleLexer

structure Options where
  /-- Carriage returns before line feeds are taken out before a scan. -/
  convertCrlf : Bool := true
  ignoreWhitespace : Bool := false
  /-- Characters that are skipped between tokens. -/
  ignoredCharacters : String := ""
  /-- Characters at which nothing matches are dropped, instead of ending the scan. -/
  suppressUnknown : Bool := false
  /-- The groups of rules in order of priority. -/
  rules : List RuleGroup := []

namespace Options

def whitespace : List Char := [' ', '\x0c', '\t', '\x0b', '\r', '\n']

def withRule (o : Options) (g : RuleGroup) : Options :=
  { o with rules := o.rules ++ [g] }

def withRules (o : Options) (groups : List RuleGroup) : Options :=
  { o with rules := o.rules ++ groups }

def withIgnored (o : Options) (chars : String) : Options :=
  { o with ignoredCharacters := o.ignoredCharacters ++ chars }

def ignoringWhitespace (o : Options) : Options :=
  { o with ignoreWhitespace := true }

def suppressingUnknown (o : Options) : Options :=
  { o with suppressUnknown := true }

def keepingCrlf (o : Options) : Options :=
  { o with convertCrlf := false }

/-- All ignored characters, each once. -/
def ignored (o : Options) : List Char :=
  ((if o.ignoreWhitespace then whitespace else []) ++ o.ignoredCharacters.toList).eraseDups

end Options

end RuleLexer

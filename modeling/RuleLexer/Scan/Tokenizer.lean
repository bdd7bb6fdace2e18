import RuleLexer.Literal.Table
import RuleLexer.Literal.Trie
import RuleLexer.Options
import RuleLexer.Scan.Segment
import RuleLexer.Text.Lines

/-! Tokenizers. At each place of a text a tokenizer skips an ignored character, else takes the
longest literal, else the first rule that consumes something, else the character is unknown. -/

namespace RuleLexer

structure Tokenizer where
  symbols : SymbolTable
  rules : List Rule
  /-- Ignored characters, each once. -/
  ignored : List Char
  convertCrlf : Bool
  suppressUnknown : Bool

namespace Tokenizer

def build (e : Enumeration) (o : Options) : Except ConfigError Tokenizer :=
  (SymbolTable.ofEnumeration e).map fun symbols =>
    { symbols, rules := (RuleGroup.flatten o.rules).rules, ignored := o.ignored,
      convertCrlf := o.convertCrlf, suppressUnknown := o.suppressUnknown }

/-- Without rules and with literals of one character, each character can be looked up by itself. -/
def singles? (t : Tokenizer) : Option (List (Char × Symbol)) :=
  if t.rules.isEmpty then t.symbols.singles? else none

def path (t : Tokenizer) : ScanPath :=
  if t.singles?.isSome then .fast else .general

def isFast (t : Tokenizer) : Bool := t.singles?.isSome

def trie (t : Tokenizer) : Trie Symbol :=
  Trie.ofPairs (t.symbols.entries.map fun entry => (entry.1.toList, entry.2))

/-- The number of characters that literals are looked up in. -/
def window (t : Tokenizer) : Nat := max 1 t.symbols.longest

/-- A line feed for each carriage return with a line feed after it. -/
def convertLineEnds : List Char → List Char
  | [] => []
  | '\r' :: '\n' :: rest => '\n' :: convertLineEnds rest
  | c :: rest => c :: convertLineEnds rest

/-- The text that is scanned. Where the space is ignored one is added at the end, so that a rule
which needs a character after its match can see it. -/
def scannedText (t : Tokenizer) (input : List Char) : List Char :=
  let text := if t.convertCrlf then convertLineEnds input else input
  if t.ignored.contains ' ' then text ++ [' '] else text

/-! ### The fast path -/

def scanSingles (t : Tokenizer) (singles : List (Char × Symbol)) : List Char → Scan
  | [] => ⟨[], .finished⟩
  | c :: rest =>
    if t.ignored.contains c then (scanSingles t singles rest).prepend (.skipped c)
    else match singles.find? fun entry => entry.1 == c with
      | some (_, s) => (scanSingles t singles rest).prepend (.symbol s [c])
      | none =>
        if t.suppressUnknown then (scanSingles t singles rest).prepend (.unknown c)
        else ⟨[], .invalid c⟩

/-! ### The general path -/

/-- The segment of the first rule whose match is not empty. Converters are run on empty matches
too, and one that fails ends the scan. -/
def ruleSegment? : List Rule → List Char → Except ConvertError (Option Segment)
  | [], _ => .ok none
  | r :: rules, text =>
    match r.apply text with
    | .error fault => .error fault
    | .ok (.ignored (c :: matched)) => .ok (some (.dropped (c :: matched)))
    | .ok (.applied v (c :: matched)) => .ok (some (.value r.pattern v (c :: matched)))
    | .ok _ => ruleSegment? rules text

/-- The segment at the start of the text `c :: rest`, or why there is none. -/
def nextSegment (t : Tokenizer) (trie : Trie Symbol) (c : Char) (rest : List Char) :
    Except Ending Segment :=
  if t.ignored.contains c then .ok (.skipped c)
  else match trie.longest? ((c :: rest).take t.window) with
    | some (s, literal) => .ok (.symbol s literal)
    | none =>
      match ruleSegment? t.rules (c :: rest) with
      | .error fault => .error (.failed fault)
      | .ok (some segment) => .ok segment
      | .ok none => if t.suppressUnknown then .ok (.unknown c) else .error (.invalid c)

/-- No segment is empty, so the length of the text is enough fuel. -/
def scanSegments (t : Tokenizer) (trie : Trie Symbol) : Nat → List Char → Scan
  | _, [] => ⟨[], .finished⟩
  | 0, _ :: _ => ⟨[], .finished⟩
  | fuel + 1, c :: rest =>
    match t.nextSegment trie c rest with
    | .error ending => ⟨[], ending⟩
    | .ok segment =>
      (scanSegments t trie fuel ((c :: rest).drop segment.text.length)).prepend segment

def scanGeneral (t : Tokenizer) (text : List Char) : Scan :=
  t.scanSegments t.trie text.length text

/-! ### Both -/

/-- The scan of a text as it is. -/
def scanText (t : Tokenizer) (text : List Char) : Scan :=
  match t.singles? with
  | some singles => t.scanSingles singles text
  | none => t.scanGeneral text

def scan (t : Tokenizer) (input : List Char) : Scan :=
  t.scanText (t.scannedText input)

def tokenizeWithMetrics (t : Tokenizer) (input : List Char) : Except ScanError ScanResult :=
  (t.scan input).outcome t.path

def tokenize (t : Tokenizer) (input : List Char) : Except ScanError (List Token) :=
  (t.tokenizeWithMetrics input).map ScanResult.tokens

/-- Each line is scanned by itself. An error tells the line in which it is. -/
def tokenizeLine (t : Tokenizer) (number : Nat) (line : Line) : Except ScanError (List Token) :=
  (t.tokenize line.text).mapError (.onLine number line.start)

def tokenizeLinesFrom (t : Tokenizer) (number : Nat) :
    List Line → Except ScanError (List (List Token))
  | [] => .ok []
  | line :: lines =>
    match t.tokenizeLine number line with
    | .error e => .error e
    | .ok tokens =>
      match tokenizeLinesFrom t (number + 1) lines with
      | .error e => .error e
      | .ok rest => .ok (tokens :: rest)

/-- The tokens of every line, or the error of the first line that has one. -/
def tokenizeLines (t : Tokenizer) (input : List Char) : Except ScanError (List (List Token)) :=
  t.tokenizeLinesFrom 1 (Line.split input)

/-! ### Records -/

/-- What is recorded when a tokenizer is built. -/
def summary (t : Tokenizer) : String :=
  t.symbols.size.repr ++ " literals, " ++ t.rules.length.repr ++ " rules, "
    ++ t.ignored.length.repr ++ " ignored chars, window=" ++ t.window.repr ++ ", path="
    ++ t.path.display

/-- What is recorded in a scan. -/
def trace (t : Tokenizer) (input : List Char) : List TraceRecord :=
  (t.scan input).trace t.path

/-- What is recorded line by line, up to the first line that has an error. -/
def traceLines (t : Tokenizer) : List Line → List TraceRecord
  | [] => []
  | line :: lines =>
    t.trace line.text ++
      match t.tokenize line.text with
      | .ok _ => traceLines t lines
      | .error _ => []

end Tokenizer

end RuleLexer

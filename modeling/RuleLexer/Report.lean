import RuleLexer.Scan.Segment

/-! Reports of a run on a terminal, with or without color. All text of the input is quoted in them,
so that only the report itself writes control sequences and line breaks. -/

namespace RuleLexer

/-- Control sequences that change how the text after them looks. -/
inductive Style
  | reset | bold | dim
  | red | green | yellow | blue | cyan | gray
  deriving DecidableEq, Repr

def Style.code : Style → String
  | reset => "0"
  | bold => "1"
  | dim => "2"
  | red => "31"
  | green => "32"
  | yellow => "33"
  | blue => "34"
  | cyan => "36"
  | gray => "90"

def Style.sequence (s : Style) : String := "\x1b[" ++ s.code ++ "m"

/-- Text in a style, or as it is where color is off. -/
def paint (color : Bool) (style : Style) (text : String) : String :=
  if color then style.sequence ++ text ++ Style.reset.sequence else text

@[simp] theorem paint_false (style : Style) (text : String) : paint false style text = text := rfl

namespace Report

def unlines (lines : List String) : String :=
  String.join (lines.map (· ++ "\n"))

@[simp] theorem unlines_nil : unlines [] = "" := rfl

@[simp] theorem unlines_cons (line : String) (lines : List String) :
    unlines (line :: lines) = line ++ "\n" ++ unlines lines := by
  simp [unlines]

theorem unlines_append (a b : List String) : unlines (a ++ b) = unlines a ++ unlines b := by
  simp [unlines]

def header (color : Bool) (input : String) : List String :=
  ["", paint color .bold (paint color .cyan ("⚙  Tokenizing: " ++ quoteString input))]

def heading (color : Bool) (style : Style) (text : String) : List String :=
  ["", paint color style text]

def token (color : Bool) : Token → String
  | .symbol s =>
    paint color .bold (paint color .green s.name) ++ " " ++ paint color .dim "symbol"
  | .value v => paint color .yellow v.display ++ " " ++ paint color .dim "value"

def numberedTokens (color : Bool) (tokens : List Token) : List String :=
  tokens.mapIdx fun i t => "  " ++ paint color .gray ("[" ++ i.repr ++ "]") ++ " " ++ token color t

def counts (color : Bool) (m : ScanMetrics) : String :=
  "  Path: " ++ paint color .cyan m.path.display
    ++ "  │  Symbols: " ++ paint color .blue m.symbolHits.repr
    ++ "  │  Rules: " ++ paint color .blue m.ruleHits.repr
    ++ "  │  Ignored: " ++ paint color .dim m.ignoredMatches.repr
    ++ "  │  Suppressed: "
    ++ paint color (if 0 < m.suppressed then .yellow else .gray) m.suppressed.repr

/-- The report of a text scanned as a whole, in `elapsed` time. -/
def run (color : Bool) (input elapsed : String) (r : ScanResult) : String :=
  unlines (header color input
    ++ heading color .gray "━━━ Tokens ━━━"
    ++ (if r.tokens = [] then [paint color .dim "  No tokens produced"]
        else numberedTokens color r.tokens)
    ++ heading color .gray "━━━ Scan ━━━"
    ++ [counts color r.metrics, "  Total: " ++ paint color .green elapsed, ""])

def line (color : Bool) (number : Nat) (tokens : List Token) : List String :=
  ("  " ++ paint color .blue ("line " ++ number.repr))
    :: (if tokens = [] then ["    " ++ paint color .dim "(empty)"]
        else tokens.map fun t => "    " ++ token color t)

/-- The report of a text scanned line by line. -/
def lines (color : Bool) (input : String) (ls : List (List Token)) : String :=
  unlines (header color input
    ++ heading color .gray "━━━ Lines ━━━"
    ++ (if ls = [] then [paint color .dim "  No lines"] else [])
    ++ (ls.mapIdx fun i tokens => line color (i + 1) tokens).flatten
    ++ [""])

def hints (color : Bool) : List String :=
  heading color .yellow "Possible reasons:"
    ++ ["  • No symbol literal or rule matches at this position",
        "  • The character should be ignored (--ignore, --ignore-whitespace)",
        "  • Unknown input should be dropped (--suppress-unknown)"]
    ++ heading color .dim "  Tip: Set RUST_LOG=petalex=trace to see every recognized token"

def error (color : Bool) (input : String) (e : ScanError) : String :=
  unlines (header color input
    ++ ["", paint color .bold (paint color .red "✗") ++ " " ++ paint color .red e.message]
    ++ (match e with
        | .invalidToken .. => hints color
        | .convert _ => [])
    ++ [""])

/-- A time in the largest unit of which it has one, without zeros at the end. -/
def duration (nanoseconds : Nat) : String :=
  let inUnit (places : Nat) (name : String) :=
    let fraction := nanoseconds % Nat.pow 10 places
    let digits := (Nat.toDigits 10 (Nat.pow 10 places + fraction)).drop 1
    let kept := (digits.reverse.dropWhile (· == '0')).reverse
    (nanoseconds / Nat.pow 10 places).repr ++ (if kept = [] then "" else "." ++ String.ofList kept)
      ++ name
  if 1000000000 ≤ nanoseconds then inUnit 9 "s"
  else if 1000000 ≤ nanoseconds then inUnit 6 "ms"
  else if 1000 ≤ nanoseconds then inUnit 3 "µs"
  else inUnit 0 "ns"

end Report

end RuleLexer

import RuleLexer.Report
import RuleLexer.Rule.Library
import RuleLexer.Scan.Tokenizer

/-! The command line: arguments, what they ask for, and the response to it. -/

namespace RuleLexer

namespace CommandLine

/-- The operators and brackets that `--operators` turns on. -/
def operators : Enumeration := .ofNames [
  ("Add", ["+"]), ("Sub", ["-"]), ("Mul", ["*"]), ("Div", ["/"]), ("Pow", ["**"]), ("Mod", ["%"]),
  ("Eq", ["="]), ("LParen", ["("]), ("RParen", [")"])]

structure Settings where
  input : Option String := none
  options : Options := {}
  operators : Bool := false
  lines : Bool := false
  color : Bool := false

inductive UsageError
  | missingValue (option : String)
  | repeatedInput
  | unknownOption (argument : String)
  | unknownRule (name : String)
  | unreadableInput
  | noInput
  deriving DecidableEq, Repr

inductive Request
  | help
  | version
  | scan (s : Settings)

def version : String := "petalex 0.1.0"

def help : String :=
  Report.unlines [
    version,
    "",
    "Rule-driven tokenizer CLI.",
    "",
    "Usage:",
    "  petalex [OPTIONS] [--] <input...>",
    "  petalex [OPTIONS] --input <text>",
    "",
    "Options:",
    "  -i, --input <text>         Input text to tokenize. If omitted, reads remaining",
    "                             args or stdin when no args are provided.",
    "  --rule <name>              Add a library rule (repeatable, tried in order).",
    "                             Known: " ++ ", ".intercalate Library.names,
    "  --operators                Recognize arithmetic operators and brackets.",
    "  -w, --ignore-whitespace    Skip spaces, tabs and line breaks.",
    "  --ignore <chars>           Skip these characters.",
    "  --suppress-unknown         Drop characters nothing matches instead of failing.",
    "  --keep-crlf                Do not convert \\r\\n to \\n.",
    "  --lines                    Tokenize each line on its own.",
    "  --color                    Force ANSI color output.",
    "  --no-color                 Disable ANSI color output.",
    "  -h, --help                 Show this help message.",
    "  -V, --version              Print version information.",
    "",
    "Logging:",
    "  RUST_LOG=petalex=debug     Tokenizer construction details.",
    "  RUST_LOG=petalex=trace     Every recognized or suppressed character.",
    "",
    "Exit codes:",
    "  0  Success.",
    "  1  Tokenization failed.",
    "  2  Invalid arguments, configuration or missing input."]

def UsageError.message : UsageError → String
  | missingValue option => "error: " ++ option ++ " expects a value"
  | repeatedInput => "error: input provided multiple times"
  | unknownOption argument => "error: unknown option '" ++ argument ++ "'"
  | unknownRule name =>
    "error: unknown rule '" ++ name ++ "' (known: " ++ ", ".intercalate Library.names ++ ")"
  | unreadableInput => "error: failed to read stdin: stream did not contain valid UTF-8"
  | noInput => "error: no input provided\n\n" ++ help

/-! ### Arguments -/

/-- Options that stand alone. -/
inductive Toggle
  | color | noColor | operators | lines | ignoreWhitespace | suppressUnknown | keepCrlf
  deriving DecidableEq, Repr

/-- Options that take a value. -/
inductive Valued
  | ignore | rule | input
  deriving DecidableEq, Repr

def Valued.name : Valued → String
  | ignore => "--ignore"
  | rule => "--rule"
  | input => "--input"

inductive Argument
  | help
  | version
  | toggle (t : Toggle)
  | valued (v : Valued)
  /-- An option with its value in the same argument. -/
  | attached (v : Valued) (value : String)
  /-- What follows is input. -/
  | separator
  | unknown
  | text
  deriving DecidableEq, Repr

/-- The spellings of arguments that are an option as a whole. -/
def spellings : List (String × Argument) := [
  ("-h", .help), ("--help", .help), ("-V", .version), ("--version", .version),
  ("--color", .toggle .color), ("--no-color", .toggle .noColor),
  ("--operators", .toggle .operators), ("--lines", .toggle .lines),
  ("-w", .toggle .ignoreWhitespace), ("--ignore-whitespace", .toggle .ignoreWhitespace),
  ("--suppress-unknown", .toggle .suppressUnknown), ("--keep-crlf", .toggle .keepCrlf),
  ("--ignore", .valued .ignore), ("--rule", .valued .rule),
  ("--input", .valued .input), ("-i", .valued .input), ("--", .separator)]

/-- Takes `start` off a text as often as it stands at its beginning. -/
def stripAll (start : List Char) : Nat → List Char → List Char
  | 0, text => text
  | fuel + 1, text =>
    if start.isPrefixOf text then stripAll start fuel (text.drop start.length) else text

/-- The value in an argument such as `--rule=int`. -/
def attached? (v : Valued) (argument : String) : Option Argument :=
  let start := v.name.toList ++ ['=']
  if start.isPrefixOf argument.toList then
    some (.attached v (String.ofList (stripAll start argument.length argument.toList)))
  else none

def Argument.ofString (argument : String) : Argument :=
  match spellings.find? fun entry => entry.1 == argument with
  | some (_, a) => a
  | none =>
    match (attached? .rule argument).or
        ((attached? .ignore argument).or (attached? .input argument)) with
    | some a => a
    | none => if ['-'].isPrefixOf argument.toList then .unknown else .text

namespace Settings

def toggle (s : Settings) : Toggle → Settings
  | .color => { s with color := true }
  | .noColor => { s with color := false }
  | .operators => { s with operators := true }
  | .lines => { s with lines := true }
  | .ignoreWhitespace => { s with options := s.options.ignoringWhitespace }
  | .suppressUnknown => { s with options := s.options.suppressingUnknown }
  | .keepCrlf => { s with options := s.options.keepingCrlf }

def setInput (s : Settings) (text : String) : Except UsageError Settings :=
  match s.input with
  | some _ => .error .repeatedInput
  | none => .ok { s with input := some text }

/-- Rules are known by their names in any case. -/
def set (s : Settings) (v : Valued) (value : String) : Except UsageError Settings :=
  match v with
  | .ignore => .ok { s with options := s.options.withIgnored value }
  | .rule =>
    match Library.named? (String.ofList (value.toList.map Char.toLower)) with
    | some g => .ok { s with options := s.options.withRule g }
    | none => .error (.unknownRule value)
  | .input => s.setInput value

end Settings

def joinWords (words : List String) : String := " ".intercalate words

/-- Reads arguments from left to right. The first that is no option begins the input, which goes on
to the last argument. -/
def readArguments (s : Settings) : List String → Except UsageError Request
  | [] => .ok (.scan s)
  | argument :: rest =>
    match Argument.ofString argument with
    | .help => .ok .help
    | .version => .ok .version
    | .toggle t => readArguments (s.toggle t) rest
    | .valued v =>
      match rest with
      | [] => .error (.missingValue v.name)
      | value :: rest =>
        match s.set v value with
        | .error e => .error e
        | .ok s => readArguments s rest
    | .attached v value =>
      match s.set v value with
      | .error e => .error e
      | .ok s => readArguments s rest
    | .separator =>
      let input := joinWords rest
      if input = "" then .ok (.scan s) else (s.setInput input).map .scan
    | .unknown => .error (.unknownOption argument)
    | .text => (s.setInput (joinWords (argument :: rest))).map .scan

/-! ### Responses -/

structure Response where
  exit : Nat
  stdout : String
  stderr : String
  deriving DecidableEq, Repr

def Response.usage (e : UsageError) : Response := ⟨2, "", e.message ++ "\n"⟩

/-- What a scan comes to. -/
inductive ScanOutput
  | run (r : ScanResult)
  | lines (ls : List (List Token))
  | error (e : ScanError)

def Settings.enumeration (s : Settings) : Enumeration :=
  if s.operators then CommandLine.operators else []

def Settings.scan (s : Settings) (t : Tokenizer) (input : String) : ScanOutput :=
  if s.lines then
    match t.tokenizeLines input.toList with
    | .ok ls => .lines ls
    | .error e => .error e
  else
    match t.tokenizeWithMetrics input.toList with
    | .ok r => .run r
    | .error e => .error e

def ScanOutput.response (color : Bool) (input elapsed : String) : ScanOutput → Response
  | run r => ⟨0, Report.run color input elapsed r, ""⟩
  | lines ls => ⟨0, Report.lines color input ls, ""⟩
  | error e => ⟨1, Report.error color input e, ""⟩

/-- The text that standard input holds. -/
def decodeInput (stdin : ByteArray) : Except UsageError String :=
  match String.fromUTF8? stdin with
  | some text => .ok text
  | none => .error .unreadableInput

/-- The input of the settings, or else what standard input holds. -/
def Settings.inputText (s : Settings) (stdin : ByteArray) : Except UsageError String :=
  match s.input.elim (decodeInput stdin) .ok with
  | .error e => .error e
  | .ok text => if text = "" then .error .noInput else .ok text

/-- The input and the tokenizer that settings ask for. -/
def Settings.prepare (s : Settings) (stdin : ByteArray) : Except Response (String × Tokenizer) :=
  match s.inputText stdin with
  | .error e => .error (.usage e)
  | .ok input =>
    match Tokenizer.build s.enumeration s.options with
    | .error e => .error ⟨2, "", "error: " ++ e.message ++ "\n"⟩
    | .ok t => .ok (input, t)

/-- The response to what needs no scan, or else the settings of the scan. -/
def start (color : Bool) (arguments : List String) : Except Response Settings :=
  match readArguments { color } arguments with
  | .error e => .error (.usage e)
  | .ok .help => .error ⟨0, help ++ "\n", ""⟩
  | .ok .version => .error ⟨0, version ++ "\n", ""⟩
  | .ok (.scan s) => .ok s

/-- The response to a command line, where color is on or off at first. A scan is reported to have
taken the time `elapsed`. -/
def respond (color : Bool) (arguments : List String) (stdin : ByteArray) (elapsed : String) :
    Response :=
  match start color arguments with
  | .error r => r
  | .ok s =>
    match s.prepare stdin with
    | .error r => r
    | .ok (input, t) => (s.scan t input).response s.color input elapsed

end CommandLine

end RuleLexer

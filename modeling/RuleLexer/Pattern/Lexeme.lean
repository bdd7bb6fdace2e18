import RuleLexer.Pattern.Class
import RuleLexer.Pattern.Look
import RuleLexer.Pattern.Trivia
import RuleLexer.Unicode.Additions

/-! The lexemes of a pattern text. How a text is cut into lexemes depends on the mode only through
its being verbose. -/

namespace RuleLexer

namespace Pattern

inductive Atom
  | literal (l : Literal)
  | dot
  | caret
  | dollar
  | textStart
  | textEnd
  | word (edge : WordEdge)
  /-- A class and how deep its brackets are nested. -/
  | set (c : Class) (depth : Nat)
  deriving DecidableEq

/-- What an opening parenthesis opens. -/
inductive Opening
  | group (changes : ModeChange)
  /-- A group that is counted and may have a name. -/
  | capture (name : Option (List Char))
  deriving DecidableEq

inductive Lexeme
  | atom (a : Atom)
  | repetition (low : Nat) (high : Option Nat) (marked : Bool)
  | bar
  | opening (o : Opening)
  /-- A change of mode for the rest of the group around it. -/
  | directive (changes : ModeChange)
  | closing
  deriving DecidableEq

def Atom.char (c : Char) : Atom := literal ⟨c, false⟩

/-! ### Escapes -/

/-- Characters that mean something and that a backslash makes literal. -/
def isMeta (c : Char) : Bool :=
  ['\\', '.', '+', '*', '?', '(', ')', '|', '[', ']', '\x7b', '\x7d', '^', '$', '#', '&', '-',
    '~'].contains c

/-- ASCII characters that a backslash leaves as they are, though they need none. -/
def isEscapable (c : Char) : Bool :=
  isMeta c || (decide (c.toNat < 0x80) && !c.isAlphanum && c != '<' && c != '>')

/-- A character by its code point in hexadecimal: after `x` two digits, after `u` four, after `U`
eight, or any number of them in braces. -/
def readCodePoint? (verbose : Bool) (count : Nat) (text : List Char) : Option (Atom × List Char) :=
  match skip verbose text with
  | '\x7b' :: rest => do
    let (digits, rest) ← readUntil? '\x7d' verbose false rest
    let c ← charOfHex? digits
    some (.char c, rest)
  | rest => do
    let (point, rest) ← readHex? verbose false count 0 rest
    let c ← charOfPoint? point
    some (.literal ⟨c, count == 2⟩, rest)

/-- Text before and after the first `mark`. -/
def splitAt? (mark : Char) (text : List Char) : Option (List Char × List Char) :=
  match text.dropWhile (· != mark) with
  | [] => none
  | _ :: rest => some (text.takeWhile (· != mark), rest)

/-- Text before and after the first `!=`. -/
def splitAtUnequal? : List Char → Option (List Char × List Char)
  | [] => none
  | '!' :: '=' :: rest => some ([], rest)
  | c :: rest => (splitAtUnequal? rest).map fun (before, after) => (c :: before, after)

/-- A class by the name of a property, or by the name and a value that the property has or, after
`!=`, has not. -/
def propertyClass? (negated : Bool) (text : List Char) : Option Class :=
  match splitAtUnequal? text with
  | some (name, value) =>
    (Unicode.Property.valued? (String.ofList name) (String.ofList value)).map fun p =>
      .property p !negated
  | none =>
    match (splitAt? ':' text).or (splitAt? '=' text) with
    | some (name, value) =>
      (Unicode.Property.valued? (String.ofList name) (String.ofList value)).map fun p =>
        .property p negated
    | none => (Unicode.Property.named? (String.ofList text)).map fun p => .property p negated

/-- The property after `p` or `P`: a name in braces or of one character. -/
def readProperty? (verbose negated : Bool) (text : List Char) : Option (Atom × List Char) :=
  match skip verbose text with
  | [] => none
  | '\x7b' :: rest => do
    let (name, rest) ← readUntil? '\x7d' verbose false rest
    let body ← propertyClass? negated name
    some (.set body 0, rest)
  | '\\' :: _ => none
  | c :: rest => do
    let p ← Unicode.Property.named? (String.ofList [c])
    some (.set (.property p negated) 0, rest)

/-- The word edges that have names. -/
def wordEdges : List (String × WordEdge) :=
  [("start", .start), ("end", .stop), ("start-half", .startHalf), ("end-half", .stopHalf)]

/-- The edge after `b`: a name in braces, or none. Braces that do not begin with a letter or a
hyphen are left to be read as a repetition. -/
def readWordEdge? (verbose : Bool) (text : List Char) : Option (Atom × List Char) :=
  match text with
  | '\x7b' :: rest =>
    match readUntil? '\x7d' verbose false rest with
    | none => none
    | some ([], _) => some (.word .boundary, text)
    | some (c :: name, rest) =>
      if c.isAlpha || c == '-' then
        (wordEdges.find? fun entry => entry.1.toList == c :: name).map fun entry =>
          (.word entry.2, rest)
      else some (.word .boundary, text)
  | _ => some (.word .boundary, text)

/-- The atom after a backslash. -/
def readEscape? (verbose : Bool) : List Char → Option (Atom × List Char)
  | [] => none
  | c :: rest =>
    match c with
    | 'x' => readCodePoint? verbose 2 rest
    | 'u' => readCodePoint? verbose 4 rest
    | 'U' => readCodePoint? verbose 8 rest
    | 'p' => readProperty? verbose false rest
    | 'P' => readProperty? verbose true rest
    | 'd' => some (.set (.shorthand .digit false) 0, rest)
    | 'D' => some (.set (.shorthand .digit true) 0, rest)
    | 's' => some (.set (.shorthand .space false) 0, rest)
    | 'S' => some (.set (.shorthand .space true) 0, rest)
    | 'w' => some (.set (.shorthand .word false) 0, rest)
    | 'W' => some (.set (.shorthand .word true) 0, rest)
    | 'a' => some (.char '\x07', rest)
    | 'f' => some (.char '\x0c', rest)
    | 't' => some (.char '\t', rest)
    | 'n' => some (.char '\n', rest)
    | 'r' => some (.char '\r', rest)
    | 'v' => some (.char '\x0b', rest)
    | 'A' => some (.textStart, rest)
    | 'z' => some (.textEnd, rest)
    | 'b' => readWordEdge? verbose rest
    | 'B' => some (.word .inside, rest)
    | '<' => some (.word .start, rest)
    | '>' => some (.word .stop, rest)
    | c => if isEscapable c then some (.char c, rest) else none

/-! ### Bracketed classes -/

/-- A class and the depth of nesting that it adds. -/
structure ClassTree where
  body : Class
  depth : Nat
  deriving DecidableEq

def ClassTree.unite : List ClassTree → ClassTree
  | [] => ⟨.nothing, 0⟩
  | [t] => t
  | t :: ts =>
    ⟨(t :: ts).foldr (fun t c => .union t.body c) .nothing,
      (t :: ts).foldr (fun t d => max t.depth d) 0 + 1⟩

/-- The operand to the left of an operator, the operator, and the items read since. -/
def ClassTree.combine (left : Option (ClassTree × SetOperation)) (items : List ClassTree) :
    ClassTree :=
  let right := unite items
  match left with
  | none => right
  | some (l, op) => ⟨.operation op l.body right.body, max l.depth right.depth + 1⟩

/-- A class item that is one character or has a name. -/
def Atom.classItem? : Atom → Option Class
  | literal l => some (.literal l)
  | set c _ => some c
  | _ => none

def Atom.literal? : Atom → Option Literal
  | literal l => some l
  | _ => none

def readClassAtom? (verbose : Bool) : List Char → Option (Atom × List Char)
  | [] => none
  | '\\' :: rest => readEscape? verbose rest
  | c :: rest => some (.char c, rest)

/-- The character that decides whether a hyphen before it stands for a range. In verbose mode it
is the first after white space and, at most, one `#`. -/
def peek (verbose : Bool) (text : List Char) : Option Char :=
  if verbose then
    match text.dropWhile Unicode.isWhiteSpace with
    | '#' :: rest => (rest.dropWhile Unicode.isWhiteSpace).head?
    | rest => rest.head?
  else text.head?

/-- An item of a class: a range or what stands alone. A hyphen before a closing bracket or another
hyphen does not make a range. -/
def readClassItem? (verbose : Bool) (text : List Char) : Option (ClassTree × List Char) := do
  let (first, rest) ← readClassAtom? verbose text
  match skip verbose rest with
  | '-' :: after =>
    let next := peek verbose after
    if next = some ']' ∨ next = some '-' then
      let item ← first.classItem?
      some (⟨item, 0⟩, '-' :: after)
    else
      let (last, rest) ← readClassAtom? verbose (skip verbose after)
      let first ← first.literal?
      let last ← last.literal?
      if first.char ≤ last.char then some (⟨.range first last, 0⟩, rest) else none
  | rest =>
    let item ← first.classItem?
    some (⟨item, 0⟩, rest)

/-- The name of an ASCII class up to `:]`. -/
def readPosixName? (negated : Bool) (text : List Char) : Option (ClassTree × List Char) :=
  match text.dropWhile (· != ':') with
  | _ :: ']' :: after =>
    (posixRanges? (text.takeWhile (· != ':'))).map fun ranges => (⟨.posix ranges negated, 0⟩, after)
  | _ => none

/-- An ASCII class after its opening bracket. -/
def readPosix? : List Char → Option (ClassTree × List Char)
  | ':' :: '^' :: rest => readPosixName? true rest
  | ':' :: rest => readPosixName? false rest
  | _ => none

/-- The hyphens at the start of a class, which stand for themselves. -/
def readHyphens (verbose inComment : Bool) : List Char → Nat × List Char
  | [] => (0, [])
  | c :: rest =>
    if inComment then readHyphens verbose (c != '\n') rest
    else if c = '-' then
      let (n, rest) := readHyphens verbose false rest
      (n + 1, rest)
    else if verbose && Unicode.isWhiteSpace c then readHyphens verbose false rest
    else if verbose && c == '#' then readHyphens verbose true rest
    else (0, c :: rest)

/-- Whether a class is negated. -/
def readNegation (verbose : Bool) (text : List Char) : Bool × List Char :=
  match skip verbose text with
  | '^' :: rest => (true, skip verbose rest)
  | rest => (false, rest)

/-- Whether a class is negated, and its first items: hyphens, or else a closing bracket. -/
def readClassOpening (verbose : Bool) (text : List Char) : Bool × List ClassTree × List Char :=
  let (negated, rest) := readNegation verbose text
  let char c : ClassTree := ⟨.literal ⟨c, false⟩, 0⟩
  match readHyphens verbose false rest with
  | (0, ']' :: rest) => (negated, [char ']'], rest)
  | (n, rest) => (negated, List.replicate n (char '-'), rest)

/-- The rest of a class up to its closing bracket. Nested classes need fuel for their depth, and
items for their number; the length of the text is enough. -/
def readClassItems? (verbose negated : Bool) :
    Nat → Option (ClassTree × SetOperation) → List ClassTree → List Char →
      Option (ClassTree × List Char)
  | 0, _, _, _ => none
  | fuel + 1, left, items, text =>
    let operate op := readClassItems? verbose negated fuel (some (.combine left items, op)) []
    match skip verbose text with
    | [] => none
    | ']' :: rest =>
      let tree := ClassTree.combine left items
      some (⟨.bracket tree.body negated, tree.depth + 1⟩, rest)
    | '&' :: '&' :: rest => operate .intersection rest
    | '-' :: '-' :: rest => operate .difference rest
    | '~' :: '~' :: rest => operate .symmetricDifference rest
    | '[' :: rest =>
      match readPosix? rest with
      | some (item, rest) => readClassItems? verbose negated fuel left (items ++ [item]) rest
      | none =>
        let (inner, first, rest) := readClassOpening verbose rest
        match readClassItems? verbose inner fuel none first rest with
        | some (item, rest) => readClassItems? verbose negated fuel left (items ++ [item]) rest
        | none => none
    | text =>
      match readClassItem? verbose text with
      | some (item, rest) => readClassItems? verbose negated fuel left (items ++ [item]) rest
      | none => none

/-- The class after its opening bracket. -/
def readClass? (verbose : Bool) (text : List Char) : Option (Atom × List Char) := do
  let (negated, first, rest) := readClassOpening verbose text
  let (tree, rest) ← readClassItems? verbose negated (rest.length + 1) none first rest
  some (.set tree.body tree.depth, rest)

/-! ### Repetitions and groups -/

/-- A repetition may be marked by a question mark right after it. -/
def readMark (low : Nat) (high : Option Nat) : List Char → Lexeme × List Char
  | '?' :: rest => (.repetition low high true, rest)
  | rest => (.repetition low high false, rest)

/-- A decimal number below `2 ^ 32` with white space around it. -/
def bound? (text : List Char) : Option Nat :=
  let digits := (text.dropWhile Unicode.isWhiteSpace).takeWhile Char.isDigit
  let rest := (text.dropWhile Unicode.isWhiteSpace).dropWhile Char.isDigit
  let n := digits.foldl (fun n c => 10 * n + (c.toNat - '0'.toNat)) 0
  if digits ≠ [] ∧ rest.all Unicode.isWhiteSpace ∧ n < 4294967296 then some n else none

/-- The bounds of a repetition: one number, a lower bound and a comma, or two bounds. -/
def bounds? (text : List Char) : Option (Nat × Option Nat) :=
  match splitAt? ',' text with
  | none => (bound? text).map fun n => (n, some n)
  | some (low, []) => (bound? low).map fun n => (n, none)
  | some (low, high) => do
    let low ← bound? low
    let high ← bound? high
    if low ≤ high then some (low, some high) else none

def readBounds? (verbose : Bool) (text : List Char) : Option (Lexeme × List Char) := do
  let (content, rest) ← readUntil? '\x7d' verbose false text
  let (low, high) ← bounds? content
  some (readMark low high (skip verbose rest))

def isNameStart (c : Char) : Bool := c == '_' || Unicode.isAlphabetic c

def isNameRest (c : Char) : Bool :=
  c == '_' || c == '.' || c == '[' || c == ']' || Unicode.isAlphanumeric c

/-- The name of a group up to `>`. -/
def readName? (text : List Char) : Option (Lexeme × List Char) :=
  match splitAt? '>' text with
  | some (c :: name, rest) =>
    if isNameStart c && name.all isNameRest then some (.opening (.capture (some (c :: name))), rest)
    else none
  | _ => none

/-- Switches up to the colon of a group or the parenthesis that closes a directive. A switch may
stand once. Those after a hyphen are turned off, and at least one must follow it. -/
def readSwitches? (negative dangling : Bool) (seen : List Switch) :
    List Char → Option (ModeChange × Bool × List Char)
  | [] => none
  | ':' :: rest => if dangling then none else some ([], true, rest)
  | ')' :: rest => if dangling then none else some ([], false, rest)
  | '-' :: rest => if negative then none else readSwitches? true true seen rest
  | c :: rest =>
    match Switch.ofLetter? c with
    | none => none
    | some switch =>
      if seen.contains switch then none
      else (readSwitches? negative false (switch :: seen) rest).map fun (changes, rest) =>
        ((switch, !negative) :: changes, rest)

/-- What follows an opening parenthesis. There are no assertions about longer texts. -/
def readOpening? (text : List Char) : Option (Lexeme × List Char) :=
  match text with
  | '?' :: 'P' :: '<' :: rest => readName? rest
  | '?' :: '<' :: '=' :: _ => none
  | '?' :: '<' :: '!' :: _ => none
  | '?' :: '<' :: rest => readName? rest
  | '?' :: rest =>
    match readSwitches? false false [] rest with
    | none => none
    | some (changes, true, rest) => some (.opening (.group changes), rest)
    | some ([], false, _) => none
    | some (changes, false, rest) => some (.directive changes, rest)
  | _ => some (.opening (.capture none), text)

namespace Lexeme

/-- The first lexeme of a text that begins with one, and the text after it. -/
def read? (verbose : Bool) : List Char → Option (Lexeme × List Char)
  | [] => none
  | c :: rest =>
    match c with
    | '(' => readOpening? (skip verbose rest)
    | ')' => some (closing, rest)
    | '|' => some (bar, rest)
    | '[' => (readClass? verbose rest).map fun (a, rest) => (atom a, rest)
    | '?' => some (readMark 0 (some 1) rest)
    | '*' => some (readMark 0 none rest)
    | '+' => some (readMark 1 none rest)
    | '\x7b' => readBounds? verbose rest
    | '\\' => (readEscape? verbose rest).map fun (a, rest) => (atom a, rest)
    | '.' => some (atom .dot, rest)
    | '^' => some (atom .caret, rest)
    | '$' => some (atom .dollar, rest)
    | c => some (atom (.char c), rest)

end Lexeme

end Pattern

end RuleLexer

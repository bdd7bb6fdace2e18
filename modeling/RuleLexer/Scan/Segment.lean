import RuleLexer.Error
import RuleLexer.Token

/-! Segments, the pieces into which a scan cuts a text, and what can be told from them: tokens,
counts, and the records of a trace. -/

namespace RuleLexer

inductive Segment
  /-- An ignored character. -/
  | skipped (c : Char)
  | symbol (s : Symbol) (literal : List Char)
  /-- What a rule made of the text it matched. -/
  | value (pattern : String) (v : Value) (text : List Char)
  /-- The match of a rule that drops what it matches. -/
  | dropped (text : List Char)
  /-- A character at which nothing matches. -/
  | unknown (c : Char)
  deriving DecidableEq, Repr

namespace Segment

def text : Segment → List Char
  | skipped c => [c]
  | symbol _ literal => literal
  | value _ _ text => text
  | dropped text => text
  | unknown c => [c]

def token? : Segment → Option Token
  | symbol s _ => some (.symbol s)
  | value _ v _ => some (.value v)
  | _ => none

def isSymbol : Segment → Bool
  | symbol .. => true
  | _ => false

def isValue : Segment → Bool
  | value .. => true
  | _ => false

def isDropped : Segment → Bool
  | dropped _ => true
  | _ => false

def isUnknown : Segment → Bool
  | unknown _ => true
  | _ => false

end Segment

/-- How a scan ends. -/
inductive Ending
  | finished
  /-- Nothing matches at a character. -/
  | invalid (c : Char)
  | failed (fault : ConvertError)
  deriving DecidableEq, Repr

/-- The segments of a text up to its end, or up to where the scan has to stop. -/
structure Scan where
  segments : List Segment
  ending : Ending
  deriving DecidableEq, Repr

inductive ScanPath
  | fast | general
  deriving DecidableEq, Repr

def ScanPath.display : ScanPath → String
  | fast => "fast"
  | general => "general"

structure ScanMetrics where
  path : ScanPath
  symbolHits : Nat
  ruleHits : Nat
  ignoredMatches : Nat
  suppressed : Nat
  deriving DecidableEq, Repr

/-- The number of tokens. -/
def ScanMetrics.total (m : ScanMetrics) : Nat := m.symbolHits + m.ruleHits

structure ScanResult where
  tokens : List Token
  metrics : ScanMetrics
  deriving DecidableEq, Repr

/-- A record of a trace, with bytes of the scanned text. -/
inductive TraceRecord
  | symbol (s : Symbol) (start stop : Nat)
  | rule (pattern : String) (v : Value)
  | suppressed (c : Char) (start : Nat)
  deriving DecidableEq, Repr

def TraceRecord.message : TraceRecord → String
  | symbol s start stop => "symbol " ++ s.name ++ " at " ++ start.repr ++ ".." ++ stop.repr
  | rule pattern v => "rule " ++ quoteString pattern ++ " produced " ++ v.display
  | suppressed c start => "suppressed " ++ quoteChar c ++ " at " ++ start.repr

namespace Scan

def prepend (segment : Segment) (s : Scan) : Scan := ⟨segment :: s.segments, s.ending⟩

@[simp] theorem segments_prepend (segment : Segment) (s : Scan) :
    (s.prepend segment).segments = segment :: s.segments := rfl

@[simp] theorem ending_prepend (segment : Segment) (s : Scan) :
    (s.prepend segment).ending = s.ending := rfl

/-- The text that the segments cover. -/
def covered (s : Scan) : List Char := s.segments.flatMap Segment.text

@[simp] theorem covered_prepend (segment : Segment) (s : Scan) :
    (s.prepend segment).covered = segment.text ++ s.covered := rfl

def tokens (s : Scan) : List Token := s.segments.filterMap Segment.token?

def metrics (s : Scan) (path : ScanPath) : ScanMetrics where
  path := path
  symbolHits := s.segments.countP Segment.isSymbol
  ruleHits := s.segments.countP Segment.isValue
  ignoredMatches := s.segments.countP Segment.isDropped
  suppressed := s.segments.countP Segment.isUnknown

/-- The result of a scan that came to the end, or its error. An unknown character stands where the
covered text ends. -/
def outcome (s : Scan) (path : ScanPath) : Except ScanError ScanResult :=
  match s.ending with
  | .finished => .ok ⟨s.tokens, s.metrics path⟩
  | .invalid c => .error (.invalidToken c (.after s.covered) (byteLength s.covered))
  | .failed fault => .error (.convert fault)

/-- The record of a segment that starts at a byte. The fast path does not record symbols. -/
def record? (path : ScanPath) (start : Nat) : Segment → Option TraceRecord
  | .symbol s literal =>
    match path with
    | .fast => none
    | .general => some (.symbol s start (start + byteLength literal))
  | .value pattern v _ => some (.rule pattern v)
  | .unknown c => some (.suppressed c start)
  | _ => none

def traceFrom (path : ScanPath) (start : Nat) : List Segment → List TraceRecord
  | [] => []
  | segment :: segments =>
    (record? path start segment).toList
      ++ traceFrom path (start + byteLength segment.text) segments

def trace (s : Scan) (path : ScanPath) : List TraceRecord :=
  traceFrom path 0 s.segments

end Scan

end RuleLexer

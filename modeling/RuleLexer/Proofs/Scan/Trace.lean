import RuleLexer.Proofs.Scan.Loop
import RuleLexer.Proofs.Scan.Suppression
import RuleLexer.Rule.Library

/-!
What the trace of a scan tells. On the general path the records of symbols and
of values are the tokens, one for one and in their order, and the others are
the characters that have been dropped. The bytes they give are those at which
these pieces stand in the scanned text, one piece behind the other. This is so
up to the place where the scan comes to its end or has to stop.
-/

namespace RuleLexer

/-! ### Records -/

namespace Scan

theorem traceFrom_append_skipped (path : ScanPath) (start : Nat) (segments : List Segment)
    (ignored : List Char) :
    traceFrom path start (segments ++ ignored.map .skipped) = traceFrom path start segments := by
  induction ignored generalizing segments with
  | nil => rw [List.map_nil, List.append_nil]
  | cons c ignored ih =>
      rw [List.map_cons, List.append_cons, ih, traceFrom_append]
      exact List.append_nil _

theorem traceFrom_concat (path : ScanPath) (start : Nat) (segments : List Segment)
    (segment : Segment) :
    traceFrom path start (segments ++ [segment]) = traceFrom path start segments ++
      (record? path (start + byteLength (segments.flatMap Segment.text)) segment).toList := by
  rw [traceFrom_append, traceFrom, traceFrom, List.append_nil]

end Scan

namespace TraceRecord

def isSuppressed : TraceRecord → Bool
  | suppressed .. => true
  | _ => false

/-- The bytes of the scanned text that a record is about. With values they are not recorded. -/
def range? : TraceRecord → Option (Nat × Nat)
  | symbol _ start stop => some (start, stop)
  | rule .. => none
  | suppressed c start => some (start, start + c.utf8Size)

/-- The record of a token: the name of its symbol, or its value and the pattern of a rule. -/
def Shows (rules : List Rule) (record : TraceRecord) : Token → Prop
  | .symbol s => ∃ start stop, record = .symbol s start stop ∧
      record.message = "symbol " ++ s.name ++ " at " ++ start.repr ++ ".." ++ stop.repr
  | .value v => ∃ r ∈ rules, record = .rule r.pattern v ∧
      record.message = "rule " ++ quoteString r.pattern ++ " produced " ++ v.display

end TraceRecord

namespace Tokenizer

variable {t : Tokenizer}

/-- What the record is about stands in the text at the bytes that the record gives. -/
def Stands (t : Tokenizer) (text : List Char) : TraceRecord → Prop
  | .symbol s start stop => start < stop ∧
      ∃ literal, t.symbols.get? literal = some s ∧ slice? text start stop = some literal.toList
  | .rule .. => True
  | .suppressed c start => slice? text start (start + c.utf8Size) = some [c]

/-- The records tell of the tokens and of the number of dropped characters. They give places between
two bytes of the text, each behind the one before it. -/
structure Tells (t : Tokenizer) (text : List Char) (start stop : Nat) (records : List TraceRecord)
    (tokens : List Token) (suppressed : Nat) : Prop where
  tokens : List.Forall₂ (TraceRecord.Shows t.rules)
    (records.filter fun record => !record.isSuppressed) tokens
  suppressed : records.countP TraceRecord.isSuppressed = suppressed
  stands : ∀ record ∈ records, t.Stands text record
  ordered : (records.filterMap TraceRecord.range?).Pairwise fun r r' => r.2 ≤ r'.1
  within : ∀ r ∈ records.filterMap TraceRecord.range?, start ≤ r.1 ∧ r.2 ≤ stop

theorem Tells.nil (t : Tokenizer) (text : List Char) (start stop : Nat) :
    t.Tells text start stop [] [] 0 where
  tokens := .nil
  suppressed := rfl
  stands := List.forall_mem_nil _
  ordered := .nil
  within := List.forall_mem_nil _

/-- What two parts of a text give, one behind the other. -/
theorem Tells.append {text : List Char} {start middle stop : Nat}
    {records more : List TraceRecord} {tokens rest : List Token} {n m : Nat}
    (h : t.Tells text start middle records tokens n) (hmore : t.Tells text middle stop more rest m)
    (hstart : start ≤ middle) (hstop : middle ≤ stop) :
    t.Tells text start stop (records ++ more) (tokens ++ rest) (n + m) where
  tokens := by
    rw [List.filter_append]
    exact List.rel_append h.tokens hmore.tokens
  suppressed := by rw [List.countP_append, h.suppressed, hmore.suppressed]
  stands := List.forall_mem_append.mpr ⟨h.stands, hmore.stands⟩
  ordered := by
    rw [List.filterMap_append, List.pairwise_append]
    -- the place between the parts is between their records
    refine ⟨h.ordered, hmore.ordered, fun r hr r' hr' => ?_⟩
    exact Nat.le_trans (h.within r hr).2 (hmore.within r' hr').1
  within := by
    rw [List.filterMap_append, List.forall_mem_append]
    constructor
    · intro r hr
      exact ⟨(h.within r hr).1, Nat.le_trans (h.within r hr).2 hstop⟩
    · intro r hr
      exact ⟨Nat.le_trans hstart (hmore.within r hr).1, (hmore.within r hr).2⟩

/-! ### One segment -/

theorem Next.exists_rule {text matched : List Char} {pattern : String} {v : Value}
    (h : t.Next text (.value pattern v matched)) : ∃ r ∈ t.rules, r.pattern = pattern := by
  generalize hvalue : Segment.value pattern v matched = segment at h
  cases h with
  | rule _ hr _ _ hsegment =>
      obtain ⟨before, after, hrules, -⟩ := hr
      obtain rfl | ⟨w, rfl⟩ := Rule.eq_of_segment hsegment
      · cases hvalue
      · cases hvalue
        exact ⟨_, by simp [hrules], rfl⟩
  | skipped => cases hvalue
  | symbol => cases hvalue
  | unknown => cases hvalue

/-- The record of a segment tells of it, and its place is that of the segment. -/
theorem Next.tells {segment : Segment} (before after : List Char)
    (h : t.Next (segment.text ++ after) segment) :
    t.Tells (before ++ (segment.text ++ after)) (byteLength before)
      (byteLength before + byteLength segment.text)
      (Scan.record? .general (byteLength before) segment).toList segment.token?.toList
      ([segment].countP Segment.isUnknown) := by
  have hslice := slice?_append before segment.text after
  cases segment with
  | skipped c => exact .nil ..
  | dropped matched => exact .nil ..
  | symbol s literal =>
      have hpos := byteLength_pos h.text_ne_nil
      have hstands : t.Stands (before ++ (literal ++ after))
          (.symbol s (byteLength before) (byteLength before + byteLength literal)) := by
        refine ⟨Nat.lt_add_of_pos_right hpos, _, h.isLongest.get?, ?_⟩
        rw [String.toList_ofList]
        exact hslice
      exact
        { tokens := .cons ⟨_, _, rfl, rfl⟩ .nil
          suppressed := rfl
          stands := List.forall_mem_singleton.mpr hstands
          ordered := List.pairwise_singleton _ _
          within := List.forall_mem_singleton.mpr ⟨Nat.le_refl _, Nat.le_refl _⟩ }
  | value pattern v matched =>
      obtain ⟨r, hr, rfl⟩ := h.exists_rule
      exact
        { tokens := .cons ⟨r, hr, rfl, rfl⟩ .nil
          suppressed := rfl
          stands := List.forall_mem_singleton.mpr trivial
          ordered := .nil
          within := List.forall_mem_nil _ }
  | unknown c =>
      exact
        { tokens := .nil
          suppressed := rfl
          stands := List.forall_mem_singleton.mpr hslice
          ordered := List.pairwise_singleton _ _
          within := List.forall_mem_singleton.mpr ⟨Nat.le_refl _, Nat.le_refl _⟩ }

/-! ### All segments -/

/-- However far a text has been cut, the records up to there tell of what has come of it. -/
theorem Cuts.tells {text left : List Char} {segments : List Segment}
    (h : t.Cuts text segments left) (before : List Char) :
    t.Tells (before ++ text) (byteLength before)
      (byteLength before + byteLength (segments.flatMap Segment.text))
      (Scan.traceFrom .general (byteLength before) segments)
      (segments.filterMap Segment.token?) (segments.countP Segment.isUnknown) := by
  induction h generalizing before with
  | nil => exact .nil ..
  | @cons text rest left segment segments hnext htext hcuts ih =>
      subst htext
      have hfirst := hnext.tells before rest
      have hmore := ih (before ++ segment.text)
      rw [List.append_assoc, byteLength_append] at hmore
      have hall := hfirst.append hmore (Nat.le_add_right _ _) (Nat.le_add_right _ _)
      have htokens : (segment :: segments).filterMap Segment.token? =
          segment.token?.toList ++ segments.filterMap Segment.token? := by
        cases htoken : segment.token? <;> simp [htoken]
      rw [List.flatMap_cons, byteLength_append, ← Nat.add_assoc, htokens,
        ← List.singleton_append, List.countP_append]
      exact hall

/-! ### The loop that records as it goes -/

/-- What the loop records at a byte where `first` is not ignored. -/
def recordAt? (t : Tokenizer) (offset : Nat) (first : Char) (rest : List Char) :
    Option TraceRecord :=
  match t.symbolAt? (first :: rest) with
  | none => none
  | some (some (symbol, bytes)) => some (.symbol symbol offset (offset + bytes))
  | some none =>
    match ruleSegment? t.rules (first :: rest) with
    | .ok (some (.value pattern v _)) => some (.rule pattern v)
    | .ok (some _) => none
    | .ok none => if t.suppressUnknown then some (.suppressed first offset) else none
    | .error _ => none

/-- What is recorded one time through the loop, which finds the byte by a subtraction. -/
def iterationRecord? (t : Tokenizer) (text : List Char) (s : LoopState) : Option TraceRecord :=
  match s.rest.dropWhile fun c => t.ignored.contains c with
  | [] => none
  | first :: rest => t.recordAt? (byteLength text - byteLength (first :: rest)) first rest

/-- The loop with what has been recorded so far. -/
def recordingLoop? (t : Tokenizer) (text : List Char) : Nat → LoopState → List TraceRecord →
    Option (List TraceRecord × Except ScanError ScanResult)
  | 0, _, _ => none
  | n + 1, s, records =>
    let records := records ++ (t.iterationRecord? text s).toList
    match t.iterate? text s with
    | none => none
    | some (.next s) => recordingLoop? t text n s records
    | some (.exit outcome) => some (records, outcome)

theorem recordAt?_of_next {first : Char} {rest : List Char} {segment : Segment}
    (h : t.Next (first :: rest) segment) (hfirst : first ∉ t.ignored) (offset : Nat) :
    t.recordAt? offset first rest = Scan.record? .general offset segment := by
  rw [recordAt?, symbolAt?_eq, Trie.lookup?]
  cases h with
  | skipped hc => exact absurd hc hfirst
  | symbol _ hl =>
      rw [longest?_window_of_isLongest hl]
      rfl
  | rule hleft hr hm hne hsegment =>
      rw [longest?_window_eq_none_iff.mpr hleft.2, (ruleSegment?_of_reaches hr hm).1 hne _ hsegment]
      obtain rfl | ⟨v, rfl⟩ := Rule.eq_of_segment hsegment <;> rfl
  | unknown hleft hrules hs =>
      rw [longest?_window_eq_none_iff.mpr hleft.2, ruleSegment?_of_passesOver hrules, hs]
      rfl

theorem recordAt?_of_stops {first : Char} {rest : List Char} {ending : Ending}
    (h : t.Stops (first :: rest) ending) (offset : Nat) : t.recordAt? offset first rest = none := by
  rw [recordAt?, symbolAt?_eq, Trie.lookup?]
  cases h with
  | invalid hleft hrules hs =>
      rw [longest?_window_eq_none_iff.mpr hleft.2, ruleSegment?_of_passesOver hrules, hs]
      rfl
  | failed hleft hr hm hfault =>
      rw [longest?_window_eq_none_iff.mpr hleft.2, (ruleSegment?_of_reaches hr hm).2 _ hfault]
      rfl

/-- What the loop records is what is recorded of the segment behind the ignored characters. -/
theorem iterationRecord?_of_next {text before rest : List Char} {s : LoopState} {segment : Segment}
    (hrest : s.rest.dropWhile (fun c => t.ignored.contains c) = rest)
    (htext : text = before ++ rest) (hnext : t.Next rest segment) :
    t.iterationRecord? text s = Scan.record? .general (byteLength before) segment := by
  rw [iterationRecord?, hrest]
  cases rest with
  | nil => nomatch hnext
  | cons first rest =>
      have hfirst := notMem_ignored_of_dropWhile hrest
      simp only [recordAt?_of_next hnext hfirst, htext, byteLength_append, Nat.add_sub_cancel]

theorem iterationRecord?_of_stops {text rest : List Char} {s : LoopState} {ending : Ending}
    (hrest : s.rest.dropWhile (fun c => t.ignored.contains c) = rest)
    (hstops : t.Stops rest ending) : t.iterationRecord? text s = none := by
  rw [iterationRecord?, hrest]
  cases rest with
  | nil => rfl
  | cons first rest => exact recordAt?_of_stops hstops _

/-- The loop comes to the records of the scan, as it comes to its outcome. -/
theorem LoopState.Follows.recordingLoop? {text : List Char} {s : LoopState}
    {segments : List Segment} {n : Nat} (h : s.Follows t text segments) (hn : s.rest.length < n) :
    t.recordingLoop? text n s (Scan.traceFrom .general 0 segments) =
      some ((t.scanGeneral text).trace .general, (t.scanGeneral text).outcome .general) := by
  induction n generalizing s segments with
  | zero => omega
  | succ n ih =>
      rw [Tokenizer.recordingLoop?]
      obtain ⟨ignored, rest, hrest, htext, ⟨s', segment, hnext, hiterate, hfollows, hlt⟩ |
        ⟨ending, hstops, hscan, hiterate⟩⟩ := h.iterate?
      · -- the records so far are the trace of the segments so far, and ignored characters add none
        have hrecords := ih hfollows (by omega)
        rw [Scan.traceFrom_concat, Scan.traceFrom_append_skipped, Nat.zero_add] at hrecords
        rw [hiterate, iterationRecord?_of_next hrest htext hnext]
        exact hrecords
      · rw [hiterate, iterationRecord?_of_stops hrest hstops, hscan, Scan.trace,
          Scan.traceFrom_append_skipped]
        simp

/-- The trace of a scan on the general path, which its loop records as it goes. If the scan
succeeds, the trace tells of all its tokens and of all characters that it has dropped. If it fails,
the trace is that of the segments before the place where it has to stop, and tells of these. -/
theorem trace_tells (hpath : t.path = .general) (input : List Char) :
    t.recordingLoop? (t.scannedText input) ((t.scannedText input).length + 1)
        (.start (t.scannedText input)) [] =
      some (t.trace input, t.tokenizeWithMetrics input) ∧
    (∀ result, t.tokenizeWithMetrics input = .ok result →
      t.Tells (t.scannedText input) 0 (byteLength (t.scannedText input)) (t.trace input)
        result.tokens result.metrics.suppressed) ∧
    ∀ e, t.tokenizeWithMetrics input = .error e →
      ∃ segments rest ending, t.Cuts (t.scannedText input) segments rest ∧ t.Stops rest ending ∧
        stop (.ofSegments .general segments) (segments.flatMap Segment.text) ending = .error e ∧
        t.trace input = Scan.traceFrom .general 0 segments ∧
        t.Tells (t.scannedText input) 0 (byteLength (segments.flatMap Segment.text))
          (t.trace input) (segments.filterMap Segment.token?)
          (segments.countP Segment.isUnknown) := by
  have hscan : t.scan input = t.scanGeneral (t.scannedText input) :=
    t.scanText_eq_scanGeneral (t.scannedText input)
  obtain ⟨left, hcuts, hstops⟩ := t.cuts_scanGeneral (t.scannedText input)
  have htells := hcuts.tells []
  rw [byteLength_nil, Nat.zero_add] at htells
  rw [tokenizeWithMetrics, trace, hscan, hpath]
  refine ⟨?_, fun result hresult => ?_, fun e he => ?_⟩
  · exact (LoopState.follows_start t _).recordingLoop? (Nat.lt_succ_self _)
  · obtain ⟨hending, rfl⟩ := Scan.outcome_eq_ok_iff.mp hresult
    rw [hending] at hstops
    cases hstops
    have hcovers := hcuts.covers
    rw [List.append_nil] at hcovers
    rw [← hcovers] at htells
    exact htells
  · rw [← he]
    exact ⟨_, left, _, hcuts, hstops, (outcome_eq_stop ..).symm, rfl, htells⟩

/-! ### Sums of integers -/

def plus : Symbol := ⟨0, "Plus"⟩

def increment : Symbol := ⟨1, "Increment"⟩

def sums : Tokenizer where
  symbols := ⟨[("+", plus), ("++", increment)], by decide, by decide⟩
  rules := [Library.int]
  ignored := [' ']
  convertCrlf := true
  suppressUnknown := true

/-- The dropped character is two bytes long. -/
theorem trace_tells_sums :
    sums.path = .general ∧
    sums.tokenizeWithMetrics ['1', '2', ' ', '+', '+', 'é', '+'] =
      .ok ⟨[.value (.int 12), .symbol increment, .symbol plus], ⟨.general, 2, 1, 0, 1⟩⟩ ∧
    sums.trace ['1', '2', ' ', '+', '+', 'é', '+'] =
      [.rule Library.int.pattern (.int 12), .symbol increment 3 5, .suppressed 'é' 5,
        .symbol plus 7 8] ∧
    sums.Tells ['1', '2', ' ', '+', '+', 'é', '+', ' '] 0 9
      [.rule Library.int.pattern (.int 12), .symbol increment 3 5, .suppressed 'é' 5,
        .symbol plus 7 8]
      [.value (.int 12), .symbol increment, .symbol plus] 1 := by
  have hresult : sums.tokenizeWithMetrics ['1', '2', ' ', '+', '+', 'é', '+'] =
      .ok ⟨[.value (.int 12), .symbol increment, .symbol plus], ⟨.general, 2, 1, 0, 1⟩⟩ := by
    decide +kernel
  have htrace : sums.trace ['1', '2', ' ', '+', '+', 'é', '+'] =
      [.rule Library.int.pattern (.int 12), .symbol increment 3 5, .suppressed 'é' 5,
        .symbol plus 7 8] := by decide +kernel
  obtain ⟨-, htells, -⟩ := trace_tells (t := sums) rfl ['1', '2', ' ', '+', '+', 'é', '+']
  rw [htrace] at htells
  exact ⟨rfl, hresult, htrace, htells _ hresult⟩

end Tokenizer

end RuleLexer

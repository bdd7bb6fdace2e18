import RuleLexer.Proofs.Scan.Singles

/-!
Strict and lenient scans. A lenient tokenizer drops the characters at which
nothing matches, a strict one stops at the first of them. Up to there both cut
a text in the same way, and where there is none they come to the same end.
-/

namespace RuleLexer

/-! ### A scan that goes on -/

namespace Scan

/-- No character has been dropped because nothing matched there. -/
def Recognized (segments : List Segment) : Prop :=
  ∀ segment ∈ segments, segment.isUnknown = false

/-- The second scan is the first one if that does not stop at an unknown character. Otherwise it
drops the character and goes on. -/
inductive ContinuedBy : Scan → Scan → Prop
  | same {segments : List Segment} {ending : Ending} (hsegments : Recognized segments)
      (hending : ∀ c, ending ≠ .invalid c) : ContinuedBy ⟨segments, ending⟩ ⟨segments, ending⟩
  | resumed {segments more : List Segment} {c : Char} {ending : Ending}
      (hsegments : Recognized segments) (hending : ∀ d, ending ≠ .invalid d) :
      ContinuedBy ⟨segments, .invalid c⟩ ⟨segments ++ .unknown c :: more, ending⟩

variable {strict lenient : Scan}

theorem ContinuedBy.recognized (h : strict.ContinuedBy lenient) : Recognized strict.segments := by
  cases h with
  | same hsegments => exact hsegments
  | resumed hsegments => exact hsegments

theorem ContinuedBy.ending_ne_invalid (h : strict.ContinuedBy lenient) (c : Char) :
    lenient.ending ≠ .invalid c := by
  cases h with
  | same _ hending => exact hending c
  | resumed _ hending => exact hending c

theorem ContinuedBy.segments_of_invalid (h : strict.ContinuedBy lenient) {c : Char}
    (hc : strict.ending = .invalid c) :
    ∃ more, lenient.segments = strict.segments ++ .unknown c :: more := by
  cases h with
  | same _ hending => exact absurd hc (hending c)
  | resumed =>
      cases hc
      exact ⟨_, rfl⟩

theorem suppressed_eq_zero_iff (s : Scan) (path : ScanPath) :
    (s.metrics path).suppressed = 0 ↔ Recognized s.segments := by
  simp [metrics, Recognized, List.countP_eq_zero]

/-- The first scan succeeds where the second one does without having dropped a character. -/
theorem ContinuedBy.outcome_eq_ok_iff (h : strict.ContinuedBy lenient) (path : ScanPath)
    (result : ScanResult) :
    strict.outcome path = .ok result ↔
      lenient.outcome path = .ok result ∧ result.metrics.suppressed = 0 := by
  rw [Scan.outcome_eq_ok_iff, Scan.outcome_eq_ok_iff]
  cases h with
  | same hsegments hending =>
      refine ⟨fun hok => ⟨hok, ?_⟩, And.left⟩
      rw [← hok.2]
      exact (suppressed_eq_zero_iff _ path).mpr hsegments
  | @resumed segments more c ending =>
      constructor
      · rintro ⟨hinvalid, -⟩
        cases hinvalid
      · -- the character that was dropped has been counted
        rintro ⟨⟨-, rfl⟩, hzero⟩
        have hall := (suppressed_eq_zero_iff _ path).mp hzero
        have hc := hall (.unknown c) (by simp)
        cases hc

theorem ContinuedBy.outcome_eq_convert (h : strict.ContinuedBy lenient) {path : ScanPath}
    {fault : ConvertError} (hfault : strict.outcome path = .error (.convert fault)) :
    lenient.outcome path = .error (.convert fault) := by
  rw [Scan.outcome_eq_convert_iff] at hfault ⊢
  cases h with
  | same => exact hfault
  | resumed => cases hfault

/-! ### Its trace -/

theorem traceFrom_append (path : ScanPath) (start : Nat) (segments more : List Segment) :
    traceFrom path start (segments ++ more) =
      traceFrom path start segments ++
        traceFrom path (start + byteLength (segments.flatMap Segment.text)) more := by
  induction segments generalizing start with
  | nil => rfl
  | cons segment segments ih =>
      simp only [List.cons_append, traceFrom, ih, List.append_assoc, List.flatMap_cons,
        byteLength_append, Nat.add_assoc]

theorem suppressed_notMem_record? {segment : Segment} (h : segment.isUnknown = false)
    (path : ScanPath) (start : Nat) (c : Char) (offset : Nat) :
    .suppressed c offset ∉ record? path start segment := by
  cases segment with
  | symbol s literal => cases path <;> simp [record?]
  | unknown d => cases h
  | _ => simp [record?]

theorem suppressed_notMem_traceFrom {segments : List Segment} (h : Recognized segments)
    (path : ScanPath) (start : Nat) (c : Char) (offset : Nat) :
    .suppressed c offset ∉ traceFrom path start segments := by
  induction segments generalizing start with
  | nil => exact List.not_mem_nil
  | cons segment segments ih =>
      obtain ⟨hsegment, hsegments⟩ := List.forall_mem_cons.mp h
      rw [traceFrom, List.mem_append, Option.mem_toList]
      exact not_or.mpr ⟨suppressed_notMem_record? hsegment path start c offset, ih hsegments _⟩

/-- The first character that is recorded as dropped is the one at which the first scan stops. -/
theorem ContinuedBy.trace_of_invalid (h : strict.ContinuedBy lenient) {c : Char}
    (hc : strict.ending = .invalid c) (path : ScanPath) :
    ∃ more, lenient.trace path =
      strict.trace path ++ .suppressed c (byteLength strict.covered) :: more := by
  obtain ⟨more, hmore⟩ := h.segments_of_invalid hc
  refine ⟨traceFrom path (byteLength strict.covered + c.utf8Size) more, ?_⟩
  rw [trace, hmore, traceFrom_append, Nat.zero_add]
  rfl

end Scan

/-! ### One tokenizer with both policies -/

namespace Tokenizer

/-- The tokenizer as one that stops at unknown characters. -/
def strict (t : Tokenizer) : Tokenizer := { t with suppressUnknown := false }

/-- The tokenizer as one that drops unknown characters. -/
def lenient (t : Tokenizer) : Tokenizer := { t with suppressUnknown := true }

variable {t : Tokenizer}

theorem Next.isUnknown_strict {text : List Char} {segment : Segment}
    (h : t.strict.Next text segment) : segment.isUnknown = false := by
  cases h with
  | skipped => rfl
  | symbol => rfl
  | rule _ _ _ _ hsegment => exact Rule.isUnknown_of_segment hsegment
  | unknown _ _ hs => cases hs

theorem Next.lenient {text : List Char} {segment : Segment} (h : t.strict.Next text segment) :
    t.lenient.Next text segment := by
  cases h with
  | skipped hc => exact .skipped hc
  | symbol hc hl => exact .symbol hc hl
  | rule hleft hr hm hne hsegment => exact .rule hleft hr hm hne hsegment
  | unknown _ _ hs => cases hs

theorem Cuts.lenient {text left : List Char} {segments : List Segment}
    (h : t.strict.Cuts text segments left) : t.lenient.Cuts text segments left :=
  h.imp Next.lenient

theorem Cuts.recognized {text left : List Char} {segments : List Segment}
    (h : t.strict.Cuts text segments left) : Scan.Recognized segments := by
  induction h with
  | nil => exact List.forall_mem_nil _
  | cons hnext _ _ ih => exact List.forall_mem_cons.mpr ⟨hnext.isUnknown_strict, ih⟩

theorem Stops.ending_ne_invalid {text : List Char} {ending : Ending}
    (h : t.lenient.Stops text ending) (c : Char) : ending ≠ .invalid c := by
  cases h with
  | finished => simp
  | invalid _ _ hs => cases hs
  | failed => simp

/-- Where the strict tokenizer stops, the lenient one stops for the same reason or drops the
character. -/
theorem Stops.lenient {text : List Char} {ending : Ending} (h : t.strict.Stops text ending) :
    t.lenient.Stops text ending ∨
      ∃ c rest, text = c :: rest ∧ ending = .invalid c ∧ t.lenient.Next text (.unknown c) := by
  cases h with
  | finished => exact .inl .finished
  | invalid hleft hrules => exact .inr ⟨_, _, rfl, rfl, .unknown hleft hrules rfl⟩
  | failed hleft hr hm hfault => exact .inl (.failed hleft hr hm hfault)

theorem continuedBy_scanGeneral (t : Tokenizer) (text : List Char) :
    (t.strict.scanGeneral text).ContinuedBy (t.lenient.scanGeneral text) := by
  obtain ⟨left, hcuts, hstops⟩ := t.strict.cuts_scanGeneral text
  rw [scanGeneral_of_cuts hcuts hstops]
  have hrecognized := hcuts.recognized
  obtain hstops' | ⟨c, rest, rfl, hending, hnext⟩ := hstops.lenient
  · rw [scanGeneral_of_cuts hcuts.lenient hstops']
    exact .same hrecognized hstops'.ending_ne_invalid
  · -- The lenient tokenizer goes on behind the character as on a text of its own.
    obtain ⟨left, hmore, hstops'⟩ := t.lenient.cuts_scanGeneral rest
    have hall := hcuts.lenient.append (.cons hnext rfl hmore)
    rw [scanGeneral_of_cuts hall hstops', hending]
    exact .resumed hrecognized hstops'.ending_ne_invalid

/-- Neither path nor scanned text depends on what is done with unknown characters. -/
theorem continuedBy_scan (t : Tokenizer) (input : List Char) :
    (t.strict.scan input).ContinuedBy (t.lenient.scan input) := by
  rw [scan, scan, scanText_eq_scanGeneral, scanText_eq_scanGeneral]
  exact t.continuedBy_scanGeneral (t.scannedText input)

/-- On both paths a lenient scan does not fail at an unknown character. A strict one succeeds where
the lenient one does without having dropped anything, with the same tokens and counts, and fails in
a converter only where the lenient one does. It fails at the first character that the lenient one
drops, and what both have recognized before is the same. -/
theorem tokenizeWithMetrics_strict_lenient (t : Tokenizer) (input : List Char) :
    t.strict.path = t.lenient.path ∧
    (∀ c position offset,
      t.lenient.tokenizeWithMetrics input ≠ .error (.invalidToken c position offset)) ∧
    (∀ result, t.strict.tokenizeWithMetrics input = .ok result ↔
      t.lenient.tokenizeWithMetrics input = .ok result ∧ result.metrics.suppressed = 0) ∧
    (∀ fault, t.strict.tokenizeWithMetrics input = .error (.convert fault) →
      t.lenient.tokenizeWithMetrics input = .error (.convert fault)) ∧
    ∀ c position offset,
      t.strict.tokenizeWithMetrics input = .error (.invalidToken c position offset) →
      (∃ more, (t.lenient.scan input).segments =
        (t.strict.scan input).segments ++ .unknown c :: more) ∧
      (∀ segment ∈ (t.strict.scan input).segments, segment.isUnknown = false) ∧
      byteLength ((t.strict.scan input).segments.flatMap Segment.text) = offset ∧
      (∃ more, t.lenient.trace input = t.strict.trace input ++ .suppressed c offset :: more) ∧
      ∀ d start, .suppressed d start ∉ t.strict.trace input := by
  have h := t.continuedBy_scan input
  refine ⟨rfl, ?_, ?_, ?_, ?_⟩
  · intro c position offset hinvalid
    exact h.ending_ne_invalid c (Scan.outcome_eq_invalidToken_iff.mp hinvalid).1
  · exact h.outcome_eq_ok_iff t.path
  · intro fault hfault
    exact h.outcome_eq_convert hfault
  · intro c position offset hinvalid
    obtain ⟨hending, -, rfl⟩ := Scan.outcome_eq_invalidToken_iff.mp hinvalid
    refine ⟨h.segments_of_invalid hending, h.recognized, rfl, h.trace_of_invalid hending t.path, ?_⟩
    exact Scan.suppressed_notMem_traceFrom h.recognized t.path 0

end Tokenizer

end RuleLexer

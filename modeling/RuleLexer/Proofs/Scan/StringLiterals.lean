import RuleLexer.Proofs.Rule.Quoted
import RuleLexer.Proofs.Scan.LineEnds

/-!
Scans of strings in quotes with whitespace between them, or with nothing between
them. What may stand in quotes tells by itself where the string ends, so the
scan gives back the strings that were written down, whatever stands behind each.
No string has a line feed in it or a carriage return at its end, and so the
conversion of line ends changes the whitespace only.
-/

namespace RuleLexer

namespace Tokenizer

open Library (Quote)

/-- Strings in quotes, with whitespace ignored. -/
def stringOptions (convertCrlf suppressUnknown : Bool) : Options where
  convertCrlf := convertCrlf
  ignoreWhitespace := true
  suppressUnknown := suppressUnknown
  rules := [Library.string]

def strings (convertCrlf suppressUnknown : Bool) : Tokenizer where
  symbols := .empty
  rules := Library.string.rules
  ignored := Options.whitespace
  convertCrlf := convertCrlf
  suppressUnknown := suppressUnknown

theorem build_stringOptions (convertCrlf suppressUnknown : Bool) :
    build [] (stringOptions convertCrlf suppressUnknown) =
      .ok (strings convertCrlf suppressUnknown) := rfl

/-! ### Texts of strings -/

/-- The text consists of whitespace and of the strings. -/
inductive Quotes : List Char → List (List Char) → Prop
  | nil : Quotes [] []
  | ignored {c : Char} {text : List Char} {literals : List (List Char)}
      (hc : c ∈ Options.whitespace) (hquotes : Quotes text literals) : Quotes (c :: text) literals
  | literal {q : Quote} {inside text : List Char} {literals : List (List Char)}
      (hinside : q.IsInside inside) (hquotes : Quotes text literals) :
      Quotes (q.literal inside ++ text) (q.literal inside :: literals)

theorem Quotes.ignored_append {text chars : List Char} {literals : List (List Char)}
    (hchars : ∀ c ∈ chars, c ∈ Options.whitespace) (h : Quotes text literals) :
    Quotes (chars ++ text) literals := by
  induction chars with
  | nil => exact h
  | cons c chars ih =>
      obtain ⟨hc, hchars⟩ := List.forall_mem_cons.mp hchars
      exact .ignored hc (ih hchars)

theorem Quotes.append_ignored {text : List Char} {literals : List (List Char)} {c : Char}
    (h : Quotes text literals) (hc : c ∈ Options.whitespace) : Quotes (text ++ [c]) literals := by
  induction h with
  | nil => exact .ignored hc .nil
  | ignored hd _ ih => exact .ignored hd ih
  | literal hinside _ ih =>
      rw [List.append_assoc]
      exact .literal hinside ih

/-! ### Line ends and the space behind the text -/

theorem convertLineEnds_literal {q : Quote} {inside : List Char} (h : q.IsInside inside)
    (text : List Char) :
    convertLineEnds (q.literal inside ++ text) = q.literal inside ++ convertLineEnds text := by
  apply convertLineEnds_append_of_getLast?
  · simp [Quote.literal, h.oneLine, q.char_ne.2.symm]
  · cases q <;> simp [Quote.literal, Quote.char, List.getLast?_cons]

theorem Quotes.convert {text : List Char} {literals : List (List Char)} (h : Quotes text literals) :
    Quotes (convertLineEnds text) literals := by
  induction h with
  | nil => exact .nil
  | @ignored c text literals hc _ ih =>
      obtain hconvert | hconvert := convertLineEnds_cons c text
      · rw [hconvert]
        exact .ignored hc ih
      · rw [hconvert]
        exact ih
  | literal hinside _ ih =>
      rw [convertLineEnds_literal hinside]
      exact .literal hinside ih

theorem Quotes.scannedText {input : List Char} {literals : List (List Char)}
    (h : Quotes input literals) (convertCrlf suppressUnknown : Bool) :
    Quotes ((strings convertCrlf suppressUnknown).scannedText input) literals := by
  have hconverted : Quotes (if convertCrlf then convertLineEnds input else input) literals := by
    split
    · exact h.convert
    · exact h
  exact hconverted.append_ignored (by decide)

/-! ### Scans of such texts -/

/-- What a string comes to in a scan. -/
def stringSegment (q : Quote) (inside : List Char) : Segment :=
  .value q.rule.pattern (.str (String.ofList (q.literal inside))) (q.literal inside)

theorem ruleSegment?_cons_of_outcome {r : Rule} {rules : List Rule} {text inside : List Char}
    {q : Quote} (h : r.apply text = .ok (q.outcome inside)) :
    ruleSegment? (r :: rules) text = .ok (some
      (.value r.pattern (.str (String.ofList (q.literal inside))) (q.literal inside))) := by
  rw [ruleSegment?, h]
  rfl

theorem ruleSegment?_cons_of_notApplied {r : Rule} {rules : List Rule} {text : List Char}
    (h : r.apply text = .ok .notApplied) : ruleSegment? (r :: rules) text =
      ruleSegment? rules text := by
  rw [ruleSegment?, h]

theorem ruleSegment?_string {q : Quote} {text inside : List Char} (h : q.ClosesFirst text inside) :
    ruleSegment? Library.string.rules text = .ok (some (stringSegment q inside)) := by
  have hrules : Library.string.rules = [Quote.single.rule, Quote.double.rule] := rfl
  rw [hrules]
  cases q with
  | single => exact ruleSegment?_cons_of_outcome (Quote.apply_eq_outcome_iff.mpr h)
  | double =>
      have hnone : Quote.single.rule.apply text = .ok .notApplied :=
        Quote.apply_eq_notApplied_iff.mpr fun _ hcloses =>
          absurd (hcloses.eq_quote h.toCloses) (by decide)
      rw [ruleSegment?_cons_of_notApplied hnone]
      exact ruleSegment?_cons_of_outcome (Quote.apply_eq_outcome_iff.mpr h)

theorem leftToRules_quote (convertCrlf suppressUnknown : Bool) (q : Quote) (rest : List Char) :
    (strings convertCrlf suppressUnknown).LeftToRules q.char rest := by
  refine ⟨?_, fun literal hget => ?_⟩
  · cases q <;> simp [strings, Options.whitespace, Quote.char]
  · simp [strings, SymbolTable.get?, SymbolTable.empty] at hget

theorem next_literal {q : Quote} {inside : List Char} (h : q.IsInside inside)
    (convertCrlf suppressUnknown : Bool) (text : List Char) :
    (strings convertCrlf suppressUnknown).Next (q.literal inside ++ text)
      (stringSegment q inside) := by
  have hfirst : q.ClosesFirst (q.literal inside ++ text) inside :=
    Quote.closesFirst_iff.mpr ⟨List.prefix_append _ _, h⟩
  have htext : q.literal inside ++ text = q.char :: (inside ++ [q.char] ++ text) := rfl
  rw [htext] at hfirst ⊢
  rw [← nextSegment_eq_ok_iff, nextSegment_of_leftToRules (leftToRules_quote _ _ q _)]
  have hsegment : ruleSegment? (strings convertCrlf suppressUnknown).rules
      (q.char :: (inside ++ [q.char] ++ text)) = .ok (some (stringSegment q inside)) :=
    ruleSegment?_string hfirst
  rw [hsegment]

theorem cuts_of_quotes {text : List Char} {literals : List (List Char)} (h : Quotes text literals)
    (convertCrlf suppressUnknown : Bool) :
    ∃ segments, (strings convertCrlf suppressUnknown).Cuts text segments [] ∧
      segments.filterMap Segment.token? =
        literals.map (fun literal => .value (.str (String.ofList literal))) ∧
      ∀ path, (Scan.mk segments .finished).metrics path = ⟨path, 0, literals.length, 0, 0⟩ := by
  induction h with
  | nil => exact ⟨[], .nil, rfl, fun _ => rfl⟩
  | @ignored c text literals hc _ ih =>
      obtain ⟨segments, hcuts, htokens, hmetrics⟩ := ih
      exact ⟨.skipped c :: segments, .cons (.skipped hc) rfl hcuts, htokens, hmetrics⟩
  | @literal q inside text literals hinside _ ih =>
      obtain ⟨segments, hcuts, htokens, hmetrics⟩ := ih
      refine ⟨stringSegment q inside :: segments,
        .cons (next_literal hinside convertCrlf suppressUnknown text) rfl hcuts, ?_,
        fun path => ?_⟩
      · simpa [stringSegment, Segment.token?] using htokens
      · have hcounts := hmetrics path
        simp only [Scan.metrics, ScanMetrics.mk.injEq] at hcounts
        simp [stringSegment, Scan.metrics, List.countP_cons, Segment.isSymbol, Segment.isValue,
          Segment.isDropped, Segment.isUnknown, hcounts]

/-! ### Strings that are written down -/

/-- A text that the group of string rules matches as a whole, and the whitespace behind it. -/
structure WrittenString where
  literal : List Char
  behind : List Char
  complete : ∃ value, Library.string.apply literal = .ok (.applied value literal)
  whitespace : ∀ c ∈ behind, c ∈ Options.whitespace

def WrittenString.text (w : WrittenString) : List Char := w.literal ++ w.behind

theorem WrittenString.exists_isInside (w : WrittenString) :
    ∃ (q : Quote) (inside : List Char), q.IsInside inside ∧ w.literal = q.literal inside := by
  obtain ⟨value, happly⟩ := w.complete
  obtain ⟨-, hnone⟩ | ⟨q, inside, hfirst, houtcome⟩ := Library.apply_string_cases w.literal
  · cases happly.symm.trans hnone
  · have heq := happly.symm.trans houtcome
    rw [Except.ok.injEq, Quote.outcome, Outcome.applied.injEq] at heq
    exact ⟨q, inside, (Quote.closesFirst_iff.mp hfirst).2, heq.2⟩

theorem quotes_written (written : List WrittenString) :
    Quotes (written.flatMap WrittenString.text) (written.map WrittenString.literal) := by
  induction written with
  | nil => exact .nil
  | cons w written ih =>
      obtain ⟨q, inside, hinside, hliteral⟩ := w.exists_isInside
      rw [List.flatMap_cons, List.map_cons, WrittenString.text, List.append_assoc, hliteral]
      exact .literal hinside (ih.ignored_append w.whitespace)

/-- Scanning gives back the strings that have been written down one after another, with or without
whitespace around each, whether line ends are converted or not. Nothing else is counted. -/
theorem tokenizeWithMetrics_written (convertCrlf suppressUnknown : Bool) (before : List Char)
    (hbefore : ∀ c ∈ before, c ∈ Options.whitespace) (written : List WrittenString) :
    ∃ t, build [] (stringOptions convertCrlf suppressUnknown) = .ok t ∧
      t.tokenizeWithMetrics (before ++ written.flatMap WrittenString.text) =
        .ok
          { tokens := written.map fun w => .value (.str (String.ofList w.literal))
            metrics :=
              { path := .general
                symbolHits := 0
                ruleHits := written.length
                ignoredMatches := 0
                suppressed := 0 } } := by
  refine ⟨strings convertCrlf suppressUnknown, build_stringOptions _ _, ?_⟩
  have hquotes := ((quotes_written written).ignored_append hbefore).scannedText
    convertCrlf suppressUnknown
  obtain ⟨segments, hcuts, htokens, hmetrics⟩ := cuts_of_quotes hquotes convertCrlf suppressUnknown
  have hpath : (strings convertCrlf suppressUnknown).path = .general := by
    simp [path, singles?, strings, Library.string]
  rw [tokenizeWithMetrics, scan, scanText_eq_scanGeneral, scanGeneral_of_cuts hcuts .finished,
    Scan.outcome_eq_ok_iff]
  refine ⟨rfl, ?_⟩
  rw [Scan.tokens, htokens, hmetrics, hpath, List.map_map, List.length_map]
  rfl

/-- Three strings, the first and the second next to each other: an escaped quote, a quote of the
other kind before a carriage return, and nothing between quotes. -/
def threeStrings : List WrittenString :=
  [⟨['\'', '\\', '\'', '\''], [], ⟨.str "'\\''", by decide +kernel⟩, by simp⟩,
   ⟨['"', '\'', '\r', '"'], ['\r', '\n', ' '], ⟨.str "\"'\r\"", by decide +kernel⟩,
    by simp [Options.whitespace]⟩,
   ⟨['\'', '\''], [], ⟨.str "''", by decide +kernel⟩, by simp⟩]

theorem tokenizeWithMetrics_written_three :
    (∀ c ∈ ['\t'], c ∈ Options.whitespace) ∧
    ∃ t, build [] (stringOptions true false) = .ok t ∧
      t.tokenizeWithMetrics
          ['\t', '\'', '\\', '\'', '\'', '"', '\'', '\r', '"', '\r', '\n', ' ', '\'', '\''] =
        .ok ⟨[.value (.str "'\\''"), .value (.str "\"'\r\""), .value (.str "''")],
          ⟨.general, 0, 3, 0, 0⟩⟩ := by
  have hbefore : ∀ c ∈ ['\t'], c ∈ Options.whitespace := by simp [Options.whitespace]
  exact ⟨hbefore, tokenizeWithMetrics_written true false ['\t'] hbefore threeStrings⟩

end Tokenizer

end RuleLexer

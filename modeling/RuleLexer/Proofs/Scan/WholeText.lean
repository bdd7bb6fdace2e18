import RuleLexer.Proofs.Scan.Sentinel

/-!
The lines of a text and the whole text. Where line boundaries are ignored and no
literal has one in it, a scan of the whole text takes nothing of a line together
with anything behind it. Cutting the text into lines first makes no difference
to the tokens then, and where a line fails the whole text fails at the same
character.
-/

namespace RuleLexer

/-! ### Terminators -/

namespace Line

theorem EndsBefore.of_append {terminator before after : List Char}
    (h : EndsBefore terminator (before ++ after)) : EndsBefore terminator before := by
  cases h with
  | pair => exact .pair before
  | single hc hpair =>
      refine .single hc ?_
      rintro behind hcr rfl
      exact hpair (behind ++ after) hcr rfl

end Line

namespace Tokenizer

variable {t : Tokenizer}

theorem convertLineEnds_terminator {terminator rest : List Char}
    (h : Line.EndsBefore terminator rest) :
    convertLineEnds (terminator ++ rest) = convertLineEnds terminator ++ convertLineEnds rest := by
  cases h with
  | pair => rfl
  | @single c _ hc hpair =>
      rw [List.singleton_append, convertLineEnds_cons_of_not_pair hpair, convertLineEnds_singleton]
      rfl

/-- What is left of a terminator is not empty and consists of line boundaries. -/
theorem exists_cons_normalized {terminator rest : List Char}
    (h : Line.EndsBefore terminator rest) :
    ∃ c more, t.normalized terminator = c :: more ∧
      ∀ d ∈ c :: more, isLineBoundary d = true := by
  rw [normalized]
  cases h with
  | pair =>
      split
      next => exact ⟨'\n', [], rfl, by simp [isLineBoundary]⟩
      next => exact ⟨'\r', ['\n'], rfl, by simp [isLineBoundary]⟩
  | @single c _ hc _ =>
      refine ⟨c, [], ?_, by simpa using hc⟩
      split
      next => exact convertLineEnds_singleton c
      next => rfl

/-- There is no line end to convert in a line. -/
theorem normalized_line (t : Tokenizer) {line : List Char}
    (hnone : ∀ c ∈ line, isLineBoundary c = false) : t.normalized line = line :=
  t.normalized_eq_self fun hlf => by cases hnone '\n' hlf

theorem normalized_append_terminator {line terminator rest : List Char}
    (hnone : ∀ c ∈ line, isLineBoundary c = false) (hends : Line.EndsBefore terminator rest) :
    t.normalized (line ++ (terminator ++ rest)) =
      line ++ (t.normalized terminator ++ t.normalized rest) := by
  have hline : '\r' ∉ line := fun hcr => by cases hnone '\r' hcr
  simp only [normalized]
  split
  next => rw [convertLineEnds_append hline, convertLineEnds_terminator hends]
  next => rfl

/-! ### Line by line or as a whole -/

/-- Nothing of a line is taken together with what is behind it. There are no rules, line boundaries
are ignored, no literal has one in it, and if a space is added behind a text, no literal has a space
in it either. -/
structure ScansByLines (t : Tokenizer) : Prop where
  rules : t.rules = []
  ignored : ∀ c, isLineBoundary c = true → c ∈ t.ignored
  literals : ∀ literal, (t.symbols.get? literal).isSome →
    ∀ c ∈ literal.toList, isLineBoundary c = false
  space : ' ' ∉ t.ignored ∨ t.LiteralsAvoid [' ']

/-- The space behind a text does not matter. -/
theorem ScansByLines.tokenize (h : t.ScansByLines) (input : List Char) :
    t.tokenize input =
      ((t.scanGeneral (t.normalized input)).outcome t.path).map ScanResult.tokens := by
  rw [Tokenizer.tokenize, tokenizeWithMetrics, outcome_scan_of_not_crosses h.rules]
  intro hspace
  exact not_crosses_of_literalsAvoid (h.space.resolve_left (not_not_intro hspace))

theorem ScansByLines.scanGeneral (h : t.ScansByLines) {line terminator rest : List Char}
    (hnone : ∀ c ∈ line, isLineBoundary c = false) (hends : Line.EndsBefore terminator rest) :
    t.scanGeneral (t.normalized (line ++ (terminator ++ rest))) =
      (t.scanGeneral line).followedBy ((Scan.ofIgnored (t.normalized terminator)).followedBy
        (t.scanGeneral (t.normalized rest))) := by
  obtain ⟨c, more, hterminator, hboundary⟩ := t.exists_cons_normalized hends
  have havoid : t.LiteralsAvoid [c] := by
    intro literal hsome d hd hmem
    have hfalse := h.literals literal hsome d hd
    rw [List.mem_singleton.mp hmem, hboundary c (by simp)] at hfalse
    cases hfalse
  have hignored : ∀ d ∈ t.normalized terminator, d ∈ t.ignored := fun d hd =>
    h.ignored d (hboundary d (hterminator ▸ hd))
  have hcrosses : ¬ t.Crosses (t.normalized terminator ++ t.normalized rest) line := by
    rw [hterminator]
    exact not_crosses_of_literalsAvoid havoid
  rw [normalized_append_terminator hnone hends, scanGeneral_append h.rules hcrosses,
    scanGeneral_ignored hignored]

/-- A line alone has the tokens of its scan, or it fails where that stops. -/
theorem ScansByLines.line (h : t.ScansByLines) {line : List Char}
    (hnone : ∀ c ∈ line, isLineBoundary c = false) :
    ((t.scanGeneral line).ending = .finished ∧ (t.scanGeneral line).covered = line ∧
        t.tokenize line = .ok (t.scanGeneral line).tokens) ∨
      ∃ c after, line = (t.scanGeneral line).covered ++ c :: after ∧
        (t.scanGeneral line).ending = .invalid c ∧
        t.normalized (t.scanGeneral line).covered = (t.scanGeneral line).covered ∧
        t.tokenize line = .error (.invalidToken c (.after (t.scanGeneral line).covered)
          (byteLength (t.scanGeneral line).covered)) := by
  have htokenize := h.tokenize line
  rw [t.normalized_line hnone] at htokenize
  obtain ⟨left, hcuts, hstops⟩ := t.cuts_scanGeneral line
  cases hending : (t.scanGeneral line).ending with
  | finished =>
      rw [hending] at hstops
      cases hstops
      refine .inl ⟨rfl, ?_, ?_⟩
      · exact (hcuts.covers.trans (List.append_nil _)).symm
      · rw [htokenize, Scan.outcome, hending]
        rfl
  | invalid c =>
      rw [hending] at hstops
      obtain ⟨-, after, rfl⟩ := hstops.of_invalid
      refine .inr ⟨c, after, hcuts.covers, rfl, ?_, ?_⟩
      · exact t.normalized_line fun d hd => hnone d (hcuts.covers ▸ List.mem_append_left _ hd)
      · rw [htokenize, Scan.outcome, hending]
        rfl
  | failed fault => exact absurd hending (ending_scanGeneral_ne_failed h.rules line fault)

theorem tokenizeLine_mk (t : Tokenizer) (number start : Nat) (line : List Char) :
    t.tokenizeLine number ⟨start, line⟩ = (t.tokenize line).mapError (.onLine number start) := rfl

/-- An unknown character in the first line is told with the byte at which the line starts. -/
theorem tokenizeLinesFrom_of_error {line : List Char} {c : Char} {position : Position}
    {offset : Nat} (h : t.tokenize line = .error (.invalidToken c position offset))
    (start number : Nat) (lines : List Line) :
    t.tokenizeLinesFrom number (⟨start, line⟩ :: lines) =
      .error (.invalidToken c ⟨number, position.column⟩ (start + offset)) := by
  rw [Tokenizer.tokenizeLinesFrom, tokenizeLine_mk, h]
  rfl

theorem tokenizeLinesFrom_of_ok {line : List Char} {tokens : List Token}
    (h : t.tokenize line = .ok tokens) (start number : Nat) (lines : List Line) :
    t.tokenizeLinesFrom number (⟨start, line⟩ :: lines) =
      (t.tokenizeLinesFrom (number + 1) lines).map (tokens :: ·) := by
  rw [Tokenizer.tokenizeLinesFrom, tokenizeLine_mk, h]
  cases t.tokenizeLinesFrom (number + 1) lines <;> rfl

/-- Lines one after another come to the end that the scan of the whole text comes to. -/
theorem ScansByLines.tokenizeLinesFrom (h : t.ScansByLines) {start : Nat} {text : List Char}
    {lines : List Line} (hsplits : Line.Splits start text lines) (number : Nat) :
    (∃ results, t.tokenizeLinesFrom number lines = .ok results ∧
        (t.scanGeneral (t.normalized text)).ending = .finished ∧
        (t.scanGeneral (t.normalized text)).tokens = results.flatten) ∨
      ∃ before c after position, text = before ++ c :: after ∧
        t.tokenizeLinesFrom number lines =
          .error (.invalidToken c position (start + byteLength before)) ∧
        (t.scanGeneral (t.normalized text)).ending = .invalid c ∧
        (t.scanGeneral (t.normalized text)).covered = t.normalized before := by
  induction hsplits generalizing number with
  | nil =>
      have hself : t.normalized [] = [] := t.normalized_eq_self List.not_mem_nil
      rw [hself, scanGeneral_nil]
      exact .inl ⟨[], rfl, rfl, rfl⟩
  | @last start line hne hnone =>
      rw [t.normalized_line hnone]
      obtain ⟨hfinished, -, hok⟩ | ⟨c, after, hline, hinvalid, hself, herror⟩ := h.line hnone
      · refine .inl ⟨[(t.scanGeneral line).tokens], ?_, hfinished, by simp⟩
        rw [tokenizeLinesFrom_of_ok hok]
        rfl
      · have hfails := tokenizeLinesFrom_of_error herror start number []
        exact .inr ⟨_, c, after, _, hline, hfails, hinvalid, hself.symm⟩
  | @cons start line terminator rest lines hnone hends hlines ih =>
      rw [h.scanGeneral hnone hends]
      obtain ⟨hfinished, hcovered, hok⟩ | ⟨c, after, hline, hinvalid, hself, herror⟩ :=
        h.line hnone
      · have hignored := Scan.ending_ofIgnored (t.normalized terminator)
        rw [Scan.ending_followedBy hfinished, Scan.ending_followedBy hignored,
          Scan.tokens_followedBy hfinished, Scan.tokens_followedBy hignored,
          Scan.covered_followedBy hfinished, Scan.covered_followedBy hignored,
          Scan.tokens_ofIgnored, Scan.covered_ofIgnored, hcovered]
        obtain ⟨results, hresults, hending, htokens⟩ |
          ⟨before, c, after, position, rfl, herror, hending, hbefore⟩ := ih (number + 1)
        · refine .inl ⟨(t.scanGeneral line).tokens :: results, ?_, hending, ?_⟩
          · rw [tokenizeLinesFrom_of_ok hok, hresults]
            rfl
          · rw [htokens, List.nil_append, List.flatten_cons]
        · refine .inr ⟨line ++ (terminator ++ before), c, after, position, by simp, ?_, hending, ?_⟩
          · rw [tokenizeLinesFrom_of_ok hok, herror]
            simp [Except.map, Nat.add_assoc]
          · rw [hbefore, normalized_append_terminator hnone hends.of_append]
      · have hne : (t.scanGeneral line).ending ≠ .finished := by simp [hinvalid]
        rw [Scan.followedBy_of_ne_finished hne]
        have hfails := tokenizeLinesFrom_of_error herror start number lines
        refine .inr ⟨_, c, after ++ (terminator ++ rest), _, ?_, hfails, hinvalid, hself.symm⟩
        rw [← List.cons_append, ← List.append_assoc _ (c :: after), ← hline]

/-- Either both succeed, and the tokens of the lines one after another are those of the whole text,
or both fail at the same character of the input. It is told with its byte in the input and with its
byte in the input with its line ends converted, which are the same if none are. -/
theorem tokenizeLines_tokenize (h : t.ScansByLines) (input : List Char) :
    (∃ results, t.tokenizeLines input = .ok results ∧ t.tokenize input = .ok results.flatten) ∨
      ∃ before c after position, input = before ++ c :: after ∧
        t.tokenizeLines input = .error (.invalidToken c position (byteLength before)) ∧
        t.tokenize input =
          .error (.invalidToken c (.after (t.normalized before))
            (byteLength (t.normalized before))) ∧
        (t.convertCrlf = false → byteLength (t.normalized before) = byteLength before) := by
  obtain ⟨results, hlines, hending, htokens⟩ |
    ⟨before, c, after, position, hinput, hlines, hending, hcovered⟩ :=
      h.tokenizeLinesFrom (Line.splits_split input) 1
  · refine .inl ⟨results, hlines, ?_⟩
    rw [h.tokenize, Scan.outcome, hending, ← htokens]
    rfl
  · refine .inr ⟨before, c, after, position, hinput, ?_, ?_, fun hkeep => ?_⟩
    · rw [tokenizeLines, hlines, Nat.zero_add]
    · rw [h.tokenize, Scan.outcome, hending, hcovered]
      rfl
    · rw [normalized, if_neg (by simp [hkeep])]

/-- Two signs, of which one begins the other, on lines of all kinds. -/
def comparisons : Tokenizer where
  symbols := ⟨[("<", less), ("<=", atMost)], by decide, by decide⟩
  rules := []
  ignored := [' ', '\n', '\r', '\x0b', '\x0c', '\x1c', '\x1d', '\x1e', '\u0085', '\u2028', '\u2029']
  convertCrlf := true
  suppressUnknown := false

/-- The sign on the second line does not go on behind the line. -/
theorem tokenizeLines_tokenize_comparisons :
    comparisons.ScansByLines ∧
    comparisons.tokenizeLines ['<', '=', '\r', '\n', '<', '\u2028', '<', '='] =
      .ok [[.symbol atMost], [.symbol less], [.symbol atMost]] ∧
    comparisons.tokenize ['<', '=', '\r', '\n', '<', '\u2028', '<', '='] =
      .ok [.symbol atMost, .symbol less, .symbol atMost] := by
  have hliterals : ∀ entry ∈ comparisons.symbols.entries, ∀ c ∈ entry.1.toList,
      isLineBoundary c = false := by simp [comparisons, isLineBoundary]
  have h : comparisons.ScansByLines := by
    refine ⟨rfl, fun c hc => ?_, fun literal hsome => ?_, .inr (by decide +kernel)⟩
    · simp only [isLineBoundary, Bool.or_eq_true, beq_iff_eq, or_assoc] at hc
      simp only [comparisons, List.mem_cons, List.not_mem_nil, or_false]
      exact .inr hc
    · obtain ⟨symbol, hget⟩ := Option.isSome_iff_exists.mp hsome
      exact hliterals _ (SymbolTable.get?_eq_some_iff.mp hget)
  have hlines : comparisons.tokenizeLines ['<', '=', '\r', '\n', '<', '\u2028', '<', '='] =
      .ok [[.symbol atMost], [.symbol less], [.symbol atMost]] := by decide +kernel
  refine ⟨h, hlines, ?_⟩
  obtain ⟨results, hok, hwhole⟩ | ⟨before, c, after, position, -, herror, -⟩ :=
    tokenizeLines_tokenize h ['<', '=', '\r', '\n', '<', '\u2028', '<', '=']
  · rw [hlines] at hok
    cases hok
    exact hwhole
  · rw [hlines] at herror
    cases herror

end Tokenizer

end RuleLexer

import Mathlib.Data.List.Forall2
import RuleLexer.Proofs.Scan.LineEnds
import RuleLexer.Proofs.Text.Lines

/-!
Scanning line by line. Every line is scanned as a text of its own, and the
error of the first line that has one is told as an error of the whole input. It
is told right because a line has no line end to convert, so that the bytes of a
line that is scanned are those of the line in the input.
-/

namespace RuleLexer

namespace Tokenizer

/-! ### A line has no line end -/

/-- Whether line ends are converted does not matter to a text without line feeds. -/
theorem tokenize_convertCrlf (t : Tokenizer) (convertCrlf : Bool) {text : List Char}
    (h : '\n' ∉ text) :
    ({ t with convertCrlf } : Tokenizer).tokenize text = t.tokenize text := by
  have hscanned : ({ t with convertCrlf } : Tokenizer).scannedText text = t.scannedText text := by
    rw [scannedText_eq, scannedText_eq, normalized_eq_self _ h, normalized_eq_self _ h]
  have hscan : ({ t with convertCrlf } : Tokenizer).scan text = t.scan text := by
    rw [scan, scan, hscanned, scanText_convertCrlf]
  rw [tokenize, tokenize, tokenizeWithMetrics, tokenizeWithMetrics, hscan]
  rfl

/-! ### The lines one after another -/

/-- Each line has its tokens. -/
def TokenizesEach (t : Tokenizer) (lines : List Line) (results : List (List Token)) : Prop :=
  List.Forall₂ (fun line tokens => t.tokenize line.text = .ok tokens) lines results

/-- The line is the first one with an error of its own. -/
structure FailsFirst (t : Tokenizer) (before : List Line) (line : Line) (alone : ScanError) :
    Prop where
  tokenizes : ∀ l ∈ before, ∃ tokens, t.tokenize l.text = .ok tokens
  fails : t.tokenize line.text = .error alone

variable {t : Tokenizer}

theorem tokenizeLine_of_ok {line : Line} {tokens : List Token}
    (h : t.tokenize line.text = .ok tokens) (number : Nat) :
    t.tokenizeLine number line = .ok tokens := by
  rw [tokenizeLine, h]
  rfl

theorem tokenizeLine_of_error {line : Line} {alone : ScanError}
    (h : t.tokenize line.text = .error alone) (number : Nat) :
    t.tokenizeLine number line = .error (alone.onLine number line.start) := by
  rw [tokenizeLine, h]
  rfl

theorem TokenizesEach.tokenizeLinesFrom {lines : List Line} {results : List (List Token)}
    (h : t.TokenizesEach lines results) (number : Nat) :
    t.tokenizeLinesFrom number lines = .ok results := by
  induction h generalizing number with
  | nil => rfl
  | cons hline _ ih => rw [Tokenizer.tokenizeLinesFrom, tokenizeLine_of_ok hline, ih]

theorem FailsFirst.tokenizeLinesFrom {before : List Line} {line : Line} {alone : ScanError}
    (h : t.FailsFirst before line alone) (after : List Line) (number : Nat) :
    t.tokenizeLinesFrom number (before ++ line :: after) =
      .error (alone.onLine (number + before.length) line.start) := by
  obtain ⟨htokenizes, hfails⟩ := h
  induction before generalizing number with
  | nil =>
      rw [List.nil_append, Tokenizer.tokenizeLinesFrom, tokenizeLine_of_error hfails]
      rfl
  | cons l before ih =>
      obtain ⟨⟨tokens, hl⟩, hbefore⟩ := List.forall_mem_cons.mp htokenizes
      rw [List.cons_append, Tokenizer.tokenizeLinesFrom, tokenizeLine_of_ok hl, ih _ hbefore,
        List.length_cons, Nat.add_right_comm, Nat.add_assoc]

/-- Either all lines have tokens or there is a first one that fails. -/
theorem tokenizesEach_or_failsFirst (t : Tokenizer) (lines : List Line) :
    (∃ results, t.TokenizesEach lines results) ∨
      ∃ before line after alone, lines = before ++ line :: after ∧
        t.FailsFirst before line alone := by
  induction lines with
  | nil => exact .inl ⟨[], .nil⟩
  | cons line lines ih =>
      cases hline : t.tokenize line.text with
      | error alone => exact .inr ⟨[], line, lines, alone, rfl, List.forall_mem_nil _, hline⟩
      | ok tokens =>
          obtain ⟨results, hresults⟩ | ⟨before, first, after, alone, rfl, hfirst⟩ := ih
          · exact .inl ⟨tokens :: results, .cons hline hresults⟩
          · refine .inr ⟨line :: before, first, after, alone, rfl, ?_, hfirst.fails⟩
            exact List.forall_mem_cons.mpr ⟨⟨tokens, hline⟩, hfirst.tokenizes⟩

theorem tokenizeLinesFrom_eq_ok_iff {number : Nat} {lines : List Line}
    {results : List (List Token)} :
    t.tokenizeLinesFrom number lines = .ok results ↔ t.TokenizesEach lines results := by
  refine ⟨fun h => ?_, fun h => h.tokenizeLinesFrom number⟩
  obtain ⟨results', hresults⟩ | ⟨before, line, after, alone, rfl, hfirst⟩ :=
    t.tokenizesEach_or_failsFirst lines
  · rw [hresults.tokenizeLinesFrom] at h
    cases h
    exact hresults
  · rw [hfirst.tokenizeLinesFrom] at h
    cases h

theorem tokenizeLinesFrom_eq_error_iff {number : Nat} {lines : List Line} {e : ScanError} :
    t.tokenizeLinesFrom number lines = .error e ↔
      ∃ before line after alone, lines = before ++ line :: after ∧
        t.FailsFirst before line alone ∧
        e = alone.onLine (number + before.length) line.start := by
  constructor
  · intro h
    obtain ⟨results, hresults⟩ | ⟨before, line, after, alone, rfl, hfirst⟩ :=
      t.tokenizesEach_or_failsFirst lines
    · rw [hresults.tokenizeLinesFrom] at h
      cases h
    · rw [hfirst.tokenizeLinesFrom] at h
      cases h
      exact ⟨before, line, after, alone, rfl, hfirst, rfl⟩
  · rintro ⟨before, line, after, alone, rfl, hfirst, rfl⟩
    exact hfirst.tokenizeLinesFrom after number

/-- The lines come to the same if each of them does. -/
theorem tokenizeLinesFrom_congr {t t' : Tokenizer} {lines : List Line}
    (h : ∀ line ∈ lines, t.tokenize line.text = t'.tokenize line.text) (number : Nat) :
    t.tokenizeLinesFrom number lines = t'.tokenizeLinesFrom number lines := by
  induction lines generalizing number with
  | nil => rfl
  | cons line lines ih =>
      obtain ⟨hline, hlines⟩ := List.forall_mem_cons.mp h
      rw [tokenizeLinesFrom, tokenizeLinesFrom, tokenizeLine, tokenizeLine, hline,
        ih hlines (number + 1)]

theorem tokenizeLinesFrom_convertCrlf (t : Tokenizer) (convertCrlf : Bool) (number : Nat)
    {lines : List Line} (h : ∀ line ∈ lines, '\n' ∉ line.text) :
    ({ t with convertCrlf } : Tokenizer).tokenizeLinesFrom number lines =
      t.tokenizeLinesFrom number lines :=
  tokenizeLinesFrom_congr (fun line hline => t.tokenize_convertCrlf convertCrlf (h line hline))
    number

/-! ### Errors in the whole input -/

/-- The character that an error in a line tells stands in the input at the byte that is told, so
many characters behind the start of the line as the column says. -/
theorem located_of_failsFirst {input : List Char} {before after : List Line} {line : Line}
    {c : Char} {position : Position} {offset : Nat}
    (hsplit : Line.split input = before ++ line :: after)
    (hfails : t.tokenize line.text = .error (.invalidToken c position offset)) :
    ∃ head within behind tail,
      input = head ++ line.text ++ tail ∧ byteLength head = line.start ∧
      line.text = within ++ c :: behind ∧ position.column = within.length + 1 ∧
      offset = byteLength within ∧
      splitBytes? input (line.start + offset) = some (head ++ within, c :: (behind ++ tail)) := by
  have hmem : line ∈ Line.split input := by simp [hsplit]
  have hnone := Line.lineFeed_notMem_of_mem_split hmem
  obtain ⟨head, tail, hinput, hstart⟩ := Line.within_of_mem_split hmem
  obtain ⟨-, within, behind, htext, rfl, rfl⟩ := normalized_of_invalidToken hfails
  -- The line is scanned as it stands in the input, so bytes of the one are bytes of the other.
  rw [t.normalized_eq_self hnone] at htext
  refine ⟨head, within, behind, tail, hinput, hstart, htext, ?_, rfl, ?_⟩
  · have hwithin : '\n' ∉ within := by
      intro hc
      exact hnone (htext ▸ List.mem_append_left _ hc)
    rw [Position.after_eq, lastLine_eq_self hwithin]
  · rw [splitBytes?_eq_some_iff]
    constructor
    · rw [hinput, htext]
      simp
    · rw [byteLength_append, hstart]

/-- The result has the tokens of every line, or there is the error of the first line that has one.
An unknown character is told with the number of its line, its column there, and the byte of the
input as given at which it starts. Nothing of this depends on whether line ends are converted. -/
theorem tokenizeLines_eq_iff (t : Tokenizer) (input : List Char) :
    (∀ results, t.tokenizeLines input = .ok results ↔
      List.Forall₂ (fun line tokens => t.tokenize line.text = .ok tokens)
        (Line.split input) results) ∧
    (∀ e, t.tokenizeLines input = .error e ↔
      ∃ before line after alone, Line.split input = before ++ line :: after ∧
        t.FailsFirst before line alone ∧ e = alone.onLine (before.length + 1) line.start) ∧
    (∀ c position offset, t.tokenizeLines input = .error (.invalidToken c position offset) →
      ∃ before line after alone, Line.split input = before ++ line :: after ∧
        t.FailsFirst before line alone ∧
        ∃ head within behind tail,
          input = head ++ line.text ++ tail ∧ byteLength head = line.start ∧
          line.text = within ++ c :: behind ∧
          position = ⟨before.length + 1, within.length + 1⟩ ∧
          offset = line.start + byteLength within ∧
          splitBytes? input offset = some (head ++ within, c :: (behind ++ tail))) ∧
    ∀ convertCrlf, ({ t with convertCrlf } : Tokenizer).tokenizeLines input =
      t.tokenizeLines input := by
  have herror (e : ScanError) : t.tokenizeLines input = .error e ↔
      ∃ before line after alone, Line.split input = before ++ line :: after ∧
        t.FailsFirst before line alone ∧ e = alone.onLine (before.length + 1) line.start := by
    simp only [tokenizeLines, tokenizeLinesFrom_eq_error_iff, Nat.add_comm]
  refine ⟨fun results => tokenizeLinesFrom_eq_ok_iff, herror, ?_, ?_⟩
  · intro c position offset h
    obtain ⟨before, line, after, alone, hsplit, hfirst, he⟩ := (herror _).mp h
    refine ⟨before, line, after, alone, hsplit, hfirst, ?_⟩
    cases alone with
    | convert fault => cases he
    | invalidToken d alonePosition aloneOffset =>
        cases he
        obtain ⟨head, within, behind, tail, hinput, hstart, htext, hcolumn, rfl, hbytes⟩ :=
          located_of_failsFirst hsplit hfirst.fails
        exact ⟨head, within, behind, tail, hinput, hstart, htext, by rw [hcolumn], rfl, hbytes⟩
  · intro convertCrlf
    exact t.tokenizeLinesFrom_convertCrlf convertCrlf 1
      fun line => Line.lineFeed_notMem_of_mem_split

end Tokenizer

end RuleLexer

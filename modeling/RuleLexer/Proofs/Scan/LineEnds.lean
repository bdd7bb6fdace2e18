import RuleLexer.Proofs.Scan.InvalidToken

/-!
Line ends and their conversion. Carriage returns that are put before the line
feeds of a text are just the ones which the conversion takes out again, also
where the text has carriage returns of its own before them. All that a tokenizer
does with a text it does after the conversion, so it cannot tell the two texts
apart.
-/

namespace RuleLexer

namespace Tokenizer

/-! ### Conversion -/

theorem convertLineEnds_cons_of_not_pair {c : Char} {text : List Char}
    (h : ∀ rest, c = '\r' → text ≠ '\n' :: rest) :
    convertLineEnds (c :: text) = c :: convertLineEnds text :=
  convertLineEnds.eq_3 c text h

theorem convertLineEnds_singleton (c : Char) : convertLineEnds [c] = [c] :=
  convertLineEnds_cons_of_not_pair fun rest _ => (List.cons_ne_nil _ rest).symm

/-- A carriage return is dropped or the character stays. -/
theorem convertLineEnds_cons (c : Char) (text : List Char) :
    convertLineEnds (c :: text) = c :: convertLineEnds text ∨
      convertLineEnds (c :: text) = convertLineEnds text := by
  by_cases h : ∃ rest, c = '\r' ∧ text = '\n' :: rest
  · obtain ⟨rest, rfl, rfl⟩ := h
    exact .inr rfl
  · exact .inl (convertLineEnds_cons_of_not_pair fun rest hc htext => h ⟨rest, hc, htext⟩)

theorem convertLineEnds_append {chars : List Char} (h : '\r' ∉ chars) (text : List Char) :
    convertLineEnds (chars ++ text) = chars ++ convertLineEnds text := by
  induction chars with
  | nil => rfl
  | cons c chars ih =>
      obtain ⟨hc, hchars⟩ := not_or.mp (List.mem_cons.not.mp h)
      have hpair : ∀ rest, c = '\r' → chars ++ text ≠ '\n' :: rest :=
        fun _ hcr => absurd hcr.symm hc
      rw [List.cons_append, convertLineEnds_cons_of_not_pair hpair, ih hchars, List.cons_append]

/-- Without line feeds, a carriage return can only be dropped at the end of the characters. -/
theorem convertLineEnds_append_of_getLast? {chars : List Char} (h : '\n' ∉ chars)
    (hlast : chars.getLast? ≠ some '\r') (text : List Char) :
    convertLineEnds (chars ++ text) = chars ++ convertLineEnds text := by
  induction chars with
  | nil => rfl
  | cons c chars ih =>
      have hpair : ∀ rest, c = '\r' → chars ++ text ≠ '\n' :: rest := by
        rintro rest rfl hrest
        cases chars with
        | nil => exact hlast rfl
        | cons d chars => simp [(List.cons.inj hrest).1] at h
      have hchars : chars.getLast? ≠ some '\r' := by
        intro hr
        exact hlast (by rw [List.getLast?_cons, hr]; rfl)
      rw [List.cons_append, convertLineEnds_cons_of_not_pair hpair,
        ih (List.not_mem_of_not_mem_cons h) hchars, List.cons_append]

theorem convertLineEnds_eq_self {text : List Char} (h : '\n' ∉ text) :
    convertLineEnds text = text := by
  fun_induction convertLineEnds text with
  | case1 => rfl
  | case2 rest => simp at h
  | case3 c rest _ ih => rw [ih (List.not_mem_of_not_mem_cons h)]

theorem normalized_eq_self (t : Tokenizer) {text : List Char} (h : '\n' ∉ text) :
    t.normalized text = text := by
  rw [normalized, convertLineEnds_eq_self h, ite_self]

/-! ### A carriage return before every line feed -/

def insertReturns (text : List Char) : List Char :=
  text.flatMap fun c => if c = '\n' then ['\r', '\n'] else [c]

theorem insertReturns_lineFeed (text : List Char) :
    insertReturns ('\n' :: text) = '\r' :: '\n' :: insertReturns text := rfl

theorem insertReturns_cons_of_ne {c : Char} (h : c ≠ '\n') (text : List Char) :
    insertReturns (c :: text) = c :: insertReturns text := by
  rw [insertReturns, List.flatMap_cons, if_neg h]
  rfl

theorem insertReturns_ne_cons (text rest : List Char) : insertReturns text ≠ '\n' :: rest := by
  cases text with
  | nil => simp [insertReturns]
  | cons c text =>
      by_cases hc : c = '\n'
      · subst hc
        simp [insertReturns_lineFeed]
      · simp [insertReturns_cons_of_ne hc, hc]

/-- A carriage return of the text has no line feed behind it any more, but the one that has been put
between them. -/
theorem convertLineEnds_insertReturns (text : List Char) :
    convertLineEnds (insertReturns text) = text := by
  induction text with
  | nil => rfl
  | cons c text ih =>
      by_cases hc : c = '\n'
      · subst hc
        rw [insertReturns_lineFeed, convertLineEnds, ih]
      · have hcons := convertLineEnds_cons_of_not_pair (c := c) fun rest _ =>
          insertReturns_ne_cons text rest
        rw [insertReturns_cons_of_ne hc, hcons, ih]

example : insertReturns ['\r', '\n', '\r', '\r', '\n'] =
    ['\r', '\r', '\n', '\r', '\r', '\r', '\n'] := rfl

/-! ### Scans -/

theorem scanSegments_convertCrlf (t : Tokenizer) (convertCrlf : Bool) (trie : Trie Symbol)
    (fuel : Nat) (text : List Char) :
    ({ t with convertCrlf } : Tokenizer).scanSegments trie fuel text =
      t.scanSegments trie fuel text := by
  induction fuel generalizing text with
  | zero => cases text <;> rfl
  | succ fuel ih =>
      cases text with
      | nil => rfl
      | cons c rest =>
          simp only [scanSegments, ih]
          rfl

/-- Line ends are converted before a scan, which has no more to do with them. -/
theorem scanText_convertCrlf (t : Tokenizer) (convertCrlf : Bool) (text : List Char) :
    ({ t with convertCrlf } : Tokenizer).scanText text = t.scanText text := by
  rw [scanText_eq_scanGeneral, scanText_eq_scanGeneral, scanGeneral, scanGeneral,
    scanSegments_convertCrlf]
  rfl

/-- The tokenizer as one that converts line ends. -/
def converting (t : Tokenizer) : Tokenizer := { t with convertCrlf := true }

/-- The tokenizer as one that keeps line ends as they are. -/
def keeping (t : Tokenizer) : Tokenizer := { t with convertCrlf := false }

theorem scannedText_insertReturns (t : Tokenizer) (text : List Char) :
    t.converting.scannedText (insertReturns text) = t.keeping.scannedText text := by
  have hnormalized : t.converting.normalized (insertReturns text) = t.keeping.normalized text :=
    convertLineEnds_insertReturns text
  rw [scannedText_eq, scannedText_eq, hnormalized]
  rfl

theorem scan_insertReturns (t : Tokenizer) (text : List Char) :
    t.converting.scan (insertReturns text) = t.keeping.scan text := by
  rw [scan, scan, scannedText_insertReturns]
  exact (t.scanText_convertCrlf true _).trans (t.scanText_convertCrlf false _).symm

/-- With a carriage return before every line feed a text comes to what it comes to without where
line ends are kept: to the same tokens and counts, or to the same error at the same place. What is
recorded is the same too. -/
theorem tokenizeWithMetrics_insertReturns (t : Tokenizer) (text : List Char) :
    t.converting.tokenizeWithMetrics (insertReturns text) = t.keeping.tokenizeWithMetrics text ∧
    t.converting.tokenize (insertReturns text) = t.keeping.tokenize text ∧
    t.converting.trace (insertReturns text) = t.keeping.trace text := by
  have hscan := t.scan_insertReturns text
  have hmetrics : t.converting.tokenizeWithMetrics (insertReturns text) =
      t.keeping.tokenizeWithMetrics text := by
    rw [tokenizeWithMetrics, tokenizeWithMetrics, hscan]
    rfl
  refine ⟨hmetrics, ?_, ?_⟩
  · rw [tokenize, tokenize, hmetrics]
  · rw [trace, trace, hscan]
    rfl

end Tokenizer

end RuleLexer

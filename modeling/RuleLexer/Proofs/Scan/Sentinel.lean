import RuleLexer.Proofs.Scan.Pieces

/-!
The space that is added behind a text where spaces are ignored. It is there for
rules that need a character after their match. Without rules it makes no
difference to the scan of the text, unless the text ends in all of a literal but
a space at its end. The scan takes the added space into that literal then, and
comes to a symbol that is not in the text.
-/

namespace RuleLexer

namespace Tokenizer

variable {t : Tokenizer} {input text : List Char}

/-! ### Where no literal takes the space -/

theorem scanGeneral_space (hspace : ' ' ∈ t.ignored) :
    t.scanGeneral [' '] = Scan.ofIgnored [' '] :=
  scanGeneral_of_cuts (.cons (.skipped hspace) rfl .nil) .finished

theorem outcome_scan_of_not_crosses (hrules : t.rules = [])
    (h : ' ' ∈ t.ignored → ¬ t.Crosses [' '] (t.normalized input)) (path : ScanPath) :
    (t.scan input).outcome path = (t.scanGeneral (t.normalized input)).outcome path := by
  rw [scan, scanText_eq_scanGeneral, scannedText_eq]
  by_cases hspace : ' ' ∈ t.ignored
  · rw [if_pos hspace, scanGeneral_append hrules (h hspace), scanGeneral_space hspace,
      Scan.outcome_followedBy_ofIgnored]
  · rw [if_neg hspace, List.append_nil]

theorem Cuts.isInfix_of_symbol_mem {left literal : List Char} {segments : List Segment} {s : Symbol}
    (h : t.Cuts text segments left) (hmem : .symbol s literal ∈ segments) :
    t.symbols.get? (String.ofList literal) = some s ∧ literal <:+: text := by
  induction h with
  | nil => cases hmem
  | @cons text rest left segment segments hnext htext _ ih =>
      obtain rfl | hmem := List.mem_cons.mp hmem
      · exact ⟨hnext.isLongest.get?, hnext.isPrefix.isInfix⟩
      · obtain ⟨hget, hinfix⟩ := ih hmem
        exact ⟨hget, htext ▸ hinfix.trans (List.suffix_append _ rest).isInfix⟩

/-- A symbol comes from a literal of it that is in the scanned text. -/
theorem exists_literal_of_symbol_mem {s : Symbol} (h : .symbol s ∈ (t.scanGeneral text).tokens) :
    ∃ literal, t.symbols.get? literal = some s ∧ literal.toList <:+: text := by
  obtain ⟨segment, hmem, htoken⟩ := List.mem_filterMap.mp h
  obtain ⟨left, hcuts, -⟩ := t.cuts_scanGeneral text
  cases segment with
  | symbol s' literal =>
      cases htoken
      obtain ⟨hget, hinfix⟩ := hcuts.isInfix_of_symbol_mem hmem
      exact ⟨String.ofList literal, hget, by rwa [String.toList_ofList]⟩
  | _ => cases htoken

/-! ### Where a literal takes it -/

/-- The space is all there is behind the text, so a literal that goes on into it ends there, and so
does the scan. -/
theorem Crosses.scanGeneral_space (h : t.Crosses [' '] text) :
    ∃ segments stem s, stem ≠ [] ∧ text = segments.flatMap Segment.text ++ stem ∧
      t.symbols.get? (String.ofList (stem ++ [' '])) = some s ∧
      t.scanGeneral (text ++ [' ']) = ⟨segments ++ [.symbol s (stem ++ [' '])], .finished⟩ := by
  induction h with
  | @here stem literal s hne hnext hlt =>
      have hlongest := hnext.isLongest
      have hstart := hlongest.atStart
      rw [String.toList_ofList] at hstart
      obtain rfl : literal = stem ++ [' '] := by
        refine hstart.eq_of_length_le ?_
        rw [List.length_append]
        exact hlt
      refine ⟨[], stem, s, hne, rfl, hlongest.get?, ?_⟩
      exact scanGeneral_of_cuts (.cons hnext (List.append_nil _).symm .nil) .finished
  | @later text segment hnext _ ih =>
      obtain ⟨segments, stem, s, hne, htext, hget, hscan⟩ := ih
      refine ⟨segment :: segments, stem, s, hne, ?_, hget, ?_⟩
      · rw [List.flatMap_cons, List.append_assoc, ← htext]
      · rw [List.append_assoc, scanGeneral_of_next hnext, hscan]
        rfl

/-- Without rules a scan comes to the same tokens and counts or to the same error as a scan of the
text without the added space, and each symbol it comes to has a literal in the text, unless some
literal goes on from the text into the space. The last segment is that literal then, and of the text
there is all of it but the space. -/
theorem tokenizeWithMetrics_sentinel (hrules : t.rules = []) (hspace : ' ' ∈ t.ignored)
    (input : List Char) :
    (¬ t.Crosses [' '] (t.normalized input) →
      t.tokenizeWithMetrics input = (t.scanText (t.normalized input)).outcome t.path ∧
      ∀ result, t.tokenizeWithMetrics input = .ok result → ∀ s, .symbol s ∈ result.tokens →
        ∃ literal, t.symbols.get? literal = some s ∧ literal.toList <:+: t.normalized input) ∧
    (t.Crosses [' '] (t.normalized input) →
      ∃ segments stem s, stem ≠ [] ∧
        t.normalized input = segments.flatMap Segment.text ++ stem ∧
        t.symbols.get? (String.ofList (stem ++ [' '])) = some s ∧
        t.scan input = ⟨segments ++ [.symbol s (stem ++ [' '])], .finished⟩) := by
  constructor
  · intro h
    have houtcome : t.tokenizeWithMetrics input =
        (t.scanText (t.normalized input)).outcome t.path := by
      rw [tokenizeWithMetrics, outcome_scan_of_not_crosses hrules (fun _ => h),
        scanText_eq_scanGeneral]
    refine ⟨houtcome, fun result hok s hs => ?_⟩
    rw [houtcome, scanText_eq_scanGeneral] at hok
    obtain ⟨-, rfl⟩ := Scan.outcome_eq_ok_iff.mp hok
    exact exists_literal_of_symbol_mem hs
  · intro h
    rw [scan, scanText_eq_scanGeneral, scannedText_eq, if_pos hspace]
    exact h.scanGeneral_space

/-! ### A literal with a space at its end -/

def article : Symbol := ⟨0, "Article"⟩

def noun : Symbol := ⟨1, "Noun"⟩

/-- An article has to be set off by a space. -/
def articlesAndNouns : Tokenizer where
  symbols := ⟨[("a ", article), ("ant", noun)], by decide, by decide⟩
  rules := []
  ignored := [' ']
  convertCrlf := true
  suppressUnknown := false

/-- The text is one letter, which is unknown, and with the added space it is an article. No literal
of the article is in the text. -/
theorem tokenizeWithMetrics_ne_unpadded :
    articlesAndNouns.rules = [] ∧ ' ' ∈ articlesAndNouns.ignored ∧
    articlesAndNouns.tokenizeWithMetrics ['a'] = .ok ⟨[.symbol article], ⟨.general, 1, 0, 0, 0⟩⟩ ∧
    (articlesAndNouns.scanText (articlesAndNouns.normalized ['a'])).outcome articlesAndNouns.path =
      .error (.invalidToken 'a' ⟨1, 1⟩ 0) ∧
    ∀ literal, articlesAndNouns.symbols.get? literal = some article →
      ¬ literal.toList <:+: articlesAndNouns.normalized ['a'] := by
  refine ⟨rfl, by decide, by decide +kernel, by decide +kernel, fun literal hget hinfix => ?_⟩
  have hmem := SymbolTable.get?_eq_some_iff.mp hget
  have hliteral : literal = "a " := by simpa [articlesAndNouns, article, noun] using hmem
  subst hliteral
  exact absurd hinfix (by decide +kernel)

/-- A noun at the end of the text does not take the space, an article without its own does. -/
theorem tokenizeWithMetrics_sentinel_articles :
    articlesAndNouns.tokenizeWithMetrics ['a', ' ', 'a', 'n', 't'] =
      (articlesAndNouns.scanText ['a', ' ', 'a', 'n', 't']).outcome articlesAndNouns.path ∧
    ∃ segments stem s, stem ≠ [] ∧
      ['a', 'n', 't', 'a'] = segments.flatMap Segment.text ++ stem ∧
      articlesAndNouns.symbols.get? (String.ofList (stem ++ [' '])) = some s ∧
      articlesAndNouns.scan ['a', 'n', 't', 'a'] =
        ⟨segments ++ [.symbol s (stem ++ [' '])], .finished⟩ := by
  have hspace : ' ' ∈ articlesAndNouns.ignored := by decide
  constructor
  · have hscan : (articlesAndNouns.scan ['a', ' ', 'a', 'n', 't']).segments.getLast? =
        some (.skipped ' ') := by decide +kernel
    refine ((tokenizeWithMetrics_sentinel rfl hspace ['a', ' ', 'a', 'n', 't']).1 ?_).1
    intro h
    obtain ⟨segments, stem, s, -, -, -, heq⟩ :=
      (tokenizeWithMetrics_sentinel rfl hspace ['a', ' ', 'a', 'n', 't']).2 h
    rw [heq] at hscan
    simp at hscan
  · refine (tokenizeWithMetrics_sentinel rfl hspace ['a', 'n', 't', 'a']).2 ?_
    have hnoun : articlesAndNouns.Next ['a', 'n', 't', 'a', ' '] (.symbol noun ['a', 'n', 't']) :=
      nextSegment_eq_ok_iff.mp (by decide +kernel)
    have harticle : articlesAndNouns.Next ['a', ' '] (.symbol article ['a', ' ']) :=
      nextSegment_eq_ok_iff.mp (by decide +kernel)
    have hstem : articlesAndNouns.Crosses [' '] ['a'] := .here (by simp) harticle (by simp)
    show articlesAndNouns.Crosses [' '] ((Segment.symbol noun ['a', 'n', 't']).text ++ ['a'])
    exact .later hnoun hstem

end Tokenizer

end RuleLexer

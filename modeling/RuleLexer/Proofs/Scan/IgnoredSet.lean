import RuleLexer.Proofs.Scan.Lines

/-!
The ignored characters as a set. All that a tokenizer asks of a character is
whether it is ignored, so the order in which the ignored characters are listed,
and how often each of them is, makes no difference to a scan.
-/

namespace RuleLexer

namespace Tokenizer

/-- The tokenizer with other ignored characters. -/
def withIgnored (t : Tokenizer) (ignored : List Char) : Tokenizer := { t with ignored }

section

variable {ignored ignored' : List Char} (h : ∀ c, c ∈ ignored ↔ c ∈ ignored') (t : Tokenizer)

include h

theorem contains_eq_of_mem_iff (c : Char) : ignored.contains c = ignored'.contains c := by
  rw [Bool.eq_iff_iff, List.contains_iff_mem, List.contains_iff_mem, h]

theorem nextSegment_withIgnored (trie : Trie Symbol) (c : Char) (rest : List Char) :
    (t.withIgnored ignored).nextSegment trie c rest =
      (t.withIgnored ignored').nextSegment trie c rest := by
  rw [nextSegment, nextSegment]
  simp only [withIgnored, contains_eq_of_mem_iff h]
  rfl

theorem scanSegments_withIgnored (trie : Trie Symbol) (fuel : Nat) (text : List Char) :
    (t.withIgnored ignored).scanSegments trie fuel text =
      (t.withIgnored ignored').scanSegments trie fuel text := by
  induction fuel generalizing text with
  | zero => cases text <;> rfl
  | succ fuel ih =>
      cases text with
      | nil => rfl
      | cons c rest =>
          rw [scanSegments, scanSegments, nextSegment_withIgnored h]
          simp only [ih]

theorem scan_withIgnored (input : List Char) :
    (t.withIgnored ignored).scan input = (t.withIgnored ignored').scan input := by
  have htext : (t.withIgnored ignored).scannedText input =
      (t.withIgnored ignored').scannedText input := by
    rw [scannedText, scannedText]
    simp only [withIgnored, contains_eq_of_mem_iff h]
    rfl
  rw [scan, scan, scanText_eq_scanGeneral, scanText_eq_scanGeneral, htext, scanGeneral, scanGeneral,
    scanSegments_withIgnored h]
  rfl

theorem tokenizeWithMetrics_withIgnored (input : List Char) :
    (t.withIgnored ignored).tokenizeWithMetrics input =
      (t.withIgnored ignored').tokenizeWithMetrics input := by
  rw [tokenizeWithMetrics, tokenizeWithMetrics, scan_withIgnored h]
  rfl

theorem tokenizeLines_withIgnored (input : List Char) :
    (t.withIgnored ignored).tokenizeLines input = (t.withIgnored ignored').tokenizeLines input := by
  refine tokenizeLinesFrom_congr (fun line _ => ?_) 1
  rw [tokenize, tokenize, tokenizeWithMetrics_withIgnored h]

end

end Tokenizer

end RuleLexer

import RuleLexer.Proofs.Scan.Singles
import RuleLexer.Rule.Library

/-!
Where a scan fails at an unknown character. The character is one of the text
with its line ends converted, and never the space that is added behind it: that
is there only where spaces are ignored, and an ignored character is not unknown.
Line, column and byte are those of the character in this text.
-/

namespace RuleLexer

namespace Tokenizer

/-- The input with its line ends converted, if they are to be. -/
def normalized (t : Tokenizer) (input : List Char) : List Char :=
  if t.convertCrlf then convertLineEnds input else input

theorem scannedText_eq (t : Tokenizer) (input : List Char) :
    t.scannedText input = t.normalized input ++ if ' ' ∈ t.ignored then [' '] else [] := by
  rw [scannedText, normalized]
  by_cases h : ' ' ∈ t.ignored
  · simp [h]
  · simp [h]

/-- A character that is not ignored stands before the space that is added. -/
theorem normalized_of_scannedText {t : Tokenizer} {input before rest : List Char} {c : Char}
    (h : t.scannedText input = before ++ c :: rest) (hc : c ∉ t.ignored) :
    ∃ after, t.normalized input = before ++ c :: after := by
  rw [scannedText_eq] at h
  by_cases hspace : ' ' ∈ t.ignored
  · rw [if_pos hspace] at h
    cases rest using List.reverseRecOn with
    | nil =>
        -- the character would be the space that is added
        obtain ⟨-, hlast⟩ := List.append_inj' h rfl
        obtain rfl := (List.cons.inj hlast).1
        exact absurd hspace hc
    | append_singleton after last =>
        rw [← List.cons_append, ← List.append_assoc] at h
        exact ⟨after, (List.append_inj' h rfl).1⟩
  · rw [if_neg hspace, List.append_nil] at h
    exact ⟨rest, h⟩

theorem Stops.of_invalid {t : Tokenizer} {text : List Char} {c : Char}
    (h : t.Stops text (.invalid c)) : c ∉ t.ignored ∧ ∃ rest, text = c :: rest := by
  cases h with
  | invalid hleft => exact ⟨hleft.1, _, rfl⟩

/-- The text that a scan covers before an unknown character is all there is before it. -/
theorem covered_of_invalid {t : Tokenizer} {input : List Char} {c : Char}
    (h : (t.scan input).ending = .invalid c) :
    c ∉ t.ignored ∧ ∃ after, t.normalized input = (t.scan input).covered ++ c :: after := by
  rw [scan, scanText_eq_scanGeneral] at h ⊢
  obtain ⟨left, hcuts, hstops⟩ := t.cuts_scanGeneral (t.scannedText input)
  rw [h] at hstops
  obtain ⟨hc, rest, rfl⟩ := hstops.of_invalid
  exact ⟨hc, normalized_of_scannedText hcuts.covers hc⟩

theorem tokenize_eq_error_iff {t : Tokenizer} {input : List Char} {e : ScanError} :
    t.tokenize input = .error e ↔ (t.scan input).outcome t.path = .error e := by
  rw [tokenize, tokenizeWithMetrics]
  cases (t.scan input).outcome t.path <;> simp [Except.map]

theorem normalized_of_invalidToken {t : Tokenizer} {input : List Char} {c : Char}
    {position : Position} {offset : Nat}
    (h : t.tokenize input = .error (.invalidToken c position offset)) :
    c ∉ t.ignored ∧ ∃ before after, t.normalized input = before ++ c :: after ∧
      position = .after before ∧ offset = byteLength before := by
  obtain ⟨hending, rfl, rfl⟩ := Scan.outcome_eq_invalidToken_iff.mp (tokenize_eq_error_iff.mp h)
  obtain ⟨hc, after, hafter⟩ := covered_of_invalid hending
  exact ⟨hc, _, after, hafter, rfl, rfl⟩

/-- The byte at which a scan fails is one of the converted input, at which the character starts that
is told. That character is not ignored. Its line is one more than the line feeds before it, its
column one more than the characters after the last of them, and line and column tell the byte as
the byte tells them. -/
theorem tokenize_eq_invalidToken {t : Tokenizer} {input : List Char} {c : Char}
    {position : Position} {offset : Nat}
    (h : t.tokenize input = .error (.invalidToken c position offset)) :
    (∃ before after, splitBytes? (t.normalized input) offset = some (before, c :: after) ∧
      position = ⟨before.count '\n' + 1, (lastLine before).length + 1⟩) ∧
    offset < byteLength (t.normalized input) ∧
    c ∉ t.ignored ∧
    ∀ p q, p <+: t.normalized input → q <+: t.normalized input →
      (Position.after p = .after q ↔ byteLength p = byteLength q) := by
  obtain ⟨hc, before, after, hnormalized, rfl, rfl⟩ := normalized_of_invalidToken h
  refine ⟨⟨before, after, ?_, Position.after_eq before⟩, ?_, hc, ?_⟩
  · rw [hnormalized, splitBytes?_append]
  · rw [hnormalized, byteLength_append, byteLength_cons]
    have hpos := c.utf8Size_pos
    omega
  · intro p q hp hq
    exact Position.after_eq_iff_byteLength_eq hp hq

/-- Words with spaces between them, on lines that are ignored too. -/
def words : Tokenizer where
  symbols := .empty
  rules := [Library.word]
  ignored := [' ', '\n']
  convertCrlf := true
  suppressUnknown := false

/-- The line end before the character is two bytes long in the input. -/
theorem tokenize_eq_invalidToken_words :
    words.tokenize ['a', 'b', '\r', '\n', 'c', ' ', 'é'] =
      .error (.invalidToken 'é' ⟨2, 3⟩ 5) ∧
    words.normalized ['a', 'b', '\r', '\n', 'c', ' ', 'é'] = ['a', 'b', '\n', 'c', ' ', 'é'] ∧
    (∃ before after, splitBytes? ['a', 'b', '\n', 'c', ' ', 'é'] 5 = some (before, 'é' :: after) ∧
      Position.mk 2 3 = ⟨before.count '\n' + 1, (lastLine before).length + 1⟩) ∧
    5 < byteLength ['a', 'b', '\n', 'c', ' ', 'é'] ∧
    'é' ∉ words.ignored := by
  have h : words.tokenize ['a', 'b', '\r', '\n', 'c', ' ', 'é'] =
      .error (.invalidToken 'é' ⟨2, 3⟩ 5) := by decide +kernel
  obtain ⟨hsplit, hlt, hc, -⟩ := tokenize_eq_invalidToken h
  exact ⟨h, rfl, hsplit, hlt, hc⟩

end Tokenizer

end RuleLexer

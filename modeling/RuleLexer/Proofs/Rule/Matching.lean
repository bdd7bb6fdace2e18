import RuleLexer.Proofs.Pattern.Apart
import RuleLexer.Proofs.Rule.Anchoring

/-!
What comes of a text under a rule, by the words of the rule's pattern. The rule
applies if one of them is at the start of the text, and then to one of them, to
the longest where longer ways are preferred.
-/

namespace RuleLexer

namespace Rule

/-- A pattern that matches what the rule matches, without assertions and without rounds over
nothing. -/
structure Reading (r : Rule) where
  pattern : Pattern
  match?_eq (text : List Char) : r.match? text = (pattern.matchPrefix? text).map text.take
  isLookFree : pattern.isLookFree = true
  isProgressive : pattern.isProgressive = true

theorem match?_of_parse {r : Rule} {p : Pattern}
    (h : Pattern.parse? r.flags.mode (groupText r.flags r.pattern.toList) = some p)
    (text : List Char) : r.match? text = (p.matchPrefix? text).map text.take := by
  obtain ⟨bare, p', depth, -, hgroup, hdepth, hmatcher⟩ := compile?_eq_some r.compiled
  have hparse := hgroup.parse
  rw [if_pos (Nat.le_of_add_right_le hdepth), h] at hparse
  obtain rfl : p = p' := Option.some.inj hparse
  rw [match?, hmatcher, hgroup.normal.matchPrefix?_behindAnchor]

theorem apply_of_match?_eq_none {r : Rule} {text : List Char} (h : r.match? text = none) :
    r.apply text = .ok .notApplied := by
  rw [apply, h]

theorem apply_of_match? {r : Rule} {text matched : List Char} (h : r.match? text = some matched) :
    r.apply text = r.action.outcome matched := by
  rw [apply, h]
  cases r.action <;> rfl

namespace Reading

/-- The text of the rule's pattern comes to `p`. -/
def ofParse {r : Rule} (p : Pattern)
    (hparse : Pattern.parse? r.flags.mode (groupText r.flags r.pattern.toList) = some p)
    (hlook : p.isLookFree = true) (hprogressive : p.isProgressive = true) : r.Reading :=
  ⟨p, match?_of_parse hparse, hlook, hprogressive⟩

variable {r : Rule} (reading : r.Reading)

theorem match?_of_matchPrefix? {word text : List Char} (hbegins : word <+: text)
    (hmatch : reading.pattern.matchPrefix? text = some word.length) :
    r.match? text = some word := by
  rw [reading.match?_eq, hmatch, Option.map_some, ← List.prefix_iff_eq_take.mp hbegins]

theorem match?_of_matchPrefix?_eq_none {text : List Char}
    (hmatch : reading.pattern.matchPrefix? text = none) : r.match? text = none := by
  rw [reading.match?_eq, hmatch, Option.map_none]

/-- The rule applies to a word of the pattern, if there is one at the start of the text. -/
theorem apply_cases (text : List Char) :
    ((∀ word ∈ reading.pattern.language, ¬ word <+: text) ∧ r.apply text = .ok .notApplied) ∨
    ∃ word ∈ reading.pattern.language, word <+: text ∧ r.apply text = r.action.outcome word := by
  obtain ⟨hnone, hmatch⟩ | ⟨word, hword, hbegins, hmatch⟩ :=
    Pattern.matchPrefix?_cases reading.isLookFree reading.isProgressive text
  · exact .inl ⟨hnone, apply_of_match?_eq_none (reading.match?_of_matchPrefix?_eq_none hmatch)⟩
  · exact .inr ⟨word, hword, hbegins,
      apply_of_match? (reading.match?_of_matchPrefix? hbegins hmatch)⟩

/-- It matches the longest such word where longer ways are preferred. -/
theorem match?_longest (hlonger : Pattern.PrefersLonger reading.pattern.ways) (text : List Char) :
    ((∀ word ∈ reading.pattern.language, ¬ word <+: text) ∧ r.match? text = none) ∨
    ∃ word, Pattern.LongestPrefix reading.pattern.language text word ∧
      r.match? text = some word := by
  obtain ⟨hnone, hmatch⟩ | ⟨word, hword, hmatch⟩ :=
    Pattern.matchPrefix?_longest reading.isLookFree reading.isProgressive hlonger text
  · exact .inl ⟨hnone, reading.match?_of_matchPrefix?_eq_none hmatch⟩
  · exact .inr ⟨word, hword, reading.match?_of_matchPrefix? hword.isPrefix hmatch⟩

theorem apply_longest (hlonger : Pattern.PrefersLonger reading.pattern.ways) (text : List Char) :
    ((∀ word ∈ reading.pattern.language, ¬ word <+: text) ∧ r.apply text = .ok .notApplied) ∨
    ∃ word, Pattern.LongestPrefix reading.pattern.language text word ∧
      r.apply text = r.action.outcome word := by
  obtain ⟨hnone, hmatch⟩ | ⟨word, hword, hmatch⟩ := reading.match?_longest hlonger text
  · exact .inl ⟨hnone, apply_of_match?_eq_none hmatch⟩
  · exact .inr ⟨word, hword, apply_of_match? hmatch⟩

end Reading

/-- At the start of a text the rule matches the longest word of the language that is there. -/
def MatchesLongest (r : Rule) (l : Language Char) : Prop :=
  ∀ text, ((∀ word ∈ l, ¬ word <+: text) ∧ r.match? text = none) ∨
    ∃ word, Pattern.LongestPrefix l text word ∧ r.match? text = some word

theorem Reading.matchesLongest {r : Rule} (reading : r.Reading) {l : Language Char}
    (h : reading.pattern.TakesLongest l) : r.MatchesLongest l := by
  intro text
  rw [← h.language_eq]
  exact reading.match?_longest h.prefersLonger text

namespace MatchesLongest

variable {r : Rule} {l : Language Char} {text : List Char} (h : r.MatchesLongest l)
include h

theorem match?_eq_none_iff : r.match? text = none ↔ ∀ word ∈ l, ¬ word <+: text := by
  obtain ⟨hnone, hmatch⟩ | ⟨word, hword, hmatch⟩ := h text
  · exact iff_of_true hmatch hnone
  · exact iff_of_false (by simp [hmatch]) fun hnone => hnone word hword.mem hword.isPrefix

theorem longestPrefix {word : List Char} (hmatch : r.match? text = some word) :
    Pattern.LongestPrefix l text word := by
  obtain ⟨-, hnone⟩ | ⟨word', hword, hmatch'⟩ := h text
  · cases hnone.symm.trans hmatch
  · obtain rfl : word' = word := Option.some.inj (hmatch'.symm.trans hmatch)
    exact hword

theorem match?_of_mem {word : List Char} (hword : word ∈ l) : r.match? word = some word := by
  obtain ⟨hnone, -⟩ | ⟨longest, hlongest, hmatch⟩ := h word
  · exact absurd (List.prefix_refl word) (hnone word hword)
  · have hlength := hlongest.longest word hword (List.prefix_refl word)
    rw [hmatch, hlongest.isPrefix.eq_of_length_le hlength]

end MatchesLongest

end Rule

end RuleLexer

import RuleLexer.Proofs.Rule.Matching
import RuleLexer.Rule.Library

/-!
Characters between quotes. The pattern has a branch for an escaped quote behind
the branch for a character other than a quote. The backslash is such a
character, and the escaped quote is a quote, so wherever the later branch would
match the earlier one does, and the rule never gets to the quote behind an
escaped one.
-/

namespace RuleLexer

namespace Library

def charLiteral (c : Char) : List Char := ['\'', c, '\'']

/-- What comes of a text with the literal at its start. -/
def charOutcome (c : Char) : Outcome :=
  .applied (.str (String.ofList (charLiteral c))) (charLiteral c)

/-- An escaped quote between quotes. -/
def escapedQuote : List Char := ['\'', '\\', '\'', '\'']

/-! ### The pattern -/

/-- What the branch matches between quotes. -/
def betweenQuotes (p : Pattern) : Pattern :=
  .seq (.literal '\'' []) (.seq p (.literal '\'' []))

def otherChar : Pattern := .set (CharSet.one '\'').compl

theorem mem_language_otherChar {word : List Char} :
    word ∈ (betweenQuotes otherChar).language ↔ ∃ c, c ≠ '\'' ∧ word = charLiteral c := by
  have hcontains (c : Char) : (CharSet.one '\'').compl.contains c = true ↔ c ≠ '\'' := by
    simp
  simp only [betweenQuotes, otherChar, Pattern.language_seq, Pattern.language_literal,
    Pattern.language_set, Language.mem_mul]
  constructor
  · rintro ⟨_, rfl, _, ⟨_, ⟨c, hc, rfl⟩, _, rfl, rfl⟩, rfl⟩
    exact ⟨c, (hcontains c).mp hc, rfl⟩
  · rintro ⟨c, hc, rfl⟩
    exact ⟨['\''], rfl, [c, '\''], ⟨[c], ⟨c, (hcontains c).mpr hc, rfl⟩, ['\''], rfl, rfl⟩, rfl⟩

theorem mem_language_escaped {word : List Char} :
    word ∈ (betweenQuotes (.literal '\\' ['\''])).language ↔ word = escapedQuote := by
  simp only [betweenQuotes, Pattern.language_seq, Pattern.language_literal, Language.mem_mul]
  constructor
  · rintro ⟨_, rfl, _, ⟨_, rfl, _, rfl, rfl⟩, rfl⟩
    rfl
  · rintro rfl
    exact ⟨['\''], rfl, ['\\', '\'', '\''], ⟨['\\', '\''], rfl, ['\''], rfl, rfl⟩, rfl⟩

theorem ways_betweenQuotes_alt (p q : Pattern) (c : Cursor) :
    (betweenQuotes (.alt p q)).ways c = (betweenQuotes p).ways c ++ (betweenQuotes q).ways c := by
  simp only [betweenQuotes, Pattern.ways_seq, Pattern.ways_literal,
    Cursor.readAll_singleton]
  obtain hread | ⟨d, hread⟩ := (Pattern.deterministic_read (.one '\'')).eq_nil_or_singleton c
  · simp [hread]
  · simp [hread, Pattern.ways_seq, Pattern.ways_alt]

/-- The later branch is never the preferred one. -/
theorem matchPrefix?_escaped (text : List Char) :
    (betweenQuotes (.alt otherChar (.literal '\\' ['\'']))).matchPrefix? text =
      (betweenQuotes otherChar).matchPrefix? text := by
  rw [Pattern.matchPrefix?_eq rfl, Pattern.matchPrefix?_eq rfl, ways_betweenQuotes_alt]
  have hother : Pattern.Recognizes (betweenQuotes otherChar).ways _ :=
    Pattern.recognizes_ways rfl rfl
  have hescaped : Pattern.Recognizes (betweenQuotes (.literal '\\' ['\''])).ways _ :=
    Pattern.recognizes_ways rfl rfl
  cases hways : (betweenQuotes otherChar).ways ⟨none, text⟩ with
  | cons d ways => rfl
  | nil =>
      have hnone : (betweenQuotes (.literal '\\' ['\''])).ways ⟨none, text⟩ = [] := by
        rw [hescaped.eq_nil_iff]
        intro word hword hbegins
        obtain rfl := mem_language_escaped.mp hword
        have hbackslash : charLiteral '\\' ∈ (betweenQuotes otherChar).language :=
          mem_language_otherChar.mpr ⟨'\\', by decide, rfl⟩
        exact hother.eq_nil_iff.mp hways _ hbackslash
          ((List.prefix_append (charLiteral '\\') ['\'']).trans hbegins)
      rw [hnone]
      rfl

/-- The pattern as it is written. -/
def fullReading : char.Reading :=
  .ofParse (betweenQuotes (.alt otherChar (.literal '\\' ['\'']))) (by decide +kernel) rfl rfl

def charReading : char.Reading where
  pattern := betweenQuotes otherChar
  match?_eq text := by
    rw [← matchPrefix?_escaped]
    exact fullReading.match?_eq text
  isLookFree := rfl
  isProgressive := rfl

theorem apply_char_cases (text : List Char) :
    ((∀ c, c ≠ '\'' → ¬ charLiteral c <+: text) ∧ char.apply text = .ok .notApplied) ∨
    ∃ c, c ≠ '\'' ∧ charLiteral c <+: text ∧ char.apply text = .ok (charOutcome c) := by
  obtain ⟨hnone, happly⟩ | ⟨word, hword, hbegins, happly⟩ := charReading.apply_cases text
  · exact .inl ⟨fun c hc => hnone _ (mem_language_otherChar.mpr ⟨c, hc, rfl⟩), happly⟩
  · obtain ⟨c, hc, rfl⟩ := mem_language_otherChar.mp hword
    exact .inr ⟨c, hc, hbegins, happly⟩

theorem eq_of_charLiteral_prefix {c c' : Char} {text : List Char} (h : charLiteral c <+: text)
    (h' : charLiteral c' <+: text) : c = c' := by
  have heq : charLiteral c = charLiteral c' :=
    (List.prefix_of_prefix_length_le h h' (Nat.le_refl 3)).eq_of_length rfl
  exact (List.cons.inj (List.cons.inj heq).2).1

theorem apply_char_of_begins {c : Char} {text : List Char} (hc : c ≠ '\'')
    (hbegins : charLiteral c <+: text) : char.apply text = .ok (charOutcome c) := by
  obtain ⟨hnone, -⟩ | ⟨c', -, hbegins', happly⟩ := apply_char_cases text
  · exact absurd hbegins (hnone c hc)
  · obtain rfl := eq_of_charLiteral_prefix hbegins hbegins'
    exact happly

/-- The rule applies just where a character other than a quote stands between quotes, or an escaped
quote does, and it always takes the three characters of the former. So the text of an escaped quote
is cut behind the quote that is escaped, whatever comes behind. -/
theorem apply_char (text : List Char) :
    (char.apply text = .ok .notApplied ↔
      (∀ c, c ≠ '\'' → ¬ charLiteral c <+: text) ∧ ¬ escapedQuote <+: text) ∧
    (∀ outcome, (char.apply text = .ok outcome ∧ outcome ≠ .notApplied) ↔
      ∃ c, c ≠ '\'' ∧ charLiteral c <+: text ∧ outcome = charOutcome c) ∧
    ∀ rest, char.apply (escapedQuote ++ rest) = .ok (charOutcome '\\') := by
  have hescaped {text : List Char} (h : escapedQuote <+: text) : charLiteral '\\' <+: text :=
    (List.prefix_append (charLiteral '\\') ['\'']).trans h
  refine ⟨?_, fun outcome => ⟨?_, ?_⟩, fun rest => ?_⟩
  · obtain ⟨hnone, happly⟩ | ⟨c, hc, hbegins, happly⟩ := apply_char_cases text
    · exact iff_of_true happly ⟨hnone, fun h => hnone '\\' (by decide) (hescaped h)⟩
    · rw [happly]
      exact ⟨fun h => (by cases h), fun h => absurd hbegins (h.1 c hc)⟩
  · rintro ⟨houtcome, hne⟩
    obtain ⟨hnone, happly⟩ | ⟨c, hc, hbegins, happly⟩ := apply_char_cases text
    · exact absurd (Except.ok.inj (houtcome.symm.trans happly)) hne
    · exact ⟨c, hc, hbegins, Except.ok.inj (houtcome.symm.trans happly)⟩
  · rintro ⟨c, hc, hbegins, rfl⟩
    exact ⟨apply_char_of_begins hc hbegins, by simp [charOutcome]⟩
  · exact apply_char_of_begins (by decide) (hescaped (List.prefix_append _ _))

/-- The text of an escaped quote has four characters, and the rule takes three of them. -/
theorem apply_char_escapedQuote :
    char.apply escapedQuote = .ok (.applied (.str "'\\'") ['\'', '\\', '\'']) ∧
    ¬ ∀ rest, (char.apply (escapedQuote ++ rest)).map Outcome.len? = .ok (some 4) := by
  have happly : char.apply escapedQuote = .ok (charOutcome '\\') := apply_char_of_begins
    (by decide) (List.prefix_append (charLiteral '\\') ['\''])
  refine ⟨happly, fun h => ?_⟩
  have hlength : (char.apply escapedQuote).map Outcome.len? = .ok (some 4) := h []
  rw [happly] at hlength
  exact absurd hlength (by decide)

end Library

end RuleLexer

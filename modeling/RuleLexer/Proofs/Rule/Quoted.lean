import Mathlib.Algebra.Group.Nat.Even
import RuleLexer.Proofs.Rule.Matching
import RuleLexer.Rule.Library

/-!
Strings in quotes. The rules read backslashes in pairs with the character behind
each, from the left. This comes to a count from the right: a quote closes the
string if the backslashes right before it are even in number. So the string ends
with the first such quote, unless a line feed comes before.
-/

namespace RuleLexer

namespace Library

open Computability

inductive Quote
  | single
  | double
  deriving DecidableEq, Repr

namespace Quote

def char : Quote → Char
  | single => '\''
  | double => '"'

/-- The rule of strings in such quotes. -/
def rule : Quote → Rule
  | single => singleQuotedString
  | double => doubleQuotedString

def literal (q : Quote) (inside : List Char) : List Char := q.char :: (inside ++ [q.char])

/-- What comes of a text with the literal at its start. -/
def outcome (q : Quote) (inside : List Char) : Outcome :=
  .applied (.str (String.ofList (q.literal inside))) (q.literal inside)

/-- The number of backslashes at the end of a text. -/
def backslashes (text : List Char) : Nat := (text.reverse.takeWhile (· == '\\')).length

/-- The text starts with a quote, and the quote behind `inside` is one that closes a string. -/
structure Closes (q : Quote) (text inside : List Char) : Prop where
  isPrefix : q.literal inside <+: text
  oneLine : '\n' ∉ inside
  even : Even (backslashes inside)

/-- No quote before that one closes a string. -/
structure ClosesFirst (q : Quote) (text inside : List Char) : Prop
    extends q.Closes text inside where
  first : ∀ other, q.Closes text other → inside.length ≤ other.length

theorem char_ne (q : Quote) : q.char ≠ '\\' ∧ q.char ≠ '\n' := by
  cases q <;> decide

theorem char_inj {q q' : Quote} (h : q.char = q'.char) : q = q' := by
  cases q <;> cases q' <;> simp_all [char]

theorem literal_inj {q q' : Quote} {inside inside' : List Char}
    (h : q.literal inside = q'.literal inside') : q = q' ∧ inside = inside' := by
  obtain ⟨hchar, hrest⟩ := List.cons.inj h
  exact ⟨char_inj hchar, (List.append_inj' hrest rfl).1⟩

theorem outcome_inj {q q' : Quote} {inside inside' : List Char}
    (h : q.outcome inside = q'.outcome inside') : q = q' ∧ inside = inside' := by
  rw [outcome, outcome, Outcome.applied.injEq] at h
  exact literal_inj h.2

/-! ### Backslashes before a quote -/

@[simp] theorem backslashes_nil : backslashes [] = 0 := rfl

@[simp] theorem backslashes_append_backslash (text : List Char) :
    backslashes (text ++ ['\\']) = backslashes text + 1 := by
  simp [backslashes]

theorem backslashes_append_of_ne {c : Char} (h : c ≠ '\\') (text : List Char) :
    backslashes (text ++ [c]) = 0 := by
  simp [backslashes, h]

theorem eq_append_backslash {text : List Char} (h : ¬ Even (backslashes text)) :
    ∃ text', text = text' ++ ['\\'] := by
  induction text using List.reverseRecOn with
  | nil => simp at h
  | append_singleton text c _ =>
      by_cases hc : c = '\\'
      · exact ⟨text, by rw [hc]⟩
      · rw [backslashes_append_of_ne hc] at h
        simp at h

/-- What may stand between two quotes of which the second is the first to close the string. -/
structure IsInside (q : Quote) (inside : List Char) : Prop where
  oneLine : '\n' ∉ inside
  even : Even (backslashes inside)
  noEarlier : ∀ earlier, earlier ++ [q.char] <+: inside → ¬ Even (backslashes earlier)

theorem IsInside.nil (q : Quote) : q.IsInside [] where
  oneLine := by simp
  even := by simp
  noEarlier earlier h := by simp at h

theorem IsInside.append_char {q : Quote} {inside : List Char} (h : q.IsInside inside) {c : Char}
    (hc : c ≠ q.char ∧ c ≠ '\\' ∧ c ≠ '\n') : q.IsInside (inside ++ [c]) where
  oneLine := by simp [h.oneLine, hc.2.2.symm]
  even := by simp [backslashes_append_of_ne hc.2.1]
  noEarlier earlier hbegins := by
    rcases List.prefix_concat_iff.mp hbegins with heq | hbegins
    · obtain ⟨-, hlast⟩ := List.append_inj' heq rfl
      exact absurd (List.cons.inj hlast).1.symm hc.1
    · exact h.noEarlier earlier hbegins

/-- Behind a backslash a quote has an odd number of backslashes before it. -/
theorem IsInside.append_escaped {q : Quote} {inside : List Char} (h : q.IsInside inside) {c : Char}
    (hc : c ≠ '\n') : q.IsInside (inside ++ ['\\', c]) where
  oneLine := by simp [h.oneLine, hc.symm]
  even := by
    have heq : inside ++ ['\\', c] = (inside ++ ['\\']) ++ [c] := by simp
    rw [heq]
    by_cases hbackslash : c = '\\'
    · rw [hbackslash, backslashes_append_backslash, backslashes_append_backslash,
        Nat.even_add_one, Nat.even_add_one, not_not]
      exact h.even
    · rw [backslashes_append_of_ne hbackslash]
      exact Even.zero
  noEarlier earlier hbegins := by
    have heq : inside ++ ['\\', c] = (inside ++ ['\\']) ++ [c] := by simp
    rw [heq] at hbegins
    rcases List.prefix_concat_iff.mp hbegins with heq | hbegins
    · obtain ⟨rfl, -⟩ := List.append_inj' heq rfl
      rw [backslashes_append_backslash, Nat.even_add_one]
      exact not_not.mpr h.even
    · rcases List.prefix_concat_iff.mp hbegins with heq | hbegins
      · obtain ⟨-, hlast⟩ := List.append_inj' heq rfl
        exact absurd (List.cons.inj hlast).1 q.char_ne.1
      · exact h.noEarlier earlier hbegins

theorem IsInside.of_prefix {q : Quote} {inside shorter : List Char} (h : q.IsInside inside)
    (hbegins : shorter <+: inside) (heven : Even (backslashes shorter)) : q.IsInside shorter where
  oneLine hmem := h.oneLine (hbegins.subset hmem)
  even := heven
  noEarlier earlier hearlier := h.noEarlier earlier (hearlier.trans hbegins)

/-! ### The pattern -/

/-- A character that stands for itself, or a backslash and any character. -/
def unit (q : Quote) : Pattern :=
  .alt (.set (CharSet.ofList [q.char, '\\', '\n']).compl)
    (.seq (.literal '\\' []) (.set (CharSet.one '\n').compl))

def pattern (q : Quote) : Pattern :=
  .seq (.literal q.char []) (.seq (.rounds 0 none true q.unit) (.literal q.char []))

def reading : (q : Quote) → q.rule.Reading
  | single => .ofParse (pattern .single) (by decide +kernel) rfl rfl
  | double => .ofParse (pattern .double) (by decide +kernel) rfl rfl

theorem pattern_reading (q : Quote) : q.reading.pattern = q.pattern := by
  cases q <;> rfl

theorem mem_language_unit {q : Quote} {word : List Char} :
    word ∈ q.unit.language ↔
      (∃ c, (c ≠ q.char ∧ c ≠ '\\' ∧ c ≠ '\n') ∧ word = [c]) ∨
        ∃ c, c ≠ '\n' ∧ word = ['\\', c] := by
  have hplain (c : Char) : (CharSet.ofList [q.char, '\\', '\n']).compl.contains c = true ↔
      c ≠ q.char ∧ c ≠ '\\' ∧ c ≠ '\n' := by
    simp
  have hescaped (c : Char) : (CharSet.one '\n').compl.contains c = true ↔ c ≠ '\n' := by
    simp
  rw [unit, Pattern.language_alt, Pattern.language_set, Pattern.language_seq,
    Pattern.language_literal, Pattern.language_set, Language.mem_add, Language.mem_mul]
  refine or_congr (exists_congr fun c => and_congr_left' (hplain c)) ?_
  constructor
  · rintro ⟨v, rfl, w, ⟨c, hc, rfl⟩, rfl⟩
    exact ⟨c, (hescaped c).mp hc, rfl⟩
  · rintro ⟨c, hc, rfl⟩
    exact ⟨['\\'], rfl, [c], ⟨c, (hescaped c).mpr hc, rfl⟩, rfl⟩

/-- The words that units make up, from the left, are told from the backslashes before each quote. -/
theorem mem_kstar_unit {q : Quote} {inside : List Char} :
    inside ∈ q.unit.language∗ ↔ q.IsInside inside := by
  constructor
  · let insides : Language Char := {inside | q.IsInside inside}
    have hone : (1 : Language Char) ≤ insides := by
      rintro _ rfl
      exact IsInside.nil q
    have hmul : insides * q.unit.language ≤ insides := by
      rintro _ ⟨inside, hinside, word, hword, rfl⟩
      obtain ⟨c, hc, rfl⟩ | ⟨c, hc, rfl⟩ := mem_language_unit.mp hword
      · exact IsInside.append_char hinside hc
      · exact IsInside.append_escaped hinside hc
    exact fun h => kstar_le_of_mul_le_left hone hmul h
  · -- The last unit has two characters if the last character has an odd number of backslashes
    -- before it.
    intro h
    induction hn : inside.length using Nat.strongRecOn generalizing inside with
    | _ n ih =>
      cases inside using List.reverseRecOn with
      | nil => exact Language.nil_mem_kstar _
      | append_singleton shorter c =>
          have hline : c ≠ '\n' := fun hc => h.oneLine (by simp [hc])
          rw [List.length_append, List.length_singleton] at hn
          by_cases heven : Even (backslashes shorter)
          · have hchar : c ≠ q.char := fun hc =>
              h.noEarlier shorter (by rw [hc]) heven
            have hbackslash : c ≠ '\\' := by
              rintro rfl
              have hnext := h.even
              rw [backslashes_append_backslash, Nat.even_add_one] at hnext
              exact hnext heven
            have hshorter := ih shorter.length (by omega)
              (h.of_prefix (List.prefix_append _ _) heven) rfl
            exact Pattern.append_mem_kstar hshorter
              (mem_language_unit.mpr (.inl ⟨c, ⟨hchar, hbackslash, hline⟩, rfl⟩))
          · obtain ⟨before, rfl⟩ := eq_append_backslash heven
            rw [backslashes_append_backslash, Nat.even_add_one, not_not] at heven
            rw [List.length_append, List.length_singleton] at hn
            have heq : (before ++ ['\\']) ++ [c] = before ++ ['\\', c] := by simp
            rw [heq] at h ⊢
            have hbefore := ih before.length (by omega)
              (h.of_prefix (List.prefix_append _ _) heven) rfl
            exact Pattern.append_mem_kstar hbefore
              (mem_language_unit.mpr (.inr ⟨c, hline, rfl⟩))

theorem mem_language_pattern {q : Quote} {word : List Char} :
    word ∈ q.pattern.language ↔ ∃ inside, q.IsInside inside ∧ word = q.literal inside := by
  rw [pattern, Pattern.language_seq, Pattern.language_seq, Pattern.language_rounds_none,
    Pattern.language_literal]
  constructor
  · rintro ⟨_, rfl, _, ⟨inside, hinside, _, rfl, rfl⟩, rfl⟩
    exact ⟨inside, mem_kstar_unit.mp hinside, rfl⟩
  · rintro ⟨inside, hinside, rfl⟩
    exact ⟨[q.char], rfl, inside ++ [q.char],
      ⟨inside, mem_kstar_unit.mpr hinside, [q.char], rfl, rfl⟩, rfl⟩

/-! ### The first quote that closes the string -/

theorem closesFirst_iff {q : Quote} {text inside : List Char} :
    q.ClosesFirst text inside ↔ q.literal inside <+: text ∧ q.IsInside inside := by
  constructor
  · intro h
    refine ⟨h.isPrefix, h.oneLine, h.even, fun earlier hearlier heven => ?_⟩
    have hcloses : q.Closes text earlier := by
      refine ⟨?_, fun hline => h.oneLine (hearlier.subset (by simp [hline])), heven⟩
      have hliteral : q.literal earlier <+: q.literal inside :=
        (List.prefix_cons_inj _).mpr (hearlier.trans (List.prefix_append _ _))
      exact hliteral.trans h.isPrefix
    have hle := h.first earlier hcloses
    have hlength := hearlier.length_le
    rw [List.length_append, List.length_singleton] at hlength
    omega
  · rintro ⟨hbegins, hinside⟩
    refine ⟨⟨hbegins, hinside.oneLine, hinside.even⟩, fun other hother => ?_⟩
    by_contra hlt
    -- the quote behind the shorter text would be one of the characters in the longer
    have hliteral : q.char :: (other ++ [q.char]) <+: q.char :: inside := by
      apply List.prefix_of_prefix_length_le hother.isPrefix
      · exact ((List.prefix_cons_inj _).mpr (List.prefix_append _ _)).trans hbegins
      · simp only [literal, List.length_cons, List.length_append, List.length_nil]
        omega
    exact hinside.noEarlier other ((List.prefix_cons_inj _).mp hliteral) hother.even

theorem Closes.exists_closesFirst {q : Quote} {text inside : List Char} (h : q.Closes text inside) :
    ∃ first, q.ClosesFirst text first := by
  induction hn : inside.length using Nat.strongRecOn generalizing inside with
  | _ n ih =>
    by_cases hfirst : ∀ other, q.Closes text other → inside.length ≤ other.length
    · exact ⟨inside, h, hfirst⟩
    · push Not at hfirst
      obtain ⟨other, hother, hlt⟩ := hfirst
      exact ih other.length (by omega) hother rfl

theorem ClosesFirst.eq {q : Quote} {text inside inside' : List Char} (h : q.ClosesFirst text inside)
    (h' : q.ClosesFirst text inside') : inside = inside' := by
  have hlength : inside.length = inside'.length :=
    Nat.le_antisymm (h.first _ h'.toCloses) (h'.first _ h.toCloses)
  have hliteral : q.literal inside = q.literal inside' :=
    (List.prefix_of_prefix_length_le h.isPrefix h'.isPrefix
      (by simp [literal, hlength])).eq_of_length (by simp [literal, hlength])
  exact (literal_inj hliteral).2

/-- A text starts with one kind of quotes only. -/
theorem Closes.eq_quote {q q' : Quote} {text inside inside' : List Char} (h : q.Closes text inside)
    (h' : q'.Closes text inside') : q = q' := by
  obtain ⟨rest, hrest⟩ := h.isPrefix
  obtain ⟨rest', hrest'⟩ := h'.isPrefix
  exact char_inj (List.cons.inj (hrest.trans hrest'.symm)).1

theorem apply_cases (q : Quote) (text : List Char) :
    ((∀ inside, ¬ q.Closes text inside) ∧ q.rule.apply text = .ok .notApplied) ∨
    ∃ inside, q.ClosesFirst text inside ∧ q.rule.apply text = .ok (q.outcome inside) := by
  have hcases := q.reading.apply_cases text
  rw [pattern_reading] at hcases
  obtain ⟨hnone, happly⟩ | ⟨word, hword, hbegins, happly⟩ := hcases
  · refine .inl ⟨fun inside hcloses => ?_, happly⟩
    obtain ⟨first, hfirst⟩ := hcloses.exists_closesFirst
    obtain ⟨hbegins, hinside⟩ := closesFirst_iff.mp hfirst
    exact hnone _ (mem_language_pattern.mpr ⟨first, hinside, rfl⟩) hbegins
  · obtain ⟨inside, hinside, rfl⟩ := mem_language_pattern.mp hword
    refine .inr ⟨inside, closesFirst_iff.mpr ⟨hbegins, hinside⟩, ?_⟩
    rw [happly]
    cases q <;> rfl

theorem apply_eq_outcome_iff {q : Quote} {text inside : List Char} :
    q.rule.apply text = .ok (q.outcome inside) ↔ q.ClosesFirst text inside := by
  obtain ⟨hnone, happly⟩ | ⟨first, hfirst, happly⟩ := q.apply_cases text
  · rw [happly]
    exact ⟨fun h => (by cases h), fun h => absurd h.toCloses (hnone inside)⟩
  · rw [happly, Except.ok.injEq]
    constructor
    · intro h
      obtain rfl := (outcome_inj h).2
      exact hfirst
    · intro h
      rw [h.eq hfirst]

theorem apply_eq_notApplied_iff {q : Quote} {text : List Char} :
    q.rule.apply text = .ok .notApplied ↔ ∀ inside, ¬ q.Closes text inside := by
  obtain ⟨hnone, happly⟩ | ⟨first, hfirst, happly⟩ := q.apply_cases text
  · exact iff_of_true happly hnone
  · rw [happly]
    exact ⟨fun h => (by cases h), fun h => absurd hfirst.toCloses (h first)⟩

end Quote

/-! ### Both kinds of quotes -/

theorem apply_string_cases (text : List Char) :
    ((∀ q : Quote, ∀ inside, ¬ q.Closes text inside) ∧ string.apply text = .ok .notApplied) ∨
    ∃ (q : Quote) (inside : List Char), q.ClosesFirst text inside ∧
      string.apply text = .ok (q.outcome inside) := by
  have hstring : string.apply text =
      RuleGroup.applyFirst [Quote.single.rule, Quote.double.rule] text := rfl
  obtain ⟨hnone, hsingle⟩ | ⟨inside, hfirst, hsingle⟩ := Quote.single.apply_cases text
  · obtain ⟨hnone', hdouble⟩ | ⟨inside, hfirst, hdouble⟩ := Quote.double.apply_cases text
    · refine .inl ⟨fun q => ?_, ?_⟩
      · cases q with
        | single => exact hnone
        | double => exact hnone'
      · simp [hstring, RuleGroup.applyFirst, hsingle, hdouble]
    · refine .inr ⟨.double, inside, hfirst, ?_⟩
      simp [hstring, RuleGroup.applyFirst, hsingle, hdouble, Quote.outcome]
  · refine .inr ⟨.single, inside, hfirst, ?_⟩
    simp [hstring, RuleGroup.applyFirst, hsingle, Quote.outcome]

theorem apply_string_eq_outcome_iff {q : Quote} {text inside : List Char} :
    string.apply text = .ok (q.outcome inside) ↔ q.ClosesFirst text inside := by
  obtain ⟨hnone, happly⟩ | ⟨q', first, hfirst, happly⟩ := apply_string_cases text
  · rw [happly]
    exact ⟨fun h => (by cases h), fun h => absurd h.toCloses (hnone q inside)⟩
  · rw [happly, Except.ok.injEq]
    constructor
    · intro h
      obtain ⟨rfl, rfl⟩ := Quote.outcome_inj h
      exact hfirst
    · intro h
      obtain rfl := h.eq_quote hfirst.toCloses
      rw [h.eq hfirst]

theorem apply_string_eq_notApplied_iff {text : List Char} :
    string.apply text = .ok .notApplied ↔ ∀ q : Quote, ∀ inside, ¬ q.Closes text inside := by
  obtain ⟨hnone, happly⟩ | ⟨q, first, hfirst, happly⟩ := apply_string_cases text
  · exact iff_of_true happly hnone
  · rw [happly]
    exact ⟨fun h => (by cases h), fun h => absurd hfirst.toCloses (h q first)⟩

/-- A string in quotes goes up to the first quote with an even number of backslashes right before
it, if no line feed comes earlier, and is emitted as it stands. The rule does not apply to any other
text. Both kinds of quotes together apply as the one does that applies. -/
theorem apply_quoted (text : List Char) :
    (∀ q : Quote,
      ((∃ inside, q.rule.apply text = .ok (q.outcome inside)) ↔ ∃ inside, q.Closes text inside) ∧
      (q.rule.apply text = .ok .notApplied ↔ ∀ inside, ¬ q.Closes text inside) ∧
      ∀ inside, q.rule.apply text = .ok (q.outcome inside) ↔ q.ClosesFirst text inside) ∧
    (∀ (q : Quote) (inside : List Char),
      string.apply text = .ok (q.outcome inside) ↔ q.rule.apply text = .ok (q.outcome inside)) ∧
    (string.apply text = .ok .notApplied ↔ ∀ q : Quote, q.rule.apply text = .ok .notApplied) := by
  refine ⟨fun q => ⟨?_, Quote.apply_eq_notApplied_iff, fun _ => Quote.apply_eq_outcome_iff⟩,
    fun q inside => ?_, ?_⟩
  · constructor
    · rintro ⟨inside, happly⟩
      exact ⟨inside, (Quote.apply_eq_outcome_iff.mp happly).toCloses⟩
    · rintro ⟨inside, hcloses⟩
      obtain ⟨first, hfirst⟩ := hcloses.exists_closesFirst
      exact ⟨first, Quote.apply_eq_outcome_iff.mpr hfirst⟩
  · rw [apply_string_eq_outcome_iff, Quote.apply_eq_outcome_iff]
  · rw [apply_string_eq_notApplied_iff]
    exact forall_congr' fun q => Quote.apply_eq_notApplied_iff.symm

example : string.apply ['\'', '\\', '\\', '\'', '\''] =
    .ok (.applied (.str "'\\\\'") ['\'', '\\', '\\', '\'']) := by
  decide +kernel

end Library

end RuleLexer

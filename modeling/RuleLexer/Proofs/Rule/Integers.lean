import RuleLexer.Proofs.Numeral.Integer
import RuleLexer.Proofs.Rule.Matching
import RuleLexer.Rule.Library

/-!
The integer rules. A numeral has digits at both ends and underscores between
them, and a rule takes the longest there is at its place. The value is that of
the digits, unless it takes more than 64 bits.
-/

namespace RuleLexer

namespace Library

open Computability

/-! ### Numerals -/

/-- The word consists of digits and underscores and has a digit at both ends. -/
structure IsNumeral (word : List Char) : Prop where
  chars : ∀ c ∈ word, Decimal.isDigit c = true ∨ c = '_'
  first : ∃ c ∈ word.head?, Decimal.isDigit c = true
  last : ∃ c ∈ word.getLast?, Decimal.isDigit c = true

/-- The word is a numeral at the start of the text, and no longer one is. -/
structure LongestNumeral (text word : List Char) : Prop where
  isNumeral : IsNumeral word
  isPrefix : word <+: text
  longest : ∀ other, IsNumeral other → other <+: text → other.length ≤ word.length

def StartsWithDigit (text : List Char) : Prop := ∃ c ∈ text.head?, Decimal.isDigit c = true

/-- The value of the digits, whatever is between them. -/
def numeralValue (word : List Char) : Nat := decimalValue (word.filter Decimal.isDigit)

inductive Sign
  | plus
  | minus
  deriving DecidableEq, Repr

namespace Sign

def char : Sign → Char
  | plus => '+'
  | minus => '-'

def value : Sign → Nat → Int
  | plus, n => n
  | minus, n => -n

/-- The greatest amount of a number with the sign. -/
def greatest : Sign → Nat
  | plus => 2 ^ 63 - 1
  | minus => 2 ^ 63

/-- What is wrong with a number beyond that. -/
def fault : Sign → IntegerFault
  | plus => .tooLarge
  | minus => .tooSmall

/-- What comes of a numeral with the sign and of its text. -/
def outcome (s : Sign) (n : Nat) (matched : List Char) : Except ConvertError Outcome :=
  if n ≤ s.greatest then .ok (.applied (.int (s.value n)) matched)
  else .error (.integer s.fault)

theorem bounded_value (s : Sign) (n : Nat) :
    IntegerKind.signed64.bounded (s.value n) =
      if n ≤ s.greatest then .ok (s.value n) else .error s.fault := by
  have hleast : IntegerKind.signed64.least = -2 ^ 63 := rfl
  have hgreatest : IntegerKind.signed64.greatest = 2 ^ 63 - 1 := rfl
  split
  next h =>
    apply IntegerKind.bounded_eq_ok
    rw [hleast, hgreatest]
    cases s <;> simp only [value, greatest] at h ⊢ <;> omega
  next h =>
    cases s with
    | plus =>
        apply IntegerKind.bounded_eq_tooLarge
        rw [hgreatest]
        simp only [value, greatest] at h ⊢
        omega
    | minus =>
        apply IntegerKind.bounded_eq_tooSmall
        · rw [hleast]
          simp only [value, greatest] at h ⊢
          omega
        · rw [hgreatest]
          simp only [value]
          omega

theorem outcome_ne_notApplied (s : Sign) (n : Nat) (matched : List Char) :
    s.outcome n matched ≠ .ok .notApplied := by
  rw [outcome]
  split <;> simp

theorem eq_of_outcome_eq_error {s : Sign} {n : Nat} {matched : List Char} {fault : ConvertError}
    (h : s.outcome n matched = .error fault) : fault = .integer s.fault := by
  rw [outcome] at h
  split at h
  · cases h
  · exact (Except.error.inj h).symm

end Sign

/-! ### The patterns -/

def digitSet : CharSet := CharSet.range '0' '9'

def digitOrSeparator : CharSet := digitSet.union (CharSet.one '_')

/-- A digit, and perhaps more characters of which the last is a digit. -/
def integer : Pattern :=
  .seq (.set digitSet)
    (.rounds 0 (some 1) true (.seq (.rounds 0 none true (.set digitOrSeparator)) (.set digitSet)))

def withSign (p : Pattern) : Pattern := .seq (.set (CharSet.ofList ['+', '-'])) p

def intReading : int.Reading := .ofParse integer (by decide +kernel) rfl rfl

def signedIntReading : signedInt.Reading :=
  .ofParse (withSign integer) (by decide +kernel) rfl rfl

theorem contains_digitSet (c : Char) : digitSet.contains c = Decimal.isDigit c := by
  rw [digitSet, CharSet.contains_range, Decimal.isDigit]

theorem contains_digitOrSeparator {c : Char} :
    digitOrSeparator.contains c = true ↔ Decimal.isDigit c = true ∨ c = '_' := by
  simp [digitOrSeparator, contains_digitSet]

theorem prefersLonger_integer : Pattern.PrefersLonger integer.ways := by
  have hrounds : Pattern.PrefersLonger (Pattern.rounds 0 none true (.set digitOrSeparator)).ways :=
    Pattern.prefersLonger_rounds (Pattern.deterministic_read digitOrSeparator)
      (Pattern.consumes_set (contains_digitOrSeparator.mpr (.inr rfl)))
  have hmore := (hrounds.seq_set digitSet).optional rfl
  exact Pattern.Deterministic.seq (p := .set digitSet) (Pattern.deterministic_read digitSet) hmore

theorem prefersLonger_withSign {p : Pattern} (h : Pattern.PrefersLonger p.ways) :
    Pattern.PrefersLonger (withSign p).ways :=
  Pattern.Deterministic.seq (Pattern.deterministic_read _) h

/-! ### Their words -/

theorem IsNumeral.single {c : Char} (hc : Decimal.isDigit c = true) : IsNumeral [c] where
  chars := by simp [hc]
  first := ⟨c, rfl, hc⟩
  last := ⟨c, rfl, hc⟩

theorem isNumeral_cons_append {c d : Char} {between : List Char} :
    IsNumeral (c :: (between ++ [d])) ↔ Decimal.isDigit c = true ∧ Decimal.isDigit d = true ∧
      ∀ e ∈ between, Decimal.isDigit e = true ∨ e = '_' := by
  constructor
  · intro h
    obtain ⟨c', hc', hc⟩ := h.first
    obtain ⟨d', hd', hd⟩ := h.last
    obtain rfl : c = c' := by simpa using hc'
    obtain rfl : d = d' := by simpa [List.getLast?_cons] using hd'
    exact ⟨hc, hd, fun e he => h.chars e (by simp [he])⟩
  · rintro ⟨hc, hd, hbetween⟩
    refine ⟨?_, ⟨c, rfl, hc⟩, ⟨d, by simp [List.getLast?_cons], hd⟩⟩
    simp only [List.forall_mem_cons, List.forall_mem_append]
    exact ⟨.inl hc, hbetween, .inl hd, by simp⟩

theorem mem_language_integer {word : List Char} :
    word ∈ integer.language ↔ IsNumeral word := by
  have hmany {w : List Char} :
      w ∈ (Pattern.characters digitOrSeparator)∗ * Pattern.characters digitSet ↔
        ∃ between d, (∀ e ∈ between, Decimal.isDigit e = true ∨ e = '_') ∧
          Decimal.isDigit d = true ∧ w = between ++ [d] := by
    rw [Language.mem_mul]
    simp only [Pattern.mem_kstar_characters, contains_digitOrSeparator]
    constructor
    · rintro ⟨between, hbetween, _, ⟨d, hd, rfl⟩, rfl⟩
      exact ⟨between, d, hbetween, by rwa [← contains_digitSet], rfl⟩
    · rintro ⟨between, d, hbetween, hd, rfl⟩
      exact ⟨between, hbetween, [d], ⟨d, by rwa [contains_digitSet], rfl⟩, rfl⟩
  simp only [integer, Pattern.language_seq, Pattern.language_set, Pattern.language_rounds_one,
    Pattern.language_rounds_none, Language.mem_mul, Language.mem_add, Language.mem_one, hmany]
  constructor
  · rintro ⟨_, ⟨c, hc, rfl⟩, rest, rfl | ⟨between, d, hbetween, hd, rfl⟩, rfl⟩
    · exact .single (by rwa [← contains_digitSet])
    · rw [contains_digitSet] at hc
      exact isNumeral_cons_append.mpr ⟨hc, hd, hbetween⟩
  · intro h
    obtain ⟨c, hc, hdigit⟩ := h.first
    obtain ⟨rest, rfl⟩ := List.head?_eq_some_iff.mp hc
    refine ⟨[c], ⟨c, by rwa [contains_digitSet], rfl⟩, rest, ?_, rfl⟩
    cases rest using List.reverseRecOn with
    | nil => exact .inl rfl
    | append_singleton between d _ =>
        obtain ⟨-, hd, hbetween⟩ := isNumeral_cons_append.mp h
        exact .inr ⟨between, d, hbetween, hd, rfl⟩

theorem IsNumeral.startsWithDigit {word text : List Char} (h : IsNumeral word)
    (hbegins : word <+: text) : StartsWithDigit text := by
  obtain ⟨c, hc, hdigit⟩ := h.first
  obtain ⟨rest, rfl⟩ := List.head?_eq_some_iff.mp hc
  obtain ⟨more, rfl⟩ := hbegins
  exact ⟨c, rfl, hdigit⟩

theorem StartsWithDigit.exists_numeral {text : List Char} (h : StartsWithDigit text) :
    ∃ word, IsNumeral word ∧ word <+: text := by
  obtain ⟨c, hc, hdigit⟩ := h
  obtain ⟨rest, rfl⟩ := List.head?_eq_some_iff.mp hc
  exact ⟨[c], .single hdigit, rest, rfl⟩

theorem longestNumeral_of_longestPrefix {text word : List Char}
    (h : Pattern.LongestPrefix integer.language text word) : LongestNumeral text word where
  isNumeral := mem_language_integer.mp h.mem
  isPrefix := h.isPrefix
  longest other hother := h.longest other (mem_language_integer.mpr hother)

theorem contains_signs {c : Char} :
    (CharSet.ofList ['+', '-']).contains c = true ↔ ∃ s : Sign, c = s.char := by
  rw [CharSet.contains_ofList]
  constructor
  · intro h
    rcases (by simpa using h : c = '+' ∨ c = '-') with rfl | rfl
    · exact ⟨.plus, rfl⟩
    · exact ⟨.minus, rfl⟩
  · rintro ⟨s, rfl⟩
    cases s <;> rfl

theorem mem_language_withSign {p : Pattern} {word : List Char} :
    word ∈ (withSign p).language ↔ ∃ (s : Sign), ∃ w ∈ p.language, word = s.char :: w := by
  rw [withSign, Pattern.language_seq, Pattern.language_set, Language.mem_mul]
  constructor
  · rintro ⟨_, ⟨c, hc, rfl⟩, w, hw, rfl⟩
    obtain ⟨s, rfl⟩ := contains_signs.mp hc
    exact ⟨s, w, hw, rfl⟩
  · rintro ⟨s, w, hw, rfl⟩
    exact ⟨[s.char], ⟨s.char, contains_signs.mpr ⟨s, rfl⟩, rfl⟩, w, hw, rfl⟩

/-- The longest word with a sign is the longest one behind the sign. -/
theorem exists_of_longestPrefix_withSign {p : Pattern} {text word : List Char}
    (h : Pattern.LongestPrefix (withSign p).language text word) :
    ∃ (s : Sign) (rest w : List Char), text = s.char :: rest ∧ word = s.char :: w ∧
      Pattern.LongestPrefix p.language rest w := by
  obtain ⟨s, w, hw, rfl⟩ := mem_language_withSign.mp h.mem
  obtain ⟨more, rfl⟩ := h.isPrefix
  refine ⟨s, w ++ more, w, rfl, rfl, hw, List.prefix_append w more, fun other hother hbegins => ?_⟩
  have hle := h.longest (s.char :: other) (mem_language_withSign.mpr ⟨s, other, hother, rfl⟩)
    ((List.prefix_cons_inj _).mpr hbegins)
  simpa using hle

/-! ### Their values -/

theorem IsNumeral.filter_eq {word : List Char} (h : IsNumeral word) :
    word.filter (· != '_') = word.filter Decimal.isDigit := by
  apply List.filter_congr
  intro c hc
  rcases h.chars c hc with hdigit | rfl
  · have hne : c ≠ '_' := fun heq => by rw [heq] at hdigit; exact absurd hdigit (by decide)
    simp [hdigit, hne]
  · decide

theorem IsNumeral.filter_ne_nil {word : List Char} (h : IsNumeral word) :
    word.filter Decimal.isDigit ≠ [] := by
  obtain ⟨c, hc, hdigit⟩ := h.first
  exact List.ne_nil_of_mem (List.mem_filter.mpr ⟨List.mem_of_mem_head? hc, hdigit⟩)

theorem outcome_of_read {s : Sign} {n : Nat} {matched : List Char}
    (h : IntegerKind.signed64.read 10 (matched.filter (· != '_')) =
      IntegerKind.signed64.bounded (s.value n)) :
    (Action.convert readInt).outcome matched = s.outcome n matched := by
  rw [Action.outcome, readInt, stripSeparators, String.toList_ofList, h, Sign.bounded_value,
    Sign.outcome]
  by_cases hn : n ≤ s.greatest
  · rw [if_pos hn, if_pos hn]
    rfl
  · rw [if_neg hn, if_neg hn]
    rfl

theorem outcome_numeral {word : List Char} (h : IsNumeral word) :
    (Action.convert readInt).outcome word = Sign.plus.outcome (numeralValue word) word := by
  apply outcome_of_read
  rw [h.filter_eq]
  exact IntegerKind.read_digits (fun c hc => (List.mem_filter.mp hc).2) h.filter_ne_nil
    (by decide)

theorem outcome_withSign {word : List Char} (s : Sign) (h : IsNumeral word) :
    (Action.convert readInt).outcome (s.char :: word) =
      s.outcome (numeralValue word) (s.char :: word) := by
  apply outcome_of_read
  have hfilter : (s.char :: word).filter (· != '_') = s.char :: word.filter Decimal.isDigit := by
    rw [List.filter_cons, if_pos (by cases s <;> rfl), h.filter_eq]
  have hdigits : ∀ c ∈ word.filter Decimal.isDigit, Decimal.isDigit c = true :=
    fun c hc => (List.mem_filter.mp hc).2
  rw [hfilter]
  cases s with
  | plus => exact IntegerKind.read_plus hdigits h.filter_ne_nil (by decide)
  | minus => exact IntegerKind.read_minus hdigits h.filter_ne_nil (by decide)

/-! ### The rules -/

theorem apply_int_cases (text : List Char) :
    (¬ StartsWithDigit text ∧ int.apply text = .ok .notApplied) ∨
    ∃ word, LongestNumeral text word ∧
      int.apply text = Sign.plus.outcome (numeralValue word) word := by
  obtain ⟨hnone, happly⟩ | ⟨word, hword, happly⟩ :=
    intReading.apply_longest prefersLonger_integer text
  · refine .inl ⟨fun hstart => ?_, happly⟩
    obtain ⟨word, hword, hbegins⟩ := hstart.exists_numeral
    exact hnone word (mem_language_integer.mpr hword) hbegins
  · have hlongest := longestNumeral_of_longestPrefix hword
    exact .inr ⟨word, hlongest, happly.trans (outcome_numeral hlongest.isNumeral)⟩

theorem apply_signedInt_cases (text : List Char) :
    ((¬ ∃ (s : Sign) (rest : List Char), text = s.char :: rest ∧ StartsWithDigit rest) ∧
      signedInt.apply text = .ok .notApplied) ∨
    ∃ (s : Sign) (rest word : List Char), text = s.char :: rest ∧ LongestNumeral rest word ∧
      signedInt.apply text = s.outcome (numeralValue word) (s.char :: word) := by
  obtain ⟨hnone, happly⟩ | ⟨signed, hsigned, happly⟩ :=
    signedIntReading.apply_longest (prefersLonger_withSign prefersLonger_integer) text
  · refine .inl ⟨?_, happly⟩
    rintro ⟨s, rest, rfl, hstart⟩
    obtain ⟨word, hword, hbegins⟩ := hstart.exists_numeral
    exact hnone (s.char :: word)
      (mem_language_withSign.mpr ⟨s, word, mem_language_integer.mpr hword, rfl⟩)
      ((List.prefix_cons_inj _).mpr hbegins)
  · obtain ⟨s, rest, word, htext, rfl, hword⟩ := exists_of_longestPrefix_withSign hsigned
    have hlongest := longestNumeral_of_longestPrefix hword
    exact .inr ⟨s, rest, word, htext, hlongest,
      happly.trans (outcome_withSign s hlongest.isNumeral)⟩

theorem apply_int_iff (text : List Char) :
    (int.apply text = .ok .notApplied ↔ ¬ StartsWithDigit text) ∧
    (StartsWithDigit text ↔ ∃ word, LongestNumeral text word ∧
      int.apply text = Sign.plus.outcome (numeralValue word) word) := by
  obtain ⟨hnone, happly⟩ | ⟨word, hword, happly⟩ := apply_int_cases text
  · refine ⟨iff_of_true happly hnone, iff_of_false hnone ?_⟩
    rintro ⟨word, hword, -⟩
    exact hnone (hword.isNumeral.startsWithDigit hword.isPrefix)
  · have hstart := hword.isNumeral.startsWithDigit hword.isPrefix
    refine ⟨iff_of_false ?_ (not_not.mpr hstart), iff_of_true hstart ⟨word, hword, happly⟩⟩
    rw [happly]
    exact Sign.outcome_ne_notApplied _ _ _

theorem apply_signedInt_iff (text : List Char) :
    (signedInt.apply text = .ok .notApplied ↔
      ¬ ∃ (s : Sign) (rest : List Char), text = s.char :: rest ∧ StartsWithDigit rest) ∧
    ((∃ (s : Sign) (rest : List Char), text = s.char :: rest ∧ StartsWithDigit rest) ↔
      ∃ (s : Sign) (rest word : List Char), text = s.char :: rest ∧ LongestNumeral rest word ∧
        signedInt.apply text = s.outcome (numeralValue word) (s.char :: word)) := by
  obtain ⟨hnone, happly⟩ | ⟨s, rest, word, htext, hword, happly⟩ := apply_signedInt_cases text
  · refine ⟨iff_of_true happly hnone, iff_of_false hnone ?_⟩
    rintro ⟨s, rest, word, htext, hword, -⟩
    exact hnone ⟨s, rest, htext, hword.isNumeral.startsWithDigit hword.isPrefix⟩
  · have hstart := hword.isNumeral.startsWithDigit hword.isPrefix
    refine ⟨iff_of_false ?_ (not_not.mpr ⟨s, rest, htext, hstart⟩),
      iff_of_true ⟨s, rest, htext, hstart⟩ ⟨s, rest, word, htext, hword, happly⟩⟩
    rw [happly]
    exact Sign.outcome_ne_notApplied _ _ _

theorem eq_of_apply_int_eq_error {text : List Char} {fault : ConvertError}
    (h : int.apply text = .error fault) : fault = .integer .tooLarge := by
  obtain ⟨-, happly⟩ | ⟨word, -, happly⟩ := apply_int_cases text
  · cases happly.symm.trans h
  · exact Sign.eq_of_outcome_eq_error (happly.symm.trans h)

theorem eq_of_apply_signedInt_eq_error {text : List Char} {fault : ConvertError}
    (h : signedInt.apply text = .error fault) :
    fault = .integer .tooLarge ∨ fault = .integer .tooSmall := by
  obtain ⟨-, happly⟩ | ⟨s, rest, word, -, -, happly⟩ := apply_signedInt_cases text
  · cases happly.symm.trans h
  · have hfault := Sign.eq_of_outcome_eq_error (happly.symm.trans h)
    cases s with
    | plus => exact .inl hfault
    | minus => exact .inr hfault

/-- Without a digit at its start, or behind the sign for the rule that asks for one, a text has no
integer. Otherwise the rules take the longest numeral, with underscores in it but not at its end,
and give its value, unless that is beyond the bounds of 64 bits. There is no other error. -/
theorem apply_integers (text : List Char) :
    (int.apply text = .ok .notApplied ↔ ¬ StartsWithDigit text) ∧
    (StartsWithDigit text ↔ ∃ word, LongestNumeral text word ∧
      int.apply text = Sign.plus.outcome (numeralValue word) word) ∧
    (signedInt.apply text = .ok .notApplied ↔
      ¬ ∃ (s : Sign) (rest : List Char), text = s.char :: rest ∧ StartsWithDigit rest) ∧
    ((∃ (s : Sign) (rest : List Char), text = s.char :: rest ∧ StartsWithDigit rest) ↔
      ∃ (s : Sign) (rest word : List Char), text = s.char :: rest ∧ LongestNumeral rest word ∧
        signedInt.apply text = s.outcome (numeralValue word) (s.char :: word)) ∧
    ∀ fault, (int.apply text = .error fault → fault = .integer .tooLarge) ∧
      (signedInt.apply text = .error fault →
        fault = .integer .tooLarge ∨ fault = .integer .tooSmall) :=
  ⟨(apply_int_iff text).1, (apply_int_iff text).2, (apply_signedInt_iff text).1,
    (apply_signedInt_iff text).2,
    fun _ => ⟨eq_of_apply_int_eq_error, eq_of_apply_signedInt_eq_error⟩⟩

example : int.apply ['0', '_', '_', '7', '_', 'x'] =
    .ok (.applied (.int 7) ['0', '_', '_', '7']) := by
  decide +kernel

end Library

end RuleLexer

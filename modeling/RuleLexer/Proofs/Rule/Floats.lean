import RuleLexer.Proofs.Numeral.Decimal
import RuleLexer.Proofs.Pattern.Apart
import RuleLexer.Proofs.Rule.Integers

/-!
The float rules. A float has a point with digits on one side at least, or an
exponent, or both. Its parts cannot be taken for one another, since a point or
the letter of an exponent ends the digits before it, so each rule takes the
longest float there is at its place. Without its underscores every float is a
numeral that can be read.
-/

namespace RuleLexer

namespace Library

open Computability

/-! ### Words -/

namespace Words

def digit : Language Char := {word | ∃ c, Decimal.isDigit c = true ∧ word = [c]}

/-- A digit, or two with digits and underscores between them. -/
def numeral : Language Char := digit + digit * ((digit + {['_']})∗ * digit)

def sign : Language Char := {['+']} + {['-']}

def exponent : Language Char := ({['e']} + {['E']}) * ((1 + sign) * numeral)

def point : Language Char := {['.']}

/-- A point with digits on one side at least. -/
def decimal : Language Char := numeral * (point * digit∗) + point * (digit * digit∗)

/-- A numeral with an exponent, or a point that may have one behind it. -/
def float : Language Char := numeral * exponent + decimal * (1 + exponent)

def signed (l : Language Char) : Language Char := sign * l

end Words

/-! ### The patterns -/

def letterSet : CharSet := CharSet.ofList ['e', 'E']

def signSet : CharSet := CharSet.ofList ['+', '-']

def exponentPart : Pattern :=
  .seq (.set letterSet) (.seq (.rounds 0 (some 1) true (.set signSet)) integer)

def someDigits : Pattern := .rounds 1 none true (.set digitSet)

def pointPart (fraction : Pattern) : Pattern := .seq (.literal '.' []) fraction

def decimalForm (fraction : Pattern) : Pattern :=
  .alt (integer.before (pointPart fraction)) (pointPart someDigits)

def floatForm : Pattern :=
  .alt (integer.before exponentPart)
    (.seq (decimalForm (.rounds 0 none true (.set digitSet)))
      (.rounds 0 (some 1) true exponentPart))

def decimalReading : decimal.Reading :=
  .ofParse (decimalForm (.rounds 0 (some 1) true someDigits)) (by decide +kernel) rfl rfl

def floatReading : float.Reading := .ofParse floatForm (by decide +kernel) rfl rfl

def signedFloatReading : signedFloat.Reading :=
  .ofParse (withSign floatForm) (by decide +kernel) rfl rfl

theorem characters_digitSet : Pattern.characters digitSet = Words.digit := by
  ext word
  simp [Pattern.characters, Words.digit, contains_digitSet]

theorem characters_digitOrSeparator :
    Pattern.characters digitOrSeparator = Words.digit + {['_']} := by
  ext word
  rw [Language.mem_add]
  constructor
  · rintro ⟨c, hc, rfl⟩
    rcases contains_digitOrSeparator.mp hc with hdigit | rfl
    · exact .inl ⟨c, hdigit, rfl⟩
    · exact .inr rfl
  · rintro (⟨c, hdigit, rfl⟩ | rfl)
    · exact ⟨c, contains_digitOrSeparator.mpr (.inl hdigit), rfl⟩
    · exact ⟨'_', contains_digitOrSeparator.mpr (.inr rfl), rfl⟩

theorem characters_pair (a b : Char) :
    Pattern.characters (CharSet.ofList [a, b]) = {[a]} + {[b]} := by
  have hcontains (c : Char) : (CharSet.ofList [a, b]).contains c = true ↔ c = a ∨ c = b := by
    simp [CharSet.contains_ofList]
  ext word
  rw [Language.mem_add]
  constructor
  · rintro ⟨c, hc, rfl⟩
    rcases (hcontains c).mp hc with rfl | rfl
    · exact .inl rfl
    · exact .inr rfl
  · rintro (rfl | rfl)
    · exact ⟨a, (hcontains a).mpr (.inl rfl), rfl⟩
    · exact ⟨b, (hcontains b).mpr (.inr rfl), rfl⟩

theorem takesLongest_integer : integer.TakesLongest Words.numeral where
  isLookFree := rfl
  isProgressive := rfl
  language_eq := by
    simp only [integer, Pattern.language_seq, Pattern.language_set, Pattern.language_rounds_one,
      Pattern.language_rounds_none, characters_digitSet, characters_digitOrSeparator, mul_add,
      mul_one, Words.numeral]
  prefersLonger := prefersLonger_integer

theorem mem_numeral {word : List Char} : word ∈ Words.numeral ↔ IsNumeral word := by
  rw [← takesLongest_integer.language_eq]
  exact mem_language_integer

/-! ### What the parts consist of -/

def isNumeralChar (c : Char) : Bool := Decimal.isDigit c || c == '_'

theorem mem_digits {word : List Char} :
    word ∈ Words.digit∗ ↔ ∀ c ∈ word, Decimal.isDigit c = true := by
  rw [← characters_digitSet, Pattern.mem_kstar_characters]
  simp only [contains_digitSet]

theorem IsNumeral.isNumeralChar {word : List Char} (h : IsNumeral word) :
    ∀ c ∈ word, isNumeralChar c = true := by
  intro c hc
  simpa [Library.isNumeralChar] using h.chars c hc

theorem exists_of_mem_numeral {word : List Char} (h : word ∈ Words.numeral) :
    ∃ c rest, word = c :: rest ∧ Decimal.isDigit c = true := by
  obtain ⟨c, hc, hdigit⟩ := (mem_numeral.mp h).first
  obtain ⟨rest, rfl⟩ := List.head?_eq_some_iff.mp hc
  exact ⟨c, rest, rfl, hdigit⟩

theorem exists_of_mem_exponent {word : List Char} (h : word ∈ Words.exponent) :
    ∃ letter sign digits, (letter = 'e' ∨ letter = 'E') ∧
      (sign = [] ∨ sign = ['+'] ∨ sign = ['-']) ∧ IsNumeral digits ∧
      word = letter :: (sign ++ digits) := by
  obtain ⟨_, hletter, _, ⟨sign, hsign, digits, hdigits, rfl⟩, rfl⟩ := h
  have hsign : sign = [] ∨ sign = ['+'] ∨ sign = ['-'] := hsign
  rcases hletter with rfl | rfl
  · exact ⟨'e', sign, digits, .inl rfl, hsign, mem_numeral.mp hdigits, rfl⟩
  · exact ⟨'E', sign, digits, .inr rfl, hsign, mem_numeral.mp hdigits, rfl⟩

theorem exists_of_mem_decimal {word : List Char} (h : word ∈ Words.decimal) :
    ∃ whole fraction, (whole = [] ∨ IsNumeral whole) ∧
      (∀ c ∈ fraction, Decimal.isDigit c = true) ∧ ¬ (whole = [] ∧ fraction = []) ∧
      word = whole ++ '.' :: fraction := by
  rcases h with ⟨whole, hwhole, _, ⟨_, rfl, fraction, hfraction, rfl⟩, rfl⟩ |
    ⟨_, rfl, fraction, hfraction, rfl⟩
  · have hnumeral := mem_numeral.mp hwhole
    refine ⟨whole, fraction, .inr hnumeral, mem_digits.mp hfraction, ?_, rfl⟩
    rintro ⟨rfl, -⟩
    obtain ⟨c, hc, -⟩ := hnumeral.first
    cases hc
  · obtain ⟨_, ⟨c, hc, rfl⟩, more, hmore, rfl⟩ := hfraction
    refine ⟨[], c :: more, .inl rfl, ?_, by simp, rfl⟩
    exact List.forall_mem_cons.mpr ⟨hc, mem_digits.mp hmore⟩

/-! ### The parts are apart -/

theorem separates_sign : Pattern.Separates (fun c => c == '+' || c == '-')
    (1 + Words.sign) Words.numeral where
  inside v hv a ha := by
    rcases (hv : v = [] ∨ v = ['+'] ∨ v = ['-']) with rfl | rfl | rfl
    · cases ha
    · obtain rfl := List.mem_singleton.mp ha
      rfl
    · obtain rfl := List.mem_singleton.mp ha
      rfl
  outside w hw a ha := by
    obtain ⟨c, rest, rfl, hdigit⟩ := exists_of_mem_numeral hw
    obtain rfl : c = a := Option.some.inj ha
    have hplus : c ≠ '+' := Decimal.ne_of_isDigit hdigit (by decide)
    have hminus : c ≠ '-' := Decimal.ne_of_isDigit hdigit (by decide)
    simp [hplus, hminus]

theorem isNumeralChar_letter {letter : Char} (h : letter = 'e' ∨ letter = 'E') :
    isNumeralChar letter = false := by
  rcases h with rfl | rfl <;> decide

theorem separates_exponent : Pattern.Separates isNumeralChar Words.numeral Words.exponent where
  inside v hv := (mem_numeral.mp hv).isNumeralChar
  outside w hw a ha := by
    obtain ⟨letter, sign, digits, hletter, -, -, rfl⟩ := exists_of_mem_exponent hw
    obtain rfl : letter = a := Option.some.inj ha
    exact isNumeralChar_letter hletter

theorem separates_point (l : Language Char) :
    Pattern.Separates isNumeralChar Words.numeral (Words.point * l) where
  inside v hv := (mem_numeral.mp hv).isNumeralChar
  outside w hw a ha := by
    obtain ⟨_, rfl, rest, -, rfl⟩ := hw
    obtain rfl : '.' = a := Option.some.inj ha
    decide

theorem separates_decimal : Pattern.Separates (fun c => isNumeralChar c || c == '.')
    Words.decimal (1 + Words.exponent) where
  inside v hv a ha := by
    obtain ⟨whole, fraction, hwhole, hfraction, -, rfl⟩ := exists_of_mem_decimal hv
    rcases List.mem_append.mp ha with ha | ha
    · rcases hwhole with rfl | hwhole
      · cases ha
      · simp [hwhole.isNumeralChar a ha]
    · rcases List.mem_cons.mp ha with rfl | ha
      · simp
      · simp [isNumeralChar, hfraction a ha]
  outside w hw a ha := by
    rcases hw with rfl | hw
    · cases ha
    · obtain ⟨letter, sign, digits, hletter, -, -, rfl⟩ := exists_of_mem_exponent hw
      obtain rfl : letter = a := Option.some.inj ha
      rcases hletter with rfl | rfl <;> decide

theorem distinguishes_first (l m : Language Char) :
    Pattern.Distinguishes (fun _ => true) (Words.numeral * l) (Words.point * m) := by
  rintro _ ⟨v, hv, v', -, rfl⟩ _ ⟨_, rfl, w', -, rfl⟩
  obtain ⟨c, rest, rfl, hdigit⟩ := exists_of_mem_numeral hv
  exact ⟨c, '.', rfl, rfl, Decimal.ne_of_isDigit hdigit (by decide)⟩

theorem find?_append_cons {kind : Char → Bool} {v : List Char} {a : Char}
    (hv : ∀ c ∈ v, kind c = false) (ha : kind a = true) (rest : List Char) :
    (v ++ a :: rest).find? kind = some a := by
  have hnone : v.find? kind = none := List.find?_eq_none.mpr fun c hc => by simp [hv c hc]
  rw [List.find?_append, hnone, Option.none_or, List.find?_cons_of_pos ha]

/-- A float has a character that no numeral has, and the first one tells its form. -/
theorem find?_decimal {word : List Char} (h : word ∈ Words.decimal) (rest : List Char) :
    (word ++ rest).find? (fun c => !isNumeralChar c) = some '.' := by
  obtain ⟨whole, fraction, hwhole, -, -, rfl⟩ := exists_of_mem_decimal h
  rw [List.append_assoc]
  refine find?_append_cons (fun c hc => ?_) (by decide) (fraction ++ rest)
  rcases hwhole with rfl | hwhole
  · cases hc
  · simp [hwhole.isNumeralChar c hc]

theorem find?_scientific {word : List Char} (h : word ∈ Words.numeral * Words.exponent) :
    ∃ letter, (letter = 'e' ∨ letter = 'E') ∧
      word.find? (fun c => !isNumeralChar c) = some letter := by
  obtain ⟨v, hv, w, hw, rfl⟩ := h
  obtain ⟨letter, sign, digits, hletter, -, -, rfl⟩ := exists_of_mem_exponent hw
  refine ⟨letter, hletter, find?_append_cons (fun c hc => ?_) ?_ (sign ++ digits)⟩
  · simp [(mem_numeral.mp hv).isNumeralChar c hc]
  · simp [isNumeralChar_letter hletter]

theorem distinguishes_forms (l : Language Char) :
    Pattern.Distinguishes (fun c => !isNumeralChar c) (Words.numeral * Words.exponent)
      (Words.decimal * l) := by
  rintro v hv _ ⟨w, hw, w', -, rfl⟩
  obtain ⟨letter, hletter, hfind⟩ := find?_scientific hv
  refine ⟨letter, '.', hfind, find?_decimal hw w', ?_⟩
  rcases hletter with rfl | rfl <;> decide

/-! ### The longest word is taken -/

theorem takesLongest_exponentPart : exponentPart.TakesLongest Words.exponent := by
  have hsign := (Pattern.TakesLongest.set signSet).optional rfl
  rw [signSet, characters_pair] at hsign
  have hexponent := (hsign.seq takesLongest_integer separates_sign).behindSet letterSet
  rwa [letterSet, characters_pair] at hexponent

theorem takesLongest_digits :
    (Pattern.rounds 0 none true (.set digitSet)).TakesLongest Words.digit∗ := by
  rw [← characters_digitSet]
  exact .many (c := '0') rfl

theorem takesLongest_someDigits : someDigits.TakesLongest (Words.digit * Words.digit∗) := by
  rw [← characters_digitSet]
  exact .some (c := '0') rfl

theorem takesLongest_optionalDigits :
    (Pattern.rounds 0 (some 1) true someDigits).TakesLongest Words.digit∗ := by
  rw [← Language.one_add_self_mul_kstar_eq_kstar]
  exact takesLongest_someDigits.optional rfl

theorem takesLongest_decimalForm {fraction : Pattern} (h : fraction.TakesLongest Words.digit∗) :
    (decimalForm fraction).TakesLongest Words.decimal :=
  (takesLongest_integer.before (h.behindChar '.') (separates_point _)).alt
    (takesLongest_someDigits.behindChar '.') (distinguishes_first _ _)

theorem takesLongest_floatForm : floatForm.TakesLongest Words.float :=
  (takesLongest_integer.before takesLongest_exponentPart separates_exponent).alt
    ((takesLongest_decimalForm takesLongest_digits).seq (takesLongest_exponentPart.optional rfl)
      separates_decimal) (distinguishes_forms _)

theorem takesLongest_withSign {p : Pattern} {l : Language Char} (h : p.TakesLongest l) :
    (withSign p).TakesLongest (Words.signed l) := by
  rw [Words.signed, Words.sign, ← characters_pair]
  exact h.behindSet _

theorem matchesLongest_decimal : decimal.MatchesLongest Words.decimal :=
  decimalReading.matchesLongest (takesLongest_decimalForm takesLongest_optionalDigits)

theorem matchesLongest_float : float.MatchesLongest Words.float :=
  floatReading.matchesLongest takesLongest_floatForm

theorem matchesLongest_signedFloat : signedFloat.MatchesLongest (Words.signed Words.float) :=
  signedFloatReading.matchesLongest (takesLongest_withSign takesLongest_floatForm)

/-! ### Without underscores a float can be read -/

theorem filter_of_isDigit {digits : List Char} (h : ∀ c ∈ digits, Decimal.isDigit c = true) :
    digits.filter (· != '_') = digits := by
  refine List.filter_eq_self.mpr fun c hc => ?_
  simpa using Decimal.ne_of_isDigit (h c hc) (by decide : Decimal.isDigit '_' = false)

theorem IsNumeral.isDigit_of_mem_filter {word : List Char} (h : IsNumeral word) :
    ∀ c ∈ word.filter (· != '_'), Decimal.isDigit c = true := by
  rw [h.filter_eq]
  exact fun c hc => (List.mem_filter.mp hc).2

theorem IsNumeral.filter_separators_ne_nil {word : List Char} (h : IsNumeral word) :
    word.filter (· != '_') ≠ [] := by
  rw [h.filter_eq]
  exact h.filter_ne_nil

theorem isExponent_filter {word : List Char} (h : word ∈ Words.exponent) :
    Decimal.IsExponent (word.filter (· != '_')) := by
  obtain ⟨letter, sign, digits, hletter, hsign, hdigits, rfl⟩ := exists_of_mem_exponent h
  have hfilter : (letter :: (sign ++ digits)).filter (· != '_') =
      letter :: (sign ++ digits.filter (· != '_')) := by
    rcases hletter with rfl | rfl <;> rcases hsign with rfl | rfl | rfl <;> simp
  rw [hfilter]
  exact .mk letter sign _ hletter hsign hdigits.isDigit_of_mem_filter
    hdigits.filter_separators_ne_nil

/-- A point with digits, and perhaps an exponent behind it. -/
theorem isSome_read?_decimal {word rest : List Char} (h : word ∈ Words.decimal)
    (hrest : rest = [] ∨ rest ∈ Words.exponent) :
    (Decimal.read? ((word ++ rest).filter (· != '_'))).isSome = true := by
  obtain ⟨whole, fraction, hwhole, hfraction, hne, rfl⟩ := exists_of_mem_decimal h
  have hfilter : ((whole ++ '.' :: fraction) ++ rest).filter (· != '_') =
      whole.filter (· != '_') ++ '.' :: (fraction ++ rest.filter (· != '_')) := by
    rw [List.filter_append, List.filter_append, List.filter_cons_of_pos (by decide),
      filter_of_isDigit hfraction, List.append_assoc, List.cons_append]
  have hexponent : rest.filter (· != '_') = [] ∨ Decimal.IsExponent (rest.filter (· != '_')) := by
    rcases hrest with rfl | hrest
    · exact .inl rfl
    · exact .inr (isExponent_filter hrest)
  rw [hfilter]
  rcases hwhole with rfl | hwhole
  · exact Decimal.isSome_read?_point (by simp) hfraction (by simpa using hne) hexponent
  · exact Decimal.isSome_read?_point hwhole.isDigit_of_mem_filter hfraction
      (fun hnil => hwhole.filter_separators_ne_nil hnil.1) hexponent

theorem isSome_read?_float {word : List Char} (h : word ∈ Words.float) :
    (Decimal.read? (word.filter (· != '_'))).isSome = true := by
  rcases h with ⟨whole, hwhole, exponent, hexponent, rfl⟩ | ⟨w, hw, rest, hrest, rfl⟩
  · have hnumeral := mem_numeral.mp hwhole
    have hfilter : (whole ++ exponent).filter (· != '_') =
        whole.filter (· != '_') ++ exponent.filter (· != '_') := List.filter_append _ _
    exact (congrArg (fun text => (Decimal.read? text).isSome) hfilter).trans
      (Decimal.isSome_read?_whole hnumeral.isDigit_of_mem_filter hnumeral.filter_separators_ne_nil
        (isExponent_filter hexponent))
  · exact isSome_read?_decimal hw hrest

/-- Every word is read as a number once its underscores are dropped. -/
def IsReadable (l : Language Char) : Prop :=
  ∀ word ∈ l, ∃ x, Binary64.read (stripSeparators (String.ofList word)) = .ok x

theorem isReadable_decimal : IsReadable Words.decimal := by
  intro word hword
  rw [stripSeparators, String.toList_ofList]
  have hread := isSome_read?_decimal hword (.inl rfl)
  rw [List.append_nil] at hread
  exact Binary64.exists_read hread

theorem isReadable_float : IsReadable Words.float := by
  intro word hword
  rw [stripSeparators, String.toList_ofList]
  exact Binary64.exists_read (isSome_read?_float hword)

theorem isReadable_signedFloat : IsReadable (Words.signed Words.float) := by
  rintro _ ⟨_, rfl | rfl, word, hword, rfl⟩
  · rw [stripSeparators, String.toList_ofList]
    exact Binary64.exists_read_plus (isSome_read?_float hword)
  · rw [stripSeparators, String.toList_ofList]
    exact Binary64.exists_read_minus (isSome_read?_float hword)

/-! ### The rules -/

/-- The rule applies where a word of the language is at the start of the text. It takes the longest
one and gives its number, and it never fails. -/
structure TakesFloat (r : Rule) (l : Language Char) (text : List Char) : Prop where
  notApplied_iff : r.apply text = .ok .notApplied ↔ ¬ ∃ word ∈ l, word <+: text
  takes : (∃ word ∈ l, word <+: text) →
    ∃ word x, Pattern.LongestPrefix l text word ∧
      Binary64.read (stripSeparators (String.ofList word)) = .ok x ∧
      r.apply text = .ok (.applied (.float x) word)
  never_fails : ∀ fault, r.apply text ≠ .error fault

theorem outcome_of_readFloat {word : List Char} {x : Binary64}
    (h : Binary64.read (stripSeparators (String.ofList word)) = .ok x) :
    (Action.convert readFloat).outcome word = .ok (.applied (.float x) word) := by
  rw [Action.outcome, readFloat, h]
  rfl

theorem takesFloat {r : Rule} {l : Language Char} (hmatches : r.MatchesLongest l)
    (haction : r.action = .convert readFloat) (hreadable : IsReadable l) (text : List Char) :
    TakesFloat r l text := by
  obtain ⟨hnone, hmatch⟩ | ⟨word, hword, hmatch⟩ := hmatches text
  · have happly := Rule.apply_of_match?_eq_none hmatch
    have hnot : ¬ ∃ word ∈ l, word <+: text := fun ⟨word, hword, hbegins⟩ =>
      hnone word hword hbegins
    exact ⟨iff_of_true happly hnot, fun h => absurd h hnot, fun fault h => by
      cases happly.symm.trans h⟩
  · have hexists : ∃ word ∈ l, word <+: text := ⟨word, hword.mem, hword.isPrefix⟩
    obtain ⟨x, hx⟩ := hreadable word hword.mem
    have happly : r.apply text = .ok (.applied (.float x) word) := by
      rw [Rule.apply_of_match? hmatch, haction, outcome_of_readFloat hx]
    refine ⟨iff_of_false ?_ (not_not.mpr hexists), fun _ => ⟨word, x, hword, hx, happly⟩, ?_⟩
    · rw [happly]
      simp
    · intro fault h
      cases happly.symm.trans h

/-- The rules for floats, for floats with a sign and for numerals with a point take the longest word
of their kind. Whatever its numerals and underscores are, the word is a number. -/
theorem apply_floats (text : List Char) :
    TakesFloat float Words.float text ∧
    TakesFloat signedFloat (Words.signed Words.float) text ∧
    TakesFloat decimal Words.decimal text :=
  ⟨takesFloat matchesLongest_float rfl isReadable_float text,
    takesFloat matchesLongest_signedFloat rfl isReadable_signedFloat text,
    takesFloat matchesLongest_decimal rfl isReadable_decimal text⟩

-- A letter and a sign are no exponent.
example : (float.apply ['1', '.', '5', 'e', '+']).map Outcome.len? = .ok (some 3) := by
  decide +kernel

end Library

end RuleLexer

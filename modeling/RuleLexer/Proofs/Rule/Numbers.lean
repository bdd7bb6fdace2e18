import RuleLexer.Proofs.Rule.Floats

/-!
The groups of number rules. A group takes the first of its rules that matches,
and in these groups no later rule would have matched more: a text with a sign is
no number without one, and wherever a float and an integer match the integer
ends before the float does. So floats stand before integers, and a float that
starts with too large an integer is no fault.
-/

namespace RuleLexer

/-! ### Groups in which the first match is the longest -/

namespace RuleGroup

/-- One of the rules matches so much at the start of the text, and none of them matches more. -/
structure LongestMatch (rules : List Rule) (text matched : List Char) : Prop where
  exists_match : ∃ r ∈ rules, r.match? text = some matched
  longest : ∀ r ∈ rules, ∀ other, r.match? text = some other →
    byteLength other ≤ byteLength matched

/-- Where both rules match, the first one matches all that the second one does. -/
def Covers (r s : Rule) : Prop :=
  ∀ text v w, r.match? text = some v → s.match? text = some w → w <+: v

variable {text : List Char}

theorem applyFirst_append_of_match?_eq_none {rules : List Rule}
    (h : ∀ r ∈ rules, r.match? text = none) (others : List Rule) :
    applyFirst (rules ++ others) text = applyFirst others text := by
  induction rules with
  | nil => rfl
  | cons r rules ih =>
      obtain ⟨hr, hrules⟩ := List.forall_mem_cons.mp h
      rw [List.cons_append, applyFirst, Rule.apply_of_match?_eq_none hr]
      exact ih hrules

theorem outcome_ne_notApplied (a : Action) (matched : List Char) :
    a.outcome matched ≠ .ok .notApplied := by
  cases a with
  | emit => simp [Action.outcome]
  | ignore => simp [Action.outcome]
  | convert converter =>
      rw [Action.outcome]
      cases converter (String.ofList matched) <;> simp [Except.map]

theorem applyFirst_of_match? {r : Rule} {matched : List Char}
    (h : r.match? text = some matched) (others : List Rule) :
    applyFirst (r :: others) text = r.action.outcome matched := by
  rw [applyFirst, Rule.apply_of_match? h]
  cases houtcome : r.action.outcome matched with
  | error fault => rfl
  | ok outcome =>
      cases outcome with
      | notApplied => exact absurd houtcome (outcome_ne_notApplied r.action matched)
      | ignored => rfl
      | applied => rfl

/-- The first of the rules that matches decides, whatever stands behind them, and it matches no less
than the later ones that it covers. -/
theorem applyFirst_cases {rules later : List Rule} (hcovers : (rules ++ later).Pairwise Covers)
    (text : List Char) :
    (∀ r ∈ rules, r.match? text = none) ∨
    ∃ r ∈ rules, ∃ matched, r.match? text = some matched ∧
      LongestMatch (rules ++ later) text matched ∧
      ∀ others, applyFirst (rules ++ others) text = r.action.outcome matched := by
  cases hfind : rules.find? fun r => (r.match? text).isSome with
  | none => exact .inl (by simpa using List.find?_eq_none.mp hfind)
  | some r =>
      obtain ⟨hsome, before, after, rfl, hbefore⟩ := List.find?_eq_some_iff_append.mp hfind
      obtain ⟨matched, hmatched⟩ := Option.isSome_iff_exists.mp hsome
      have hbefore : ∀ s ∈ before, s.match? text = none := by simpa using hbefore
      refine .inr ⟨r, by simp, matched, hmatched, ⟨⟨r, by simp, hmatched⟩, ?_⟩, fun others => ?_⟩
      · rw [List.append_assoc, List.cons_append] at hcovers ⊢
        intro s hs other hother
        rcases List.mem_append.mp hs with hs | hs
        · cases (hbefore s hs).symm.trans hother
        · rcases List.mem_cons.mp hs with rfl | hs
          · rw [Option.some.inj (hmatched.symm.trans hother)]
          · have hpairs := (List.pairwise_append.mp hcovers).2.1
            have hcovered := (List.pairwise_cons.mp hpairs).1 s hs
            obtain ⟨more, rfl⟩ := hcovered text matched other hmatched hother
            rw [byteLength_append]
            exact Nat.le_add_right _ _
      · rw [List.append_assoc, applyFirst_append_of_match?_eq_none hbefore, List.cons_append,
          applyFirst_of_match? hmatched]

end RuleGroup

namespace Library

open RuleGroup

/-! ### Numbers with a sign and without one -/

/-- The words with a sign before them, or as they are. -/
def Words.signedIf : Bool → Language Char → Language Char
  | true, l => signed l
  | false, l => l

def floatRule : Bool → Rule
  | true => signedFloat
  | false => float

def intRule : Bool → Rule
  | true => signedInt
  | false => int

theorem matchesLongest_floatRule (signed : Bool) :
    (floatRule signed).MatchesLongest (Words.signedIf signed Words.float) := by
  cases signed with
  | false => exact matchesLongest_float
  | true => exact matchesLongest_signedFloat

theorem matchesLongest_intRule (signed : Bool) :
    (intRule signed).MatchesLongest (Words.signedIf signed Words.numeral) := by
  cases signed with
  | false => exact intReading.matchesLongest takesLongest_integer
  | true => exact signedIntReading.matchesLongest (takesLongest_withSign takesLongest_integer)

theorem exists_of_mem_signed {l : Language Char} {word : List Char} (h : word ∈ Words.signed l) :
    ∃ (s : Sign), ∃ w ∈ l, word = s.char :: w := by
  obtain ⟨_, rfl | rfl, w, hw, rfl⟩ := h
  · exact ⟨.plus, w, hw, rfl⟩
  · exact ⟨.minus, w, hw, rfl⟩

/-! ### Numbers at one place of a text -/

/-- No word starts with a sign. -/
def IsUnsigned (l : Language Char) : Prop :=
  ∀ word ∈ l, ∃ c rest, word = c :: rest ∧ (Decimal.isDigit c = true ∨ c = '.')

theorem isUnsigned_numeral : IsUnsigned Words.numeral := by
  intro word hword
  obtain ⟨c, rest, rfl, hc⟩ := exists_of_mem_numeral hword
  exact ⟨c, rest, rfl, .inl hc⟩

theorem isUnsigned_float : IsUnsigned Words.float := by
  rintro word (⟨whole, hwhole, exponent, -, rfl⟩ | ⟨w, hw, rest, -, rfl⟩)
  · obtain ⟨c, more, rfl, hc⟩ := exists_of_mem_numeral hwhole
    exact ⟨c, more ++ exponent, rfl, .inl hc⟩
  · obtain ⟨whole, fraction, hwhole, -, -, rfl⟩ := exists_of_mem_decimal hw
    rcases hwhole with rfl | hwhole
    · exact ⟨'.', fraction ++ rest, rfl, .inr rfl⟩
    · obtain ⟨c, more, rfl, hc⟩ := exists_of_mem_numeral (mem_numeral.mpr hwhole)
      exact ⟨c, _, rfl, .inl hc⟩

theorem Sign.char_ne {s : Sign} {c : Char} (h : Decimal.isDigit c = true ∨ c = '.') :
    s.char ≠ c := by
  rcases h with hc | rfl
  · exact (Decimal.ne_of_isDigit hc (by cases s <;> decide)).symm
  · cases s <;> decide

theorem distinguishes_signed (l : Language Char) {m : Language Char} (hm : IsUnsigned m) :
    Pattern.Distinguishes (fun _ => true) (Words.signed l) m := by
  intro v hv w hw
  obtain ⟨s, v, -, rfl⟩ := exists_of_mem_signed hv
  obtain ⟨c, w, rfl, hc⟩ := hm w hw
  exact ⟨s.char, c, rfl, rfl, s.char_ne hc⟩

theorem distinguishes_of_ne {signed signed' : Bool} (hne : signed ≠ signed')
    {l m : Language Char} (hl : IsUnsigned l) (hm : IsUnsigned m) :
    Pattern.Distinguishes (fun _ => true) (Words.signedIf signed l) (Words.signedIf signed' m) := by
  cases signed <;> cases signed'
  · exact absurd rfl hne
  · exact (distinguishes_signed m hl).symm
  · exact distinguishes_signed l hm
  · exact absurd rfl hne

/-- A float has a character that is in no numeral. -/
theorem exists_find?_float {word : List Char} (h : word ∈ Words.float) :
    ∃ c, word.find? (fun c => !isNumeralChar c) = some c := by
  rcases h with hword | ⟨w, hw, rest, -, rfl⟩
  · obtain ⟨letter, -, hfind⟩ := find?_scientific hword
    exact ⟨letter, hfind⟩
  · exact ⟨'.', find?_decimal hw rest⟩

/-- The numeral ends before the float does. -/
theorem isPrefix_of_float {v w text : List Char} (hv : v ∈ Words.float) (hw : w ∈ Words.numeral)
    (hbegins : v <+: text) (hbegins' : w <+: text) : w <+: v := by
  rcases List.prefix_or_prefix_of_prefix hbegins' hbegins with h | h
  · exact h
  · obtain ⟨c, hc⟩ := exists_find?_float hv
    have hmem : c ∈ w := h.subset (List.mem_of_find?_eq_some hc)
    have hkind := List.find?_some hc
    simp [(mem_numeral.mp hw).isNumeralChar c hmem] at hkind

theorem isPrefix_of_signedIf {signed : Bool} {v w text : List Char}
    (hv : v ∈ Words.signedIf signed Words.float) (hw : w ∈ Words.signedIf signed Words.numeral)
    (hbegins : v <+: text) (hbegins' : w <+: text) : w <+: v := by
  cases signed with
  | false => exact isPrefix_of_float hv hw hbegins hbegins'
  | true =>
      obtain ⟨s, v, hfloat, rfl⟩ := exists_of_mem_signed hv
      obtain ⟨s', w, hnumeral, rfl⟩ := exists_of_mem_signed hw
      obtain ⟨rest, rfl⟩ := hbegins
      obtain ⟨hchar, hrest⟩ := List.cons_prefix_cons.mp hbegins'
      rw [hchar]
      exact (List.prefix_cons_inj _).mpr
        (isPrefix_of_float hfloat hnumeral (List.prefix_append _ _) hrest)

theorem mem_float_of_isNumeral {whole fraction : List Char} (hwhole : IsNumeral whole)
    (hfraction : ∀ c ∈ fraction, Decimal.isDigit c = true) :
    whole ++ '.' :: fraction ∈ Words.float := by
  have hdecimal : whole ++ '.' :: fraction ∈ Words.decimal :=
    .inl ⟨whole, mem_numeral.mpr hwhole, '.' :: fraction,
      ⟨['.'], rfl, fraction, mem_digits.mpr hfraction, rfl⟩, rfl⟩
  exact .inr ⟨_, hdecimal, [], .inl rfl, List.append_nil _⟩

/-- No float, with a sign or without one, is at the start of the text. -/
def NoFloatAt (text : List Char) : Prop :=
  ∀ signed, ∀ word ∈ Words.signedIf signed Words.float, ¬ word <+: text

/-! ### The order of the rules -/

section Covers

variable {r s : Rule} {l m : Language Char} (hr : r.MatchesLongest l) (hs : s.MatchesLongest m)
include hr hs

theorem covers_of_isPrefix
    (h : ∀ text, ∀ v ∈ l, ∀ w ∈ m, v <+: text → w <+: text → w <+: v) : Covers r s := by
  intro text v w hv hw
  have hv := hr.longestPrefix hv
  have hw := hs.longestPrefix hw
  exact h text v hv.mem w hw.mem hv.isPrefix hw.isPrefix

theorem covers_of_distinguishes {kind : Char → Bool} (h : Pattern.Distinguishes kind l m) :
    Covers r s :=
  covers_of_isPrefix hr hs fun _ _ hv _ hw hbegins hbegins' =>
    absurd hbegins' (h.not_isPrefix hv hw hbegins)

end Covers

theorem covers_floatRule_intRule (signed signed' : Bool) :
    Covers (floatRule signed) (intRule signed') := by
  by_cases hne : signed = signed'
  · subst hne
    exact covers_of_isPrefix (matchesLongest_floatRule signed) (matchesLongest_intRule signed)
      fun _ _ hv _ hw => isPrefix_of_signedIf hv hw
  · exact covers_of_distinguishes (matchesLongest_floatRule signed)
      (matchesLongest_intRule signed') (distinguishes_of_ne hne isUnsigned_float isUnsigned_numeral)

theorem covers_floatRule {signed signed' : Bool} (hne : signed ≠ signed') :
    Covers (floatRule signed) (floatRule signed') :=
  covers_of_distinguishes (matchesLongest_floatRule signed) (matchesLongest_floatRule signed')
    (distinguishes_of_ne hne isUnsigned_float isUnsigned_float)

theorem covers_intRule {signed signed' : Bool} (hne : signed ≠ signed') :
    Covers (intRule signed) (intRule signed') :=
  covers_of_distinguishes (matchesLongest_intRule signed) (matchesLongest_intRule signed')
    (distinguishes_of_ne hne isUnsigned_numeral isUnsigned_numeral)

/-! ### The groups -/

/-- The groups of number rules. -/
inductive NumberKind
  | number | signedNumber | anyInt | anyFloat | anyNumber
  deriving DecidableEq, Repr

namespace NumberKind

def group : NumberKind → RuleGroup
  | number => Library.number
  | signedNumber => Library.signedNumber
  | anyInt => Library.anyInt
  | anyFloat => Library.anyFloat
  | anyNumber => Library.anyNumber

/-- Whether the numbers have a sign, in the order in which this is tried. -/
def signs : NumberKind → List Bool
  | number => [false]
  | signedNumber => [true]
  | _ => [true, false]

/-- The rules of the group that read floats. -/
def floats (k : NumberKind) : List Rule :=
  if k = anyInt then [] else k.signs.map floatRule

/-- The rules of the group that read integers. -/
def integers (k : NumberKind) : List Rule :=
  if k = anyFloat then [] else k.signs.map intRule

theorem rules_group (k : NumberKind) : k.group.rules = k.floats ++ k.integers := by
  cases k <;> rfl

theorem mem_floats {k : NumberKind} {r : Rule} :
    r ∈ k.floats ↔ k ≠ anyInt ∧ ∃ signed ∈ k.signs, floatRule signed = r := by
  rw [floats]
  split
  next h => simp [h]
  next h => simp [h]

theorem exists_of_mem_integers {k : NumberKind} {r : Rule} (h : r ∈ k.integers) :
    ∃ signed ∈ k.signs, intRule signed = r := by
  rw [integers] at h
  split at h
  · cases h
  · exact List.mem_map.mp h

theorem pairwise_ne_signs (k : NumberKind) : k.signs.Pairwise (· ≠ ·) := by
  cases k <;> decide

theorem pairwise_covers (k : NumberKind) : (k.floats ++ k.integers).Pairwise Covers := by
  refine List.pairwise_append.mpr ⟨?_, ?_, ?_⟩
  · rw [floats]
    split
    · exact .nil
    · exact List.pairwise_map.mpr (k.pairwise_ne_signs.imp covers_floatRule)
  · rw [integers]
    split
    · exact .nil
    · exact List.pairwise_map.mpr (k.pairwise_ne_signs.imp covers_intRule)
  · intro r hr s hs
    obtain ⟨-, signed, -, rfl⟩ := mem_floats.mp hr
    obtain ⟨signed', -, rfl⟩ := exists_of_mem_integers hs
    exact covers_floatRule_intRule signed signed'

/-- Behind an integer rule that matches there is no float of the other kind either. -/
theorem noFloatAt_of_match? {k : NumberKind} (hkind : k ≠ anyInt) {signed : Bool}
    (hsigned : signed ∈ k.signs) {text matched : List Char}
    (hmatch : (intRule signed).match? text = some matched)
    (hnone : ∀ r ∈ k.floats, r.match? text = none) : NoFloatAt text := by
  intro signed' word hword
  by_cases hne : signed = signed'
  · subst hne
    have hmatch' := hnone _ (mem_floats.mpr ⟨hkind, signed, hsigned, rfl⟩)
    exact (matchesLongest_floatRule signed).match?_eq_none_iff.mp hmatch' word hword
  · have hinteger := (matchesLongest_intRule signed).longestPrefix hmatch
    exact (distinguishes_of_ne hne isUnsigned_numeral isUnsigned_float).not_isPrefix hinteger.mem
      hword hinteger.isPrefix

end NumberKind

/-! ### What comes of a number -/

theorem outcome_floatRule {signed : Bool} {text matched : List Char}
    (hmatch : (floatRule signed).match? text = some matched) :
    ∃ x, Binary64.read (stripSeparators (String.ofList matched)) = .ok x ∧
      (floatRule signed).action.outcome matched = .ok (.applied (.float x) matched) := by
  have hword := ((matchesLongest_floatRule signed).longestPrefix hmatch).mem
  cases signed with
  | false =>
      obtain ⟨x, hx⟩ := isReadable_float matched hword
      exact ⟨x, hx, outcome_of_readFloat hx⟩
  | true =>
      obtain ⟨x, hx⟩ := isReadable_signedFloat matched hword
      exact ⟨x, hx, outcome_of_readFloat hx⟩

theorem outcome_intRule {signed : Bool} {text matched : List Char}
    (hmatch : (intRule signed).match? text = some matched) :
    ∃ (s : Sign) (n : Nat), (intRule signed).action.outcome matched = s.outcome n matched := by
  have hword := ((matchesLongest_intRule signed).longestPrefix hmatch).mem
  cases signed with
  | false => exact ⟨.plus, _, outcome_numeral (mem_numeral.mp hword)⟩
  | true =>
      obtain ⟨s, w, hw, rfl⟩ := exists_of_mem_signed hword
      exact ⟨s, _, outcome_withSign s (mem_numeral.mp hw)⟩

namespace NumberKind

/-- The result of a group where the text has no number of it, or a float, which is read as one
whatever rules stand behind those of floats, or an integer. In a group that reads floats an integer
is found only where there is no float. -/
inductive Finds (k : NumberKind) (text : List Char) : Except ConvertError Outcome → Prop
  | nothing (hnone : ∀ r ∈ k.group.rules, r.match? text = none) : Finds k text (.ok .notApplied)
  | float {r : Rule} {matched : List Char} {x : Binary64} (hr : r ∈ k.floats)
      (hmatch : r.match? text = some matched)
      (hlongest : LongestMatch k.group.rules text matched)
      (hread : Binary64.read (stripSeparators (String.ofList matched)) = .ok x)
      (happly : ∀ others,
        applyFirst (k.floats ++ others) text = .ok (.applied (.float x) matched)) :
      Finds k text (.ok (.applied (.float x) matched))
  | integer {matched : List Char} (s : Sign) (n : Nat)
      (hfloats : ∀ r ∈ k.floats, r.match? text = none) (hnone : k ≠ anyInt → NoFloatAt text)
      (hlongest : LongestMatch k.group.rules text matched) :
      Finds k text (s.outcome n matched)

theorem finds_apply (k : NumberKind) (text : List Char) : k.Finds text (k.group.apply text) := by
  have hcovers := k.pairwise_covers
  obtain hfloats | ⟨r, hr, matched, hmatch, hlongest, happly⟩ := applyFirst_cases hcovers text
  · rw [← List.append_nil (k.floats ++ k.integers)] at hcovers
    obtain hnone | ⟨r, hr, matched, hmatch, hlongest, happly⟩ := applyFirst_cases hcovers text
    · have happly := applyFirst_append_of_match?_eq_none hnone []
      rw [List.append_nil, ← k.rules_group] at happly
      rw [← k.rules_group] at hnone
      rw [RuleGroup.apply, happly]
      exact .nothing hnone
    · have hmem : r ∈ k.integers := (List.mem_append.mp hr).resolve_left fun hmem => by
        cases (hfloats r hmem).symm.trans hmatch
      obtain ⟨signed, hsigned, rfl⟩ := exists_of_mem_integers hmem
      obtain ⟨s, n, houtcome⟩ := outcome_intRule hmatch
      have happly := happly []
      rw [List.append_nil, ← k.rules_group] at hlongest happly
      rw [RuleGroup.apply, happly, houtcome]
      exact .integer s n hfloats (fun hkind => noFloatAt_of_match? hkind hsigned hmatch hfloats)
        hlongest
  · obtain ⟨-, signed, -, rfl⟩ := mem_floats.mp hr
    obtain ⟨x, hread, houtcome⟩ := outcome_floatRule hmatch
    rw [← k.rules_group] at hlongest
    rw [RuleGroup.apply, k.rules_group, happly, houtcome]
    exact .float hr hmatch hlongest hread fun others => (happly others).trans houtcome

theorem mem_rules_of_mem_floats {k : NumberKind} {r : Rule} (h : r ∈ k.floats) :
    r ∈ k.group.rules := by
  rw [k.rules_group]
  exact List.mem_append_left _ h

/-- Two float rules never match at one place. -/
theorem eq_of_match?_floatRule {signed signed' : Bool} {text v w : List Char}
    (hv : (floatRule signed).match? text = some v)
    (hw : (floatRule signed').match? text = some w) : v = w := by
  by_cases hne : signed = signed'
  · subst hne
    exact Option.some.inj (hv.symm.trans hw)
  · have hv := (matchesLongest_floatRule signed).longestPrefix hv
    have hw := (matchesLongest_floatRule signed').longestPrefix hw
    exact absurd hw.isPrefix ((distinguishes_of_ne hne isUnsigned_float
      isUnsigned_float).not_isPrefix hv.mem hw.mem hv.isPrefix)

namespace Finds

variable {k : NumberKind} {text : List Char} {result : Except ConvertError Outcome}

theorem eq_notApplied_iff (h : k.Finds text result) :
    result = .ok .notApplied ↔ ∀ r ∈ k.group.rules, r.match? text = none := by
  cases h with
  | nothing hnone => exact iff_of_true rfl hnone
  | float hr hmatch =>
      refine iff_of_false (by simp) fun hnone => ?_
      cases (hnone _ (mem_rules_of_mem_floats hr)).symm.trans hmatch
  | integer s n _ _ hlongest =>
      refine iff_of_false (s.outcome_ne_notApplied n _) fun hnone => ?_
      obtain ⟨r, hr, hmatch⟩ := hlongest.exists_match
      cases (hnone r hr).symm.trans hmatch

theorem exists_longestMatch {outcome : Outcome} (h : k.Finds text (.ok outcome)) :
    outcome = .notApplied ∨ ∃ matched, LongestMatch k.group.rules text matched ∧
      outcome.len? = some (byteLength matched) := by
  generalize hresult : Except.ok outcome = result at h
  cases h with
  | nothing => exact .inl (Except.ok.inj hresult)
  | float _ _ hlongest =>
      obtain rfl := Except.ok.inj hresult
      exact .inr ⟨_, hlongest, rfl⟩
  | integer s n _ _ hlongest =>
      rw [Sign.outcome] at hresult
      split at hresult
      · obtain rfl := Except.ok.inj hresult
        exact .inr ⟨_, hlongest, rfl⟩
      · cases hresult

/-- The result is that of the float rule that matches, even if other rules were to stand behind
those of floats. -/
theorem of_match? (h : k.Finds text result) {r : Rule} (hr : r ∈ k.floats) {matched : List Char}
    (hmatch : r.match? text = some matched) :
    ∃ x, Binary64.read (stripSeparators (String.ofList matched)) = .ok x ∧
      r.apply text = .ok (.applied (.float x) matched) ∧ result = r.apply text ∧
      ∀ others, applyFirst (k.floats ++ others) text = r.apply text := by
  cases h with
  | nothing hnone => cases (hnone r (mem_rules_of_mem_floats hr)).symm.trans hmatch
  | @float r' matched' x' hr' hmatch' _ hread' happly =>
      obtain ⟨-, signed, -, rfl⟩ := mem_floats.mp hr
      obtain ⟨-, signed', -, rfl⟩ := mem_floats.mp hr'
      obtain rfl := eq_of_match?_floatRule hmatch hmatch'
      obtain ⟨x, hread, houtcome⟩ := outcome_floatRule hmatch
      obtain rfl : x = x' := Except.ok.inj (hread.symm.trans hread')
      have hrule := (Rule.apply_of_match? hmatch).trans houtcome
      exact ⟨x, hread, hrule, hrule.symm, fun others => (happly others).trans hrule.symm⟩
  | integer _ _ hfloats => cases (hfloats r hr).symm.trans hmatch

theorem noFloatAt_of_int {n : Int} {matched : List Char}
    (h : k.Finds text (.ok (.applied (.int n) matched))) (hkind : k ≠ anyInt) :
    NoFloatAt text := by
  generalize hresult : Except.ok (Outcome.applied (.int n) matched) = result at h
  cases h with
  | nothing => cases hresult
  | float => cases hresult
  | integer _ _ _ hnone => exact hnone hkind

theorem of_error {fault : ConvertError} (h : k.Finds text (.error fault)) :
    (∃ s : Sign, fault = .integer s.fault) ∧ (k ≠ anyInt → NoFloatAt text) := by
  generalize hresult : Except.error fault = result at h
  cases h with
  | nothing => cases hresult
  | float => cases hresult
  | integer s _ _ hnone => exact ⟨⟨s, Sign.eq_of_outcome_eq_error hresult.symm⟩, hnone⟩

end Finds

/-- A group of number rules applies if one of its rules matches, and takes as much as any of them
does. A float is read as the rule for it reads it, without a look at the rules for integers. So in
a group that has rules for floats, as all have but the one of integers, an integer, or the fault of
one that is too large or too small, comes only of a text without a float at its start. -/
theorem apply_numbers (k : NumberKind) (text : List Char) :
    (k.group.apply text = .ok .notApplied ↔ ∀ r ∈ k.group.rules, r.match? text = none) ∧
    (∀ outcome, k.group.apply text = .ok outcome → outcome = .notApplied ∨
      ∃ matched, LongestMatch k.group.rules text matched ∧
        outcome.len? = some (byteLength matched)) ∧
    (∀ r ∈ k.floats, ∀ matched, r.match? text = some matched →
      ∃ x, Binary64.read (stripSeparators (String.ofList matched)) = .ok x ∧
        r.apply text = .ok (.applied (.float x) matched) ∧ k.group.apply text = r.apply text ∧
        ∀ others, applyFirst (k.floats ++ others) text = r.apply text) ∧
    (k ≠ anyInt → ∀ n matched, k.group.apply text = .ok (.applied (.int n) matched) →
      NoFloatAt text) ∧
    ∀ fault, k.group.apply text = .error fault →
      (∃ s : Sign, fault = .integer s.fault) ∧ (k ≠ anyInt → NoFloatAt text) := by
  have hfinds := k.finds_apply text
  refine ⟨hfinds.eq_notApplied_iff, fun outcome h => ?_,
    fun r hr matched hmatch => hfinds.of_match? hr hmatch, fun hkind n matched h => ?_,
    fun fault h => ?_⟩
  · exact Finds.exists_longestMatch (h ▸ hfinds)
  · exact Finds.noFloatAt_of_int (h ▸ hfinds) hkind
  · exact Finds.of_error (h ▸ hfinds)

/-- A numeral that is too large for an integer. -/
def tenToTheNineteenth : List Char := '1' :: List.replicate 19 '0'

theorem isNumeral_tenToTheNineteenth : IsNumeral tenToTheNineteenth where
  chars c hc := by
    obtain rfl | hzero := List.mem_cons.mp hc
    · exact .inl rfl
    · rw [List.eq_of_mem_replicate hzero]
      exact .inl rfl
  first := ⟨'1', rfl, rfl⟩
  last := ⟨'0', rfl, rfl⟩

/-- With a point behind it the numeral is a float. -/
theorem apply_numbers_tenToTheNineteenth :
    (∃ x, float.apply (tenToTheNineteenth ++ ['.']) =
        .ok (.applied (.float x) (tenToTheNineteenth ++ ['.'])) ∧
      number.group.apply (tenToTheNineteenth ++ ['.']) =
        float.apply (tenToTheNineteenth ++ ['.'])) ∧
    number.group.apply tenToTheNineteenth = .error (.integer .tooLarge) ∧
    NoFloatAt tenToTheNineteenth ∧
    number.group.apply ['7', ','] = .ok (.applied (.int 7) ['7']) ∧ NoFloatAt ['7', ','] := by
  have hmember : float ∈ number.floats := List.mem_singleton.mpr rfl
  have hfloat : tenToTheNineteenth ++ ['.'] ∈ Words.float :=
    mem_float_of_isNumeral isNumeral_tenToTheNineteenth (List.forall_mem_nil _)
  have hmatch := matchesLongest_float.match?_of_mem hfloat
  have hfault : number.group.apply tenToTheNineteenth = .error (.integer .tooLarge) := by
    decide +kernel
  have hint : number.group.apply ['7', ','] = .ok (.applied (.int 7) ['7']) := by decide +kernel
  obtain ⟨-, -, hmatched, -, -⟩ := apply_numbers number (tenToTheNineteenth ++ ['.'])
  obtain ⟨-, -, -, -, herror⟩ := apply_numbers number tenToTheNineteenth
  obtain ⟨-, -, -, hinteger, -⟩ := apply_numbers number ['7', ',']
  obtain ⟨x, -, hrule, hgroup, -⟩ := hmatched float hmember _ hmatch
  exact ⟨⟨x, hrule, hgroup⟩, hfault, (herror _ hfault).2 (by decide), hint,
    hinteger (by decide) _ _ hint⟩

/-- The group of integers reads the integer that a float starts with, or fails on it. -/
theorem apply_anyInt_of_float :
    anyInt.group.apply ['1', '.', '5'] = .ok (.applied (.int 1) ['1']) ∧
    ¬ NoFloatAt ['1', '.', '5'] ∧
    anyInt.group.apply (tenToTheNineteenth ++ ['.', '5']) = .error (.integer .tooLarge) ∧
    ¬ NoFloatAt (tenToTheNineteenth ++ ['.', '5']) := by
  have hfloat {whole : List Char} (hwhole : IsNumeral whole) :
      ¬ NoFloatAt (whole ++ ['.', '5']) := by
    intro hnone
    have hword : whole ++ ['.', '5'] ∈ Words.float :=
      mem_float_of_isNumeral hwhole (List.forall_mem_singleton.mpr rfl)
    exact hnone false _ hword (List.prefix_refl _)
  exact ⟨by decide +kernel, hfloat (.single rfl), by decide +kernel,
    hfloat isNumeral_tenToTheNineteenth⟩

end NumberKind

end Library

end RuleLexer

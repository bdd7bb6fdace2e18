import RuleLexer.Proofs.Scan.Segmentation
import RuleLexer.Rule.Library

/-!
Rules that match the empty text. Where all converters take the empty text such
a rule is passed over, as if it were not in the list. A converter that refuses
the empty text ends the scan at a place where its rule would have consumed
nothing.
-/

namespace RuleLexer

namespace Rule

/-- What the rule matches at the start of the text is empty. -/
def MatchesEmpty (r : Rule) (text : List Char) : Prop :=
  r.match? text = some []

instance (r : Rule) (text : List Char) : Decidable (r.MatchesEmpty text) :=
  inferInstanceAs (Decidable (r.match? text = some []))

/-- Only a converter can refuse the empty text. -/
theorem segment_nil_eq_error_iff {r : Rule} {fault : ConvertError} :
    r.segment [] = .error fault ↔
      ∃ converter, r.action = .convert converter ∧ converter "" = .error fault := by
  cases ha : r.action with
  | emit => simp [segment, ha]
  | ignore => simp [segment, ha]
  | convert converter =>
      cases hv : converter "" <;> simp [segment, ha, hv, Except.map]

theorem MatchesEmpty.passesOver {r : Rule} {text : List Char} (h : r.MatchesEmpty text)
    {segment : Segment} (hsegment : r.segment [] = .ok segment) : r.PassesOver text := by
  intro matched hm
  have hmatched : [] = matched := Option.some.inj (h.symm.trans hm)
  exact ⟨hmatched.symm, segment, hsegment⟩

theorem passesOver_of_match?_eq_none {r : Rule} {text : List Char} (h : r.match? text = none) :
    r.PassesOver text := by
  intro matched hm
  rw [h] at hm
  cases hm

end Rule

namespace Tokenizer

/-- The rules come to one whose match is empty and whose converter refuses that. -/
def RefusesEmpty (rules : List Rule) (text : List Char) (fault : ConvertError) : Prop :=
  ∃ r converter, Reaches rules text r ∧ r.MatchesEmpty text ∧ r.action = .convert converter ∧
    converter "" = .error fault

/-- The tokenizer without the rules whose match at the start of the text is empty. -/
def withoutEmptyMatches (t : Tokenizer) (text : List Char) : Tokenizer :=
  { t with rules := t.rules.filter fun r => ¬ r.MatchesEmpty text }

theorem RefusesEmpty.cons {r : Rule} {rules : List Rule} {text : List Char} {fault : ConvertError}
    (hr : r.PassesOver text) (h : RefusesEmpty rules text fault) :
    RefusesEmpty (r :: rules) text fault := by
  obtain ⟨q, converter, hreaches, hempty, haction, hfault⟩ := h
  exact ⟨q, converter, hreaches.cons hr, hempty, haction, hfault⟩

theorem RefusesEmpty.head {r : Rule} {text : List Char} {fault : ConvertError}
    (hempty : r.MatchesEmpty text) (hfault : r.segment [] = .error fault) (rules : List Rule) :
    RefusesEmpty (r :: rules) text fault := by
  obtain ⟨converter, haction, hrefuses⟩ := Rule.segment_nil_eq_error_iff.mp hfault
  exact ⟨r, converter, ⟨[], rules, rfl, by simp⟩, hempty, haction, hrefuses⟩

theorem ruleSegment?_of_refusesEmpty {rules : List Rule} {text : List Char} {fault : ConvertError}
    (h : RefusesEmpty rules text fault) : ruleSegment? rules text = .error fault := by
  obtain ⟨r, converter, hreaches, hempty, haction, hrefuses⟩ := h
  have hfault := Rule.segment_nil_eq_error_iff.mpr ⟨converter, haction, hrefuses⟩
  exact (ruleSegment?_of_reaches hreaches hempty).2 fault hfault

/-- Where no empty match is refused, rules with an empty match make no difference. -/
theorem ruleSegment?_filter {rules : List Rule} {text : List Char}
    (h : ∀ fault, ¬ RefusesEmpty rules text fault) :
    ruleSegment? (rules.filter fun r => ¬ r.MatchesEmpty text) text = ruleSegment? rules text := by
  induction rules with
  | nil => rfl
  | cons r rules ih =>
      -- The rules behind one that is passed over refuse nothing either.
      have hrest (hr : r.PassesOver text) :
          ruleSegment? (rules.filter fun r => ¬ r.MatchesEmpty text) text =
            ruleSegment? rules text :=
        ih fun fault hrefuses => h fault (hrefuses.cons hr)
      by_cases hempty : r.MatchesEmpty text
      · rw [List.filter_cons_of_neg (by simpa using hempty)]
        cases hsegment : r.segment [] with
        | error fault => exact absurd (.head hempty hsegment rules) (h fault)
        | ok segment =>
            have hpass := hempty.passesOver hsegment
            rw [ruleSegment?_cons_of_passesOver hpass, hrest hpass]
      · rw [List.filter_cons_of_pos (by simpa using hempty), ruleSegment?_cons, ruleSegment?_cons]
        cases hm : r.match? text with
        | none => exact hrest (Rule.passesOver_of_match?_eq_none hm)
        | some matched =>
            have hne : matched ≠ [] := by
              rintro rfl
              exact hempty hm
            cases r.segment matched <;> simp [hne]

/-- At a place that is left to the rules, those with an empty match could be left out, unless the
converter of one that the rules come to refuses the empty text. The scan ends there then, whatever
the rules behind would have made of the text. -/
theorem nextSegment_withoutEmptyMatches {t : Tokenizer} {c : Char} {rest : List Char}
    (hleft : t.LeftToRules c rest) :
    ((∀ fault, ¬ RefusesEmpty t.rules (c :: rest) fault) →
      t.nextSegment t.trie c rest =
        (t.withoutEmptyMatches (c :: rest)).nextSegment (t.withoutEmptyMatches (c :: rest)).trie
          c rest) ∧
    ∀ fault, RefusesEmpty t.rules (c :: rest) fault →
      t.nextSegment t.trie c rest = .error (.failed fault) := by
  have hleft' : (t.withoutEmptyMatches (c :: rest)).LeftToRules c rest := hleft
  constructor
  · intro h
    rw [nextSegment_of_leftToRules hleft, nextSegment_of_leftToRules hleft', withoutEmptyMatches,
      ruleSegment?_filter h]
  · intro fault h
    rw [nextSegment_of_leftToRules hleft, ruleSegment?_of_refusesEmpty h]

/-! ### Digits that may be missing -/

/-- An integer, or nothing, which is no integer. -/
def optionalInteger : Rule :=
  .ofValid "[0-9]*" (.convert Library.readInt) (by decide +kernel)

/-- Integers and words, with the integers first. -/
def integersAndWords : Tokenizer where
  symbols := .empty
  rules := [optionalInteger, Library.word]
  ignored := []
  convertCrlf := true
  suppressUnknown := false

theorem leftToRules_integersAndWords (c : Char) (rest : List Char) :
    integersAndWords.LeftToRules c rest := by
  refine ⟨List.not_mem_nil, ?_⟩
  intro literal hsome
  cases hsome

/-- The rule for integers would consume nothing of a word. Yet its converter ends the scan there,
and without the rule the word is found. -/
theorem nextSegment_ne_withoutEmptyMatches :
    integersAndWords.LeftToRules 'b' [] ∧
    integersAndWords.nextSegment integersAndWords.trie 'b' [] =
      .error (.failed (.integer .empty)) ∧
    (integersAndWords.withoutEmptyMatches ['b']).nextSegment
        (integersAndWords.withoutEmptyMatches ['b']).trie 'b' [] =
      .ok (.value "[A-Za-z]+" (.str "b") ['b']) ∧
    integersAndWords.tokenize ['b'] = .error (.convert (.integer .empty)) ∧
    (integersAndWords.withoutEmptyMatches ['b']).tokenize ['b'] =
      .ok [.value (.str "b")] := by
  refine ⟨leftToRules_integersAndWords 'b' [], ?_⟩
  decide +kernel

/-- At a digit both sides find the integer, at a letter the empty match is refused. -/
theorem nextSegment_withoutEmptyMatches_integers :
    integersAndWords.nextSegment integersAndWords.trie '7' ['b'] =
      (integersAndWords.withoutEmptyMatches ['7', 'b']).nextSegment
        (integersAndWords.withoutEmptyMatches ['7', 'b']).trie '7' ['b'] ∧
    integersAndWords.nextSegment integersAndWords.trie 'b' [] =
      .error (.failed (.integer .empty)) := by
  constructor
  · refine (nextSegment_withoutEmptyMatches (leftToRules_integersAndWords '7' ['b'])).1 ?_
    rintro fault ⟨r, converter, ⟨before, after, hrules, -⟩, hempty, -⟩
    have hmem : r ∈ integersAndWords.rules := by simp [hrules]
    have hnone : ∀ r ∈ integersAndWords.rules, ¬ r.MatchesEmpty ['7', 'b'] := by decide +kernel
    exact hnone r hmem hempty
  · refine (nextSegment_withoutEmptyMatches (leftToRules_integersAndWords 'b' [])).2 _ ?_
    exact .head (by decide +kernel) (by decide +kernel) _

end Tokenizer

end RuleLexer

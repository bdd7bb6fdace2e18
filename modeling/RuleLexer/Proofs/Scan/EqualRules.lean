import Mathlib.Data.List.ReduceOption
import RuleLexer.Proofs.Scan.Priority
import RuleLexer.Rule.Library

/-!
Scans by rules that are equal. Equal rules have one pattern and the same flags,
and both or none of them have an effect, but what the effect is does not count:
one may drop what another one converts. So they match the same texts, and where
no converter fails a text is cut at the same places by both. What rules made of
the pieces may differ, unless they have no effect.
-/

namespace RuleLexer

/-! ### Equal rules -/

namespace Rule

theorem beq_iff {r s : Rule} :
    (r == s) = true ↔ r.pattern = s.pattern ∧ r.flags = s.flags ∧ r.hasEffect = s.hasEffect := by
  show (r.pattern == s.pattern && r.flags == s.flags && r.hasEffect == s.hasEffect) = true ↔ _
  simp [and_assoc]

/-- Pattern and flags tell what is matched. -/
theorem match?_eq_of_beq {r s : Rule} (h : (r == s) = true) (text : List Char) :
    r.match? text = s.match? text := by
  obtain ⟨hpattern, hflags, -⟩ := beq_iff.mp h
  have hcompiled := r.compiled
  rw [hpattern, hflags, s.compiled] at hcompiled
  rw [match?, match?, Option.some.inj hcompiled]

theorem segment_of_not_hasEffect {r : Rule} (h : r.hasEffect = false) (matched : List Char) :
    r.segment matched = .ok (.value r.pattern (.str (String.ofList matched)) matched) := by
  cases ha : r.action with
  | emit => rw [segment, ha]
  | ignore => simp [hasEffect, ha] at h
  | convert converter => simp [hasEffect, ha] at h

end Rule

namespace RuleGroup

/-- The first rule with a match that is not empty, which a scan comes to if no converter fails. -/
def ruleAt? (rules : List Rule) (text : List Char) : Option Rule :=
  rules.find? fun r => (r.match? text).any fun matched => !matched.isEmpty

theorem ruleAt?_cons_of_isEmpty {r : Rule} {text : List Char}
    (h : ∀ matched, r.match? text = some matched → matched = []) (rules : List Rule) :
    ruleAt? (r :: rules) text = ruleAt? rules text := by
  rw [ruleAt?, List.find?_cons_of_neg, ← ruleAt?]
  cases hm : r.match? text with
  | none => simp
  | some matched => simp [h matched hm]

theorem ruleAt?_cons_of_ne_nil {r : Rule} {text matched : List Char}
    (h : r.match? text = some matched) (hne : matched ≠ []) (rules : List Rule) :
    ruleAt? (r :: rules) text = some r := by
  rw [ruleAt?, List.find?_cons_of_pos]
  simp [h, hne]

/-- In equal groups the rule is at the same place. -/
theorem ruleAt?_of_beq {rules rules' : List Rule} (h : (rules == rules') = true)
    (text : List Char) :
    (ruleAt? rules text = none ∧ ruleAt? rules' text = none) ∨
      ∃ r r', ruleAt? rules text = some r ∧ ruleAt? rules' text = some r' ∧ (r == r') = true := by
  induction rules generalizing rules' with
  | nil =>
      cases rules' with
      | nil => exact .inl ⟨rfl, rfl⟩
      | cons r' rules' => cases h
  | cons r rules ih =>
      cases rules' with
      | nil => cases h
      | cons r' rules' =>
          rw [List.cons_beq_cons, Bool.and_eq_true] at h
          obtain ⟨hr, hrules⟩ := h
          have hmatch := Rule.match?_eq_of_beq hr text
          -- both heads have the same match, so either both are passed by or both are found
          by_cases hempty : ∀ matched, r.match? text = some matched → matched = []
          · rw [ruleAt?_cons_of_isEmpty hempty, ruleAt?_cons_of_isEmpty (hmatch ▸ hempty)]
            exact ih hrules
          · simp only [not_forall] at hempty
            obtain ⟨matched, hm, hne⟩ := hempty
            exact .inr ⟨r, r', ruleAt?_cons_of_ne_nil hm hne rules,
              ruleAt?_cons_of_ne_nil (hmatch ▸ hm) hne rules', hr⟩

end RuleGroup

/-! ### Segments without what rules made of them -/

namespace Segment

/-- The segment, with what a rule made of its text forgotten. -/
def outline : Segment → Segment
  | value _ _ text => dropped text
  | segment => segment

@[simp] theorem text_outline (segment : Segment) : segment.outline.text = segment.text := by
  cases segment <;> rfl

@[simp] theorem isSymbol_outline (segment : Segment) :
    segment.outline.isSymbol = segment.isSymbol := by
  cases segment <;> rfl

@[simp] theorem isUnknown_outline (segment : Segment) :
    segment.outline.isUnknown = segment.isUnknown := by
  cases segment <;> rfl

theorem symbol?_outline (segment : Segment) :
    segment.outline.token?.bind Token.symbol? = segment.token?.bind Token.symbol? := by
  cases segment <;> rfl

/-- Symbols and unknown characters stay, and what rules matched becomes a match that is dropped. -/
theorem countP_outline (segments : List Segment) :
    (segments.map outline).countP isSymbol = segments.countP isSymbol ∧
    (segments.map outline).countP isUnknown = segments.countP isUnknown ∧
    (segments.map outline).countP isDropped =
      segments.countP isValue + segments.countP isDropped := by
  refine ⟨?_, ?_, ?_⟩
  · rw [List.countP_map]
    exact List.countP_congr fun segment _ => by simp
  · rw [List.countP_map]
    exact List.countP_congr fun segment _ => by simp
  · induction segments with
    | nil => rfl
    | cons segment segments ih =>
        rw [List.map_cons, List.countP_cons, List.countP_cons, List.countP_cons, ih]
        cases segment <;> simp [outline, isDropped, isValue] <;> omega

theorem filterMap_symbol?_outline (segments : List Segment) :
    ((segments.map outline).filterMap token?).filterMap Token.symbol? =
      (segments.filterMap token?).filterMap Token.symbol? := by
  rw [List.filterMap_filterMap, List.filterMap_filterMap, List.filterMap_map]
  exact List.filterMap_congr fun segment _ => symbol?_outline segment

end Segment

/-! ### Values of rules without effect -/

namespace RuleGroup

/-- The value of a segment at the start of a text, if it is one that a rule without effect made. -/
def plainValue? (rules : List Rule) (text : List Char) : Segment → Option Value
  | .value _ v _ => if (ruleAt? rules text).any fun r => !r.hasEffect then some v else none
  | _ => none

theorem plainValue?_of_hasEffect {rules : List Rule} {text : List Char} {r : Rule}
    (hr : ruleAt? rules text = some r) (heffect : r.hasEffect = true) (segment : Segment) :
    plainValue? rules text segment = none := by
  cases segment <;> simp [plainValue?, hr, heffect]

/-- What rules without effect made of a text that is cut into these segments, one by one. -/
def plainValues (rules : List Rule) : List Char → List Segment → List (Option Value)
  | _, [] => []
  | text, segment :: segments =>
    plainValue? rules text segment :: plainValues rules (text.drop segment.text.length) segments

theorem token?_of_plainValue? {rules : List Rule} {text : List Char} {segment : Segment} {v : Value}
    (h : plainValue? rules text segment = some v) : segment.token? = some (.value v) := by
  cases segment with
  | value pattern w matched =>
      rw [plainValue?] at h
      obtain ⟨-, rfl⟩ := by simpa using h
      rfl
  | _ => cases h

/-- They are among the values of the tokens. -/
theorem reduceOption_plainValues_sublist (rules : List Rule) (text : List Char)
    (segments : List Segment) :
    (plainValues rules text segments).reduceOption.Sublist
      ((segments.filterMap Segment.token?).filterMap Token.value?) := by
  induction segments generalizing text with
  | nil => exact .slnil
  | cons segment segments ih =>
      rw [plainValues]
      cases hplain : plainValue? rules text segment with
      | some v =>
          have htoken := token?_of_plainValue? hplain
          rw [List.reduceOption_cons_of_some, List.filterMap_cons_some htoken]
          exact (ih _).cons_cons v
      | none =>
          rw [List.reduceOption_cons_of_none]
          refine (ih _).trans (List.Sublist.filterMap _ (List.Sublist.filterMap _ ?_))
          exact List.sublist_cons_self ..

end RuleGroup

/-! ### Two scans of a text -/

/-- Two segments at the start of a text that differ at most in what rules with an effect made. -/
structure Segment.SameUpToEffects (rules rules' : List Rule) (text : List Char)
    (segment segment' : Segment) : Prop where
  outline : segment.outline = segment'.outline
  plainValue? : RuleGroup.plainValue? rules text segment =
    RuleGroup.plainValue? rules' text segment'

theorem Segment.SameUpToEffects.refl {rules rules' : List Rule} {text : List Char}
    {segment : Segment} (h : segment.isValue = false) :
    SameUpToEffects rules rules' text segment segment where
  outline := rfl
  plainValue? := by
    cases segment with
    | value => cases h
    | _ => rfl

theorem Segment.SameUpToEffects.text {rules rules' : List Rule} {text : List Char}
    {segment segment' : Segment} (h : SameUpToEffects rules rules' text segment segment') :
    segment.text = segment'.text := by
  rw [← Segment.text_outline, h.outline, Segment.text_outline]

namespace Scan

/-- Two scans of a text that differ at most in what rules with an effect made. -/
structure SameUpToEffects (rules rules' : List Rule) (text : List Char) (s s' : Scan) : Prop where
  ending : s.ending = s'.ending
  outlines : s.segments.map Segment.outline = s'.segments.map Segment.outline
  plainValues : RuleGroup.plainValues rules text s.segments =
    RuleGroup.plainValues rules' text s'.segments

namespace SameUpToEffects

variable {rules rules' : List Rule} {text : List Char} {s s' : Scan}

theorem of_ending (rules rules' : List Rule) (text : List Char) (ending : Ending) :
    SameUpToEffects rules rules' text ⟨[], ending⟩ ⟨[], ending⟩ :=
  ⟨rfl, rfl, rfl⟩

theorem prepend {segment segment' : Segment}
    (hsegment : Segment.SameUpToEffects rules rules' text segment segment')
    (h : SameUpToEffects rules rules' (text.drop segment.text.length) s s') :
    SameUpToEffects rules rules' text (s.prepend segment) (s'.prepend segment') := by
  refine ⟨h.ending, ?_, ?_⟩
  · rw [segments_prepend, segments_prepend, List.map_cons, List.map_cons, hsegment.outline,
      h.outlines]
  · rw [segments_prepend, segments_prepend, RuleGroup.plainValues, RuleGroup.plainValues,
      hsegment.plainValue?, h.plainValues, hsegment.text]

theorem texts (h : SameUpToEffects rules rules' text s s') :
    s.segments.map Segment.text = s'.segments.map Segment.text := by
  have houtlines := congrArg (List.map Segment.text) h.outlines
  simpa only [List.map_map, Function.comp_def, Segment.text_outline] using houtlines

theorem covered (h : SameUpToEffects rules rules' text s s') : s.covered = s'.covered := by
  rw [Scan.covered, Scan.covered, List.flatMap_def, List.flatMap_def, h.texts]

theorem symbols (h : SameUpToEffects rules rules' text s s') :
    s.tokens.filterMap Token.symbol? = s'.tokens.filterMap Token.symbol? := by
  rw [tokens, tokens, ← Segment.filterMap_symbol?_outline, h.outlines,
    Segment.filterMap_symbol?_outline]

theorem counts (h : SameUpToEffects rules rules' text s s') (path path' : ScanPath) :
    (s.metrics path).symbolHits = (s'.metrics path').symbolHits ∧
    (s.metrics path).suppressed = (s'.metrics path').suppressed ∧
    (s.metrics path).ruleHits + (s.metrics path).ignoredMatches =
      (s'.metrics path').ruleHits + (s'.metrics path').ignoredMatches := by
  obtain ⟨hsymbols, hunknown, hdropped⟩ := Segment.countP_outline s.segments
  obtain ⟨hsymbols', hunknown', hdropped'⟩ := Segment.countP_outline s'.segments
  rw [h.outlines] at hsymbols hunknown hdropped
  refine ⟨?_, ?_, ?_⟩
  · exact hsymbols.symm.trans hsymbols'
  · exact hunknown.symm.trans hunknown'
  · exact hdropped.symm.trans hdropped'

end SameUpToEffects

end Scan

namespace Tokenizer

/-! ### One segment -/

/-- What rules come to is made by the first of them with a match that is not empty. -/
theorem ruleAt?_of_ruleSegment? {rules : List Rule} {text : List Char} {found : Option Segment}
    (h : ruleSegment? rules text = .ok found) :
    match RuleGroup.ruleAt? rules text with
    | none => found = none
    | some r => ∃ matched segment, found = some segment ∧ r.match? text = some matched ∧
        r.segment matched = .ok segment := by
  induction rules with
  | nil =>
      cases h
      rfl
  | cons r rules ih =>
      rw [ruleSegment?_cons] at h
      cases hm : r.match? text with
      | none =>
          rw [hm] at h
          rw [RuleGroup.ruleAt?_cons_of_isEmpty (by simp [hm])]
          exact ih h
      | some matched =>
          simp only [hm] at h
          cases hsegment : r.segment matched with
          | error fault => simp [hsegment] at h
          | ok segment =>
              simp only [hsegment] at h
              by_cases hempty : matched = []
              · rw [if_pos hempty] at h
                rw [RuleGroup.ruleAt?_cons_of_isEmpty (by simp [hm, hempty])]
                exact ih h
              · rw [if_neg hempty] at h
                cases h
                rw [RuleGroup.ruleAt?_cons_of_ne_nil hm hempty]
                exact ⟨matched, segment, rfl, hm, hsegment⟩

theorem outline_of_segment {r : Rule} {matched : List Char} {segment : Segment}
    (h : r.segment matched = .ok segment) : segment.outline = .dropped matched := by
  obtain rfl | ⟨v, rfl⟩ := Rule.eq_of_segment h <;> rfl

/-- Equal rules make the same value of a text, unless they have an effect. -/
theorem plainValue?_of_beq {rules rules' : List Rule} {text matched : List Char} {r r' : Rule}
    {segment segment' : Segment} (h : (r == r') = true)
    (hr : RuleGroup.ruleAt? rules text = some r) (hr' : RuleGroup.ruleAt? rules' text = some r')
    (hsegment : r.segment matched = .ok segment) (hsegment' : r'.segment matched = .ok segment') :
    RuleGroup.plainValue? rules text segment = RuleGroup.plainValue? rules' text segment' := by
  obtain ⟨-, -, heffect⟩ := Rule.beq_iff.mp h
  cases hplain : r.hasEffect with
  | false =>
      have hplain' : r'.hasEffect = false := by rw [← heffect, hplain]
      rw [Rule.segment_of_not_hasEffect hplain, Except.ok.injEq] at hsegment
      rw [Rule.segment_of_not_hasEffect hplain', Except.ok.injEq] at hsegment'
      subst hsegment hsegment'
      simp [RuleGroup.plainValue?, hr, hr', hplain, hplain']
  | true =>
      have hplain' : r'.hasEffect = true := by rw [← heffect, hplain]
      rw [RuleGroup.plainValue?_of_hasEffect hr hplain,
        RuleGroup.plainValue?_of_hasEffect hr' hplain']

/-- Where no converter fails, equal rules come to a segment both, or to none. -/
theorem ruleSegment?_of_beq {rules rules' : List Rule} (h : (rules == rules') = true)
    {text : List Char} {found found' : Option Segment}
    (hfound : ruleSegment? rules text = .ok found)
    (hfound' : ruleSegment? rules' text = .ok found') :
    (found = none ∧ found' = none) ∨
      ∃ segment segment', found = some segment ∧ found' = some segment' ∧
        Segment.SameUpToEffects rules rules' text segment segment' := by
  have hmade := ruleAt?_of_ruleSegment? hfound
  have hmade' := ruleAt?_of_ruleSegment? hfound'
  obtain ⟨hnone, hnone'⟩ | ⟨r, r', hr, hr', hbeq⟩ := RuleGroup.ruleAt?_of_beq h text
  · rw [hnone] at hmade
    rw [hnone'] at hmade'
    exact .inl ⟨hmade, hmade'⟩
  · rw [hr] at hmade
    rw [hr'] at hmade'
    obtain ⟨matched, segment, rfl, hm, hsegment⟩ := hmade
    obtain ⟨matched', segment', rfl, hm', hsegment'⟩ := hmade'
    obtain rfl : matched = matched' := by
      rw [Rule.match?_eq_of_beq hbeq, hm'] at hm
      exact (Option.some.inj hm).symm
    have houtline : segment.outline = segment'.outline := by
      rw [outline_of_segment hsegment, outline_of_segment hsegment']
    have hplain := plainValue?_of_beq hbeq hr hr' hsegment hsegment'
    exact .inr ⟨segment, segment', rfl, rfl, houtline, hplain⟩

variable {t : Tokenizer} {g g' : RuleGroup}

/-- Where no converter fails, both come to a segment or both to an unknown character. -/
theorem nextSegment_of_beq (h : (g == g') = true) {c : Char} {rest : List Char}
    (hfault : ∀ fault, (t.withRules g).nextSegment t.trie c rest ≠ .error (.failed fault))
    (hfault' : ∀ fault, (t.withRules g').nextSegment t.trie c rest ≠ .error (.failed fault)) :
    (∃ segment segment', (t.withRules g).nextSegment t.trie c rest = .ok segment ∧
        (t.withRules g').nextSegment t.trie c rest = .ok segment' ∧
        Segment.SameUpToEffects g.rules g'.rules (c :: rest) segment segment') ∨
      ((t.withRules g).nextSegment t.trie c rest = .error (.invalid c) ∧
        (t.withRules g').nextSegment t.trie c rest = .error (.invalid c)) := by
  -- Ignored characters and literals are taken before any rule is tried.
  by_cases hc : c ∈ t.ignored
  · have hskipped {g : RuleGroup} : (t.withRules g).Next (c :: rest) (.skipped c) := .skipped hc
    exact .inl ⟨_, _, nextSegment_of_next hskipped, nextSegment_of_next hskipped, .refl rfl⟩
  cases hl : t.trie.longest? ((c :: rest).take t.window) with
  | some found =>
      have hlongest := longest?_window_eq_some_iff.mp hl
      have hsymbol {g : RuleGroup} : (t.withRules g).Next (c :: rest) _ := .symbol hc hlongest
      exact .inl ⟨_, _, nextSegment_of_next hsymbol, nextSegment_of_next hsymbol, .refl rfl⟩
  | none =>
      have hleft : t.LeftToRules c rest := ⟨hc, longest?_window_eq_none_iff.mp hl⟩
      have hnext := nextSegment_of_leftToRules (t := t.withRules g) hleft
      have hnext' := nextSegment_of_leftToRules (t := t.withRules g') hleft
      cases hfound : ruleSegment? (t.withRules g).rules (c :: rest) with
      | error fault =>
          rw [hfound] at hnext
          exact absurd hnext (hfault fault)
      | ok found =>
          cases hfound' : ruleSegment? (t.withRules g').rules (c :: rest) with
          | error fault =>
              rw [hfound'] at hnext'
              exact absurd hnext' (hfault' fault)
          | ok found' =>
              rw [hfound] at hnext
              rw [hfound'] at hnext'
              obtain ⟨rfl, rfl⟩ | ⟨segment, segment', rfl, rfl, hsame⟩ :=
                ruleSegment?_of_beq h hfound hfound'
              · by_cases hs : t.suppressUnknown = true
                · exact .inl ⟨.unknown c, .unknown c, hnext.trans (if_pos hs),
                    hnext'.trans (if_pos hs), .refl rfl⟩
                · exact .inr ⟨hnext.trans (if_neg hs), hnext'.trans (if_neg hs)⟩
              · exact .inl ⟨_, _, hnext, hnext', hsame⟩

/-! ### Whole scans -/

theorem scanSegments_of_ok {trie : Trie Symbol} {c : Char} {rest : List Char} {segment : Segment}
    (h : t.nextSegment trie c rest = .ok segment) (fuel : Nat) :
    t.scanSegments trie (fuel + 1) (c :: rest) =
      (t.scanSegments trie fuel ((c :: rest).drop segment.text.length)).prepend segment := by
  rw [scanSegments, h]

theorem scanSegments_of_error {trie : Trie Symbol} {c : Char} {rest : List Char} {ending : Ending}
    (h : t.nextSegment trie c rest = .error ending) (fuel : Nat) :
    t.scanSegments trie (fuel + 1) (c :: rest) = ⟨[], ending⟩ := by
  rw [scanSegments, h]

theorem nextSegment_ne_failed {trie : Trie Symbol} {c : Char} {rest : List Char} {fuel : Nat}
    (h : ∀ fault, (t.scanSegments trie (fuel + 1) (c :: rest)).ending ≠ .failed fault)
    (fault : ConvertError) : t.nextSegment trie c rest ≠ .error (.failed fault) := by
  intro hfails
  rw [scanSegments_of_error hfails] at h
  exact h fault rfl

theorem scanSegments_of_beq (h : (g == g') = true) {fuel : Nat} {text : List Char}
    (hfault : ∀ fault, ((t.withRules g).scanSegments t.trie fuel text).ending ≠ .failed fault)
    (hfault' : ∀ fault, ((t.withRules g').scanSegments t.trie fuel text).ending ≠ .failed fault) :
    Scan.SameUpToEffects g.rules g'.rules text ((t.withRules g).scanSegments t.trie fuel text)
      ((t.withRules g').scanSegments t.trie fuel text) := by
  induction fuel generalizing text with
  | zero => cases text <;> exact .of_ending ..
  | succ fuel ih =>
      cases text with
      | nil => exact .of_ending ..
      | cons c rest =>
          obtain ⟨segment, segment', hsegment, hsegment', hsame⟩ | ⟨hinvalid, hinvalid'⟩ :=
            nextSegment_of_beq h (nextSegment_ne_failed hfault) (nextSegment_ne_failed hfault')
          · rw [scanSegments_of_ok hsegment] at hfault ⊢
            -- the segments are equally long, so the same text is left
            rw [scanSegments_of_ok hsegment', ← hsame.text] at hfault' ⊢
            exact .prepend hsame (ih hfault hfault')
          · rw [scanSegments_of_error hinvalid, scanSegments_of_error hinvalid']
            exact .of_ending ..

theorem scan_of_beq (h : (g == g') = true) {input : List Char}
    (hfault : ∀ fault, ((t.withRules g).scan input).ending ≠ .failed fault)
    (hfault' : ∀ fault, ((t.withRules g').scan input).ending ≠ .failed fault) :
    Scan.SameUpToEffects g.rules g'.rules (t.scannedText input) ((t.withRules g).scan input)
      ((t.withRules g').scan input) := by
  rw [scan, scanText_eq_scanGeneral] at hfault hfault'
  rw [scan, scan, scanText_eq_scanGeneral, scanText_eq_scanGeneral]
  exact scanSegments_of_beq h hfault hfault'

/-- Tokenizers with equal rules fail at the same character, or they cut a text at the same places:
there are the same symbols and as many unknown characters in it, rules have matched equally often,
and rules without effect have made the same values at the same places, which are among the tokens
of both. -/
theorem tokenizeWithMetrics_of_beq (h : (g == g') = true) {input : List Char}
    (hfault : ∀ fault, (t.withRules g).tokenizeWithMetrics input ≠ .error (.convert fault))
    (hfault' : ∀ fault, (t.withRules g').tokenizeWithMetrics input ≠ .error (.convert fault)) :
    (∃ c position offset,
        (t.withRules g).tokenizeWithMetrics input = .error (.invalidToken c position offset) ∧
        (t.withRules g').tokenizeWithMetrics input = .error (.invalidToken c position offset)) ∨
      ∃ result result' values,
        (t.withRules g).tokenizeWithMetrics input = .ok result ∧
        (t.withRules g').tokenizeWithMetrics input = .ok result' ∧
        ((t.withRules g).scan input).segments.map Segment.text =
          ((t.withRules g').scan input).segments.map Segment.text ∧
        result.tokens.filterMap Token.symbol? = result'.tokens.filterMap Token.symbol? ∧
        result.metrics.symbolHits = result'.metrics.symbolHits ∧
        result.metrics.suppressed = result'.metrics.suppressed ∧
        result.metrics.ruleHits + result.metrics.ignoredMatches =
          result'.metrics.ruleHits + result'.metrics.ignoredMatches ∧
        RuleGroup.plainValues g.rules (t.scannedText input)
          ((t.withRules g).scan input).segments = values ∧
        RuleGroup.plainValues g'.rules (t.scannedText input)
          ((t.withRules g').scan input).segments = values ∧
        values.reduceOption.Sublist (result.tokens.filterMap Token.value?) ∧
        values.reduceOption.Sublist (result'.tokens.filterMap Token.value?) := by
  simp only [tokenizeWithMetrics, ne_eq, Scan.outcome_eq_convert_iff] at hfault hfault'
  have hsame := scan_of_beq h hfault hfault'
  have hending := hsame.ending
  cases hs : ((t.withRules g).scan input).ending with
  | failed fault => exact absurd hs (hfault fault)
  | invalid c =>
      rw [hs] at hending
      refine .inl ⟨c, .after ((t.withRules g).scan input).covered, _,
        Scan.outcome_eq_invalidToken_iff.mpr ⟨hs, rfl, rfl⟩,
        Scan.outcome_eq_invalidToken_iff.mpr ⟨hending.symm, ?_, ?_⟩⟩
      · rw [hsame.covered]
      · rw [hsame.covered]
  | finished =>
      rw [hs] at hending
      obtain ⟨hsymbols, hsuppressed, hmatches⟩ :=
        hsame.counts (t.withRules g).path (t.withRules g').path
      refine .inr ⟨_, _, _, Scan.outcome_eq_ok_iff.mpr ⟨hs, rfl⟩,
        Scan.outcome_eq_ok_iff.mpr ⟨hending.symm, rfl⟩, hsame.texts, hsame.symbols, hsymbols,
        hsuppressed, hmatches, rfl, hsame.plainValues.symm, ?_, ?_⟩
      · exact RuleGroup.reduceOption_plainValues_sublist ..
      · rw [hsame.plainValues]
        exact RuleGroup.reduceOption_plainValues_sublist ..

/-! ### Integers that are converted or dropped -/

def assignments : Tokenizer where
  symbols := ⟨[("=", ⟨0, "Assign"⟩)], by decide, by decide⟩
  rules := []
  ignored := [' ']
  convertCrlf := true
  suppressUnknown := false

def integersConverted : RuleGroup := ⟨[Library.int, Library.word]⟩

def integersDropped : RuleGroup := ⟨[{ Library.int with action := .ignore }, Library.word]⟩

/-- The integer is a token of one tokenizer and none of the other, and the word is a token of
both. -/
theorem tokenizeWithMetrics_of_beq_integers :
    (integersConverted == integersDropped) = true ∧
    (assignments.withRules integersConverted).tokenizeWithMetrics ['x', '=', '4'] =
      .ok ⟨[.value (.str "x"), .symbol ⟨0, "Assign"⟩, .value (.int 4)], ⟨.general, 1, 2, 0, 0⟩⟩ ∧
    (assignments.withRules integersDropped).tokenizeWithMetrics ['x', '=', '4'] =
      .ok ⟨[.value (.str "x"), .symbol ⟨0, "Assign"⟩], ⟨.general, 1, 1, 1, 0⟩⟩ ∧
    RuleGroup.plainValues integersDropped.rules (assignments.scannedText ['x', '=', '4'])
        ((assignments.withRules integersDropped).scan ['x', '=', '4']).segments =
      [some (.str "x"), none, none, none] := by
  have hbeq : (integersConverted == integersDropped) = true := by decide +kernel
  have hconverted : (assignments.withRules integersConverted).tokenizeWithMetrics ['x', '=', '4'] =
      .ok ⟨[.value (.str "x"), .symbol ⟨0, "Assign"⟩, .value (.int 4)],
        ⟨.general, 1, 2, 0, 0⟩⟩ := by decide +kernel
  have hdropped : (assignments.withRules integersDropped).tokenizeWithMetrics ['x', '=', '4'] =
      .ok ⟨[.value (.str "x"), .symbol ⟨0, "Assign"⟩], ⟨.general, 1, 1, 1, 0⟩⟩ := by
    decide +kernel
  have hvalues :
      RuleGroup.plainValues integersConverted.rules (assignments.scannedText ['x', '=', '4'])
          ((assignments.withRules integersConverted).scan ['x', '=', '4']).segments =
        [some (.str "x"), none, none, none] := by decide +kernel
  have hfault : ∀ fault, (assignments.withRules integersConverted).tokenizeWithMetrics
      ['x', '=', '4'] ≠ .error (.convert fault) := by simp [hconverted]
  have hfault' : ∀ fault, (assignments.withRules integersDropped).tokenizeWithMetrics
      ['x', '=', '4'] ≠ .error (.convert fault) := by simp [hdropped]
  refine ⟨hbeq, hconverted, hdropped, ?_⟩
  obtain ⟨c, position, offset, hinvalid, -⟩ |
    ⟨_, _, values, -, -, -, -, -, -, -, hplain, hplain', -, -⟩ :=
      tokenizeWithMetrics_of_beq hbeq hfault hfault'
  · rw [hconverted] at hinvalid
    cases hinvalid
  · exact hplain'.trans (hplain.symm.trans hvalues)

end Tokenizer

end RuleLexer

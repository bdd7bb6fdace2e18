import RuleLexer.Proofs.Pattern.Anchored
import RuleLexer.Rule.Basic

/-!
Rules match at the start of a text only, and what they match there is what
their pattern matches by itself. The group around a pattern is closed as the
flags say, while the pattern may turn verbose mode on or off inside. Then a
line feed may come to belong to the pattern, or the closing parenthesis to a
comment.
-/

namespace RuleLexer

open Pattern

/-! ### Patterns in their groups -/

/-- The text in the group around a pattern. -/
def groupText (flags : RuleFlags) (text : List Char) : List Char :=
  if flags.verbose then text ++ ['\n'] else text

theorem anchoredText_eq (flags : RuleFlags) (text : List Char) :
    anchoredText flags text = anchored (groupText flags text) := by
  rw [anchoredText, groupText, anchored]
  cases flags.verbose <;> simp

/-- The text of the pattern `bare` comes to `p` in its group, nested so deep. -/
structure InGroup (flags : RuleFlags) (text : List Char) (bare p : Pattern) (depth : Nat) :
    Prop where
  normal : p.Normal
  nesting : nesting? flags.mode (groupText flags text) = some depth
  parse : parse? flags.mode (groupText flags text) =
    if depth ≤ Builder.depthLimit then some p else none
  same : flags.verbose = false ∨ endsVerbose flags.mode text = true → p = bare
  anchored : parse? flags.mode (anchoredText flags text) =
    if (flags.verbose = false ∧ EndsInComment flags.mode text) ∨ Builder.depthLimit < depth + 2
    then none else some (behindAnchor p)

theorem exists_inGroup {flags : RuleFlags} {text : List Char} {bare : Pattern}
    (h : parse? flags.mode text = some bare) : ∃ p depth, InGroup flags text bare p depth := by
  obtain ⟨b, hb, houter, rfl⟩ := exists_readText?_of_parse? h
  have hgroup : ∃ b', readText? flags.mode (groupText flags text) = some b' ∧ b'.outer = [] ∧
      (flags.verbose = false ∨ endsVerbose flags.mode text = true → b' = b) ∧
      (EndsInComment flags.mode (groupText flags text) ↔
        flags.verbose = false ∧ EndsInComment flags.mode text) := by
    rw [groupText]
    cases flags.verbose with
    | false => exact ⟨b, hb, houter, fun _ => rfl, by simp⟩
    | true =>
        -- The line feed ends a comment. It is a part of the pattern only outside verbose mode.
        obtain ⟨b', hb', houter', hsame, hcomment⟩ := readText?_append_newline hb
        refine ⟨b', hb', houter'.trans houter, fun hends => hsame ?_, by simp [hcomment]⟩
        simpa [endsVerbose, hb] using hends
  obtain ⟨b', hb', houter', hsame, hcomment⟩ := hgroup
  refine ⟨b'.level.pattern, b'.level.group.depth, normal_of_readText? hb', ?_,
    parse?_of_readText? hb' houter', fun hends => by rw [hsame hends], ?_⟩
  · simp [nesting?, hb', houter']
  · rw [anchoredText_eq, parse?_anchored hb' houter']
    simp only [hcomment]

theorem parse?_of_compile? {mode : Mode} {text : List Char} {p : Pattern}
    (h : Pattern.compile? mode text = some p) : parse? mode text = some p ∧ p.fits = true := by
  obtain ⟨q, hq, hfits⟩ := Option.bind_eq_some_iff.mp h
  split_ifs at hfits with hq'
  cases hfits
  exact ⟨hq, hq'⟩

/-- What is compiled for a pattern is the pattern in its group behind an assertion. -/
theorem compile?_eq_some {pattern : String} {flags : RuleFlags} {matcher : Pattern}
    (h : compile? pattern flags = some matcher) :
    ∃ bare p depth, Pattern.compile? flags.mode pattern.toList = some bare ∧
      InGroup flags pattern.toList bare p depth ∧ depth + 2 ≤ Builder.depthLimit ∧
      matcher = behindAnchor p := by
  rw [compile?] at h
  split at h
  next => cases h
  next bare hbare =>
    obtain ⟨p, depth, hgroup⟩ := exists_inGroup (parse?_of_compile? hbare).1
    have hanchored := hgroup.anchored.symm.trans (parse?_of_compile? h).1
    split_ifs at hanchored with hrefused
    have hdepth : depth + 2 ≤ Builder.depthLimit := by
      by_contra hlt
      exact hrefused (.inr (Nat.lt_of_not_le hlt))
    exact ⟨bare, p, depth, hbare, hgroup, hdepth, (Option.some.inj hanchored).symm⟩

namespace Rule

/-! ### Matches start the text -/

/-- Behind a character no rule matches, and so the first match found anywhere is one at the
start. -/
theorem search?_matcher (r : Rule) (text : List Char) :
    (∀ c after, r.matcher.matchAt? (some c) after = none) ∧
    (r.matcher.search? text).filter (fun found => found.1 == 0) = r.matcher.search? text ∧
    r.match? text = (r.matcher.search? text).map fun found => text.take found.2 := by
  obtain ⟨bare, p, depth, -, -, -, hmatcher⟩ := compile?_eq_some r.compiled
  have hbehind (c : Char) (after : List Char) : r.matcher.matchAt? (some c) after = none := by
    rw [hmatcher]
    exact matchAt?_behindAnchor p c after
  have hsearch := search?_of_anchored hbehind text
  refine ⟨hbehind, ?_, ?_⟩
  · rw [hsearch]
    cases r.matcher.matchPrefix? text <;> rfl
  · rw [hsearch, match?, Option.map_map]
    rfl

end Rule

/-! ### Matches are those of the pattern -/

/-- What comes of a matched text. -/
def Action.outcome (a : Action) (matched : List Char) : Except ConvertError Outcome :=
  match a with
  | emit => .ok (.applied (.str (String.ofList matched)) matched)
  | ignore => .ok (.ignored matched)
  | convert converter =>
    (converter (String.ofList matched)).map fun value => .applied value matched

namespace Rule

theorem apply_eq_outcome (r : Rule) (text : List Char) :
    r.apply text =
      match r.matcher.matchPrefix? text with
      | none => .ok .notApplied
      | some n => r.action.outcome (text.take n) := by
  rw [apply, match?]
  cases r.matcher.matchPrefix? text with
  | none => rfl
  | some n => cases r.action <;> rfl

/-- A rule does what its pattern does by itself at the start of the text, unless the flags turn
verbose mode on and the pattern turns it off to its end. Then the pattern goes on with a line
feed. -/
theorem apply_eq (r : Rule) :
    ∃ bare p, Pattern.compile? r.flags.mode r.pattern.toList = some bare ∧
      parse? r.flags.mode (groupText r.flags r.pattern.toList) = some p ∧
      (r.flags.verbose = false ∨ endsVerbose r.flags.mode r.pattern.toList = true → p = bare) ∧
      ∀ text, r.apply text =
        match p.matchPrefix? text with
        | none => .ok .notApplied
        | some n => r.action.outcome (text.take n) := by
  obtain ⟨bare, p, depth, hbare, hgroup, hdepth, hmatcher⟩ := compile?_eq_some r.compiled
  refine ⟨bare, p, hbare, ?_, hgroup.same, fun text => ?_⟩
  · rw [hgroup.parse, if_pos (Nat.le_of_add_right_le hdepth)]
  · rw [apply_eq_outcome, hmatcher, hgroup.normal.matchPrefix?_behindAnchor]

end Rule

/-! ### Patterns that are refused -/

theorem Pattern.compile?_eq (mode : Mode) (text : List Char) :
    Pattern.compile? mode text =
      (parse? mode text).bind fun p => if p.fits then some p else none := rfl

/-- A valid pattern is refused if a comment at its end takes in the closing parenthesis, or if with
its group and the assertion it goes beyond a limit. -/
theorem compile?_eq_none_iff (pattern : String) (flags : RuleFlags) :
    compile? pattern flags = none ↔
      Pattern.compile? flags.mode pattern.toList = none ∨
      (flags.verbose = false ∧ EndsInComment flags.mode pattern.toList) ∨
      (∃ depth, nesting? flags.mode (groupText flags pattern.toList) = some depth ∧
        Builder.depthLimit < depth + 2) ∨
      (∃ p, parse? flags.mode (groupText flags pattern.toList) = some p ∧
        (behindAnchor p).fits = false) := by
  cases hbare : Pattern.compile? flags.mode pattern.toList with
  | none => simp [compile?, hbare]
  | some bare =>
      obtain ⟨p, depth, hgroup⟩ := exists_inGroup (parse?_of_compile? hbare).1
      have hcompile : compile? pattern flags =
          Pattern.compile? flags.mode (anchoredText flags pattern.toList) := by
        rw [compile?, hbare]
      rw [hcompile, Pattern.compile?_eq, hgroup.anchored]
      constructor
      · intro h
        split_ifs at h with hrefused
        · rcases hrefused with hcomment | hdepth
          · exact .inr (.inl hcomment)
          · exact .inr (.inr (.inl ⟨depth, hgroup.nesting, hdepth⟩))
        · have hdepth : depth ≤ Builder.depthLimit := by omega
          refine .inr (.inr (.inr ⟨p, ?_, ?_⟩))
          · rw [hgroup.parse, if_pos hdepth]
          · simpa using h
      · rintro (hnone | hcomment | ⟨depth', hnesting, hdepth⟩ | ⟨q, hq, hfits⟩)
        · cases hnone
        · rw [if_pos (.inl hcomment)]
          rfl
        · obtain rfl : depth = depth' := Option.some.inj (hgroup.nesting.symm.trans hnesting)
          rw [if_pos (.inr hdepth)]
          rfl
        · have hparse := hgroup.parse.symm.trans hq
          split_ifs at hparse
          obtain rfl : p = q := Option.some.inj hparse
          split_ifs
          · rfl
          · simp [hfits]

namespace RuleDraft

theorem action?_eq_ok_iff (d : RuleDraft) :
    (∃ action, d.action? = .ok action) ↔ ¬ (d.ignore = true ∧ d.converter.isSome = true) := by
  rw [action?]
  cases d.ignore <;> cases d.converter <;> simp

theorem action?_eq_error {d : RuleDraft} {e : ConfigError} (h : d.action? = .error e) :
    e = .conflictingAction d.pattern := by
  rw [action?] at h
  split at h <;> cases h
  rfl

theorem build_of_compile?_eq_some {d : RuleDraft} {action : Action} {matcher : Pattern}
    (haction : d.action? = .ok action) (h : compile? d.pattern d.flags = some matcher) :
    d.build = .ok ⟨d.pattern, d.flags, matcher, action, h⟩ := by
  rw [build, haction]
  simp only
  split
  next hnone => cases h.symm.trans hnone
  next matcher' hsome =>
    obtain rfl : matcher = matcher' := Option.some.inj (h.symm.trans hsome)
    rfl

theorem build_of_compile?_eq_none {d : RuleDraft} {action : Action}
    (haction : d.action? = .ok action) (h : compile? d.pattern d.flags = none) :
    d.build = .error (.invalidPattern d.pattern) := by
  rw [build, haction]
  simp only
  split
  next => rfl
  next hsome => cases h.symm.trans hsome

/-- A draft is refused for its pattern if the pattern is not valid by itself, or if a comment at its
end takes in the closing parenthesis of its group, or if the group and the assertion are too much
for the limits on nesting and on size. -/
theorem build_eq_invalidPattern_iff (d : RuleDraft) :
    d.build = .error (.invalidPattern d.pattern) ↔
      ¬ (d.ignore = true ∧ d.converter.isSome = true) ∧
      (Pattern.compile? d.flags.mode d.pattern.toList = none ∨
      (d.flags.verbose = false ∧ EndsInComment d.flags.mode d.pattern.toList) ∨
      (∃ depth, nesting? d.flags.mode (groupText d.flags d.pattern.toList) = some depth ∧
        Builder.depthLimit < depth + 2) ∨
      (∃ p, parse? d.flags.mode (groupText d.flags d.pattern.toList) = some p ∧
        (behindAnchor p).fits = false)) := by
  rw [← compile?_eq_none_iff, ← action?_eq_ok_iff]
  constructor
  · intro h
    cases haction : d.action? with
    | error e =>
        rw [build, haction, action?_eq_error haction] at h
        cases h
    | ok action =>
        refine ⟨⟨action, rfl⟩, ?_⟩
        cases hcompile : compile? d.pattern d.flags with
        | none => rfl
        | some matcher =>
            rw [build_of_compile?_eq_some haction hcompile] at h
            cases h
  · rintro ⟨⟨action, haction⟩, hcompile⟩
    exact build_of_compile?_eq_none haction hcompile

/-! ### Verbose mode turned on and off inside a pattern -/

/-- A pattern that turns verbose mode off. -/
def leavingVerbose : RuleDraft := ⟨"(?-x)a", ⟨false, false, false, true⟩, none, false⟩

/-- The pattern matches the text by itself and the rule does not. -/
theorem build_leavingVerbose :
    ∃ bare r, Pattern.compile? leavingVerbose.flags.mode leavingVerbose.pattern.toList = some bare ∧
      leavingVerbose.build = .ok r ∧ bare.matchPrefix? ['a'] = some 1 ∧
      r.apply ['a'] = .ok .notApplied := by
  refine ⟨literal 'a' [], ⟨_, _, behindAnchor (literal 'a' ['\n']), .emit, by decide +kernel⟩,
    by decide +kernel, build_of_compile?_eq_some rfl (by decide +kernel), by decide +kernel,
    by decide +kernel⟩

/-- A pattern that turns verbose mode on and ends in a comment. -/
def enteringVerbose : RuleDraft := ⟨"(?x)a #", {}, none, false⟩

/-- The pattern is valid by itself and is refused. -/
theorem build_enteringVerbose :
    Pattern.compile? enteringVerbose.flags.mode enteringVerbose.pattern.toList =
      some (literal 'a' []) ∧
    enteringVerbose.build = .error (.invalidPattern "(?x)a #") :=
  ⟨by decide +kernel, build_of_compile?_eq_none (d := enteringVerbose) rfl (by decide +kernel)⟩

end RuleDraft

end RuleLexer

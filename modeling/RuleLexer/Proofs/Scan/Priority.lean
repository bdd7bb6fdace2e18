import RuleLexer.Proofs.Scan.Suppression

/-!
Rules added behind others. A rule is tried only where all rules before it pass
over the text, so a rule that is added at the end changes nothing where a rule
before it matches or a converter before it fails. It counts only at characters
which are unknown without it: up to the first of them a strict scan is what it
was before.
-/

namespace RuleLexer

/-! ### A scan that begins as another one -/

namespace Scan

/-- The second scan is the first one if that does not stop at an unknown character. Otherwise it
begins with the segments of the first one and goes on in any way. -/
inductive ExtendedBy : Scan → Scan → Prop
  | same {s : Scan} (hending : ∀ c, s.ending ≠ .invalid c) : ExtendedBy s s
  | further {segments more : List Segment} {c : Char} {ending : Ending} :
      ExtendedBy ⟨segments, .invalid c⟩ ⟨segments ++ more, ending⟩

variable {first second : Scan}

theorem ExtendedBy.exists_segments (h : first.ExtendedBy second) :
    ∃ more, second.segments = first.segments ++ more := by
  cases h with
  | same => exact ⟨[], (List.append_nil _).symm⟩
  | further => exact ⟨_, rfl⟩

theorem ExtendedBy.byteLength_covered_le (h : first.ExtendedBy second) :
    byteLength first.covered ≤ byteLength second.covered := by
  obtain ⟨more, hmore⟩ := h.exists_segments
  rw [covered, covered, hmore, List.flatMap_append, byteLength_append]
  exact Nat.le_add_right ..

theorem ExtendedBy.exists_tokens (h : first.ExtendedBy second) :
    ∃ later, second.tokens = first.tokens ++ later := by
  obtain ⟨more, hmore⟩ := h.exists_segments
  rw [tokens, tokens, hmore, List.filterMap_append]
  exact ⟨_, rfl⟩

/-- Tokens and counts do not depend on the path that is told with them. -/
theorem ExtendedBy.outcome_eq_ok (h : first.ExtendedBy second) {path : ScanPath}
    {result : ScanResult} (hok : first.outcome path = .ok result) (path' : ScanPath) :
    second.outcome path' = .ok ⟨result.tokens, { result.metrics with path := path' }⟩ := by
  obtain ⟨hending, rfl⟩ := Scan.outcome_eq_ok_iff.mp hok
  cases h with
  | same => exact Scan.outcome_eq_ok_iff.mpr ⟨hending, rfl⟩
  | further => cases hending

theorem ExtendedBy.outcome_eq_convert (h : first.ExtendedBy second) {path : ScanPath}
    {fault : ConvertError} (hfault : first.outcome path = .error (.convert fault))
    (path' : ScanPath) : second.outcome path' = .error (.convert fault) := by
  rw [Scan.outcome_eq_convert_iff] at hfault ⊢
  cases h with
  | same => exact hfault
  | further => cases hfault

end Scan

/-! ### Two lists of rules, one the beginning of the other -/

namespace Tokenizer

/-- The tokenizer with other rules. -/
def withRules (t : Tokenizer) (g : RuleGroup) : Tokenizer := { t with rules := g.rules }

theorem Reaches.append {rules : List Rule} {text : List Char} {r : Rule}
    (h : Reaches rules text r) (added : List Rule) : Reaches (rules ++ added) text r := by
  obtain ⟨before, after, rfl, hbefore⟩ := h
  exact ⟨before, after ++ added, by rw [List.append_assoc, List.cons_append], hbefore⟩

variable {t : Tokenizer} {g : RuleGroup}

theorem Next.union {text : List Char} {segment : Segment}
    (h : (t.strict.withRules g).Next text segment) (added : RuleGroup) :
    (t.strict.withRules (g.union added)).Next text segment := by
  cases h with
  | skipped hc => exact .skipped hc
  | symbol hc hl => exact .symbol hc hl
  | rule hleft hr hm hne hsegment =>
      exact .rule hleft (hr.append added.rules) hm hne hsegment
  | unknown _ _ hs => cases hs

theorem Cuts.union {text left : List Char} {segments : List Segment}
    (h : (t.strict.withRules g).Cuts text segments left) (added : RuleGroup) :
    (t.strict.withRules (g.union added)).Cuts text segments left :=
  h.imp fun hnext => hnext.union added

/-- Only at an unknown character the added rules may find something. -/
theorem Stops.union {text : List Char} {ending : Ending}
    (h : (t.strict.withRules g).Stops text ending) (hending : ∀ c, ending ≠ .invalid c)
    (added : RuleGroup) : (t.strict.withRules (g.union added)).Stops text ending := by
  cases h with
  | finished => exact .finished
  | invalid => exact absurd rfl (hending _)
  | failed hleft hr hm hfault => exact .failed hleft (hr.append added.rules) hm hfault

theorem extendedBy_scanGeneral (t : Tokenizer) (g added : RuleGroup) (text : List Char) :
    ((t.strict.withRules g).scanGeneral text).ExtendedBy
      ((t.strict.withRules (g.union added)).scanGeneral text) := by
  obtain ⟨left, hcuts, hstops⟩ := (t.strict.withRules g).cuts_scanGeneral text
  rw [scanGeneral_of_cuts hcuts hstops]
  by_cases hinvalid : ∃ c, ((t.strict.withRules g).scanGeneral text).ending = .invalid c
  · -- what is left there is cut with all rules as a text of its own
    obtain ⟨c, hc⟩ := hinvalid
    obtain ⟨left', hmore, hstops'⟩ := (t.strict.withRules (g.union added)).cuts_scanGeneral left
    rw [scanGeneral_of_cuts ((hcuts.union added).append hmore) hstops', hc]
    exact .further
  · have hending := not_exists.mp hinvalid
    rw [scanGeneral_of_cuts (hcuts.union added) (hstops.union hending added)]
    exact .same hending

/-- The text that is scanned does not depend on the rules. -/
theorem extendedBy_scan (t : Tokenizer) (g added : RuleGroup) (input : List Char) :
    ((t.strict.withRules g).scan input).ExtendedBy
      ((t.strict.withRules (g.union added)).scan input) := by
  rw [scan, scan, scanText_eq_scanGeneral, scanText_eq_scanGeneral]
  exact t.extendedBy_scanGeneral g added _

theorem path_of_rules_ne_nil {t : Tokenizer} (h : t.rules ≠ []) : t.path = .general := by
  simp [path, singles?, h]

/-- With rules added behind its own a strict tokenizer comes to the same tokens and counts where it
came to an end before, and to the same fault of a converter, also where it took the fast path before
and takes the general one now. Where it failed at an unknown character, all that it had recognized
before this character stays, and it fails at no character before it. -/
theorem tokenizeWithMetrics_union (t : Tokenizer) (g added : RuleGroup) (input : List Char) :
    (∀ result, (t.strict.withRules g).tokenizeWithMetrics input = .ok result →
      (t.strict.withRules (g.union added)).tokenizeWithMetrics input =
        .ok
          { tokens := result.tokens
            metrics :=
              { path := (t.strict.withRules (g.union added)).path
                symbolHits := result.metrics.symbolHits
                ruleHits := result.metrics.ruleHits
                ignoredMatches := result.metrics.ignoredMatches
                suppressed := result.metrics.suppressed } }) ∧
    (∀ fault, (t.strict.withRules g).tokenizeWithMetrics input = .error (.convert fault) →
      (t.strict.withRules (g.union added)).tokenizeWithMetrics input = .error (.convert fault)) ∧
    (∀ c position offset,
      (t.strict.withRules g).tokenizeWithMetrics input =
        .error (.invalidToken c position offset) →
      byteLength (((t.strict.withRules g).scan input).segments.flatMap Segment.text) = offset ∧
      (∃ more, ((t.strict.withRules (g.union added)).scan input).segments =
        ((t.strict.withRules g).scan input).segments ++ more) ∧
      (∀ result, (t.strict.withRules (g.union added)).tokenizeWithMetrics input = .ok result →
        ∃ later, result.tokens = ((t.strict.withRules g).scan input).tokens ++ later) ∧
      ∀ c' position' offset',
        (t.strict.withRules (g.union added)).tokenizeWithMetrics input =
          .error (.invalidToken c' position' offset') →
        offset ≤ offset') ∧
    (added.rules ≠ [] → (t.strict.withRules (g.union added)).path = .general) := by
  have h := t.extendedBy_scan g added input
  refine ⟨?_, ?_, ?_, ?_⟩
  · intro result hok
    exact h.outcome_eq_ok hok _
  · intro fault hfault
    exact h.outcome_eq_convert hfault _
  · intro c position offset hinvalid
    obtain ⟨-, -, rfl⟩ := Scan.outcome_eq_invalidToken_iff.mp hinvalid
    refine ⟨rfl, h.exists_segments, ?_, ?_⟩
    · intro result hok
      obtain ⟨-, rfl⟩ := Scan.outcome_eq_ok_iff.mp hok
      exact h.exists_tokens
    · intro c' position' offset' hinvalid'
      obtain ⟨-, -, rfl⟩ := Scan.outcome_eq_invalidToken_iff.mp hinvalid'
      exact h.byteLength_covered_le
  · intro hadded
    refine path_of_rules_ne_nil ?_
    show g.rules ++ added.rules ≠ []
    exact List.append_ne_nil_of_right_ne_nil _ hadded

end Tokenizer

end RuleLexer

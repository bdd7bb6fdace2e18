import RuleLexer.Proofs.Literal.Longest

/-!
How a text is to be cut into segments, without the trie, the window and the
fuel of the scan. `Next` tells the segment at the start of a text, `Stops` why
there is none, and `Cuts` the segments up to some place. The general scan cuts
a text in just this way, up to where it has to stop.
-/

namespace RuleLexer

/-! ### Outcomes -/

namespace Scan

theorem flatMap_text_skipped (ignored : List Char) :
    (ignored.map Segment.skipped).flatMap Segment.text = ignored := by
  rw [List.flatMap_map]
  exact List.flatMap_singleton' ignored

theorem outcome_eq_ok_iff {s : Scan} {path : ScanPath} {result : ScanResult} :
    s.outcome path = .ok result ↔ s.ending = .finished ∧ ⟨s.tokens, s.metrics path⟩ = result := by
  cases h : s.ending <;> simp [outcome, h]

theorem outcome_eq_invalidToken_iff {s : Scan} {path : ScanPath} {c : Char} {position : Position}
    {offset : Nat} :
    s.outcome path = .error (.invalidToken c position offset) ↔
      s.ending = .invalid c ∧ .after s.covered = position ∧ byteLength s.covered = offset := by
  cases h : s.ending <;> simp [outcome, h]

theorem outcome_eq_convert_iff {s : Scan} {path : ScanPath} {fault : ConvertError} :
    s.outcome path = .error (.convert fault) ↔ s.ending = .failed fault := by
  cases h : s.ending <;> simp [outcome, h]

end Scan

/-! ### What comes of segments -/

namespace ScanResult

/-- The tokens of a list of segments, and their counts. -/
def ofSegments (path : ScanPath) (segments : List Segment) : ScanResult where
  tokens := segments.filterMap Segment.token?
  metrics :=
    { path
      symbolHits := segments.countP Segment.isSymbol
      ruleHits := segments.countP Segment.isValue
      ignoredMatches := segments.countP Segment.isDropped
      suppressed := segments.countP Segment.isUnknown }

/-- Takes one more segment into account. -/
def add (r : ScanResult) : Segment → ScanResult
  | .skipped _ => r
  | .symbol s _ =>
    { tokens := r.tokens ++ [.symbol s]
      metrics := { r.metrics with symbolHits := r.metrics.symbolHits + 1 } }
  | .value _ v _ =>
    { tokens := r.tokens ++ [.value v]
      metrics := { r.metrics with ruleHits := r.metrics.ruleHits + 1 } }
  | .dropped _ =>
    { r with metrics := { r.metrics with ignoredMatches := r.metrics.ignoredMatches + 1 } }
  | .unknown _ =>
    { r with metrics := { r.metrics with suppressed := r.metrics.suppressed + 1 } }

theorem ofSegments_concat (path : ScanPath) (segments : List Segment) (segment : Segment) :
    ofSegments path (segments ++ [segment]) = (ofSegments path segments).add segment := by
  cases segment <;>
    simp [ofSegments, add, Segment.token?, Segment.isSymbol, Segment.isValue, Segment.isDropped,
      Segment.isUnknown]

theorem ofSegments_append_skipped (path : ScanPath) (segments : List Segment)
    (ignored : List Char) :
    ofSegments path (segments ++ ignored.map .skipped) = ofSegments path segments := by
  induction ignored generalizing segments with
  | nil => rw [List.map_nil, List.append_nil]
  | cons c ignored ih =>
      rw [List.map_cons, List.append_cons, ih, ofSegments_concat]
      rfl

/-- The result is that of going through the segments with all counts at zero at first. -/
theorem foldl_add (path : ScanPath) (segments : List Segment) :
    segments.foldl add ⟨[], ⟨path, 0, 0, 0, 0⟩⟩ = ofSegments path segments := by
  induction segments using List.reverseRecOn with
  | nil => rfl
  | append_singleton segments segment ih =>
      rw [List.foldl_append, ih, ofSegments_concat]
      rfl

end ScanResult

/-! ### Rules -/

namespace Rule

/-- What the rule makes of a text that it has matched. -/
def segment (r : Rule) (matched : List Char) : Except ConvertError Segment :=
  match r.action with
  | .emit => .ok (.value r.pattern (.str (String.ofList matched)) matched)
  | .ignore => .ok (.dropped matched)
  | .convert converter =>
    (converter (String.ofList matched)).map fun v => .value r.pattern v matched

/-- The rule consumes nothing of the text. If it matches the empty text, its converter has to
accept that. -/
def PassesOver (r : Rule) (text : List Char) : Prop :=
  ∀ matched, r.match? text = some matched → matched = [] ∧ ∃ segment, r.segment [] = .ok segment

theorem exists_segment_of_not_passesOver {r : Rule} {text : List Char} (h : ¬ r.PassesOver text) :
    ∃ matched, r.match? text = some matched ∧
      ((matched ≠ [] ∧ ∃ segment, r.segment matched = .ok segment) ∨
        ∃ fault, r.segment matched = .error fault) := by
  simp only [PassesOver, not_forall] at h
  obtain ⟨matched, hm, hnot⟩ := h
  refine ⟨matched, hm, ?_⟩
  cases hsegment : r.segment matched with
  | error fault => exact .inr ⟨fault, rfl⟩
  | ok segment =>
      refine .inl ⟨?_, segment, rfl⟩
      rintro rfl
      exact hnot ⟨rfl, segment, hsegment⟩

theorem match?_isPrefix {r : Rule} {text matched : List Char} (h : r.match? text = some matched) :
    matched <+: text := by
  obtain ⟨n, -, rfl⟩ := Option.map_eq_some_iff.mp h
  exact List.take_prefix n text

theorem eq_of_segment {r : Rule} {matched : List Char} {segment : Segment}
    (h : r.segment matched = .ok segment) :
    segment = .dropped matched ∨ ∃ v, segment = .value r.pattern v matched := by
  rw [Rule.segment] at h
  split at h
  · cases h
    exact .inr ⟨_, rfl⟩
  · cases h
    exact .inl rfl
  · rename_i converter _
    cases hv : converter (String.ofList matched) with
    | error fault => simp [hv, Except.map] at h
    | ok v =>
        simp only [hv, Except.map, Except.ok.injEq] at h
        exact .inr ⟨v, h.symm⟩

theorem text_of_segment {r : Rule} {matched : List Char} {segment : Segment}
    (h : r.segment matched = .ok segment) : segment.text = matched := by
  obtain rfl | ⟨v, rfl⟩ := eq_of_segment h <;> rfl

theorem isUnknown_of_segment {r : Rule} {matched : List Char} {segment : Segment}
    (h : r.segment matched = .ok segment) : segment.isUnknown = false := by
  obtain rfl | ⟨v, rfl⟩ := eq_of_segment h <;> rfl

end Rule

namespace Tokenizer

/-- All rules before this one pass over the text. -/
def Reaches (rules : List Rule) (text : List Char) (r : Rule) : Prop :=
  ∃ before after, rules = before ++ r :: after ∧ ∀ q ∈ before, q.PassesOver text

theorem ruleSegment?_cons (r : Rule) (rules : List Rule) (text : List Char) :
    ruleSegment? (r :: rules) text =
      match r.match? text with
      | none => ruleSegment? rules text
      | some matched =>
        match r.segment matched with
        | .error fault => .error fault
        | .ok segment => if matched = [] then ruleSegment? rules text else .ok (some segment) := by
  rw [ruleSegment?, Rule.apply]
  cases r.match? text with
  | none => rfl
  | some matched =>
      cases ha : r.action with
      | emit => cases matched <;> simp [Rule.segment, ha]
      | ignore => cases matched <;> simp [Rule.segment, ha]
      | convert converter =>
          cases hv : converter (String.ofList matched) with
          | error fault => simp [Rule.segment, ha, hv, Except.map]
          | ok v =>
              simp only [Rule.segment, ha, hv, Except.map]
              cases matched <;> simp

theorem ruleSegment?_cons_of_passesOver {r : Rule} {text : List Char} (h : r.PassesOver text)
    (rules : List Rule) : ruleSegment? (r :: rules) text = ruleSegment? rules text := by
  rw [ruleSegment?_cons]
  cases hm : r.match? text with
  | none => rfl
  | some matched =>
      obtain ⟨rfl, segment, hsegment⟩ := h matched hm
      simp [hsegment]

theorem ruleSegment?_append_of_passesOver {before : List Rule} {text : List Char}
    (h : ∀ r ∈ before, r.PassesOver text) (rules : List Rule) :
    ruleSegment? (before ++ rules) text = ruleSegment? rules text := by
  induction before with
  | nil => rfl
  | cons r before ih =>
      obtain ⟨hr, hbefore⟩ := List.forall_mem_cons.mp h
      rw [List.cons_append, ruleSegment?_cons_of_passesOver hr, ih hbefore]

theorem ruleSegment?_of_passesOver {rules : List Rule} {text : List Char}
    (h : ∀ r ∈ rules, r.PassesOver text) : ruleSegment? rules text = .ok none := by
  rw [← List.append_nil rules, ruleSegment?_append_of_passesOver h]
  rfl

theorem ruleSegment?_of_reaches {rules : List Rule} {text matched : List Char} {r : Rule}
    (hr : Reaches rules text r) (hm : r.match? text = some matched) :
    (matched ≠ [] → ∀ segment, r.segment matched = .ok segment →
      ruleSegment? rules text = .ok (some segment)) ∧
    ∀ fault, r.segment matched = .error fault → ruleSegment? rules text = .error fault := by
  obtain ⟨before, after, rfl, hbefore⟩ := hr
  rw [ruleSegment?_append_of_passesOver hbefore, ruleSegment?_cons, hm]
  constructor
  · intro hne segment hsegment
    simp [hsegment, hne]
  · intro fault hfault
    simp [hfault]

theorem Reaches.cons {r q : Rule} {rules : List Rule} {text : List Char} (hq : q.PassesOver text)
    (h : Reaches rules text r) : Reaches (q :: rules) text r := by
  obtain ⟨before, after, rfl, hbefore⟩ := h
  exact ⟨q :: before, after, rfl, List.forall_mem_cons.mpr ⟨hq, hbefore⟩⟩

theorem Reaches.ne_nil {r : Rule} {rules : List Rule} {text : List Char}
    (h : Reaches rules text r) : rules ≠ [] := by
  obtain ⟨before, after, rfl, -⟩ := h
  simp

/-- Either all rules pass over a text or there is a first one that does not. -/
theorem passesOver_or_reaches (rules : List Rule) (text : List Char) :
    (∀ r ∈ rules, r.PassesOver text) ∨ ∃ r, Reaches rules text r ∧ ¬ r.PassesOver text := by
  induction rules with
  | nil => exact .inl (by simp)
  | cons r rules ih =>
      by_cases hr : r.PassesOver text
      · obtain hrules | ⟨q, hq, hnot⟩ := ih
        · exact .inl (List.forall_mem_cons.mpr ⟨hr, hrules⟩)
        · exact .inr ⟨q, hq.cons hr, hnot⟩
      · exact .inr ⟨r, ⟨[], rules, rfl, by simp⟩, hr⟩

/-! ### One segment -/

/-- The text is the rules' to match: its first character is not ignored, and no literal is at its
start. -/
def LeftToRules (t : Tokenizer) (c : Char) (rest : List Char) : Prop :=
  c ∉ t.ignored ∧ t.symbols.NoneAt (c :: rest)

/-- The segment at the start of a text. -/
inductive Next (t : Tokenizer) : List Char → Segment → Prop
  | skipped {c : Char} {rest : List Char} (hc : c ∈ t.ignored) : Next t (c :: rest) (.skipped c)
  | symbol {c : Char} {rest : List Char} {literal : String} {s : Symbol} (hc : c ∉ t.ignored)
      (hl : t.symbols.IsLongest (c :: rest) literal s) :
      Next t (c :: rest) (.symbol s literal.toList)
  | rule {c : Char} {rest matched : List Char} {r : Rule} {segment : Segment}
      (hleft : t.LeftToRules c rest) (hr : Reaches t.rules (c :: rest) r)
      (hm : r.match? (c :: rest) = some matched) (hne : matched ≠ [])
      (hsegment : r.segment matched = .ok segment) : Next t (c :: rest) segment
  | unknown {c : Char} {rest : List Char} (hleft : t.LeftToRules c rest)
      (hrules : ∀ r ∈ t.rules, r.PassesOver (c :: rest)) (hs : t.suppressUnknown = true) :
      Next t (c :: rest) (.unknown c)

/-- Why no segment is at the start of a text. -/
inductive Stops (t : Tokenizer) : List Char → Ending → Prop
  | finished : Stops t [] .finished
  | invalid {c : Char} {rest : List Char} (hleft : t.LeftToRules c rest)
      (hrules : ∀ r ∈ t.rules, r.PassesOver (c :: rest)) (hs : t.suppressUnknown = false) :
      Stops t (c :: rest) (.invalid c)
  | failed {c : Char} {rest matched : List Char} {r : Rule} {fault : ConvertError}
      (hleft : t.LeftToRules c rest) (hr : Reaches t.rules (c :: rest) r)
      (hm : r.match? (c :: rest) = some matched) (hfault : r.segment matched = .error fault) :
      Stops t (c :: rest) (.failed fault)

theorem Next.isPrefix {t : Tokenizer} {text : List Char} {segment : Segment}
    (h : t.Next text segment) : segment.text <+: text := by
  cases h with
  | skipped => simp [Segment.text]
  | symbol _ hl => exact hl.atStart
  | rule _ _ hm _ hsegment =>
      rw [Rule.text_of_segment hsegment]
      exact Rule.match?_isPrefix hm
  | unknown => simp [Segment.text]

/-- The literal of a symbol is the longest at its place. -/
theorem Next.isLongest {t : Tokenizer} {text literal : List Char} {s : Symbol}
    (h : t.Next text (.symbol s literal)) :
    t.symbols.IsLongest text (String.ofList literal) s := by
  generalize hsymbol : Segment.symbol s literal = segment at h
  cases h with
  | symbol hc hl =>
      cases hsymbol
      rwa [String.ofList_toList]
  | rule _ _ _ _ hsegment =>
      -- rules make no symbols
      obtain rfl | ⟨v, rfl⟩ := Rule.eq_of_segment hsegment <;> cases hsymbol
  | skipped => cases hsymbol
  | unknown => cases hsymbol

theorem Next.text_ne_nil {t : Tokenizer} {text : List Char} {segment : Segment}
    (h : t.Next text segment) : segment.text ≠ [] := by
  cases h with
  | skipped => simp [Segment.text]
  | symbol _ hl =>
      intro hnil
      obtain rfl := String.toList_eq_nil_iff.mp hnil
      have hget := hl.get?
      rw [SymbolTable.get?_empty] at hget
      cases hget
  | rule _ _ _ hne hsegment =>
      rwa [Rule.text_of_segment hsegment]
  | unknown => simp [Segment.text]

theorem longest?_window_eq_some_iff {t : Tokenizer} {text literal : List Char} {s : Symbol} :
    t.trie.longest? (text.take t.window) = some (s, literal) ↔
      t.symbols.IsLongest text (String.ofList literal) s := by
  rw [trie_eq, SymbolTable.longest?_trieOf_eq_some_iff (List.Perm.refl _),
    SymbolTable.isLongest_take_iff t.longest_le_window]

theorem longest?_window_of_isLongest {t : Tokenizer} {text : List Char} {literal : String}
    {s : Symbol} (h : t.symbols.IsLongest text literal s) :
    t.trie.longest? (text.take t.window) = some (s, literal.toList) := by
  rw [longest?_window_eq_some_iff, String.ofList_toList]
  exact h

theorem longest?_window_eq_none_iff {t : Tokenizer} {text : List Char} :
    t.trie.longest? (text.take t.window) = none ↔ t.symbols.NoneAt text := by
  rw [trie_eq, SymbolTable.longest?_trieOf_take (List.Perm.refl _) text t.longest_le_window,
    SymbolTable.longest?_trieOf_eq_none_iff (List.Perm.refl _)]

theorem nextSegment_of_leftToRules {t : Tokenizer} {c : Char} {rest : List Char}
    (h : t.LeftToRules c rest) :
    t.nextSegment t.trie c rest =
      match ruleSegment? t.rules (c :: rest) with
      | .error fault => .error (.failed fault)
      | .ok (some segment) => .ok segment
      | .ok none => if t.suppressUnknown then .ok (.unknown c) else .error (.invalid c) := by
  obtain ⟨hc, hnone⟩ := h
  have hfound := longest?_window_eq_none_iff.mpr hnone
  cases hrule : ruleSegment? t.rules (c :: rest) with
  | error fault => simp [nextSegment, hc, hfound, hrule]
  | ok found => cases found <;> simp [nextSegment, hc, hfound, hrule]

theorem nextSegment_of_next {t : Tokenizer} {c : Char} {rest : List Char} {segment : Segment}
    (h : t.Next (c :: rest) segment) : t.nextSegment t.trie c rest = .ok segment := by
  cases h with
  | skipped hc => simp [nextSegment, hc]
  | symbol hc hl =>
      have hfound := longest?_window_of_isLongest hl
      simp [nextSegment, hc, hfound]
  | rule hleft hr hm hne hsegment =>
      rw [nextSegment_of_leftToRules hleft, (ruleSegment?_of_reaches hr hm).1 hne _ hsegment]
  | unknown hleft hrules hs =>
      rw [nextSegment_of_leftToRules hleft, ruleSegment?_of_passesOver hrules]
      simp [hs]

theorem nextSegment_of_stops {t : Tokenizer} {c : Char} {rest : List Char} {ending : Ending}
    (h : t.Stops (c :: rest) ending) : t.nextSegment t.trie c rest = .error ending := by
  cases h with
  | invalid hleft hrules hs =>
      rw [nextSegment_of_leftToRules hleft, ruleSegment?_of_passesOver hrules]
      simp [hs]
  | failed hleft hr hm hfault =>
      rw [nextSegment_of_leftToRules hleft, (ruleSegment?_of_reaches hr hm).2 _ hfault]

/-- A text that is not at its end has a segment at its start, or a reason why there is none. -/
theorem next_or_stops (t : Tokenizer) (c : Char) (rest : List Char) :
    (∃ segment, t.Next (c :: rest) segment) ∨ ∃ ending, t.Stops (c :: rest) ending := by
  by_cases hc : c ∈ t.ignored
  · exact .inl ⟨_, .skipped hc⟩
  cases hfound : t.trie.longest? ((c :: rest).take t.window) with
  | some found => exact .inl ⟨_, .symbol hc (longest?_window_eq_some_iff.mp hfound)⟩
  | none =>
      have hleft : t.LeftToRules c rest := ⟨hc, longest?_window_eq_none_iff.mp hfound⟩
      obtain hrules | ⟨r, hr, hnot⟩ := passesOver_or_reaches t.rules (c :: rest)
      · cases hs : t.suppressUnknown with
        | true => exact .inl ⟨_, .unknown hleft hrules hs⟩
        | false => exact .inr ⟨_, .invalid hleft hrules hs⟩
      · obtain ⟨matched, hm, ⟨hne, segment, hsegment⟩ | ⟨fault, hfault⟩⟩ :=
          Rule.exists_segment_of_not_passesOver hnot
        · exact .inl ⟨_, .rule hleft hr hm hne hsegment⟩
        · exact .inr ⟨_, .failed hleft hr hm hfault⟩

theorem nextSegment_eq_ok_iff {t : Tokenizer} {c : Char} {rest : List Char} {segment : Segment} :
    t.nextSegment t.trie c rest = .ok segment ↔ t.Next (c :: rest) segment := by
  refine ⟨fun h => ?_, nextSegment_of_next⟩
  obtain ⟨segment', hnext⟩ | ⟨ending, hstops⟩ := t.next_or_stops c rest
  · rw [nextSegment_of_next hnext] at h
    cases h
    exact hnext
  · rw [nextSegment_of_stops hstops] at h
    cases h

theorem nextSegment_eq_error_iff {t : Tokenizer} {c : Char} {rest : List Char} {ending : Ending} :
    t.nextSegment t.trie c rest = .error ending ↔ t.Stops (c :: rest) ending := by
  refine ⟨fun h => ?_, nextSegment_of_stops⟩
  obtain ⟨segment, hnext⟩ | ⟨ending', hstops⟩ := t.next_or_stops c rest
  · rw [nextSegment_of_next hnext] at h
    cases h
  · rw [nextSegment_of_stops hstops] at h
    cases h
    exact hstops

/-! ### All segments -/

/-- The segments that a text is cut into one after another, and what is left of it then. -/
inductive Cuts (t : Tokenizer) : List Char → List Segment → List Char → Prop
  | nil {text : List Char} : Cuts t text [] text
  | cons {text rest left : List Char} {segment : Segment} {segments : List Segment}
      (hnext : t.Next text segment) (htext : text = segment.text ++ rest)
      (hcuts : Cuts t rest segments left) : Cuts t text (segment :: segments) left

theorem Cuts.covers {t : Tokenizer} {text left : List Char} {segments : List Segment}
    (h : t.Cuts text segments left) : text = segments.flatMap Segment.text ++ left := by
  induction h with
  | nil => rfl
  | cons hnext htext hcuts ih => rw [htext, ih, List.flatMap_cons, List.append_assoc]

theorem Cuts.text_ne_nil {t : Tokenizer} {text left : List Char} {segments : List Segment}
    (h : t.Cuts text segments left) : ∀ segment ∈ segments, segment.text ≠ [] := by
  induction h with
  | nil => simp
  | cons hnext htext hcuts ih => exact List.forall_mem_cons.mpr ⟨hnext.text_ne_nil, ih⟩

/-- Where all segments of one tokenizer are segments of another, so are the cuts. -/
theorem Cuts.imp {t t' : Tokenizer} {text left : List Char} {segments : List Segment}
    (h : t.Cuts text segments left)
    (hnext : ∀ {text segment}, t.Next text segment → t'.Next text segment) :
    t'.Cuts text segments left := by
  induction h with
  | nil => exact .nil
  | cons hsegment htext _ ih => exact .cons (hnext hsegment) htext ih

theorem Cuts.append {t : Tokenizer} {text rest left : List Char} {segments more : List Segment}
    (h : t.Cuts text segments rest) (hmore : t.Cuts rest more left) :
    t.Cuts text (segments ++ more) left := by
  induction h with
  | nil => exact hmore
  | cons hnext htext hcuts ih => exact .cons hnext htext (ih hmore)

theorem Cuts.skipped {t : Tokenizer} {ignored : List Char} (h : ∀ c ∈ ignored, c ∈ t.ignored)
    (rest : List Char) : t.Cuts (ignored ++ rest) (ignored.map .skipped) rest := by
  induction ignored with
  | nil => exact .nil
  | cons c ignored ih =>
      obtain ⟨hc, hignored⟩ := List.forall_mem_cons.mp h
      exact .cons (.skipped hc) rfl (ih hignored)

/-- The fuel is enough, so a scan ends where it has to. -/
theorem cuts_scanSegments (t : Tokenizer) {fuel : Nat} {text : List Char}
    (hfuel : text.length ≤ fuel) :
    ∃ left, t.Cuts text (t.scanSegments t.trie fuel text).segments left ∧
      t.Stops left (t.scanSegments t.trie fuel text).ending := by
  induction fuel generalizing text with
  | zero =>
      obtain rfl := List.length_eq_zero_iff.mp (Nat.le_zero.mp hfuel)
      exact ⟨[], .nil, .finished⟩
  | succ fuel ih =>
      cases text with
      | nil => exact ⟨[], .nil, .finished⟩
      | cons c rest =>
          rw [scanSegments]
          cases hsegment : t.nextSegment t.trie c rest with
          | error ending => exact ⟨_, .nil, nextSegment_eq_error_iff.mp hsegment⟩
          | ok segment =>
              have hnext := nextSegment_eq_ok_iff.mp hsegment
              -- No segment is empty, so what is left needs less fuel.
              have hpos := List.length_pos_iff.mpr hnext.text_ne_nil
              have hdrop : ((c :: rest).drop segment.text.length).length ≤ fuel := by
                rw [List.length_drop]
                omega
              obtain ⟨left, hcuts, hstops⟩ := ih hdrop
              refine ⟨left, .cons hnext ?_ hcuts, hstops⟩
              exact (List.prefix_iff_eq_append.mp hnext.isPrefix).symm

theorem scanSegments_of_cuts {t : Tokenizer} {fuel : Nat} {text left : List Char}
    {segments : List Segment} {ending : Ending} (hfuel : text.length ≤ fuel)
    (hcuts : t.Cuts text segments left) (hstops : t.Stops left ending) :
    t.scanSegments t.trie fuel text = ⟨segments, ending⟩ := by
  induction hcuts generalizing fuel with
  | @nil text =>
      cases text with
      | nil =>
          cases hstops
          cases fuel <;> rfl
      | cons c rest =>
          obtain ⟨fuel, rfl⟩ := Nat.exists_eq_add_one.mpr (Nat.lt_of_lt_of_le (by simp) hfuel)
          rw [scanSegments, nextSegment_of_stops hstops]
  | @cons text rest left segment segments hnext htext hcuts ih =>
      have hpos := List.length_pos_iff.mpr hnext.text_ne_nil
      have hlen : text.length = segment.text.length + rest.length := by
        rw [htext, List.length_append]
      obtain ⟨fuel, rfl⟩ := Nat.exists_eq_add_one.mpr (show 0 < fuel by omega)
      cases text with
      | nil => simp at hlen; omega
      | cons c text =>
          have hdrop : (c :: text).drop segment.text.length = rest := by
            rw [htext, List.drop_left]
          rw [scanSegments, nextSegment_of_next hnext]
          simp only [hdrop]
          rw [ih (by omega) hstops]
          rfl

/-- The general scan is the one way to cut a text and to stop. -/
theorem scanGeneral_eq_iff {t : Tokenizer} {text : List Char} {s : Scan} :
    t.scanGeneral text = s ↔ ∃ left, t.Cuts text s.segments left ∧ t.Stops left s.ending := by
  constructor
  · rintro rfl
    exact t.cuts_scanSegments (Nat.le_refl _)
  · rintro ⟨left, hcuts, hstops⟩
    exact scanSegments_of_cuts (Nat.le_refl _) hcuts hstops

theorem cuts_scanGeneral (t : Tokenizer) (text : List Char) :
    ∃ left, t.Cuts text (t.scanGeneral text).segments left ∧
      t.Stops left (t.scanGeneral text).ending :=
  scanGeneral_eq_iff.mp rfl

theorem scanGeneral_of_cuts {t : Tokenizer} {text left : List Char} {segments : List Segment}
    {ending : Ending} (hcuts : t.Cuts text segments left) (hstops : t.Stops left ending) :
    t.scanGeneral text = ⟨segments, ending⟩ :=
  scanGeneral_eq_iff.mpr ⟨left, hcuts, hstops⟩

/-- The general scan succeeds with what comes of the segments of the whole text, one after another.
It fails at the character where the text can be cut no further, and with the fault of a converter
where the first rule that does not pass over the text has one. However far a text is cut, the
segments cover it without gaps, and none of them is empty. -/
theorem outcome_scanGeneral_iff (t : Tokenizer) (text : List Char) :
    (∀ result, (t.scanGeneral text).outcome .general = .ok result ↔
      ∃ segments, t.Cuts text segments [] ∧
        result = segments.foldl ScanResult.add ⟨[], ⟨.general, 0, 0, 0, 0⟩⟩ ∧
        result.tokens = segments.filterMap Segment.token? ∧
        result.metrics =
          { path := .general
            symbolHits := segments.countP Segment.isSymbol
            ruleHits := segments.countP Segment.isValue
            ignoredMatches := segments.countP Segment.isDropped
            suppressed := segments.countP Segment.isUnknown }) ∧
    (∀ c position offset,
      (t.scanGeneral text).outcome .general = .error (.invalidToken c position offset) ↔
        ∃ segments rest, t.Cuts text segments rest ∧ t.Stops rest (.invalid c) ∧
          position = .after (segments.flatMap Segment.text) ∧
          offset = byteLength (segments.flatMap Segment.text)) ∧
    (∀ fault, (t.scanGeneral text).outcome .general = .error (.convert fault) ↔
      ∃ segments rest, t.Cuts text segments rest ∧ t.Stops rest (.failed fault)) ∧
    ∀ segments rest, t.Cuts text segments rest →
      text = segments.flatMap Segment.text ++ rest ∧ ∀ segment ∈ segments, segment.text ≠ [] := by
  refine ⟨fun result => ?_, fun c position offset => ?_, fun fault => ?_,
    fun segments rest h => ⟨h.covers, h.text_ne_nil⟩⟩
  · constructor
    · intro h
      obtain ⟨hending, rfl⟩ := Scan.outcome_eq_ok_iff.mp h
      obtain ⟨left, hcuts, hstops⟩ := t.cuts_scanGeneral text
      rw [hending] at hstops
      cases hstops
      exact ⟨_, hcuts, (ScanResult.foldl_add .general _).symm, rfl, rfl⟩
    · rintro ⟨segments, hcuts, rfl, -, -⟩
      rw [scanGeneral_of_cuts hcuts .finished, Scan.outcome_eq_ok_iff, ScanResult.foldl_add]
      exact ⟨rfl, rfl⟩
  · constructor
    · intro h
      obtain ⟨hending, rfl, rfl⟩ := Scan.outcome_eq_invalidToken_iff.mp h
      obtain ⟨left, hcuts, hstops⟩ := t.cuts_scanGeneral text
      exact ⟨_, left, hcuts, hending ▸ hstops, rfl, rfl⟩
    · rintro ⟨segments, rest, hcuts, hstops, rfl, rfl⟩
      rw [scanGeneral_of_cuts hcuts hstops, Scan.outcome_eq_invalidToken_iff]
      exact ⟨rfl, rfl, rfl⟩
  · constructor
    · intro h
      have hending := Scan.outcome_eq_convert_iff.mp h
      obtain ⟨left, hcuts, hstops⟩ := t.cuts_scanGeneral text
      exact ⟨_, left, hcuts, hending ▸ hstops⟩
    · rintro ⟨segments, rest, hcuts, hstops⟩
      rw [scanGeneral_of_cuts hcuts hstops, Scan.outcome_eq_convert_iff]

end Tokenizer

end RuleLexer

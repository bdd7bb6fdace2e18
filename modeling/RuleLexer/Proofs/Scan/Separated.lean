import RuleLexer.Proofs.Scan.Lines

/-!
Scans of literals with ignored characters between them. Where no literal has an
ignored character in it, none can go on past the end of another, so each is the
longest where it stands, whatever other literals begin or go on as it does. The
scan gives back the symbols that were written down. Neither the conversion of
line ends nor the space added behind the text brings any two literals together.
-/

namespace RuleLexer

namespace Tokenizer

/-- No literal has any of the characters in it. -/
def LiteralsAvoid (t : Tokenizer) (chars : List Char) : Prop :=
  ∀ literal, (t.symbols.get? literal).isSome → ∀ c ∈ literal.toList, c ∉ chars

theorem literalsAvoid_iff {t : Tokenizer} {chars : List Char} :
    t.LiteralsAvoid chars ↔
      (t.symbols.entries.all fun entry =>
        entry.1.toList.all fun c => !chars.contains c) = true := by
  simp only [LiteralsAvoid, Option.isSome_iff_exists, SymbolTable.get?_eq_some_iff,
    List.all_eq_true, Bool.not_eq_true', List.contains_eq_mem, decide_eq_false_iff_not]
  exact ⟨fun h entry hentry => h entry.1 ⟨entry.2, hentry⟩,
    fun h literal ⟨symbol, hmem⟩ => h (literal, symbol) hmem⟩

instance (t : Tokenizer) (chars : List Char) : Decidable (t.LiteralsAvoid chars) :=
  decidable_of_iff _ literalsAvoid_iff.symm

/-! ### Texts that spell symbols -/

/-- The text consists of ignored characters and of literals of the symbols, with an ignored
character or the end of the text behind each literal. -/
inductive Spells (t : Tokenizer) : List Char → List Symbol → Prop
  | nil : Spells t [] []
  | ignored {c : Char} {text : List Char} {symbols : List Symbol} (hc : c ∈ t.ignored)
      (hspells : Spells t text symbols) : Spells t (c :: text) symbols
  | literal {literal : String} {symbol : Symbol} {text : List Char} {symbols : List Symbol}
      (hget : t.symbols.get? literal = some symbol) (hend : ∀ c ∈ text.head?, c ∈ t.ignored)
      (hspells : Spells t text symbols) : Spells t (literal.toList ++ text) (symbol :: symbols)

theorem Spells.ignored_append {t : Tokenizer} {text chars : List Char} {symbols : List Symbol}
    (hchars : ∀ c ∈ chars, c ∈ t.ignored) (h : t.Spells text symbols) :
    t.Spells (chars ++ text) symbols := by
  induction chars with
  | nil => exact h
  | cons c chars ih =>
      obtain ⟨hc, hchars⟩ := List.forall_mem_cons.mp hchars
      exact .ignored hc (ih hchars)

theorem Spells.append_ignored {t : Tokenizer} {text : List Char} {symbols : List Symbol} {c : Char}
    (h : t.Spells text symbols) (hc : c ∈ t.ignored) : t.Spells (text ++ [c]) symbols := by
  induction h with
  | nil => exact .ignored hc .nil
  | ignored hd hspells ih => exact .ignored hd ih
  | @literal literal symbol text symbols hget hend hspells ih =>
      rw [List.append_assoc]
      refine .literal hget ?_ ih
      cases text with
      | nil => simpa using hc
      | cons d text => exact hend

/-! ### Scans of such texts -/

/-- A literal with an ignored character behind it, or nothing, is the longest at its place. -/
theorem isLongest_of_end {t : Tokenizer} (havoid : t.LiteralsAvoid t.ignored) {literal : String}
    {symbol : Symbol} {text : List Char} (hget : t.symbols.get? literal = some symbol)
    (hend : ∀ c ∈ text.head?, c ∈ t.ignored) :
    t.symbols.IsLongest (literal.toList ++ text) literal symbol := by
  refine ⟨hget, List.prefix_append _ _, fun other hother hstart => ?_⟩
  by_contra hlt
  rw [← String.length_toList, ← String.length_toList] at hlt
  obtain ⟨more, hmore⟩ := List.prefix_of_prefix_length_le (List.prefix_append _ text) hstart
    (Nat.le_of_not_le hlt)
  cases more with
  | nil =>
      rw [List.append_nil] at hmore
      rw [hmore] at hlt
      exact hlt (Nat.le_refl _)
  | cons c more =>
      -- the longer literal would have the character behind this one in it
      rw [← hmore, List.prefix_append_right_inj] at hstart
      obtain ⟨rest, rfl⟩ := hstart
      have hc : c ∈ other.toList := by simp [← hmore]
      exact havoid other hother c hc (hend c rfl)

theorem exists_cons_of_get? {t : Tokenizer} {literal : String} {symbol : Symbol}
    (h : t.symbols.get? literal = some symbol) : ∃ c rest, literal.toList = c :: rest := by
  cases hliteral : literal.toList with
  | nil =>
      rw [String.toList_eq_nil_iff.mp hliteral, SymbolTable.get?_empty] at h
      cases h
  | cons c rest => exact ⟨c, rest, rfl⟩

theorem next_of_end {t : Tokenizer} (havoid : t.LiteralsAvoid t.ignored) {literal : String}
    {symbol : Symbol} {text : List Char} (hget : t.symbols.get? literal = some symbol)
    (hend : ∀ c ∈ text.head?, c ∈ t.ignored) :
    t.Next (literal.toList ++ text) (.symbol symbol literal.toList) := by
  have hlongest := isLongest_of_end havoid hget hend
  obtain ⟨c, rest, hliteral⟩ := exists_cons_of_get? hget
  have hc : c ∉ t.ignored := havoid literal (by simp [hget]) c (by simp [hliteral])
  have htext : literal.toList ++ text = c :: (rest ++ text) := by rw [hliteral, List.cons_append]
  rw [htext] at hlongest ⊢
  exact .symbol hc hlongest

theorem cuts_of_spells {t : Tokenizer} (havoid : t.LiteralsAvoid t.ignored) {text : List Char}
    {symbols : List Symbol} (h : t.Spells text symbols) :
    ∃ segments, t.Cuts text segments [] ∧
      segments.filterMap Segment.token? = symbols.map .symbol ∧
      ∀ path, (Scan.mk segments .finished).metrics path = ⟨path, symbols.length, 0, 0, 0⟩ := by
  induction h with
  | nil => exact ⟨[], .nil, rfl, fun _ => rfl⟩
  | @ignored c text symbols hc hspells ih =>
      obtain ⟨segments, hcuts, htokens, hmetrics⟩ := ih
      exact ⟨.skipped c :: segments, .cons (.skipped hc) rfl hcuts, htokens, hmetrics⟩
  | @literal literal symbol text symbols hget hend hspells ih =>
      obtain ⟨segments, hcuts, htokens, hmetrics⟩ := ih
      refine ⟨.symbol symbol literal.toList :: segments,
        .cons (next_of_end havoid hget hend) rfl hcuts, ?_, fun path => ?_⟩
      · simpa [Segment.token?] using htokens
      · have hcounts := hmetrics path
        simp only [Scan.metrics, ScanMetrics.mk.injEq] at hcounts
        simp [Scan.metrics, List.countP_cons, Segment.isSymbol, Segment.isValue, Segment.isDropped,
          Segment.isUnknown, hcounts]

/-! ### Line ends and the space behind the text -/

/-- A character that no literal has in it is an ignored one. -/
theorem Spells.of_cons {t : Tokenizer} {chars text : List Char} {symbols : List Symbol} {c : Char}
    (h : t.Spells (c :: text) symbols) (havoid : t.LiteralsAvoid chars) (hc : c ∈ chars) :
    c ∈ t.ignored ∧ t.Spells text symbols := by
  generalize hwhole : c :: text = whole at h
  cases h with
  | nil => cases hwhole
  | ignored hignored hspells =>
      obtain ⟨rfl, rfl⟩ := List.cons.inj hwhole
      exact ⟨hignored, hspells⟩
  | @literal literal symbol _ _ hget _ _ =>
      obtain ⟨d, rest, hliteral⟩ := exists_cons_of_get? hget
      rw [hliteral, List.cons_append] at hwhole
      obtain rfl := (List.cons.inj hwhole).1
      exact absurd hc (havoid literal (by simp [hget]) c (by simp [hliteral]))

theorem Spells.head?_convertLineEnds {t : Tokenizer} (havoid : t.LiteralsAvoid ['\r', '\n'])
    {text : List Char} {symbols : List Symbol} (h : t.Spells text symbols)
    (hend : ∀ c ∈ text.head?, c ∈ t.ignored) :
    ∀ c ∈ (convertLineEnds text).head?, c ∈ t.ignored := by
  fun_cases convertLineEnds text with
  | case1 => exact hend
  | case2 rest =>
      -- No literal begins with the line feed, so it is ignored as the carriage return is.
      have hrest := (h.of_cons havoid (by simp)).2
      simpa using (hrest.of_cons havoid (by simp)).1
  | case3 c rest => exact hend

theorem Spells.convert {t : Tokenizer} (havoid : t.LiteralsAvoid ['\r', '\n'])
    {text : List Char} {symbols : List Symbol} (h : t.Spells text symbols) :
    t.Spells (convertLineEnds text) symbols := by
  induction h with
  | nil => exact .nil
  | @ignored c text symbols hc hspells ih =>
      obtain hconvert | hconvert := convertLineEnds_cons c text
      · rw [hconvert]
        exact .ignored hc ih
      · rw [hconvert]
        exact ih
  | @literal literal symbol text symbols hget hend hspells ih =>
      have hliteral : '\r' ∉ literal.toList := fun hc =>
        havoid literal (by simp [hget]) '\r' hc (by simp)
      rw [convertLineEnds_append hliteral]
      exact .literal hget (hspells.head?_convertLineEnds havoid hend) ih

theorem Spells.scannedText {t : Tokenizer} {input : List Char} {symbols : List Symbol}
    (h : t.Spells input symbols)
    (hcrlf : t.convertCrlf = false ∨ t.LiteralsAvoid ['\r', '\n']) :
    t.Spells (t.scannedText input) symbols := by
  have hconverted : t.Spells (if t.convertCrlf then convertLineEnds input else input) symbols := by
    split
    next hconvert => exact h.convert (hcrlf.resolve_left (by simp [hconvert]))
    next => exact h
  rw [Tokenizer.scannedText]
  split
  next hspace => exact hconverted.append_ignored (by simpa using hspace)
  next => exact hconverted

/-! ### Printed symbols -/

/-- A literal of a tokenizer and the ignored characters behind it. -/
structure Printed (t : Tokenizer) where
  literal : String
  symbol : Symbol
  behind : List Char
  get? : t.symbols.get? literal = some symbol
  ignored : ∀ c ∈ behind, c ∈ t.ignored

def Printed.text {t : Tokenizer} (p : Printed t) : List Char := p.literal.toList ++ p.behind

theorem spells_printed {t : Tokenizer} {printed : List (Printed t)}
    (hbetween : ∀ p ∈ printed.dropLast, p.behind ≠ []) :
    t.Spells (printed.flatMap Printed.text) (printed.map Printed.symbol) := by
  induction printed with
  | nil => exact .nil
  | cons p printed ih =>
      rw [List.flatMap_cons, Printed.text, List.append_assoc]
      cases printed with
      | nil =>
          refine .literal p.get? ?_ (.ignored_append p.ignored .nil)
          intro c hc
          exact p.ignored c (List.mem_of_mem_head? (by simpa using hc))
      | cons q printed =>
          rw [List.dropLast_cons_cons] at hbetween
          obtain ⟨hp, hbetween⟩ := List.forall_mem_cons.mp hbetween
          refine .literal p.get? ?_ (.ignored_append p.ignored (ih hbetween))
          obtain ⟨c, behind, hbehind⟩ := List.exists_cons_of_ne_nil hp
          have hc := p.ignored c (by simp [hbehind])
          simpa [hbehind] using hc

/-- Scanning gives back the symbols whose literals have been written down one after another, with
ignored characters between them and perhaps before and behind them. Nothing else is counted. -/
theorem tokenizeWithMetrics_printed {t : Tokenizer} (havoid : t.LiteralsAvoid t.ignored)
    (hcrlf : t.convertCrlf = false ∨ t.LiteralsAvoid ['\r', '\n']) (before : List Char)
    (hbefore : ∀ c ∈ before, c ∈ t.ignored) (printed : List (Printed t))
    (hbetween : ∀ p ∈ printed.dropLast, p.behind ≠ []) :
    t.tokenizeWithMetrics (before ++ printed.flatMap Printed.text) =
      .ok
        { tokens := printed.map fun p => .symbol p.symbol
          metrics :=
            { path := t.path
              symbolHits := printed.length
              ruleHits := 0
              ignoredMatches := 0
              suppressed := 0 } } := by
  have hspells := ((spells_printed hbetween).ignored_append hbefore).scannedText hcrlf
  obtain ⟨segments, hcuts, htokens, hmetrics⟩ := cuts_of_spells havoid hspells
  rw [tokenizeWithMetrics, scan, scanText_eq_scanGeneral, scanGeneral_of_cuts hcuts .finished,
    Scan.outcome_eq_ok_iff]
  refine ⟨rfl, ?_⟩
  rw [Scan.tokens, htokens, hmetrics, List.map_map, List.length_map]
  rfl

def less : Symbol := ⟨0, "Less"⟩

def atMost : Symbol := ⟨1, "AtMost"⟩

def shiftAssign : Symbol := ⟨2, "ShiftAssign"⟩

/-- Signs that begin alike, beside words. -/
def signsAndWords : Tokenizer where
  symbols := ⟨[("<", less), ("<=", atMost), ("<<=", shiftAssign)], by decide, by decide⟩
  rules := [Library.word]
  ignored := [' ', '\r', '\n']
  convertCrlf := true
  suppressUnknown := false

/-- Three signs, the last without anything behind it. -/
def printedSigns : List (Printed signsAndWords) :=
  [⟨"<=", atMost, ['\r', '\n'], by decide, by simp [signsAndWords]⟩,
   ⟨"<", less, [' ', '\r', '\n'], by decide, by simp [signsAndWords]⟩,
   ⟨"<<=", shiftAssign, [], by decide, by simp⟩]

theorem tokenizeWithMetrics_printed_signs :
    signsAndWords.LiteralsAvoid signsAndWords.ignored ∧
    signsAndWords.LiteralsAvoid ['\r', '\n'] ∧
    signsAndWords.tokenizeWithMetrics
        ['\n', '<', '=', '\r', '\n', '<', ' ', '\r', '\n', '<', '<', '='] =
      .ok ⟨[.symbol atMost, .symbol less, .symbol shiftAssign], ⟨.general, 3, 0, 0, 0⟩⟩ := by
  have hignored : signsAndWords.LiteralsAvoid signsAndWords.ignored := by decide +kernel
  have hcrlf : signsAndWords.LiteralsAvoid ['\r', '\n'] := by decide +kernel
  have htext : ['\n'] ++ printedSigns.flatMap Printed.text =
      ['\n', '<', '=', '\r', '\n', '<', ' ', '\r', '\n', '<', '<', '='] := by decide +kernel
  refine ⟨hignored, hcrlf, ?_⟩
  rw [← htext]
  exact tokenizeWithMetrics_printed hignored (.inr hcrlf) ['\n'] (by simp [signsAndWords])
    printedSigns (by decide)

end Tokenizer

end RuleLexer

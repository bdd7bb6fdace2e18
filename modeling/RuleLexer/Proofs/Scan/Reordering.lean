import RuleLexer.Proofs.Scan.Lines

/-!
Tables in another order. Which symbol a literal is for and which literal is the
longest at a place do not depend on the order in which a table has been filled
or is gone through. So the order in which symbols and their literals are
declared does not show in anything that a tokenizer does.
-/

namespace RuleLexer

namespace SymbolTable

variable {table table' : SymbolTable}

theorem get?_of_perm (h : table.entries.Perm table'.entries) (literal : String) :
    table.get? literal = table'.get? literal := by
  ext symbol
  rw [get?_eq_some_iff, get?_eq_some_iff, h.mem_iff]

theorem IsLongest.of_perm {text : List Char} {literal : String} {symbol : Symbol}
    (hl : table.IsLongest text literal symbol) (h : table.entries.Perm table'.entries) :
    table'.IsLongest text literal symbol where
  get? := by rw [← get?_of_perm h, hl.get?]
  atStart := hl.atStart
  length_le other hsome hother := hl.length_le other (by rwa [get?_of_perm h]) hother

theorem NoneAt.of_perm {text : List Char} (hnone : table.NoneAt text)
    (h : table.entries.Perm table'.entries) : table'.NoneAt text :=
  fun literal hsome => hnone literal (by rwa [get?_of_perm h])

theorem exists_singles?_of_perm {singles : List (Char × Symbol)}
    (h : table.entries.Perm table'.entries) (hsingles : table.singles? = some singles) :
    ∃ singles', table'.singles? = some singles' := by
  refine exists_singles? fun entry hentry => ?_
  rw [← h.mem_iff, singles?_eq_some_iff.mp hsingles] at hentry
  obtain ⟨single, -, rfl⟩ := List.mem_map.mp hentry
  exact String.length_singleton

theorem isSome_singles?_of_perm (h : table.entries.Perm table'.entries) :
    table.singles?.isSome = table'.singles?.isSome := by
  rw [Bool.eq_iff_iff, Option.isSome_iff_exists, Option.isSome_iff_exists]
  exact ⟨fun ⟨_, hs⟩ => exists_singles?_of_perm h hs,
    fun ⟨_, hs⟩ => exists_singles?_of_perm h.symm hs⟩

end SymbolTable

namespace Tokenizer

/-- The tokenizer with another table. -/
def withTable (t : Tokenizer) (table : SymbolTable) : Tokenizer := { t with symbols := table }

variable {t : Tokenizer} {table table' : SymbolTable}

theorem path_withTable (h : table.entries.Perm table'.entries) :
    (t.withTable table).path = (t.withTable table').path := by
  have hsome : (t.withTable table).singles?.isSome = (t.withTable table').singles?.isSome := by
    rw [singles?, singles?, withTable, withTable]
    cases t.rules.isEmpty with
    | true => exact SymbolTable.isSome_singles?_of_perm h
    | false => rfl
  rw [path, path, hsome]

theorem Next.withTable {text : List Char} {segment : Segment}
    (hnext : (t.withTable table).Next text segment) (h : table.entries.Perm table'.entries) :
    (t.withTable table').Next text segment := by
  cases hnext with
  | skipped hc => exact .skipped hc
  | symbol hc hl => exact .symbol hc (hl.of_perm h)
  | rule hleft hr hm hne hsegment => exact .rule ⟨hleft.1, hleft.2.of_perm h⟩ hr hm hne hsegment
  | unknown hleft hrules hs => exact .unknown ⟨hleft.1, hleft.2.of_perm h⟩ hrules hs

theorem Stops.withTable {text : List Char} {ending : Ending}
    (hstops : (t.withTable table).Stops text ending) (h : table.entries.Perm table'.entries) :
    (t.withTable table').Stops text ending := by
  cases hstops with
  | finished => exact .finished
  | invalid hleft hrules hs => exact .invalid ⟨hleft.1, hleft.2.of_perm h⟩ hrules hs
  | failed hleft hr hm hfault => exact .failed ⟨hleft.1, hleft.2.of_perm h⟩ hr hm hfault

theorem Cuts.withTable {text left : List Char} {segments : List Segment}
    (hcuts : (t.withTable table).Cuts text segments left) (h : table.entries.Perm table'.entries) :
    (t.withTable table').Cuts text segments left :=
  hcuts.imp fun hnext => hnext.withTable h

/-- Whatever path is taken, a text is cut by what its table has and not by the order in which the
table has it. -/
theorem scan_withTable (h : table.entries.Perm table'.entries) (input : List Char) :
    (t.withTable table).scan input = (t.withTable table').scan input := by
  rw [scan, scan, scanText_eq_scanGeneral, scanText_eq_scanGeneral]
  obtain ⟨left, hcuts, hstops⟩ := (t.withTable table).cuts_scanGeneral (t.scannedText input)
  exact (scanGeneral_of_cuts (hcuts.withTable h) (hstops.withTable h)).symm

theorem tokenizeWithMetrics_withTable (h : table.entries.Perm table'.entries)
    (input : List Char) :
    (t.withTable table).tokenizeWithMetrics input =
      (t.withTable table').tokenizeWithMetrics input := by
  rw [tokenizeWithMetrics, tokenizeWithMetrics, scan_withTable h, path_withTable h]

theorem tokenizeLines_withTable (h : table.entries.Perm table'.entries) (input : List Char) :
    (t.withTable table).tokenizeLines input = (t.withTable table').tokenizeLines input := by
  refine tokenizeLinesFrom_congr (fun line _ => ?_) 1
  rw [tokenize, tokenize, tokenizeWithMetrics_withTable h]

/-! ### Declarations in another order -/

theorem exists_build_iff {e : Enumeration} {o : Options} :
    (∃ t, build e o = .ok t) ↔ SymbolTable.Consistent e.claims := by
  rw [← SymbolTable.exists_ofEnumeration_iff]
  constructor
  · rintro ⟨t, ht⟩
    obtain ⟨symbols, hsymbols, -⟩ := eq_of_build ht
    exact ⟨symbols, hsymbols⟩
  · rintro ⟨symbols, hsymbols⟩
    rw [build, hsymbols]
    exact ⟨_, rfl⟩

/-- Tokenizers of reordered declarations differ in the order of their tables only. -/
theorem eq_withTable_of_reorders {e e' : Enumeration} {o : Options} {t t' : Tokenizer}
    (h : e.Reorders e') (ht : build e o = .ok t) (ht' : build e' o = .ok t') :
    t' = t.withTable t'.symbols ∧ t.symbols.entries.Perm t'.symbols.entries := by
  obtain ⟨symbols, hsymbols, rfl⟩ := eq_of_build ht
  obtain ⟨symbols', hsymbols', rfl⟩ := eq_of_build ht'
  exact ⟨rfl, SymbolTable.perm_entries_of_perm_claims h.perm_claims hsymbols hsymbols'⟩

/-- Whether a tokenizer can be built does not depend on the order in which symbols and their
literals are declared. Where two are built, neither this order nor the order in which their tables
are gone through makes a difference to the path, to the tokens, counts and errors of a text or of
its lines, or to what is recorded. -/
theorem build_of_reorders {e e' : Enumeration} (h : e.Reorders e') (o : Options) :
    ((∃ t, build e o = .ok t) ↔ ∃ t', build e' o = .ok t') ∧
    ∀ t t', build e o = .ok t → build e' o = .ok t' →
      ∀ table table' : SymbolTable, table.entries.Perm t.symbols.entries →
        table'.entries.Perm t'.symbols.entries →
        (t.withTable table).path = (t'.withTable table').path ∧
        ∀ input,
          (t.withTable table).tokenizeWithMetrics input =
            (t'.withTable table').tokenizeWithMetrics input ∧
          (t.withTable table).tokenize input = (t'.withTable table').tokenize input ∧
          (t.withTable table).tokenizeLines input = (t'.withTable table').tokenizeLines input ∧
          (t.withTable table).trace input = (t'.withTable table').trace input := by
  constructor
  · rw [exists_build_iff, exists_build_iff]
    exact ⟨fun hc => hc.of_subset h.perm_claims.symm.subset,
      fun hc => hc.of_subset h.perm_claims.subset⟩
  intro t t' ht ht' table table' htable htable'
  obtain ⟨heq, hperm⟩ := eq_withTable_of_reorders h ht ht'
  have hall : table.entries.Perm table'.entries := htable.trans (hperm.trans htable'.symm)
  have hwith : t'.withTable table' = t.withTable table' := by rw [heq]; rfl
  rw [hwith]
  refine ⟨path_withTable hall, fun input => ?_⟩
  have hmetrics := tokenizeWithMetrics_withTable (t := t) hall input
  refine ⟨hmetrics, ?_, tokenizeLines_withTable hall input, ?_⟩
  · rw [tokenize, tokenize, hmetrics]
  · rw [trace, trace, scan_withTable hall, path_withTable hall]

/-! ### Multiplications and powers -/

def times : Symbol := ⟨0, "Times"⟩

def power : Symbol := ⟨1, "Power"⟩

/-- The table of both symbols in an order of its own. -/
def operations : SymbolTable :=
  ⟨[("**", power), ("*", times), ("×", times)], by decide, by decide⟩

/-- One literal is given twice and begins another one. -/
theorem build_of_reorders_operations :
    Enumeration.Reorders [⟨times, ["*", "×", "*"]⟩, ⟨power, ["**"]⟩]
      [⟨power, ["**"]⟩, ⟨times, ["×", "*", "*"]⟩] ∧
    ∃ t t', build [⟨times, ["*", "×", "*"]⟩, ⟨power, ["**"]⟩] {} = .ok t ∧
      build [⟨power, ["**"]⟩, ⟨times, ["×", "*", "*"]⟩] {} = .ok t' ∧
      t.symbols.entries ≠ t'.symbols.entries ∧
      operations.entries.Perm t'.symbols.entries ∧
      t.tokenize ['*', '*', '*', '×'] = .ok [.symbol power, .symbol times, .symbol times] ∧
      t.tokenize ['*', '*', '*', '×'] =
        (t'.withTable operations).tokenize ['*', '*', '*', '×'] := by
  have hreorders : Enumeration.Reorders [⟨times, ["*", "×", "*"]⟩, ⟨power, ["**"]⟩]
      [⟨power, ["**"]⟩, ⟨times, ["×", "*", "*"]⟩] :=
    .trans (.cons (.swap _ _ _) (.cons (.refl _) .nil)) (.swap _ _ _)
  refine ⟨hreorders, _, _, rfl, rfl, by decide, by decide, by decide +kernel, ?_⟩
  obtain ⟨-, hsame⟩ := (build_of_reorders hreorders {}).2 _ _ rfl rfl
    _ operations (.refl _) (by decide)
  exact (hsame _).2.1

end Tokenizer

end RuleLexer

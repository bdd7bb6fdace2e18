import RuleLexer.Proofs.Literal.Claims
import RuleLexer.Proofs.Scan.Segmentation

/-!
The fast path. Without rules and with literals of one character each, a table
by characters has just what the trie has, and looking up each character by
itself cuts a text in the way in which the general scan does.
-/

namespace RuleLexer

namespace SymbolTable

theorem eq_singleton_of_toList {literal : String} {c : Char} (h : literal.toList = [c]) :
    literal = String.singleton c :=
  String.ext (h.trans (String.toList_singleton c).symm)

theorem singles?_eq_some_iff {table : SymbolTable} {singles : List (Char × Symbol)} :
    table.singles? = some singles ↔
      table.entries = singles.map fun entry => (String.singleton entry.1, entry.2) := by
  rw [singles?]
  generalize table.entries = entries
  induction entries generalizing singles with
  | nil => cases singles <;> simp
  | cons entry entries ih =>
      obtain ⟨literal, symbol⟩ := entry
      simp only [List.mapM_cons, Option.bind_eq_bind, Option.bind_eq_some_iff, ih]
      constructor
      · rintro ⟨single, hsingle, others, rfl, hcons⟩
        split at hsingle
        · rename_i c hc
          cases hsingle
          cases hcons
          rw [List.map_cons, eq_singleton_of_toList hc]
        · cases hsingle
      · intro h
        cases singles with
        | nil => cases h
        | cons single others =>
            obtain ⟨hentry, rfl⟩ := List.cons.inj h
            obtain ⟨rfl, rfl⟩ := Prod.mk.inj hentry
            exact ⟨single, by simp, others, rfl, rfl⟩

theorem exists_singles? {table : SymbolTable}
    (h : ∀ entry ∈ table.entries, entry.1.length = 1) :
    ∃ singles, table.singles? = some singles := by
  simp only [singles?_eq_some_iff]
  generalize table.entries = entries at h
  induction entries with
  | nil => exact ⟨[], rfl⟩
  | cons entry entries ih =>
      obtain ⟨hentry, hentries⟩ := List.forall_mem_cons.mp h
      obtain ⟨singles, rfl⟩ := ih hentries
      obtain ⟨c, hc⟩ := List.length_eq_one_iff.mp ((String.length_toList ..).trans hentry)
      refine ⟨(c, entry.2) :: singles, ?_⟩
      rw [List.map_cons, ← eq_singleton_of_toList hc]

/-- A table by characters has for a character what the table has for the literal of that one
character. -/
theorem find?_singles {table : SymbolTable} {singles : List (Char × Symbol)}
    (h : table.singles? = some singles) (c : Char) :
    (singles.find? fun entry => entry.1 == c).map Prod.snd = table.get? (String.singleton c) := by
  rw [get?, singles?_eq_some_iff.mp h, List.find?_map, Option.map_map]
  congr 2
  funext entry
  simp [String.singleton_inj, Bool.beq_eq_decide_eq]

/-- With literals of one character the literal at the start of a text is that of its first
character. -/
theorem eq_singleton_of_atStart {table : SymbolTable} {singles : List (Char × Symbol)}
    (h : table.singles? = some singles) {literal : String} {c : Char} {rest : List Char}
    (hsome : (table.get? literal).isSome) (hstart : literal.toList <+: c :: rest) :
    literal = String.singleton c := by
  obtain ⟨symbol, hsymbol⟩ := Option.isSome_iff_exists.mp hsome
  have hmem := get?_eq_some_iff.mp hsymbol
  rw [singles?_eq_some_iff.mp h] at hmem
  obtain ⟨single, -, heq⟩ := List.mem_map.mp hmem
  obtain ⟨rfl, rfl⟩ := Prod.mk.inj heq
  rw [String.toList_singleton] at hstart
  rw [(List.cons_prefix_cons.mp hstart).1]

theorem get?_singleton_of_noneAt {table : SymbolTable} {c : Char} {rest : List Char}
    (h : table.NoneAt (c :: rest)) : table.get? (String.singleton c) = none := by
  rw [← Option.not_isSome_iff_eq_none]
  intro hsome
  exact h (String.singleton c) hsome (by simp)

end SymbolTable

namespace Tokenizer

theorem singles?_eq_some_iff {t : Tokenizer} {singles : List (Char × Symbol)} :
    t.singles? = some singles ↔ t.rules = [] ∧ t.symbols.singles? = some singles := by
  simp [singles?]

section

variable {t : Tokenizer} {singles : List (Char × Symbol)} (hrules : t.rules = [])
  (hsingles : t.symbols.singles? = some singles)

include hsingles

theorem scanSingles_cons (c : Char) (rest : List Char) :
    t.scanSingles singles (c :: rest) =
      if t.ignored.contains c then (t.scanSingles singles rest).prepend (.skipped c)
      else match t.symbols.get? (String.singleton c) with
        | some s => (t.scanSingles singles rest).prepend (.symbol s [c])
        | none =>
          if t.suppressUnknown then (t.scanSingles singles rest).prepend (.unknown c)
          else ⟨[], .invalid c⟩ := by
  rw [scanSingles, ← SymbolTable.find?_singles hsingles]
  cases singles.find? fun entry => entry.1 == c <;> rfl

include hrules

theorem scanSingles_of_next {c : Char} {rest : List Char} {segment : Segment}
    (h : t.Next (c :: rest) segment) :
    segment.text = [c] ∧
      t.scanSingles singles (c :: rest) = (t.scanSingles singles rest).prepend segment := by
  rw [scanSingles_cons hsingles]
  cases h with
  | skipped hc => simp [Segment.text, hc]
  | symbol hc hl =>
      obtain rfl := SymbolTable.eq_singleton_of_atStart hsingles (by simp [hl.get?]) hl.atStart
      simp [Segment.text, hc, hl.get?]
  | rule _ hr => exact absurd hrules hr.ne_nil
  | unknown hleft _ hs =>
      simp [Segment.text, hleft.1, SymbolTable.get?_singleton_of_noneAt hleft.2, hs]

theorem scanSingles_of_stops {text : List Char} {ending : Ending} (h : t.Stops text ending) :
    t.scanSingles singles text = ⟨[], ending⟩ := by
  cases h with
  | finished => rfl
  | invalid hleft _ hs =>
      rw [scanSingles_cons hsingles]
      simp [hleft.1, SymbolTable.get?_singleton_of_noneAt hleft.2, hs]
  | failed _ hr => exact absurd hrules hr.ne_nil

/-- Going through the characters one by one cuts a text as it is to be cut. -/
theorem scanSingles_of_cuts {text left : List Char} {segments : List Segment} {ending : Ending}
    (hcuts : t.Cuts text segments left) (hstops : t.Stops left ending) :
    t.scanSingles singles text = ⟨segments, ending⟩ := by
  induction hcuts with
  | nil => exact scanSingles_of_stops hrules hsingles hstops
  | @cons text rest left segment segments hnext htext hcuts ih =>
      cases text with
      | nil => exact absurd (List.prefix_nil.mp hnext.isPrefix) hnext.text_ne_nil
      | cons c text =>
          obtain ⟨hc, hscan⟩ := scanSingles_of_next hrules hsingles hnext
          rw [hc, List.singleton_append] at htext
          obtain rfl := (List.cons.inj htext).2
          rw [hscan, ih hstops]
          rfl

end

theorem scanSingles_eq_scanGeneral {t : Tokenizer} {singles : List (Char × Symbol)}
    (h : t.singles? = some singles) (text : List Char) :
    t.scanSingles singles text = t.scanGeneral text := by
  obtain ⟨hrules, hsingles⟩ := singles?_eq_some_iff.mp h
  obtain ⟨left, hcuts, hstops⟩ := t.cuts_scanGeneral text
  exact scanSingles_of_cuts hrules hsingles hcuts hstops

/-- Whichever path a tokenizer takes, its scan is the general one. -/
theorem scanText_eq_scanGeneral (t : Tokenizer) (text : List Char) :
    t.scanText text = t.scanGeneral text := by
  rw [scanText]
  cases hsingles : t.singles? with
  | some singles => exact scanSingles_eq_scanGeneral hsingles text
  | none => rfl

/-- Without rules no converter can fail. -/
theorem ending_scanGeneral_ne_failed {t : Tokenizer} (hrules : t.rules = []) (text : List Char)
    (fault : ConvertError) : (t.scanGeneral text).ending ≠ .failed fault := by
  intro hending
  obtain ⟨left, -, hstops⟩ := t.cuts_scanGeneral text
  rw [hending] at hstops
  cases hstops with
  | failed _ hr => exact absurd hrules hr.ne_nil

theorem eq_of_build {e : Enumeration} {o : Options} {t : Tokenizer} (h : build e o = .ok t) :
    ∃ symbols, SymbolTable.ofEnumeration e = .ok symbols ∧
      t = { symbols, rules := (RuleGroup.flatten o.rules).rules, ignored := o.ignored,
            convertCrlf := o.convertCrlf, suppressUnknown := o.suppressUnknown } := by
  rw [build] at h
  cases hsymbols : SymbolTable.ofEnumeration e with
  | error fault =>
      rw [hsymbols] at h
      cases h
  | ok symbols =>
      rw [hsymbols] at h
      cases h
      exact ⟨symbols, rfl, rfl⟩

theorem exists_singles?_of_build {e : Enumeration} {o : Options} {t : Tokenizer}
    (hbuild : build e o = .ok t) (hliterals : ∀ claim ∈ e.claims, claim.1.length = 1)
    (hrules : (RuleGroup.flatten o.rules).rules = []) : ∃ singles, t.singles? = some singles := by
  obtain ⟨symbols, hsymbols, rfl⟩ := eq_of_build hbuild
  have hlength : ∀ entry ∈ symbols.entries, entry.1.length = 1 := by
    intro entry hentry
    exact hliterals entry ((SymbolTable.mem_entries_iff_mem_claims hsymbols entry).mp hentry)
  obtain ⟨singles, hsingles⟩ := SymbolTable.exists_singles? hlength
  exact ⟨singles, singles?_eq_some_iff.mpr ⟨hrules, hsingles⟩⟩

/-- For literals of one character and without rules, the fast path and the general path come to the
same end on every text: with the same tokens and counts, or at the same unknown character. -/
theorem outcome_scanSingles_scanGeneral {e : Enumeration} {o : Options} {t : Tokenizer}
    (hbuild : build e o = .ok t) (hliterals : ∀ claim ∈ e.claims, claim.1.length = 1)
    (hrules : (RuleGroup.flatten o.rules).rules = []) (text : List Char) :
    ∃ singles, t.singles? = some singles ∧
      ((∃ (tokens : List Token) (metrics : ScanMetrics),
          (t.scanSingles singles text).outcome .fast =
            .ok ⟨tokens, { metrics with path := .fast }⟩ ∧
          (t.scanGeneral text).outcome .general =
            .ok ⟨tokens, { metrics with path := .general }⟩) ∨
        ∃ c position offset,
          (t.scanSingles singles text).outcome .fast =
            .error (.invalidToken c position offset) ∧
          (t.scanGeneral text).outcome .general =
            .error (.invalidToken c position offset)) := by
  obtain ⟨singles, hsingles⟩ := exists_singles?_of_build hbuild hliterals hrules
  refine ⟨singles, hsingles, ?_⟩
  rw [scanSingles_eq_scanGeneral hsingles]
  cases hending : (t.scanGeneral text).ending with
  | finished =>
      refine .inl ⟨(t.scanGeneral text).tokens, (t.scanGeneral text).metrics .fast, ?_, ?_⟩
      · exact Scan.outcome_eq_ok_iff.mpr ⟨hending, rfl⟩
      · exact Scan.outcome_eq_ok_iff.mpr ⟨hending, rfl⟩
  | invalid c =>
      refine .inr ⟨c, .after (t.scanGeneral text).covered, byteLength (t.scanGeneral text).covered,
        ?_, ?_⟩
      · exact Scan.outcome_eq_invalidToken_iff.mpr ⟨hending, rfl, rfl⟩
      · exact Scan.outcome_eq_invalidToken_iff.mpr ⟨hending, rfl, rfl⟩
  | failed fault =>
      exact absurd hending
        (ending_scanGeneral_ne_failed (singles?_eq_some_iff.mp hsingles).1 text fault)

/-- A symbol with two spellings, one of them of three bytes, beside a literal that is ignored. -/
theorem outcome_scanSingles_scanGeneral_signs :
    ∃ t, build (.ofNames [("Plus", ["+"]), ("Minus", ["-", "−"])])
        { ignoredCharacters := " +" } = .ok t ∧
      ∃ singles, t.singles? = some singles ∧
        ((∃ (tokens : List Token) (metrics : ScanMetrics),
            (t.scanSingles singles ['−', '+', '-', 'é', '-']).outcome .fast =
              .ok ⟨tokens, { metrics with path := .fast }⟩ ∧
            (t.scanGeneral ['−', '+', '-', 'é', '-']).outcome .general =
              .ok ⟨tokens, { metrics with path := .general }⟩) ∨
          ∃ c position offset,
            (t.scanSingles singles ['−', '+', '-', 'é', '-']).outcome .fast =
              .error (.invalidToken c position offset) ∧
            (t.scanGeneral ['−', '+', '-', 'é', '-']).outcome .general =
              .error (.invalidToken c position offset)) := by
  refine ⟨_, rfl, ?_⟩
  exact outcome_scanSingles_scanGeneral (e := .ofNames [("Plus", ["+"]), ("Minus", ["-", "−"])])
    (o := { ignoredCharacters := " +" }) rfl (by decide) rfl _

end Tokenizer

end RuleLexer

import RuleLexer.Proofs.CommandLine.Spelling
import RuleLexer.Proofs.Report.Color
import RuleLexer.Proofs.Report.Unambiguous
import RuleLexer.Proofs.Scan.Lines
import RuleLexer.Proofs.Scan.Sentinel

/-!
What there is to report of a scan of the command line. Its symbols are the
operators, whose names are plain, and its rules are those of the library. So
reports of the command line are colored by control sequences only, and those
without color tell the input and the tokens.
-/

namespace RuleLexer

/-! ### Scans -/

theorem Rule.exists_of_segment_eq_error {r : Rule} {matched : List Char} {fault : ConvertError}
    (h : r.segment matched = .error fault) :
    ∃ converter s, r.action = .convert converter ∧ converter s = .error fault := by
  rw [segment] at h
  split at h
  case h_1 => cases h
  case h_2 => cases h
  case h_3 converter haction =>
    refine ⟨converter, String.ofList matched, haction, ?_⟩
    cases hconvert : converter (String.ofList matched) with
    | error e =>
        rw [hconvert] at h
        exact congrArg _ (Except.error.inj h)
    | ok v =>
        rw [hconvert] at h
        cases h

namespace Tokenizer

variable {t : Tokenizer} {input : List Char}

/-- Every token is a value or a symbol of the table. -/
theorem exists_get?_of_mem_tokens {r : ScanResult} (h : t.tokenizeWithMetrics input = .ok r)
    {s : Symbol} (hs : .symbol s ∈ r.tokens) : ∃ literal, t.symbols.get? literal = some s := by
  obtain ⟨-, rfl⟩ := Scan.outcome_eq_ok_iff.mp h
  rw [scan, scanText_eq_scanGeneral] at hs
  obtain ⟨literal, hget, -⟩ := exists_literal_of_symbol_mem hs
  exact ⟨literal, hget⟩

/-- A scan fails with the fault of a converter of one of the rules. -/
theorem exists_converter_of_failed {fault : ConvertError}
    (h : t.tokenizeWithMetrics input = .error (.convert fault)) :
    ∃ r ∈ t.rules, ∃ converter s, r.action = .convert converter ∧ converter s = .error fault := by
  have hending := Scan.outcome_eq_convert_iff.mp h
  rw [scan, scanText_eq_scanGeneral] at hending
  obtain ⟨left, -, hstops⟩ := t.cuts_scanGeneral (t.scannedText input)
  rw [hending] at hstops
  cases hstops with
  | failed _ hr _ hfault =>
      obtain ⟨before, after, hrules, -⟩ := hr
      exact ⟨_, by simp [hrules], Rule.exists_of_segment_eq_error hfault⟩

theorem exists_of_tokenize_eq_ok {tokens : List Token} (h : t.tokenize input = .ok tokens) :
    ∃ r, t.tokenizeWithMetrics input = .ok r ∧ r.tokens = tokens := by
  rw [tokenize] at h
  cases hscan : t.tokenizeWithMetrics input with
  | error e =>
      rw [hscan] at h
      cases h
  | ok r =>
      rw [hscan] at h
      cases h
      exact ⟨r, rfl, rfl⟩

end Tokenizer

namespace CommandLine

/-! ### The rules of settings -/

namespace Settings

/-- All rules are those of the library. -/
def UsesLibrary (s : Settings) : Prop := ∀ g ∈ s.options.rules, ∀ r ∈ g.rules, Library.IsMember r

variable {s s' : Settings}

theorem UsesLibrary.toggle (h : s.UsesLibrary) (t : Toggle) : (s.toggle t).UsesLibrary := by
  cases t <;> exact h

theorem UsesLibrary.setInput {text : String} (h : s.UsesLibrary)
    (hset : s.setInput text = .ok s') : s'.UsesLibrary := by
  unfold Settings.setInput at hset
  split at hset <;> cases hset
  exact h

theorem UsesLibrary.set {v : Valued} {value : String} (h : s.UsesLibrary)
    (hset : s.set v value = .ok s') : s'.UsesLibrary := by
  cases v with
  | ignore =>
      cases hset
      exact h
  | rule =>
      rw [Settings.set] at hset
      split at hset
      case h_1 g hg =>
        cases hset
        obtain ⟨entry, hfind, rfl⟩ := Option.map_eq_some_iff.mp hg
        have hentry := List.mem_of_find?_eq_some hfind
        exact List.forall_mem_append.mpr
          ⟨h, List.forall_mem_singleton.mpr fun r hr => ⟨entry, hentry, hr⟩⟩
      case h_2 => cases hset
  | input => exact h.setInput hset

end Settings

theorem Settings.UsesLibrary.readArguments {s s' : Settings} {arguments : List String}
    (h : s.UsesLibrary) (hread : CommandLine.readArguments s arguments = .ok (.scan s')) :
    s'.UsesLibrary := by
  have hinput {s : Settings} {text : String} (h : s.UsesLibrary)
      (hread : (s.setInput text).map Request.scan = .ok (.scan s')) : s'.UsesLibrary := by
    cases hset : s.setInput text with
    | error e =>
        rw [hset] at hread
        cases hread
    | ok next =>
        rw [hset] at hread
        cases hread
        exact h.setInput hset
  fun_induction CommandLine.readArguments s arguments with
  | case1 s =>
      cases hread
      exact h
  | case4 s _ _ t _ ih => exact ih (h.toggle t) hread
  | case7 s _ _ _ _ _ next hset ih => exact ih (h.set hset) hread
  | case9 s _ _ _ _ _ next hset ih => exact ih (h.set hset) hread
  | case10 s =>
      cases hread
      exact h
  | case11 s => exact hinput h hread
  | case13 s => exact hinput h hread
  | case2 | case3 | case5 | case6 | case8 | case12 => cases hread

theorem usesLibrary_of_start {color : Bool} {arguments : List String} {s : Settings}
    (h : start color arguments = .ok s) : s.UsesLibrary := by
  have hnone : Settings.UsesLibrary { color } := List.forall_mem_nil _
  rw [start] at h
  split at h
  case h_4 s' hread =>
    cases h
    exact hnone.readArguments hread
  all_goals cases h

/-! ### The tokenizer -/

theorem isPlain_operators : ∀ v ∈ operators, IsPlain v.symbol.name := by
  simp only [operators, Enumeration.ofNames, List.mapIdx_cons, List.mapIdx_nil,
    List.forall_mem_cons]
  and_intros
  all_goals first | exact List.forall_mem_nil _ | decide

/-- The symbols have plain names, and the rules are those of the library. -/
structure Prepared (t : Tokenizer) : Prop where
  isPlain : ∀ literal s, t.symbols.get? literal = some s → IsPlain s.name
  rules : ∀ r ∈ t.rules, Library.IsMember r

theorem prepared_of_build {s : Settings} (h : s.UsesLibrary) {t : Tokenizer}
    (hbuild : Tokenizer.build s.enumeration s.options = .ok t) : Prepared t := by
  obtain ⟨symbols, hsymbols, rfl⟩ := Tokenizer.eq_of_build hbuild
  constructor
  · intro literal symbol hget
    have hclaim := (SymbolTable.mem_entries_iff_mem_claims hsymbols _).mp
      (SymbolTable.get?_eq_some_iff.mp hget)
    obtain ⟨v, hv, hmem⟩ := List.mem_flatMap.mp hclaim
    obtain ⟨_, -, heq⟩ := List.mem_map.mp hmem
    cases heq
    rw [Settings.enumeration] at hv
    split at hv
    · exact isPlain_operators v hv
    · cases hv
  · intro r hr
    obtain ⟨g, hg, hr⟩ := List.mem_flatMap.mp hr
    exact h g hg r hr

theorem prepared_of_prepare {s : Settings} (h : s.UsesLibrary) {stdin : ByteArray}
    {input : String} {t : Tokenizer} (hprepare : s.prepare stdin = .ok (input, t)) :
    Prepared t := by
  rw [Settings.prepare] at hprepare
  split at hprepare
  case h_1 => cases hprepare
  case h_2 =>
    split at hprepare
    case h_1 => cases hprepare
    case h_2 hbuild =>
      cases hprepare
      exact prepared_of_build h hbuild

/-! ### What a scan comes to -/

namespace Prepared

variable {t : Tokenizer} {input : List Char}

theorem nameAvoids (h : Prepared t) {r : ScanResult} (hscan : t.tokenizeWithMetrics input = .ok r)
    {c : Char} (hc : c.toNat < 0x20) : ∀ token ∈ r.tokens, token.NameAvoids c := by
  intro token hmem
  cases token with
  | symbol s =>
      obtain ⟨literal, hget⟩ := Tokenizer.exists_get?_of_mem_tokens hscan hmem
      exact (h.isPlain literal s hget).notMem hc
  | value v => trivial

theorem failsWith (h : Prepared t) {fault : ConvertError}
    (hscan : t.tokenizeWithMetrics input = .error (.convert fault)) : Library.FailsWith fault := by
  obtain ⟨r, hr, converter, s, haction, hconvert⟩ := Tokenizer.exists_converter_of_failed hscan
  exact ⟨r, converter, s, h.rules r hr, haction, hconvert⟩

theorem lines_nameAvoids (h : Prepared t) {ls : List (List Token)}
    (hscan : t.tokenizeLines input = .ok ls) {c : Char} (hc : c.toNat < 0x20) :
    ∀ tokens ∈ ls, ∀ token ∈ tokens, token.NameAvoids c := by
  have heach := Tokenizer.tokenizeLinesFrom_eq_ok_iff.mp hscan
  clear hscan
  generalize Line.split input = lines at heach
  induction heach with
  | nil => exact List.forall_mem_nil _
  | cons hline _ ih =>
      obtain ⟨r, hr, rfl⟩ := Tokenizer.exists_of_tokenize_eq_ok hline
      exact List.forall_mem_cons.mpr ⟨h.nameAvoids hr hc, ih⟩

theorem lines_failsWith (h : Prepared t) {fault : ConvertError}
    (hscan : t.tokenizeLines input = .error (.convert fault)) : Library.FailsWith fault := by
  obtain ⟨before, line, after, alone, -, hfirst, heq⟩ :=
    Tokenizer.tokenizeLinesFrom_eq_error_iff.mp hscan
  have halone := Tokenizer.tokenize_eq_error_iff.mp hfirst.fails
  cases alone with
  | invalidToken => cases heq
  | convert =>
      cases heq
      exact h.failsWith halone

end Prepared

/-- The text is scanned as a whole or line by line. -/
theorem Settings.scan_cases (s : Settings) (t : Tokenizer) (input : String) :
    (∃ r, t.tokenizeWithMetrics input.toList = .ok r ∧ s.scan t input = .run r) ∨
    (∃ ls, t.tokenizeLines input.toList = .ok ls ∧ s.scan t input = .lines ls) ∨
    ∃ e, (t.tokenizeWithMetrics input.toList = .error e ∨ t.tokenizeLines input.toList = .error e) ∧
      s.scan t input = .error e := by
  rw [scan]
  split
  · cases hlines : t.tokenizeLines input.toList with
    | ok ls => exact .inr (.inl ⟨ls, rfl, rfl⟩)
    | error e => exact .inr (.inr ⟨e, .inr rfl, rfl⟩)
  · cases hscan : t.tokenizeWithMetrics input.toList with
    | ok r => exact .inl ⟨r, rfl, rfl⟩
    | error e => exact .inr (.inr ⟨e, .inl rfl, rfl⟩)

/-- What the program has to report of an input: the command line asks for a scan, and the input can
be read and the tokenizer built. -/
inductive IsScan (input : String) : ScanOutput → Prop
  | intro {color : Bool} {arguments : List String} {stdin : ByteArray} {s : Settings}
      {t : Tokenizer} (hstart : start color arguments = .ok s)
      (hprepare : s.prepare stdin = .ok (input, t)) : IsScan input (s.scan t input)

namespace IsScan

variable {input : String} {output : ScanOutput}

theorem exists_prepared (h : IsScan input output) :
    ∃ (s : Settings) (t : Tokenizer), Prepared t ∧ output = s.scan t input := by
  obtain ⟨hstart, hprepare⟩ := h
  exact ⟨_, _, prepared_of_prepare (usesLibrary_of_start hstart) hprepare, rfl⟩

theorem namesAvoid (h : IsScan input output) {c : Char} (hc : c.toNat < 0x20) :
    output.NamesAvoid c := by
  obtain ⟨s, t, hprepared, rfl⟩ := h.exists_prepared
  obtain ⟨r, hscan, heq⟩ | ⟨ls, hscan, heq⟩ | ⟨e, -, heq⟩ := s.scan_cases t input
  · rw [heq]
    exact hprepared.nameAvoids hscan hc
  · rw [heq]
    exact hprepared.lines_nameAvoids hscan hc
  · rw [heq]
    trivial

theorem failsWith (h : IsScan input output) {fault : ConvertError}
    (hfault : output = .error (.convert fault)) : Library.FailsWith fault := by
  obtain ⟨s, t, hprepared, rfl⟩ := h.exists_prepared
  obtain ⟨r, -, heq⟩ | ⟨ls, -, heq⟩ | ⟨e, hscan, heq⟩ := s.scan_cases t input
  · cases heq.symm.trans hfault
  · cases heq.symm.trans hfault
  · cases heq.symm.trans hfault
    exact hscan.elim hprepared.failsWith hprepared.lines_failsWith

theorem isReportable (h : IsScan input output) : output.IsReportable :=
  ⟨h.namesAvoid (by decide), fun _ => h.failsWith⟩

theorem isTold (h : IsScan input output) (hends : ∀ e, output ≠ .error e) : output.IsTold :=
  ⟨h.namesAvoid (by decide), hends⟩

end IsScan

/-- A text in quotes with an escape in it. -/
def emphasis : String := "\"\x1b[1m\""

def quotingEmphasis : Settings :=
  { input := some emphasis, options := Options.withRule {} Library.string }

theorem exists_isScan_emphasis :
    ∃ output, IsScan emphasis output ∧ ∀ e, output ≠ .error e := by
  have hstart : start false ["--rule", "string", emphasis] = .ok quotingEmphasis := by rfl
  obtain ⟨t, hprepare⟩ : ∃ t, quotingEmphasis.prepare .empty = .ok (emphasis, t) := ⟨_, by rfl⟩
  have hexit : (respond false ["--rule", "string", emphasis] .empty "").exit = 0 := by
    decide +kernel
  simp only [respond, hstart, hprepare] at hexit
  refine ⟨_, .intro hstart hprepare, fun e heq => ?_⟩
  rw [heq] at hexit
  cases hexit

/-- Without its control sequences a report with color is the one without color, which has no
escape in it. All that the command line has to report is of this kind. -/
theorem deleteSequences_stdout :
    (∀ (output : ScanOutput) (input : String) (nanoseconds : Nat), output.IsReportable →
      deleteSequences (output.stdout true input nanoseconds).toList =
          (output.stdout false input nanoseconds).toList ∧
        '\x1b' ∉ (output.stdout false input nanoseconds).toList) ∧
    ∀ (input : String) (output : ScanOutput), IsScan input output → output.IsReportable :=
  ⟨fun _ input nanoseconds h => ⟨h.deleteSequences_toList input nanoseconds,
    (h.isColored_stdout input nanoseconds).notMem⟩, fun _ _ h => h.isReportable⟩

theorem deleteSequences_stdout_emphasis : ∃ output,
    IsScan emphasis output ∧ output.IsReportable ∧
    deleteSequences (output.stdout true emphasis 0).toList =
      (output.stdout false emphasis 0).toList ∧
    '\x1b' ∉ (output.stdout false emphasis 0).toList := by
  obtain ⟨output, hscan, -⟩ := exists_isScan_emphasis
  have hreportable := deleteSequences_stdout.2 _ _ hscan
  exact ⟨output, hscan, hreportable, deleteSequences_stdout.1 _ _ 0 hreportable⟩

/-- Reports that are equal but for the time are of one input and of tokens that are alike. Every
token has a line to itself, and no line tells of two entries. So it is for all that the command line
has to report, other than an error. -/
theorem unambiguous_stdout :
    (∀ (output output' : ScanOutput) (input input' : String) (nanoseconds nanoseconds' : Nat),
      output.IsTold → output'.IsTold →
        Report.masked (output.stdout false input nanoseconds).toList =
          Report.masked (output'.stdout false input' nanoseconds').toList →
        input = input' ∧ output.Alike output') ∧
    (∀ (output : ScanOutput) (input : String) (nanoseconds : Nat), output.IsTold →
      ∃ lines, output.stdout false input nanoseconds = Report.unlines lines ∧
        (∀ line ∈ lines, '\n' ∉ line.toList) ∧ Report.SetsOut (output.entries input) lines) ∧
    (∀ (line : String) (o o' : Option Report.Entry), Report.Shows o line → Report.Shows o' line →
      Option.Rel Report.Entry.Alike o o') ∧
    ∀ (input : String) (output : ScanOutput), IsScan input output → (∀ e, output ≠ .error e) →
      output.IsTold :=
  ⟨fun _ _ _ _ _ _ h h' => h.alike_of_masked_eq h',
    fun _ input nanoseconds h => h.exists_lines input nanoseconds,
    fun _ _ _ h h' => h.alike h' rfl, fun _ _ h => h.isTold⟩

/-- The text of the value looks like the line of a symbol. -/
def imitatingSymbol (index : Nat) : ScanOutput :=
  .run ⟨[.symbol ⟨index, "Add"⟩, .value (.str "\n  [1] Add symbol")], ⟨.general, 1, 1, 0, 0⟩⟩

theorem isTold_imitatingSymbol (index : Nat) : (imitatingSymbol index).IsTold :=
  ⟨by simp [imitatingSymbol, ScanOutput.NamesAvoid, Token.NameAvoids], nofun⟩

/-- Symbols are compared by name. -/
theorem unambiguous_stdout_imitatingSymbol :
    (imitatingSymbol 0).IsTold ∧ (imitatingSymbol 4).IsTold ∧
    Report.masked ((imitatingSymbol 0).stdout false "+" 5).toList =
      Report.masked ((imitatingSymbol 4).stdout false "+" 1500).toList ∧
    (imitatingSymbol 0).Alike (imitatingSymbol 4) ∧
    ∃ output, IsScan emphasis output ∧ (∀ e, output ≠ .error e) ∧ output.IsTold := by
  have hzero := isTold_imitatingSymbol 0
  have hfour := isTold_imitatingSymbol 4
  have hmasked : Report.masked ((imitatingSymbol 0).stdout false "+" 5).toList =
      Report.masked ((imitatingSymbol 4).stdout false "+" 1500).toList :=
    hzero.masked_stdout "+" 5 1500
  have halike := unambiguous_stdout.1 _ _ _ _ _ _ hzero hfour hmasked
  obtain ⟨output, hscan, hends⟩ := exists_isScan_emphasis
  exact ⟨hzero, hfour, hmasked, halike.2, output, hscan, hends,
    unambiguous_stdout.2.2.2 _ _ hscan hends⟩

end CommandLine

end RuleLexer

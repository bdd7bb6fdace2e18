import RuleLexer.Proofs.Report.Plain

/-!
Color in reports. A report with color is the one without color and control
sequences between its characters, since nothing that is shown of an input has an
escape in it by itself.
-/

namespace RuleLexer

/-! ### Control sequences -/

/-- The length of the control sequence at the start of a text, which is an escape, a bracket, digits
and the letter `m`, or else zero. -/
def sequenceLength : List Char → Nat
  | '\x1b' :: '[' :: rest =>
    let digits := rest.takeWhile Char.isDigit
    if digits ≠ [] ∧ rest[digits.length]? = some 'm' then digits.length + 3 else 0
  | _ => 0

/-- Leaves out so many characters, and every control sequence behind them. -/
def deleteFrom : Nat → List Char → List Char
  | _, [] => []
  | skip + 1, _ :: rest => deleteFrom skip rest
  | 0, c :: rest =>
    match sequenceLength (c :: rest) with
    | 0 => c :: deleteFrom 0 rest
    | skip + 1 => deleteFrom skip rest

def deleteSequences (text : List Char) : List Char := deleteFrom 0 text

@[simp] theorem deleteSequences_nil : deleteSequences [] = [] := rfl

theorem deleteFrom_append (front rest : List Char) :
    deleteFrom front.length (front ++ rest) = deleteSequences rest := by
  induction front with
  | nil => rfl
  | cons c front ih => exact ih

theorem deleteSequences_cons {c : Char} (hc : c ≠ '\x1b') (rest : List Char) :
    deleteSequences (c :: rest) = c :: deleteSequences rest := by
  have hzero : sequenceLength (c :: rest) = 0 := by
    unfold sequenceLength
    split
    case h_1 heq => exact absurd (List.cons.inj heq).1 hc
    case h_2 => rfl
  rw [deleteSequences, deleteFrom, hzero]
  rfl

theorem deleteSequences_append {text : List Char} (h : '\x1b' ∉ text) (rest : List Char) :
    deleteSequences (text ++ rest) = text ++ deleteSequences rest := by
  induction text with
  | nil => rfl
  | cons c text ih =>
      rw [List.mem_cons, not_or] at h
      rw [List.cons_append, deleteSequences_cons (Ne.symm h.1), ih h.2, List.cons_append]

theorem deleteSequences_sequence (s : Style) (rest : List Char) :
    deleteSequences (s.sequence.toList ++ rest) = deleteSequences rest := by
  have hsequence : ∃ c front, s.sequence.toList = c :: front
      ∧ sequenceLength (c :: (front ++ rest)) = front.length + 1 := by
    cases s <;> exact ⟨_, _, rfl, rfl⟩
  obtain ⟨c, front, heq, hlength⟩ := hsequence
  rw [heq, List.cons_append, deleteSequences, deleteFrom, hlength]
  exact deleteFrom_append front rest

/-! ### Colored texts -/

/-- Color adds control sequences to the text and nothing else, and without color there is none. -/
structure IsColored (text : Bool → String) : Prop where
  notMem : '\x1b' ∉ (text false).toList
  delete : ∀ rest, deleteSequences ((text true).toList ++ rest) =
    (text false).toList ++ deleteSequences rest

namespace IsColored

variable {a b : Bool → String}

theorem const {text : String} (h : '\x1b' ∉ text.toList) : IsColored fun _ => text :=
  ⟨h, deleteSequences_append h⟩

theorem plain {text : String} (h : IsPlain text) : IsColored fun _ => text :=
  const (h.notMem (by decide))

theorem append (ha : IsColored a) (hb : IsColored b) :
    IsColored fun color => a color ++ b color where
  notMem := by
    rw [String.toList_append, List.mem_append, not_or]
    exact ⟨ha.notMem, hb.notMem⟩
  delete rest := by
    rw [String.toList_append, List.append_assoc, ha.delete, hb.delete, String.toList_append,
      List.append_assoc]

theorem paint (style : Style) (h : IsColored a) :
    IsColored fun color => paint color style (a color) where
  notMem := h.notMem
  delete rest := by
    change deleteSequences ((style.sequence ++ a true ++ Style.reset.sequence).toList ++ rest) =
      (a false).toList ++ deleteSequences rest
    simp only [String.toList_append, List.append_assoc, deleteSequences_sequence, h.delete]

end IsColored

/-! ### Colored lines -/

/-- The lines are colored, with a line feed behind each. -/
def AreColored (lines : Bool → List String) : Prop :=
  IsColored fun color => Report.unlines (lines color)

namespace AreColored

variable {line : Bool → String} {a b : Bool → List String}

theorem nil : AreColored fun _ => [] := .const (by simp)

theorem cons (hline : IsColored line) (ha : AreColored a) :
    AreColored fun color => line color :: a color := by
  simp only [AreColored, Report.unlines_cons]
  exact (hline.append (.const (by simp))).append ha

theorem singleton (hline : IsColored line) : AreColored fun color => [line color] := .cons hline nil

theorem append (ha : AreColored a) (hb : AreColored b) :
    AreColored fun color => a color ++ b color := by
  simp only [AreColored, Report.unlines_append]
  exact IsColored.append ha hb

variable {α : Type} {xs : List α}

theorem flatMap {lines : Bool → α → List String}
    (h : ∀ x ∈ xs, AreColored fun color => lines color x) :
    AreColored fun color => xs.flatMap (lines color) := by
  induction xs with
  | nil => exact nil
  | cons x xs ih =>
      obtain ⟨hx, hxs⟩ := List.forall_mem_cons.mp h
      simp only [List.flatMap_cons]
      exact hx.append (ih hxs)

theorem map {line : Bool → α → String} (h : ∀ x ∈ xs, IsColored fun color => line color x) :
    AreColored fun color => xs.map (line color) := by
  simp only [List.map_eq_flatMap]
  exact flatMap fun x hx => singleton (h x hx)

end AreColored

/-! ### Reports -/

namespace Report

theorem isColored_token {t : Token} (h : t.NameAvoids '\x1b') :
    IsColored fun color => token color t := by
  cases t with
  | symbol s =>
      exact (((IsColored.const h).paint .green).paint .bold |>.append (.plain (by decide)))
        |>.append (.paint .dim (.plain (by decide)))
  | value v =>
      exact ((IsColored.plain (isPlain_display v)).paint .yellow |>.append (.plain (by decide)))
        |>.append (.paint .dim (.plain (by decide)))

theorem areColored_header (input : String) : AreColored fun color => header color input := by
  have hinput : IsPlain ("⚙  Tokenizing: " ++ quoteString input) :=
    IsPlain.append_iff.mpr ⟨by decide, isPlain_quoteString input⟩
  exact .cons (.plain (by decide)) (.singleton (((IsColored.plain hinput).paint .cyan).paint .bold))

theorem areColored_heading (style : Style) {text : String} (h : IsPlain text) :
    AreColored fun color => heading color style text :=
  .cons (.plain (by decide)) (.singleton ((IsColored.plain h).paint style))

theorem areColored_numberedTokens {tokens : List Token}
    (h : ∀ t ∈ tokens, t.NameAvoids '\x1b') :
    AreColored fun color => numberedTokens color tokens := by
  simp only [numberedTokens, List.mapIdx_eq_zipIdx_map]
  refine .map fun (t, i) ht => ?_
  have hindex : IsPlain ("[" ++ i.repr ++ "]") := by
    simp only [IsPlain.append_iff, isPlain_natRepr]
    decide
  have ht : IsColored fun color => token color t :=
    isColored_token (h t (List.fst_mem_of_mem_zipIdx ht))
  exact (((IsColored.plain (by decide)).append (.paint .gray (.plain hindex))).append
    (.plain (by decide))).append ht

theorem isColored_counts (m : ScanMetrics) : IsColored fun color => counts color m := by
  have hcount (style : Style) (n : Nat) : IsColored fun color => paint color style n.repr :=
    .paint style (.plain (isPlain_natRepr n))
  exact (((((((((IsColored.plain (by decide)).append
    (.paint .cyan (.plain m.path.isPlain_display))).append (.plain (by decide))).append
    (hcount .blue m.symbolHits)).append (.plain (by decide))).append
    (hcount .blue m.ruleHits)).append (.plain (by decide))).append
    (hcount .dim m.ignoredMatches)).append (.plain (by decide))).append
    (hcount _ m.suppressed)

theorem isColored_run (input : String) {elapsed : String} (helapsed : IsPlain elapsed)
    {r : ScanResult} (h : ∀ t ∈ r.tokens, t.NameAvoids '\x1b') :
    IsColored fun color => run color input elapsed r := by
  have htokens : AreColored fun color =>
      if r.tokens = [] then [paint color .dim "  No tokens produced"]
      else numberedTokens color r.tokens := by
    split
    · exact .singleton (.paint .dim (.plain (by decide)))
    · exact areColored_numberedTokens h
  have hend : AreColored fun color =>
      [counts color r.metrics, "  Total: " ++ paint color .green elapsed, ""] :=
    .cons (isColored_counts r.metrics)
      (.cons ((IsColored.plain (by decide)).append (.paint .green (.plain helapsed)))
        (.singleton (.plain (by decide))))
  exact ((((areColored_header input).append (areColored_heading .gray (by decide))).append
    htokens).append (areColored_heading .gray (by decide))).append hend

theorem areColored_line (number : Nat) {tokens : List Token}
    (h : ∀ t ∈ tokens, t.NameAvoids '\x1b') :
    AreColored fun color => line color number tokens := by
  have hnumber : IsPlain ("line " ++ number.repr) :=
    IsPlain.append_iff.mpr ⟨by decide, isPlain_natRepr number⟩
  refine .cons ((IsColored.plain (by decide)).append (.paint .blue (.plain hnumber))) ?_
  split
  · exact .singleton ((IsColored.plain (by decide)).append (.paint .dim (.plain (by decide))))
  · exact .map fun t ht => (IsColored.plain (by decide)).append (isColored_token (h t ht))

theorem isColored_lines (input : String) {ls : List (List Token)}
    (h : ∀ tokens ∈ ls, ∀ t ∈ tokens, t.NameAvoids '\x1b') :
    IsColored fun color => lines color input ls := by
  have hempty : AreColored fun color =>
      if ls = [] then [paint color .dim "  No lines"] else [] := by
    split
    · exact .singleton (.paint .dim (.plain (by decide)))
    · exact .nil
  have hlines : AreColored fun color =>
      (ls.mapIdx fun i tokens => line color (i + 1) tokens).flatten := by
    simp only [List.mapIdx_eq_zipIdx_map, ← List.flatMap_def]
    exact .flatMap fun (tokens, i) hmem =>
      areColored_line (i + 1) (h tokens (List.fst_mem_of_mem_zipIdx hmem))
  exact ((((areColored_header input).append (areColored_heading .gray (by decide))).append
    hempty).append hlines).append (.singleton (.plain (by decide)))

theorem areColored_hints : AreColored hints :=
  ((areColored_heading .yellow (by decide)).append (.cons (.plain (by decide))
    (.cons (.plain (by decide)) (.singleton (.plain (by decide)))))).append
    (areColored_heading .dim (by decide))

theorem isColored_error (input : String) {e : ScanError} (h : IsPlain e.message) :
    IsColored fun color => error color input e := by
  have hmark : IsColored fun color => paint color .bold (paint color .red "✗") :=
    .paint .bold (.paint .red (.plain (by decide)))
  have hmessage : AreColored fun color =>
      ["", paint color .bold (paint color .red "✗") ++ " " ++ paint color .red e.message] :=
    .cons (.plain (by decide)) (.singleton
      ((hmark.append (.plain (by decide))).append (.paint .red (.plain h))))
  have hend : AreColored fun _ => [""] := .singleton (.plain (by decide))
  refine (((areColored_header input).append hmessage).append ?_).append hend
  cases e with
  | invalidToken => exact areColored_hints
  | convert => exact .nil

end Report

namespace CommandLine.ScanOutput

/-- No name of a symbol has an escape in it, and what fails is a rule of the library. -/
structure IsReportable (output : ScanOutput) : Prop where
  names : output.NamesAvoid '\x1b'
  failure : ∀ fault, output = .error (.convert fault) → Library.FailsWith fault

namespace IsReportable

variable {output : ScanOutput}

theorem isColored_stdout (h : output.IsReportable) (input : String) (nanoseconds : Nat) :
    IsColored fun color => output.stdout color input nanoseconds := by
  cases output with
  | run r => exact Report.isColored_run input (Report.isPlain_duration nanoseconds) h.names
  | lines ls => exact Report.isColored_lines input h.names
  | error e =>
      have hmessage : IsPlain e.message := ScanError.isPlain_message fun fault heq =>
        (h.failure fault (congrArg error heq)).isNumeric
      exact Report.isColored_error input hmessage

theorem deleteSequences_toList (h : output.IsReportable) (input : String) (nanoseconds : Nat) :
    deleteSequences (output.stdout true input nanoseconds).toList =
      (output.stdout false input nanoseconds).toList := by
  have hdelete := (h.isColored_stdout input nanoseconds).delete []
  rwa [List.append_nil, deleteSequences_nil, List.append_nil] at hdelete

end IsReportable

end CommandLine.ScanOutput

end RuleLexer

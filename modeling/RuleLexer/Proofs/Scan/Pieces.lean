import RuleLexer.Proofs.Scan.Loop
import RuleLexer.Proofs.Scan.Separated

/-!
Scans of a text in two pieces. Without rules nothing but a literal can go on
from the first piece into the second, since no more than a literal is looked at
at once. Where no literal does, the whole is scanned as the first piece and
then, if that has been scanned to its end, as the second piece.
-/

namespace RuleLexer

/-! ### One scan behind another -/

namespace Scan

/-- The scan with another one behind it, which counts only if the first came to the end of its
text. -/
def followedBy (s later : Scan) : Scan :=
  match s.ending with
  | .finished => ⟨s.segments ++ later.segments, later.ending⟩
  | _ => s

theorem followedBy_of_finished {s : Scan} (h : s.ending = .finished) (later : Scan) :
    s.followedBy later = ⟨s.segments ++ later.segments, later.ending⟩ := by
  rw [followedBy, h]

theorem followedBy_of_ne_finished {s : Scan} (h : s.ending ≠ .finished) (later : Scan) :
    s.followedBy later = s := by
  rw [followedBy]
  split
  next hfinished => exact absurd hfinished h
  next => rfl

theorem covered_followedBy {s : Scan} (h : s.ending = .finished) (later : Scan) :
    (s.followedBy later).covered = s.covered ++ later.covered := by
  rw [followedBy_of_finished h, covered, List.flatMap_append]
  rfl

theorem tokens_followedBy {s : Scan} (h : s.ending = .finished) (later : Scan) :
    (s.followedBy later).tokens = s.tokens ++ later.tokens := by
  rw [followedBy_of_finished h, tokens, List.filterMap_append]
  rfl

theorem ending_followedBy {s : Scan} (h : s.ending = .finished) (later : Scan) :
    (s.followedBy later).ending = later.ending := by
  rw [followedBy_of_finished h]

theorem prepend_followedBy (segment : Segment) (s later : Scan) :
    (s.prepend segment).followedBy later = (s.followedBy later).prepend segment := by
  by_cases h : s.ending = .finished
  · rw [followedBy_of_finished h, followedBy_of_finished (ending_prepend segment s ▸ h)]
    rfl
  · rw [followedBy_of_ne_finished h, followedBy_of_ne_finished (ending_prepend segment s ▸ h)]

/-- The scan of ignored characters. -/
def ofIgnored (chars : List Char) : Scan := ⟨chars.map .skipped, .finished⟩

@[simp] theorem ending_ofIgnored (chars : List Char) : (ofIgnored chars).ending = .finished := rfl

@[simp] theorem covered_ofIgnored (chars : List Char) : (ofIgnored chars).covered = chars :=
  flatMap_text_skipped chars

@[simp] theorem tokens_ofIgnored (chars : List Char) : (ofIgnored chars).tokens = [] := by
  simp [tokens, ofIgnored, Segment.token?]

/-- Ignored characters behind a text make no difference to what comes of it. -/
theorem outcome_followedBy_ofIgnored (s : Scan) (chars : List Char) (path : ScanPath) :
    (s.followedBy (ofIgnored chars)).outcome path = s.outcome path := by
  by_cases h : s.ending = .finished
  · rw [followedBy_of_finished h]
    obtain ⟨segments, ending⟩ := s
    obtain rfl : ending = .finished := h
    exact congrArg Except.ok (ScanResult.ofSegments_append_skipped path segments chars)
  · rw [followedBy_of_ne_finished h]

end Scan

/-! ### Literals in the first piece -/

namespace SymbolTable

variable {table : SymbolTable} {text tail : List Char}

/-- A literal that is the longest with more text behind is so without it, if it is there then. -/
theorem IsLongest.of_append {literal : String} {symbol : Symbol}
    (h : table.IsLongest (text ++ tail) literal symbol) (hle : literal.length ≤ text.length) :
    table.IsLongest text literal symbol := by
  refine ⟨h.get?, ?_, fun other hsome hother => ?_⟩
  · exact List.prefix_of_prefix_length_le h.atStart (List.prefix_append text tail)
      (by rwa [String.length_toList])
  · exact h.length_le other hsome (hother.trans (List.prefix_append text tail))

theorem NoneAt.of_append (h : table.NoneAt (text ++ tail)) : table.NoneAt text :=
  fun literal hsome hstart => h literal hsome (hstart.trans (List.prefix_append text tail))

end SymbolTable

namespace Tokenizer

variable {t : Tokenizer}

/-- A segment of more than one character that no rule made is a literal. -/
theorem Next.eq_symbol {text : List Char} {segment : Segment} (h : t.Next text segment)
    (hrules : t.rules = []) (hlength : 1 < segment.text.length) :
    ∃ s literal, segment = .symbol s literal := by
  cases h with
  | skipped => simp [Segment.text] at hlength
  | symbol => exact ⟨_, _, rfl⟩
  | rule _ hr => exact absurd hrules hr.ne_nil
  | unknown => simp [Segment.text] at hlength

theorem Next.of_append {c : Char} {rest tail : List Char} {segment : Segment}
    (h : t.Next (c :: rest ++ tail) segment) (hrules : t.rules = [])
    (hle : segment.text.length ≤ (c :: rest).length) : t.Next (c :: rest) segment := by
  cases h with
  | skipped hc => exact .skipped hc
  | symbol hc hl =>
      rw [Segment.text, String.length_toList] at hle
      exact .symbol hc (hl.of_append hle)
  | rule _ hr => exact absurd hrules hr.ne_nil
  | unknown hleft _ hs =>
      refine .unknown ⟨hleft.1, SymbolTable.NoneAt.of_append hleft.2⟩ ?_ hs
      simp [hrules]

/-- The segment is cut off the first piece alone, and off both pieces. -/
theorem Next.exists_rest {c : Char} {rest tail : List Char} {segment : Segment}
    (h : t.Next (c :: rest ++ tail) segment) (hrules : t.rules = [])
    (hle : segment.text.length ≤ (c :: rest).length) :
    ∃ more, c :: rest = segment.text ++ more ∧ more.length < (c :: rest).length ∧
      t.Next (segment.text ++ more) segment ∧ t.Next (segment.text ++ (more ++ tail)) segment := by
  have hnext := h.of_append hrules hle
  have hpos := List.length_pos_iff.mpr hnext.text_ne_nil
  obtain ⟨more, hmore⟩ := hnext.isPrefix
  refine ⟨more, hmore.symm, ?_, hmore.symm ▸ hnext, ?_⟩
  · rw [← hmore, List.length_append]
    omega
  · rw [← List.append_assoc, hmore]
    exact h

theorem Stops.of_append {c : Char} {rest tail : List Char} {ending : Ending}
    (h : t.Stops (c :: rest ++ tail) ending) (hrules : t.rules = []) :
    ending = .invalid c ∧ t.Stops (c :: rest) (.invalid c) := by
  cases h with
  | invalid hleft _ hs =>
      refine ⟨rfl, .invalid ⟨hleft.1, SymbolTable.NoneAt.of_append hleft.2⟩ ?_ hs⟩
      simp [hrules]
  | failed _ hr => exact absurd hrules hr.ne_nil

/-! ### Both pieces -/

theorem scanGeneral_of_stops {text : List Char} {ending : Ending} (h : t.Stops text ending) :
    t.scanGeneral text = ⟨[], ending⟩ :=
  scanGeneral_of_cuts .nil h

theorem scanGeneral_nil (t : Tokenizer) : t.scanGeneral [] = ⟨[], .finished⟩ :=
  scanGeneral_of_stops .finished

theorem scanGeneral_of_next {rest : List Char} {segment : Segment}
    (h : t.Next (segment.text ++ rest) segment) :
    t.scanGeneral (segment.text ++ rest) = (t.scanGeneral rest).prepend segment := by
  obtain ⟨left, hcuts, hstops⟩ := t.cuts_scanGeneral rest
  exact scanGeneral_of_cuts (.cons h rfl hcuts) hstops

theorem scanGeneral_ignored {chars : List Char} (h : ∀ c ∈ chars, c ∈ t.ignored)
    (rest : List Char) :
    t.scanGeneral (chars ++ rest) = (Scan.ofIgnored chars).followedBy (t.scanGeneral rest) := by
  obtain ⟨left, hcuts, hstops⟩ := t.cuts_scanGeneral rest
  exact scanGeneral_of_cuts ((Cuts.skipped h rest).append hcuts) hstops

/-- A scan of the text with `tail` behind it comes to a literal that begins in the text and goes on
into the tail. -/
inductive Crosses (t : Tokenizer) (tail : List Char) : List Char → Prop
  | here {stem literal : List Char} {s : Symbol} (hne : stem ≠ [])
      (hnext : t.Next (stem ++ tail) (.symbol s literal)) (hlt : stem.length < literal.length) :
      Crosses t tail stem
  | later {text : List Char} {segment : Segment}
      (hnext : t.Next (segment.text ++ (text ++ tail)) segment) (hcrosses : Crosses t tail text) :
      Crosses t tail (segment.text ++ text)

/-- Where no literal goes on from one piece into the next, the pieces can be scanned one after the
other. -/
theorem crosses_or_scanGeneral_append (hrules : t.rules = []) (text tail : List Char) :
    t.Crosses tail text ∨
      t.scanGeneral (text ++ tail) = (t.scanGeneral text).followedBy (t.scanGeneral tail) := by
  -- the induction is on what is left of the first piece
  induction hn : text.length using Nat.strong_induction_on generalizing text with
  | _ n ih =>
      cases text with
      | nil =>
          right
          rw [scanGeneral_nil]
          rfl
      | cons c rest =>
          obtain ⟨segment, hnext⟩ | ⟨ending, hstops⟩ := t.next_or_stops c (rest ++ tail)
          · by_cases hle : segment.text.length ≤ (c :: rest).length
            · obtain ⟨more, hmore, hshort, hfirst, hboth⟩ := hnext.exists_rest hrules hle
              rw [hmore]
              obtain hcrosses | hscan := ih _ (hn ▸ hshort) more rfl
              · exact .inl (.later hboth hcrosses)
              · right
                rw [List.append_assoc, scanGeneral_of_next hboth, scanGeneral_of_next hfirst, hscan,
                  Scan.prepend_followedBy]
            · left
              have hlt := Nat.lt_of_not_le hle
              obtain ⟨s, literal, rfl⟩ := hnext.eq_symbol hrules
                (Nat.lt_of_le_of_lt (Nat.succ_le_succ (Nat.zero_le _)) hlt)
              exact .here (List.cons_ne_nil c rest) hnext hlt
          · right
            obtain ⟨rfl, hstops'⟩ := Stops.of_append hstops hrules
            rw [List.cons_append, scanGeneral_of_stops hstops, scanGeneral_of_stops hstops']
            rfl

theorem scanGeneral_append (hrules : t.rules = []) {text tail : List Char}
    (h : ¬ t.Crosses tail text) :
    t.scanGeneral (text ++ tail) = (t.scanGeneral text).followedBy (t.scanGeneral tail) :=
  (crosses_or_scanGeneral_append hrules text tail).resolve_left h

/-- A literal that goes on into the tail has the first character of the tail in it. -/
theorem Crosses.exists_mem {c : Char} {tail text : List Char} (h : t.Crosses (c :: tail) text) :
    ∃ literal, (t.symbols.get? literal).isSome ∧ c ∈ literal.toList := by
  induction h with
  | @here stem literal s hne hnext hlt =>
      have hlongest := hnext.isLongest
      refine ⟨String.ofList literal, by simp [hlongest.get?], ?_⟩
      have hstart := hlongest.atStart
      rw [String.toList_ofList] at hstart ⊢
      obtain ⟨more, rfl⟩ := List.prefix_of_prefix_length_le (List.prefix_append stem (c :: tail))
        hstart (Nat.le_of_lt hlt)
      cases more with
      | nil => simp at hlt
      | cons d more =>
          rw [List.prefix_append_right_inj, List.cons_prefix_cons] at hstart
          simp [hstart.1]
  | later _ _ ih => exact ih

theorem not_crosses_of_literalsAvoid {c : Char} {tail text : List Char}
    (havoid : t.LiteralsAvoid [c]) : ¬ t.Crosses (c :: tail) text := by
  intro h
  obtain ⟨literal, hsome, hc⟩ := h.exists_mem
  exact havoid literal hsome c hc (by simp)

end Tokenizer

end RuleLexer

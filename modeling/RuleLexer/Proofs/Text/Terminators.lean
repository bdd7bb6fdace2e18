import RuleLexer.Proofs.Text.Lines

/-!
Lines and what ends them. Splitting a text into lines and joining lines with
their terminators undo each other, as long as no carriage return is followed by
the line feed of an empty line: those two characters are one terminator.
-/

namespace RuleLexer

namespace Line

/-- What ends a line: a carriage return with a line feed, or one boundary character. -/
inductive IsTerminator : List Char → Prop
  | pair : IsTerminator ['\r', '\n']
  | single {c : Char} (hc : isLineBoundary c = true) : IsTerminator [c]

/-- A line with what ends it, which is nothing if the text ends with the line. -/
structure Ended where
  text : List Char
  terminator : List Char
  deriving DecidableEq, Repr

/-- No line has a boundary in it and each has a terminator. The last may go without, but then it
is not empty. A carriage return is not followed by an empty line that a line feed ends. -/
inductive WellEnded : List Ended → Prop
  | nil : WellEnded []
  | last {text : List Char} (hnone : ∀ c ∈ text, isLineBoundary c = false) (hne : text ≠ []) :
      WellEnded [⟨text, []⟩]
  | cons {text terminator : List Char} {lines : List Ended}
      (hnone : ∀ c ∈ text, isLineBoundary c = false) (hterminator : IsTerminator terminator)
      (hpair : terminator = ['\r'] → lines.head? ≠ some ⟨[], ['\n']⟩) (hlines : WellEnded lines) :
      WellEnded (⟨text, terminator⟩ :: lines)

/-- The text of lines with their terminators. -/
def join (lines : List Ended) : List Char :=
  lines.flatMap fun line => line.text ++ line.terminator

@[simp] theorem join_nil : join [] = [] := rfl

@[simp] theorem join_cons (line : Ended) (lines : List Ended) :
    join (line :: lines) = line.text ++ (line.terminator ++ join lines) := by
  rw [join, List.flatMap_cons, List.append_assoc, join]

/-- The lines without their terminators. Each starts behind all that is before it. -/
def placeAfter (before : List Char) : List Ended → List Line
  | [] => []
  | line :: lines =>
    ⟨byteLength before, line.text⟩ :: placeAfter (before ++ (line.text ++ line.terminator)) lines

/-! ### A text has only one list of lines -/

/-- Where no line feed follows a carriage return, a character is read by itself. -/
theorem splitFrom_cons {c : Char} {rest : List Char}
    (hpair : ∀ behind, c = '\r' → rest ≠ '\n' :: behind) (start : Nat) (seen : List Char) :
    splitFrom start seen (c :: rest) =
      if isLineBoundary c then
        ⟨start, seen.reverse⟩ :: splitFrom (start + byteLength seen + c.utf8Size) [] rest
      else splitFrom start (c :: seen) rest := by
  rw [splitFrom.eq_def]
  split
  case h_1 heq => cases heq
  case h_2 behind heq =>
    obtain ⟨rfl, rfl⟩ := List.cons.inj heq
    exact absurd rfl (hpair behind rfl)
  case h_3 heq =>
    obtain ⟨rfl, rfl⟩ := List.cons.inj heq
    rfl

theorem splitFrom_append {text : List Char} (hnone : ∀ c ∈ text, isLineBoundary c = false)
    (start : Nat) (seen rest : List Char) :
    splitFrom start seen (text ++ rest) = splitFrom start (text.reverse ++ seen) rest := by
  induction text generalizing seen with
  | nil => rfl
  | cons c text ih =>
      obtain ⟨hc, htext⟩ := List.forall_mem_cons.mp hnone
      have hreturn : c ≠ '\r' := by
        rintro rfl
        cases hc
      have hstep : splitFrom start seen (c :: (text ++ rest)) =
          splitFrom start (c :: seen) (text ++ rest) := by
        rw [splitFrom_cons fun _ h => absurd h hreturn, hc]
        rfl
      rw [List.cons_append, hstep, ih htext, List.reverse_cons, List.append_assoc,
        List.singleton_append]

theorem EndsBefore.splitFrom {terminator rest : List Char} (h : EndsBefore terminator rest)
    (start : Nat) (seen : List Char) :
    Line.splitFrom start seen (terminator ++ rest) =
      ⟨start, seen.reverse⟩ ::
        Line.splitFrom (start + byteLength seen + byteLength terminator) [] rest := by
  cases h with
  | pair => rfl
  | @single c rest hc hpair =>
      rw [List.singleton_append, splitFrom_cons hpair, if_pos hc]
      rfl

theorem Splits.eq_splitFrom {start : Nat} {text : List Char} {lines : List Line}
    (h : Splits start text lines) : lines = splitFrom start [] text := by
  induction h with
  | nil => rfl
  | @last start text hne hnone =>
      have hall := splitFrom_append hnone start [] []
      rw [List.append_nil, List.append_nil] at hall
      rw [hall, splitFrom.eq_def]
      simp [hne]
  | @cons start text terminator rest lines hnone hends _ ih =>
      rw [splitFrom_append hnone, hends.splitFrom, ih, List.append_nil, List.reverse_reverse,
        byteLength_reverse]

/-! ### Lines and lines with their terminators -/

/-- A text starts with a line feed only if its first line is empty and ends there. -/
theorem WellEnded.head?_of_join {lines : List Ended} (h : WellEnded lines) {behind : List Char}
    (hjoin : join lines = '\n' :: behind) : lines.head? = some ⟨[], ['\n']⟩ := by
  cases h with
  | nil => cases hjoin
  | @last text hnone hne =>
      obtain ⟨c, text, rfl⟩ := List.exists_cons_of_ne_nil hne
      cases hjoin
      cases hnone '\n' (by simp)
  | @cons text terminator lines hnone hterminator =>
      cases text with
      | cons c text =>
          cases hjoin
          cases hnone '\n' (by simp)
      | nil =>
          cases hterminator with
          | pair => cases hjoin
          | single => cases hjoin; rfl

/-- Nothing but a line feed behind a carriage return takes part in its terminator. -/
theorem IsTerminator.endsBefore {terminator : List Char} {lines : List Ended}
    (h : IsTerminator terminator) (hlines : WellEnded lines)
    (hpair : terminator = ['\r'] → lines.head? ≠ some ⟨[], ['\n']⟩) :
    EndsBefore terminator (join lines) := by
  cases h with
  | pair => exact .pair _
  | single hc =>
      refine .single hc fun behind hreturn hjoin => ?_
      exact hpair (by rw [hreturn]) (hlines.head?_of_join hjoin)

theorem WellEnded.splits {lines : List Ended} (h : WellEnded lines) (before : List Char) :
    Splits (byteLength before) (join lines) (placeAfter before lines) := by
  induction h generalizing before with
  | nil => exact .nil
  | @last text hnone hne =>
      rw [join_cons, join_nil, List.append_nil, List.append_nil]
      exact .last hne hnone
  | @cons text terminator lines hnone hterminator hpair hlines ih =>
      rw [join_cons]
      refine .cons hnone (hterminator.endsBefore hlines hpair) ?_
      have hrest := ih (before ++ (text ++ terminator))
      rwa [byteLength_append, byteLength_append, ← Nat.add_assoc] at hrest

/-- Every line of a text has a terminator in the text, or ends with it. -/
theorem Splits.exists_wellEnded {start : Nat} {text : List Char} {lines : List Line}
    (h : Splits start text lines) {before : List Char} (hstart : byteLength before = start) :
    ∃ ended, WellEnded ended ∧ join ended = text ∧ placeAfter before ended = lines := by
  induction h generalizing before with
  | nil => exact ⟨[], .nil, rfl, rfl⟩
  | @last start text hne hnone =>
      refine ⟨[⟨text, []⟩], .last hnone hne, by simp, ?_⟩
      rw [placeAfter, hstart, placeAfter]
  | @cons start text terminator rest lines hnone hends _ ih =>
      have hbehind : byteLength (before ++ (text ++ terminator)) =
          start + byteLength text + byteLength terminator := by
        rw [byteLength_append, byteLength_append, hstart, Nat.add_assoc]
      obtain ⟨ended, hended, rfl, rfl⟩ := ih hbehind
      refine ⟨⟨text, terminator⟩ :: ended, ?_, join_cons _ _, by rw [placeAfter, hstart]⟩
      cases hends with
      | pair => exact .cons hnone .pair (by simp) hended
      | @single c _ hc hpair =>
          refine .cons hnone (.single hc) (fun hreturn hhead => ?_) hended
          -- the rest of the text would start with the line feed of the empty line
          obtain ⟨behind, rfl⟩ := List.head?_eq_some_iff.mp hhead
          exact hpair (join behind) (List.singleton_inj.mp hreturn) rfl

theorem WellEnded.tail {line : Ended} {lines : List Ended} (h : WellEnded (line :: lines)) :
    WellEnded lines := by
  cases h with
  | last => exact .nil
  | cons _ _ _ hlines => exact hlines

/-- No carriage return is cut off from a line feed. -/
theorem WellEnded.join_ne {before after : List Ended} {line : Ended}
    (h : WellEnded (before ++ line :: after)) (hreturn : line.terminator = ['\r'])
    (behind : List Char) : join after ≠ '\n' :: behind := by
  induction before with
  | nil =>
      cases h with
      | last => cases hreturn
      | cons _ _ hpair hlines => exact fun hjoin => hpair hreturn (hlines.head?_of_join hjoin)
  | cons first before ih => exact ih h.tail

/-- Splitting and joining undo each other. Every text is its lines with terminators between them,
of which none is cut in two, and each line starts at the byte behind all that is before it. Lines
that are joined with terminators are the lines of the joined text. -/
theorem split_join :
    (∀ text, ∃ lines, WellEnded lines ∧ join lines = text ∧ split text = placeAfter [] lines ∧
      ∀ before line after, lines = before ++ line :: after → line.terminator = ['\r'] →
        ∀ behind, join after ≠ '\n' :: behind) ∧
    (∀ lines, WellEnded lines → split (join lines) = placeAfter [] lines) ∧
    split [] = [] := by
  refine ⟨fun text => ?_, fun lines h => ?_, split_nil⟩
  · obtain ⟨lines, hlines, hjoin, hplace⟩ :=
      (splits_split text).exists_wellEnded byteLength_nil
    refine ⟨lines, hlines, hjoin, hplace.symm, ?_⟩
    rintro before line after rfl hreturn
    exact hlines.join_ne hreturn
  · exact (h.splits []).eq_splitFrom.symm

/-- The first carriage return is a terminator by itself, the second is one with the line feed. -/
example : split ['a', '\r', '\r', '\n', 'b', '\u2028'] = [⟨0, ['a']⟩, ⟨2, []⟩, ⟨4, ['b']⟩] := by
  decide

end Line

end RuleLexer

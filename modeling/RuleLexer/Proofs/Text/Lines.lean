import RuleLexer.Proofs.Text.Boundary
import RuleLexer.Text.Lines

/-!
The lines of a text. A text is cut into lines at its boundaries, of which a
carriage return with a line feed behind it makes one. Each line is a stretch of
the text that starts at the byte it tells, and has no boundary in it.
-/

namespace RuleLexer

namespace Line

/-- What ends a line, with the text behind it. A carriage return takes a line feed with it. -/
inductive EndsBefore : List Char → List Char → Prop
  | pair (rest : List Char) : EndsBefore ['\r', '\n'] rest
  | single {c : Char} {rest : List Char} (hc : isLineBoundary c = true)
      (hpair : ∀ behind, c = '\r' → rest ≠ '\n' :: behind) : EndsBefore [c] rest

/-- These are the lines of the text, of which the first starts at byte `start`. -/
inductive Splits : Nat → List Char → List Line → Prop
  | nil {start : Nat} : Splits start [] []
  | last {start : Nat} {text : List Char} (hne : text ≠ [])
      (hnone : ∀ c ∈ text, isLineBoundary c = false) : Splits start text [⟨start, text⟩]
  | cons {start : Nat} {text terminator rest : List Char} {lines : List Line}
      (hnone : ∀ c ∈ text, isLineBoundary c = false) (hends : EndsBefore terminator rest)
      (hlines : Splits (start + byteLength text + byteLength terminator) rest lines) :
      Splits start (text ++ (terminator ++ rest)) (⟨start, text⟩ :: lines)

theorem byteLength_reverse (text : List Char) : byteLength text.reverse = byteLength text := by
  induction text with
  | nil => rfl
  | cons c text ih =>
      rw [List.reverse_cons, byteLength_append, ih, byteLength_cons, byteLength_cons,
        byteLength_nil, Nat.add_zero, Nat.add_comm]

theorem splits_splitFrom {seen : List Char} (hseen : ∀ c ∈ seen, isLineBoundary c = false)
    (start : Nat) (text : List Char) :
    Splits start (seen.reverse ++ text) (splitFrom start seen text) := by
  -- what has been read of the first line is the text before the first boundary
  have hnone {seen : List Char} (h : ∀ c ∈ seen, isLineBoundary c = false) :
      ∀ c ∈ seen.reverse, isLineBoundary c = false := fun c hc => h c (List.mem_reverse.mp hc)
  fun_induction splitFrom start seen text with
  | case1 start seen hempty =>
      rw [List.isEmpty_iff.mp hempty]
      exact .nil
  | case2 start seen hempty =>
      rw [List.append_nil]
      exact .last (by simpa using hempty) (hnone hseen)
  | case3 start seen rest ih =>
      refine .cons (hnone hseen) (.pair rest) ?_
      rw [byteLength_reverse]
      exact ih (List.forall_mem_nil _)
  | case4 start seen c rest hpair hc ih =>
      refine .cons (hnone hseen) (.single hc hpair) ?_
      rw [byteLength_reverse]
      exact ih (List.forall_mem_nil _)
  | case5 start seen c rest hpair hc ih =>
      have hall := ih (List.forall_mem_cons.mpr ⟨by simpa using hc, hseen⟩)
      rwa [List.reverse_cons, List.append_assoc] at hall

theorem splits_split (text : List Char) : Splits 0 text (split text) :=
  splits_splitFrom (List.forall_mem_nil _) 0 text

/-- The line stands in the text where it says that it starts. -/
def Within (line : Line) (text : List Char) : Prop :=
  ∃ before after, text = before ++ line.text ++ after ∧ byteLength before = line.start

theorem Splits.within {start : Nat} {text : List Char} {lines : List Line}
    (h : Splits start text lines) {before : List Char} (hstart : byteLength before = start) :
    ∀ line ∈ lines, line.Within (before ++ text) := by
  induction h generalizing before with
  | nil => exact List.forall_mem_nil _
  | @last start text =>
      rw [List.forall_mem_singleton]
      exact ⟨before, [], by simp, hstart⟩
  | @cons start text terminator rest lines hnone hends hlines ih =>
      rw [List.forall_mem_cons]
      constructor
      · exact ⟨before, terminator ++ rest, by simp, hstart⟩
      · have hbefore : byteLength (before ++ text ++ terminator) =
            start + byteLength text + byteLength terminator := by
          rw [byteLength_append, byteLength_append, hstart]
        have hwithin := ih hbefore
        simpa using hwithin

theorem Splits.boundary_notMem {start : Nat} {text : List Char} {lines : List Line}
    (h : Splits start text lines) : ∀ line ∈ lines, ∀ c ∈ line.text, isLineBoundary c = false := by
  induction h with
  | nil => exact List.forall_mem_nil _
  | last _ hnone => exact List.forall_mem_singleton.mpr hnone
  | cons hnone _ _ ih => exact List.forall_mem_cons.mpr ⟨hnone, ih⟩

theorem within_of_mem_split {text : List Char} {line : Line} (h : line ∈ split text) :
    line.Within text :=
  (splits_split text).within byteLength_nil line h

theorem lineFeed_notMem_of_mem_split {text : List Char} {line : Line} (h : line ∈ split text) :
    '\n' ∉ line.text := by
  intro hmem
  have hnone := (splits_split text).boundary_notMem line h '\n' hmem
  cases hnone

end Line

end RuleLexer

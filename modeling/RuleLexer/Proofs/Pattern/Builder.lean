import RuleLexer.Pattern.Parser
import RuleLexer.Proofs.Pattern.Lexeme

/-!
Building a pattern from a text with more text behind it and with more groups
open around it. A text that has been read is read the same there, up to the
white space and the comments that it ends with. They matter to what follows:
a closing parenthesis may be part of the last comment, which a line feed ends.
-/

namespace RuleLexer

namespace Pattern

namespace Builder

/-- The builder with more groups open around its own. -/
def within (b : Builder) (outer : List Level) : Builder :=
  { b with outer := b.outer ++ outer }

@[simp] theorem level_within (b : Builder) (outer : List Level) :
    (b.within outer).level = b.level := rfl

/-- What is pushed does not depend on groups further out, as long as none of them is closed. -/
theorem push?_within {b b' : Builder} {lexeme : Lexeme} (h : b.push? lexeme = some b')
    (outer : List Level) : (b.within outer).push? lexeme = some (b'.within outer) := by
  cases lexeme with
  | atom a =>
      obtain ⟨p, hp, rfl⟩ := Option.map_eq_some_iff.mp h
      simp [push?, hp, within]
  | repetition low high marked =>
      obtain ⟨l, hl, rfl⟩ := Option.map_eq_some_iff.mp h
      simp [push?, hl, within]
  | bar =>
      cases h
      rfl
  | directive changes =>
      cases h
      rfl
  | opening o =>
      cases o with
      | group changes =>
          cases h
          rfl
      | capture name =>
          rw [push?] at h ⊢
          split_ifs at h with hname
          cases h
          simp only [within, hname]
          rfl
  | closing =>
      rw [push?] at h ⊢
      cases houter : b.outer with
      | nil => simp [houter] at h
      | cons l levels =>
          simp only [houter] at h
          cases h
          simp [within, houter]

theorem verbose_of_push? {b b' : Builder} {lexeme : Lexeme} (h : b.push? lexeme = some b')
    (hkeeps : lexeme.keepsMode = true) :
    b'.level.mode.verbose = b.level.mode.verbose := by
  cases lexeme with
  | repetition low high marked =>
      obtain ⟨l, hl, rfl⟩ := Option.map_eq_some_iff.mp h
      rw [Level.repeat?.eq_def] at hl
      split at hl
      · cases hl
        rfl
      · cases hl
  | opening o =>
      cases o with
      | group changes => cases hkeeps
      | capture name =>
          rw [push?] at h
          split_ifs at h
          cases h
          rfl
  | atom a => cases hkeeps
  | bar => cases hkeeps
  | directive changes => cases hkeeps
  | closing => cases hkeeps

theorem read?_congr {b : Builder} {text text' : List Char}
    (h : skip b.level.mode.verbose text = skip b.level.mode.verbose text') (fuel : Nat) :
    read? fuel b text = read? fuel b text' := by
  cases fuel with
  | zero => rw [read?, read?, h]
  | succ fuel => rw [read?, read?, h]

/-- After a step the text that is left differs in trivia only from what was left before with more
text behind it. -/
theorem exists_rest_of_push? {b b' : Builder} {c : Char} {text rest : List Char} {lexeme : Lexeme}
    (hread : Lexeme.read? b.level.mode.verbose (c :: text) = some (lexeme, rest))
    (hpush : b.push? lexeme = some b') :
    ∃ rest₁, skip b'.level.mode.verbose rest₁ = skip b'.level.mode.verbose rest ∧
      ∀ tail, Closes tail → ∃ rest',
        Lexeme.read? b.level.mode.verbose (c :: (text ++ tail)) = some (lexeme, rest') ∧
          skip b'.level.mode.verbose rest' = skip b'.level.mode.verbose (rest₁ ++ tail) := by
  rcases Lexeme.read?_append hread with hgoes | ⟨rfl, hkeeps, trivia, htrivia, hgoes⟩
  · exact ⟨rest, rfl, fun tail htail => ⟨rest ++ tail, hgoes tail htail, rfl⟩⟩
  · -- Trivia was skipped in the mode before the lexeme, and this is still the mode behind it.
    have hverbose := verbose_of_push? hpush hkeeps
    refine ⟨trivia, ?_, fun tail htail => ⟨_, hgoes tail htail, ?_⟩⟩
    · rw [hverbose, htrivia, ← htrivia, skip_skip]
    · rw [hverbose, skip_skip]

theorem read?_append {fuel : Nat} {b b' : Builder} {text : List Char}
    (h : read? fuel b text = some b') :
    ∃ trivia left, skip b'.level.mode.verbose trivia = [] ∧
      ∀ tail, Closes tail → ∀ outer more,
        read? (fuel + more) (b.within outer) (text ++ tail) =
          read? (left + more) (b'.within outer) (trivia ++ tail) := by
  -- The fuel that the text leaves over is passed on, so that reading goes on with it in the tail.
  induction fuel generalizing b text with
  | zero =>
      rw [read?] at h
      split_ifs at h with hskip
      cases h
      exact ⟨text, 0, hskip, fun _ _ _ _ => rfl⟩
  | succ fuel ih =>
      cases hskip : skip b.level.mode.verbose text with
      | nil =>
          rw [read?, hskip] at h
          cases h
          exact ⟨text, fuel + 1, hskip, fun _ _ _ _ => rfl⟩
      | cons c after =>
          simp only [read?, hskip] at h
          cases hread : Lexeme.read? b.level.mode.verbose (c :: after) with
          | none => simp [hread] at h
          | some found =>
              obtain ⟨lexeme, rest⟩ := found
              simp only [hread] at h
              cases hpush : b.push? lexeme with
              | none => simp [hpush] at h
              | some b₁ =>
                  simp only [hpush] at h
                  obtain ⟨rest₁, hrest₁, hstep⟩ := exists_rest_of_push? hread hpush
                  rw [read?_congr hrest₁.symm] at h
                  obtain ⟨trivia, left, htrivia, hmore⟩ := ih h
                  refine ⟨trivia, left, htrivia, fun tail htail outer more => ?_⟩
                  obtain ⟨rest', hread', hrest'⟩ := hstep tail htail
                  rw [Nat.add_right_comm, read?, level_within, skip_append_of_cons tail hskip]
                  simp only [hread', push?_within hpush]
                  rw [read?_congr (b := b₁.within outer) hrest', hmore tail htail]

@[simp] theorem within_nil (b : Builder) : b.within [] = b := by
  simp [within]

end Builder

/-! ### A closing parenthesis or a line feed behind a text -/

namespace Builder

theorem read?_of_skip_eq_nil {b : Builder} {text : List Char}
    (h : skip b.level.mode.verbose text = []) (fuel : Nat) : read? fuel b text = some b := by
  cases fuel with
  | zero => rw [read?, if_pos h]
  | succ fuel => rw [read?, h]

theorem read?_closing {b : Builder} {text : List Char}
    (h : skip b.level.mode.verbose text = [')']) (fuel : Nat) :
    read? (fuel + 1) b text = b.push? .closing := by
  rw [read?, h]
  simp only [Lexeme.read?]
  cases hpush : b.push? .closing with
  | none => rfl
  | some b' =>
      simp only
      exact read?_of_skip_eq_nil (by cases b'.level.mode.verbose <;> rfl) fuel

theorem push?_closing_ne (b : Builder) : b.push? .closing ≠ some b := by
  intro h
  rw [push?] at h
  cases houter : b.outer with
  | nil => simp [houter] at h
  | cons l levels =>
      simp only [houter, Option.some.injEq] at h
      have hlength := congrArg (fun b => b.outer.length) h
      simp [houter] at hlength

theorem exists_push?_newline (b : Builder) :
    ∃ b', b.push? (.atom (.char '\n')) = some b' ∧ b'.outer = b.outer ∧
      b'.level.mode = b.level.mode := by
  have hpattern : ∃ p, (Atom.char '\n').pattern? b.level.mode = some p := by
    rw [Atom.char, Atom.pattern?, Literal.pattern?]
    split_ifs with hbyte hcase
    · simp at hbyte
    · exact ⟨_, rfl⟩
    · exact ⟨_, rfl⟩
  obtain ⟨p, hp⟩ := hpattern
  refine ⟨{ b with level := b.level.add p (Atom.char '\n').depth }, ?_, rfl, rfl⟩
  rw [push?, hp]
  rfl

/-- Behind a line feed no comment is open. In verbose mode the line feed is nothing else. -/
theorem read?_append_newline {fuel : Nat} {b b' : Builder} {text : List Char}
    (h : read? fuel b text = some b') :
    ∃ b'', b''.outer = b'.outer ∧ b''.level.mode = b'.level.mode ∧
      (b'.level.mode.verbose = true → b'' = b') ∧
      read? (fuel + 1) b (text ++ ['\n']) = some b'' ∧
      read? (fuel + 2) b (text ++ ['\n', ')']) = b''.push? .closing := by
  obtain ⟨trivia, left, htrivia, hmore⟩ := read?_append h
  have hread (tail : List Char) (htail : Closes tail) (more : Nat) :
      read? (fuel + more) b (text ++ tail) = read? (left + more) b' (trivia ++ tail) := by
    simpa using hmore tail htail [] more
  rw [hread _ (by simp [Closes]), hread _ (by simp [Closes])]
  cases hverbose : b'.level.mode.verbose with
  | true =>
      rw [hverbose] at htrivia
      have hskip (text : List Char) :
          skip b'.level.mode.verbose (trivia ++ '\n' :: text) =
            skip b'.level.mode.verbose text := by
        rw [hverbose, skip_append_newline htrivia]
      refine ⟨b', rfl, rfl, fun _ => rfl, ?_, ?_⟩
      · exact read?_of_skip_eq_nil (by rw [hskip, hverbose]; rfl) _
      · rw [read?_congr (hskip _)]
        exact read?_closing (by rw [hverbose]; rfl) _
  | false =>
      rw [hverbose] at htrivia
      obtain rfl : trivia = [] := htrivia
      obtain ⟨b'', hpush, houter, hmode⟩ := b'.exists_push?_newline
      have hstep (fuel : Nat) (text : List Char) :
          read? (fuel + 1) b' ('\n' :: text) = read? fuel b'' text := by
        have hlexeme : Lexeme.read? false ('\n' :: text) = some (.atom (.char '\n'), text) := rfl
        rw [read?, hverbose]
        simp only [skip, Bool.false_eq_true, if_false, hlexeme, hpush]
      refine ⟨b'', houter, hmode, by simp, ?_, ?_⟩
      · rw [List.nil_append, hstep]
        exact read?_of_skip_eq_nil (by rw [hmode, hverbose]; rfl) _
      · rw [List.nil_append, ← Nat.add_assoc left 1 1, hstep]
        exact read?_closing (by rw [hmode, hverbose]; rfl) _

end Builder

end Pattern

end RuleLexer

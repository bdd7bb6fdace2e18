import RuleLexer.Proofs.Pattern.Assertion
import RuleLexer.Proofs.Pattern.Builder

/-!
A pattern text in a group behind an assertion that the text starts there. If
the text is valid by itself it cannot close the group, and the pattern is the
one that the text has by itself, behind the assertion. It is refused only if
the parenthesis that should close the group is part of a comment or if the
group is one too many.
-/

namespace RuleLexer

namespace Pattern

/-! ### What a text comes to -/

/-- What has been built when a text has been read. -/
def readText? (mode : Mode) (text : List Char) : Option Builder :=
  Builder.read? text.length (.start mode) text

/-- A closing parenthesis behind the text would change nothing: it would be part of a comment. -/
def EndsInComment (mode : Mode) (text : List Char) : Prop :=
  (readText? mode text).isSome = true ∧ readText? mode (text ++ [')']) = readText? mode text

instance (mode : Mode) (text : List Char) : Decidable (EndsInComment mode text) :=
  inferInstanceAs (Decidable (_ ∧ _))

/-- Whether verbose mode is on at the end of the text. -/
def endsVerbose (mode : Mode) (text : List Char) : Bool :=
  (readText? mode text).any fun b => b.level.mode.verbose

/-- How deep a text is nested that leaves no group open. -/
def nesting? (mode : Mode) (text : List Char) : Option Nat := do
  let b ← readText? mode text
  if b.outer = [] then some b.level.group.depth else none

/-- The pattern of all branches of a group. A group always comes to one. -/
def Level.pattern (l : Level) : Pattern := l.group.pattern.getD empty

theorem Level.group_eq (l : Level) : l.group = ⟨some l.pattern, l.group.depth⟩ := rfl

theorem Builder.finish?_of_outer {b : Builder} (h : b.outer = []) :
    b.finish? = if b.level.group.depth ≤ depthLimit then some b.level.pattern else none := by
  rw [finish?, h, Level.group_eq]

theorem parse?_of_readText? {mode : Mode} {text : List Char} {b : Builder}
    (h : readText? mode text = some b) (houter : b.outer = []) :
    parse? mode text =
      if b.level.group.depth ≤ Builder.depthLimit then some b.level.pattern else none := by
  rw [← Builder.finish?_of_outer houter, parse?, ← readText?, h]
  rfl

theorem exists_readText?_of_parse? {mode : Mode} {text : List Char} {p : Pattern}
    (h : parse? mode text = some p) :
    ∃ b, readText? mode text = some b ∧ b.outer = [] ∧ b.level.pattern = p := by
  obtain ⟨b, hb, hfinish⟩ := Option.bind_eq_some_iff.mp h
  cases houter : b.outer with
  | nil =>
      rw [Builder.finish?_of_outer houter] at hfinish
      split_ifs at hfinish
      exact ⟨b, hb, houter, Option.some.inj hfinish⟩
  | cons l outer => simp [Builder.finish?, houter] at hfinish

theorem normal_of_readText? {mode : Mode} {text : List Char} {b : Builder}
    (h : readText? mode text = some b) : b.level.pattern.Normal :=
  ((Builder.normal_start mode).read? h).level.group b.level.pattern rfl

/-! ### A closing parenthesis behind a text -/

/-- A closing parenthesis that is read as one is not part of a comment. -/
theorem not_endsInComment_of_closing {mode : Mode} {text : List Char} {b : Builder}
    (h : readText? mode text = some b)
    (hclosing : readText? mode (text ++ [')']) = b.push? .closing) :
    ¬ EndsInComment mode text := by
  intro hcomment
  apply b.push?_closing_ne
  rw [← hclosing, hcomment.2, h]

/-- A closing parenthesis behind a text is either read as one or part of a comment, whatever groups
are open around. -/
theorem read?_append_closing {mode : Mode} {text : List Char} {b : Builder}
    (h : readText? mode text = some b) :
    (EndsInComment mode text ∧ ∀ outer more,
      Builder.read? (text.length + more) ((Builder.start mode).within outer) (text ++ [')']) =
        some (b.within outer)) ∨
    (¬ EndsInComment mode text ∧ ∀ outer more,
      Builder.read? (text.length + (more + 1)) ((Builder.start mode).within outer)
        (text ++ [')']) = (b.within outer).push? .closing) := by
  obtain ⟨trivia, left, htrivia, hmore⟩ := Builder.read?_append h
  have htail : Closes [')'] := by simp [Closes]
  have hlength : (text ++ [')']).length = text.length + 1 := by simp
  rcases skip_closing htrivia with hskip | hskip
  · have hread (outer : List Level) (more : Nat) :
        Builder.read? (text.length + more) ((Builder.start mode).within outer) (text ++ [')']) =
          some (b.within outer) := by
      rw [hmore _ htail]
      exact Builder.read?_of_skip_eq_nil (b := b.within outer) hskip _
    refine .inl ⟨⟨by simp [h], ?_⟩, hread⟩
    rw [h, readText?, hlength]
    simpa using hread [] 1
  · have hread (outer : List Level) (more : Nat) :
        Builder.read? (text.length + (more + 1)) ((Builder.start mode).within outer)
          (text ++ [')']) = (b.within outer).push? .closing := by
      rw [hmore _ htail, ← Nat.add_assoc]
      exact Builder.read?_closing (b := b.within outer) hskip _
    refine .inr ⟨not_endsInComment_of_closing h ?_, hread⟩
    rw [readText?, hlength]
    simpa using hread [] 0

/-! ### The group behind the assertion -/

/-- The text in a group behind an assertion that the text starts there. -/
def anchored (text : List Char) : List Char :=
  ['\\', 'A', '(', '?', ':'] ++ (text ++ [')'])

/-- What is open around the group. -/
def anchorLevel (mode : Mode) : Level :=
  ⟨none, mode, [], [⟨some (look .textStart), 0⟩]⟩

theorem readText?_anchored (mode : Mode) (text : List Char) :
    readText? mode (anchored text) =
      Builder.read? (text.length + 4) ((Builder.start mode).within [anchorLevel mode])
        (text ++ [')']) := by
  have hlength : (anchored text).length = text.length + 4 + 1 + 1 := by simp [anchored]
  have hassertion (rest : List Char) :
      Lexeme.read? mode.verbose ('\\' :: 'A' :: rest) = some (.atom .textStart, rest) := rfl
  have hopening (rest : List Char) :
      Lexeme.read? mode.verbose ('(' :: '?' :: ':' :: rest) =
        some (.opening (.group []), rest) := by
    rw [Lexeme.read?, skip_cons _ (by decide) (by decide)]
    rfl
  rw [readText?, hlength, Builder.read?, anchored, List.cons_append,
    skip_cons _ (by decide) (by decide)]
  simp only [Builder.start, List.cons_append, List.nil_append, hassertion, Builder.push?,
    Atom.pattern?, Option.map_some]
  rw [Builder.read?, skip_cons _ (by decide) (by decide)]
  simp only [Level.add, hopening]
  rfl

/-- The group around the assertion once the group behind it has been closed. -/
theorem group_anchorLevel (mode : Mode) (p : Pattern) (depth : Nat) :
    { anchorLevel mode with items := ⟨some p, depth + 1⟩ :: (anchorLevel mode).items }.group =
      ⟨some (behindAnchor p), depth + 2⟩ := by
  have hbranches : (behindAnchor p).branches = [behindAnchor p] :=
    (startsWithLook_concat .textStart p).branches
  have hgroup : { anchorLevel mode with
      items := ⟨some p, depth + 1⟩ :: (anchorLevel mode).items }.group =
        ⟨some (alternate [behindAnchor p]), depth + 2⟩ := rfl
  rw [hgroup, alternate_singleton hbranches]

theorem finish?_anchored {mode : Mode} {b : Builder} (houter : b.outer = []) :
    ((b.within [anchorLevel mode]).push? .closing).bind Builder.finish? =
      if b.level.group.depth + 2 ≤ Builder.depthLimit then some (behindAnchor b.level.pattern)
      else none := by
  rw [Builder.push?, Builder.within, houter]
  simp only [List.nil_append, Option.bind_some]
  rw [Level.group_eq b.level]
  simp only [Builder.finish?, group_anchorLevel]

theorem parse?_anchored {mode : Mode} {text : List Char} {b : Builder}
    (h : readText? mode text = some b) (houter : b.outer = []) :
    parse? mode (anchored text) =
      if EndsInComment mode text ∨ Builder.depthLimit < b.level.group.depth + 2 then none
      else some (behindAnchor b.level.pattern) := by
  have hparse : parse? mode (anchored text) =
      (readText? mode (anchored text)).bind Builder.finish? := rfl
  rw [hparse, readText?_anchored]
  rcases read?_append_closing h with ⟨hcomment, hread⟩ | ⟨hcomment, hread⟩
  · -- the group has been left open
    rw [if_pos (.inl hcomment), hread]
    simp [Builder.within, houter, Builder.finish?]
  · rw [hread, finish?_anchored houter]
    by_cases hdepth : b.level.group.depth + 2 ≤ Builder.depthLimit
    · rw [if_pos hdepth, if_neg (by simp [hcomment, hdepth])]
    · rw [if_neg hdepth, if_pos (.inr (Nat.lt_of_not_le hdepth))]

/-! ### A line feed behind a text -/

/-- A line feed keeps a text from ending in a comment. In verbose mode it is nothing else. -/
theorem readText?_append_newline {mode : Mode} {text : List Char} {b : Builder}
    (h : readText? mode text = some b) :
    ∃ b', readText? mode (text ++ ['\n']) = some b' ∧ b'.outer = b.outer ∧
      (b.level.mode.verbose = true → b' = b) ∧ ¬ EndsInComment mode (text ++ ['\n']) := by
  obtain ⟨b', houter, -, hverbose, hread, hclosing⟩ := Builder.read?_append_newline h
  have hlength : (text ++ ['\n']).length = text.length + 1 := by simp
  have hread' : readText? mode (text ++ ['\n']) = some b' := by rw [readText?, hlength, hread]
  refine ⟨b', hread', houter, hverbose, not_endsInComment_of_closing hread' ?_⟩
  rw [← hclosing, readText?]
  simp

end Pattern

end RuleLexer

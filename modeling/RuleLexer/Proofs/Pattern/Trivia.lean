import Mathlib.Data.List.TakeWhile
import Mathlib.Tactic.SplitIfs
import RuleLexer.Pattern.Trivia

/-!
Trivia with more text behind it. A text that has something else than trivia in
it is read the same if more text stands behind. If it has not, reading goes on
in that text, inside a comment or outside.
-/

namespace RuleLexer

namespace Pattern

theorem skipTrivia_append {inComment : Bool} {text : List Char} (tail : List Char)
    (h : skipTrivia inComment text ≠ []) :
    skipTrivia inComment (text ++ tail) = skipTrivia inComment text ++ tail := by
  induction text generalizing inComment with
  | nil => exact absurd rfl h
  | cons c rest ih =>
      simp only [List.cons_append, skipTrivia] at h ⊢
      split_ifs at h ⊢ with hcomment hspace hsharp
      · exact ih h
      · exact ih h
      · exact ih h
      · rfl

theorem skipTrivia_skipTrivia (inComment : Bool) (text : List Char) :
    skipTrivia false (skipTrivia inComment text) = skipTrivia inComment text := by
  fun_induction skipTrivia inComment text with
  | case1 => rfl
  | case2 _ _ ih => exact ih
  | case3 _ _ _ _ _ ih => exact ih
  | case4 _ _ _ _ ih => exact ih
  | case5 inComment c rest hcomment hspace hsharp => simp [skipTrivia, hspace, hsharp]

/-- Behind trivia reading goes on inside a comment or outside. -/
theorem exists_skipTrivia_append {inComment : Bool} {trivia : List Char}
    (h : skipTrivia inComment trivia = []) :
    ∃ inComment', ∀ tail, skipTrivia inComment (trivia ++ tail) = skipTrivia inComment' tail := by
  induction trivia generalizing inComment with
  | nil => exact ⟨inComment, fun _ => rfl⟩
  | cons c rest ih =>
      simp only [List.cons_append, skipTrivia] at h ⊢
      split_ifs at h ⊢ with hcomment hspace hsharp
      · exact ih h
      · exact ih h
      · exact ih h

theorem skip_append {verbose : Bool} {text : List Char} (tail : List Char)
    (h : skip verbose text ≠ []) : skip verbose (text ++ tail) = skip verbose text ++ tail := by
  cases verbose with
  | false => rfl
  | true => exact skipTrivia_append tail h

theorem skip_append_of_cons {verbose : Bool} {text rest : List Char} {c : Char} (tail : List Char)
    (h : skip verbose text = c :: rest) : skip verbose (text ++ tail) = c :: (rest ++ tail) := by
  rw [skip_append tail (by simp [h]), h, List.cons_append]

theorem skip_skip (verbose : Bool) (text : List Char) :
    skip verbose (skip verbose text) = skip verbose text := by
  cases verbose with
  | false => rfl
  | true => exact skipTrivia_skipTrivia false text

theorem mem_of_mem_skipTrivia {inComment : Bool} {text : List Char} {c : Char}
    (h : c ∈ skipTrivia inComment text) : c ∈ text := by
  induction text generalizing inComment with
  | nil => exact h
  | cons d rest ih =>
      rw [skipTrivia] at h
      split_ifs at h
      · exact List.mem_cons_of_mem d (ih h)
      · exact List.mem_cons_of_mem d (ih h)
      · exact List.mem_cons_of_mem d (ih h)
      · exact h

theorem skipTrivia_of_isWhiteSpace {inComment : Bool} {text : List Char}
    (h : ∀ c ∈ text, Unicode.isWhiteSpace c = true) : skipTrivia inComment text = [] := by
  induction text generalizing inComment with
  | nil => rfl
  | cons c rest ih =>
      obtain ⟨hc, hrest⟩ := List.forall_mem_cons.mp h
      rw [skipTrivia, if_pos hc, ih hrest, ih hrest, ite_self]

theorem skipTrivia_dropWhile (text : List Char) :
    skipTrivia false (text.dropWhile Unicode.isWhiteSpace) = skipTrivia false text := by
  induction text with
  | nil => rfl
  | cons c rest ih =>
      cases hc : Unicode.isWhiteSpace c with
      | false => rw [List.dropWhile_cons_of_neg (by simp [hc])]
      | true =>
          rw [List.dropWhile_cons_of_pos hc, ih, skipTrivia, if_neg Bool.false_ne_true, if_pos hc]

/-! ### Texts up to a mark -/

theorem dropWhile_append_of_cons {p : Char → Bool} {text rest : List Char} {c : Char}
    (tail : List Char) (h : text.dropWhile p = c :: rest) :
    (text ++ tail).dropWhile p = c :: (rest ++ tail) := by
  rw [List.dropWhile_append, h]
  rfl

theorem takeWhile_append_of_dropWhile {p : Char → Bool} {text rest : List Char} {c : Char}
    (tail : List Char) (h : text.dropWhile p = c :: rest) :
    (text ++ tail).takeWhile p = text.takeWhile p := by
  rw [List.takeWhile_append, if_neg]
  intro hlength
  have heq := congrArg List.length (List.takeWhile_append_dropWhile (p := p) (l := text))
  rw [List.length_append, h, List.length_cons] at heq
  omega

theorem readUntil?_append {close : Char} {verbose inComment : Bool} {text content rest : List Char}
    (tail : List Char) (h : readUntil? close verbose inComment text = some (content, rest)) :
    readUntil? close verbose inComment (text ++ tail) = some (content, rest ++ tail) := by
  induction text generalizing inComment content with
  | nil => cases h
  | cons c text ih =>
      simp only [List.cons_append, readUntil?] at h ⊢
      split_ifs at h ⊢ with hcomment hclose hspace hsharp
      · exact ih h
      · cases h
        rfl
      · exact ih h
      · exact ih h
      · obtain ⟨⟨content', rest'⟩, hrest, heq⟩ := Option.map_eq_some_iff.mp h
        cases heq
        rw [ih hrest]
        rfl

theorem readHex?_append {verbose inComment : Bool} {count value n : Nat} {text rest : List Char}
    (tail : List Char) (h : readHex? verbose inComment count value text = some (n, rest)) :
    readHex? verbose inComment count value (text ++ tail) = some (n, rest ++ tail) := by
  induction text generalizing inComment count value with
  | nil =>
      rw [readHex?] at h
      split_ifs at h with hcount
      cases h
      cases tail <;> simp [readHex?, hcount]
  | cons c text ih =>
      simp only [List.cons_append, readHex?] at h ⊢
      split_ifs at h ⊢ with hcount hcomment hspace hsharp
      · cases h
        rfl
      · exact ih h
      · exact ih h
      · exact ih h
      · split at h
        · exact ih h
        · cases h

/-! ### Ends of groups and of lines -/

/-- Text that changes nothing of how a text before it is read, up to the end of its last lexeme. -/
def Closes (tail : List Char) : Prop :=
  ∀ c ∈ tail, c = '\n' ∨ c = ')'

theorem Closes.head_ne {tail : List Char} {c d : Char} (htail : Closes (d :: tail))
    (hline : c ≠ '\n') (hclosing : c ≠ ')') : d ≠ c := by
  rintro rfl
  rcases htail d List.mem_cons_self with h | h
  · exact hline h
  · exact hclosing h

theorem Closes.skip {tail : List Char} (htail : Closes tail) {verbose : Bool} {trivia : List Char}
    (h : skip verbose trivia = []) : Closes (skip verbose (trivia ++ tail)) := by
  cases verbose with
  | false =>
      obtain rfl : trivia = [] := h
      exact htail
  | true =>
      obtain ⟨inComment, hskip⟩ := exists_skipTrivia_append h
      intro c hc
      rw [Pattern.skip, if_pos rfl, hskip] at hc
      exact htail c (mem_of_mem_skipTrivia hc)

theorem skip_cons {verbose : Bool} {c : Char} (text : List Char)
    (hspace : Unicode.isWhiteSpace c = false) (hsharp : c ≠ '#') :
    skip verbose (c :: text) = c :: text := by
  cases verbose with
  | false => rfl
  | true => simp [skip, skipTrivia, hspace, hsharp]

theorem skip_closing {verbose : Bool} {trivia : List Char} (h : skip verbose trivia = []) :
    skip verbose (trivia ++ [')']) = [] ∨ skip verbose (trivia ++ [')']) = [')'] := by
  cases verbose with
  | false =>
      obtain rfl : trivia = [] := h
      exact .inr rfl
  | true =>
      obtain ⟨inComment, hskip⟩ := exists_skipTrivia_append h
      rw [skip, if_pos rfl, hskip]
      cases inComment with
      | true => exact .inl rfl
      | false => exact .inr (by decide)

/-- A line feed ends a comment. -/
theorem skip_append_newline {trivia : List Char} (h : skip true trivia = []) (text : List Char) :
    skip true (trivia ++ '\n' :: text) = skip true text := by
  obtain ⟨inComment, hskip⟩ := exists_skipTrivia_append h
  rw [skip, if_pos rfl, hskip, skip, if_pos rfl]
  cases inComment with
  | true => rfl
  | false => rfl

end Pattern

end RuleLexer

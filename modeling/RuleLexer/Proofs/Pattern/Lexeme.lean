import RuleLexer.Proofs.Pattern.Class

/-!
Lexemes with more text behind them. A lexeme is read the same if the text behind
it goes on with closing parentheses and line feeds, except that trivia which was
skipped after it may go on there.
-/

namespace RuleLexer

namespace Pattern

/-! ### Groups -/

theorem splitAt?_append {mark : Char} {text before rest : List Char} (tail : List Char)
    (h : splitAt? mark text = some (before, rest)) :
    splitAt? mark (text ++ tail) = some (before, rest ++ tail) := by
  cases hdrop : text.dropWhile (· != mark) with
  | nil => simp [splitAt?, hdrop] at h
  | cons c after =>
      rw [splitAt?, hdrop] at h
      rw [splitAt?, dropWhile_append_of_cons tail hdrop, takeWhile_append_of_dropWhile tail hdrop]
      cases h
      rfl

theorem readName?_append {text rest : List Char} {lexeme : Lexeme} (tail : List Char)
    (h : readName? text = some (lexeme, rest)) :
    readName? (text ++ tail) = some (lexeme, rest ++ tail) := by
  rw [readName?] at h
  split at h
  next c name rest' hsplit =>
    split_ifs at h with hname
    cases h
    simp [readName?, splitAt?_append tail hsplit, hname]
  next => cases h

theorem readSwitches?_append {negative dangling colon : Bool} {seen : List Switch}
    {changes : ModeChange} {text rest : List Char} (tail : List Char)
    (h : readSwitches? negative dangling seen text = some (changes, colon, rest)) :
    readSwitches? negative dangling seen (text ++ tail) = some (changes, colon, rest ++ tail) := by
  induction text generalizing negative dangling seen changes with
  | nil => cases h
  | cons c text ih =>
      rw [readSwitches?.eq_def] at h
      rw [List.cons_append, readSwitches?.eq_def]
      split at h
      next => cases h
      next heq =>
        cases heq
        simp only
        split_ifs at h ⊢
        cases h
        rfl
      next heq =>
        cases heq
        simp only
        split_ifs at h ⊢
        cases h
        rfl
      next heq =>
        cases heq
        simp only
        split_ifs at h ⊢
        exact ih h
      next hcolon hclosing hhyphen heq =>
        cases heq
        cases hletter : Switch.ofLetter? c with
        | none => simp [hletter] at h
        | some switch =>
            simp only [hletter] at h ⊢
            split_ifs at h ⊢ with hseen
            obtain ⟨⟨changes', rest'⟩, hmore, heq⟩ := Option.map_eq_some_iff.mp h
            cases heq
            simp [ih hmore]

/-- Neither `?P<` nor `?<` can be the start of switches. -/
theorem readOpening?_append {tail text rest : List Char} {lexeme : Lexeme}
    (htail : Closes tail) (h : readOpening? text = some (lexeme, rest)) :
    readOpening? (text ++ tail) = some (lexeme, rest ++ tail) := by
  rw [readOpening?.eq_def] at h
  split at h
  next => exact readName?_append tail h
  next => cases h
  next => cases h
  next name hequal hbang =>
    cases name with
    | nil => cases h
    | cons d name =>
        have hd : d ≠ '=' ∧ d ≠ '!' := by
          constructor
          · rintro rfl
            exact hequal _ rfl
          · rintro rfl
            exact hbang _ rfl
        have hname := readName?_append tail h
        simpa [readOpening?, hd] using hname
  next switches hnamed hequal hbang hangle =>
    cases switches with
    | nil => cases h
    | cons d switches =>
        have hd : d ≠ 'P' ∧ d ≠ '<' := by
          constructor
          · rintro rfl
            cases h
          · rintro rfl
            exact hangle _ rfl
        cases hread : readSwitches? false false [] (d :: switches) with
        | none => simp [hread] at h
        | some found =>
            obtain ⟨changes, colon, after⟩ := found
            have hread' := readSwitches?_append tail hread
            rw [List.cons_append] at hread'
            simp only [hread] at h
            cases colon with
            | true =>
                cases h
                simp [readOpening?, hd, hread']
            | false =>
                cases changes with
                | nil => cases h
                | cons change changes =>
                    cases h
                    simp [readOpening?, hd, hread']
  next hmark =>
    cases h
    have hmark' (after : List Char) : text ++ tail ≠ '?' :: after := by
      intro heq
      cases text with
      | nil =>
          rw [List.nil_append] at heq
          subst heq
          exact htail.head_ne (c := '?') (by decide) (by decide) rfl
      | cons d text => exact hmark text (by rw [(List.cons.inj heq).1])
    rw [readOpening?.eq_def]
    split
    next heq => exact absurd heq (hmark' _)
    next heq => exact absurd heq (hmark' _)
    next heq => exact absurd heq (hmark' _)
    next heq => exact absurd heq (hmark' _)
    next heq => exact absurd heq (hmark' _)
    next => rfl

/-! ### Lexemes -/

theorem readMark_append {tail : List Char} (htail : Closes tail) {low : Nat} {high : Option Nat}
    (text : List Char) :
    readMark low high (text ++ tail) =
      ((readMark low high text).1, (readMark low high text).2 ++ tail) := by
  cases text with
  | nil =>
      cases tail with
      | nil => rfl
      | cons c tail =>
          have hc : c ≠ '?' := htail.head_ne (by decide) (by decide)
          simp [readMark, hc]
  | cons c text =>
      by_cases hc : c = '?'
      · subst hc
        rfl
      · simp [readMark, hc]

/-- The lexeme cannot change whether the text behind it is verbose. -/
def Lexeme.keepsMode : Lexeme → Bool
  | .repetition .. => true
  | .opening (.capture _) => true
  | _ => false

/-- A lexeme is read as before if more text stands behind. Trivia behind the lexeme is left as it
is, or else has been skipped to the end of the text and goes on in what stands there. -/
def Lexeme.GoesOn (read : List Char → Option (Lexeme × List Char)) (verbose : Bool)
    (text : List Char) (lexeme : Lexeme) (rest : List Char) : Prop :=
  (∀ tail, Closes tail → read (text ++ tail) = some (lexeme, rest ++ tail)) ∨
  (rest = [] ∧ lexeme.keepsMode = true ∧ ∃ trivia, skip verbose trivia = [] ∧
    ∀ tail, Closes tail → read (text ++ tail) = some (lexeme, skip verbose (trivia ++ tail)))

theorem readBounds?_append {verbose : Bool} {text rest : List Char} {lexeme : Lexeme}
    (h : readBounds? verbose text = some (lexeme, rest)) :
    lexeme.GoesOn (readBounds? verbose) verbose text rest := by
  simp only [readBounds?, Option.bind_eq_bind, Option.bind_eq_some_iff] at h
  obtain ⟨⟨content, after⟩, hcontent, ⟨low, high⟩, hbounds, heq⟩ := h
  have hread (tail : List Char) : readBounds? verbose (text ++ tail) =
      some (readMark low high (skip verbose (after ++ tail))) := by
    simp [readBounds?, readUntil?_append tail hcontent, hbounds]
  by_cases hskip : skip verbose after = []
  · rw [hskip] at heq
    cases heq
    refine .inr ⟨rfl, rfl, after, hskip, fun tail htail => ?_⟩
    have hmark : readMark low high (skip verbose (after ++ tail)) = _ :=
      readMark_append (htail.skip hskip) []
    rw [hread]
    exact congrArg some hmark
  · left
    intro tail htail
    rw [hread, skip_append tail hskip, readMark_append htail, Option.some.inj heq]

theorem readOpening?_skip_append {verbose : Bool} {text rest : List Char} {lexeme : Lexeme}
    (h : readOpening? (skip verbose text) = some (lexeme, rest)) :
    lexeme.GoesOn (fun text => readOpening? (skip verbose text)) verbose text rest := by
  by_cases hskip : skip verbose text = []
  · rw [hskip] at h
    cases h
    refine .inr ⟨rfl, rfl, text, hskip, fun tail htail => ?_⟩
    exact readOpening?_append (htail.skip hskip) (show readOpening? [] = _ from rfl)
  · left
    intro tail htail
    show readOpening? (skip verbose (text ++ tail)) = _
    rw [skip_append tail hskip]
    exact readOpening?_append htail h

theorem Lexeme.read?_append {verbose : Bool} {c : Char} {text rest : List Char} {lexeme : Lexeme}
    (h : Lexeme.read? verbose (c :: text) = some (lexeme, rest)) :
    lexeme.GoesOn (fun text => Lexeme.read? verbose (c :: text)) verbose text rest := by
  have hmark (low : Nat) (high : Option Nat)
      (h : some (readMark low high text) = some (lexeme, rest)) :
      lexeme.GoesOn (fun text => some (readMark low high text)) verbose text rest := by
    left
    intro tail htail
    show some (readMark low high (text ++ tail)) = _
    rw [readMark_append htail, Option.some.inj h]
  simp only [Lexeme.read?] at h
  split at h
  next => exact readOpening?_skip_append h
  next =>
    cases h
    exact .inl fun _ _ => rfl
  next =>
    cases h
    exact .inl fun _ _ => rfl
  next =>
    obtain ⟨⟨a, rest'⟩, hclass, heq⟩ := Option.map_eq_some_iff.mp h
    cases heq
    left
    intro tail htail
    simp [Lexeme.read?, readClass?_append htail hclass]
  next => exact hmark _ _ h
  next => exact hmark _ _ h
  next => exact hmark _ _ h
  next => exact readBounds?_append h
  next =>
    obtain ⟨⟨a, rest'⟩, hescape, heq⟩ := Option.map_eq_some_iff.mp h
    cases heq
    left
    intro tail htail
    simp [Lexeme.read?, readEscape?_append htail hescape]
  next =>
    cases h
    exact .inl fun _ _ => rfl
  next =>
    cases h
    exact .inl fun _ _ => rfl
  next =>
    cases h
    exact .inl fun _ _ => rfl
  next =>
    cases h
    left
    intro tail htail
    simp [Lexeme.read?, *]

end Pattern

end RuleLexer

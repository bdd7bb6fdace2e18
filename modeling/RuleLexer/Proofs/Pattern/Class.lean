import RuleLexer.Pattern.Lexeme
import RuleLexer.Proofs.Pattern.Trivia

/-!
Escapes and bracketed classes with more text behind them. Each shows where it
ends, so it is read the same whatever stands there, as long as that begins with
nothing that an escape or a class could go on with.
-/

namespace RuleLexer

namespace Pattern

/-! ### Escapes -/

theorem readCodePoint?_append {verbose : Bool} {count : Nat} {text rest : List Char} {a : Atom}
    (tail : List Char) (hcount : count ≠ 0)
    (h : readCodePoint? verbose count text = some (a, rest)) :
    readCodePoint? verbose count (text ++ tail) = some (a, rest ++ tail) := by
  cases hskip : skip verbose text with
  | nil => simp [readCodePoint?, hskip, readHex?, hcount] at h
  | cons c after =>
      have hskip' := skip_append_of_cons tail hskip
      by_cases hbrace : c = '\x7b'
      · subst hbrace
        simp only [readCodePoint?, hskip, hskip', Option.bind_eq_bind,
          Option.bind_eq_some_iff] at h ⊢
        obtain ⟨⟨digits, rest'⟩, hdigits, c, hc, heq⟩ := h
        cases heq
        exact ⟨_, readUntil?_append tail hdigits, c, hc, rfl⟩
      · simp only [readCodePoint?, hskip, hskip', List.cons.injEq, hbrace, false_and, imp_self,
          implies_true, Option.bind_eq_bind, Option.bind_eq_some_iff] at h ⊢
        obtain ⟨⟨point, rest'⟩, hpoint, c, hc, heq⟩ := h
        cases heq
        exact ⟨_, readHex?_append tail hpoint, c, hc, rfl⟩

theorem readProperty?_append {verbose negated : Bool} {text rest : List Char} {a : Atom}
    (tail : List Char) (h : readProperty? verbose negated text = some (a, rest)) :
    readProperty? verbose negated (text ++ tail) = some (a, rest ++ tail) := by
  cases hskip : skip verbose text with
  | nil => simp [readProperty?, hskip] at h
  | cons c after =>
      have hskip' := skip_append_of_cons tail hskip
      by_cases hbrace : c = '\x7b'
      · subst hbrace
        simp only [readProperty?, hskip, hskip', Option.bind_eq_bind,
          Option.bind_eq_some_iff] at h ⊢
        obtain ⟨⟨name, rest'⟩, hname, body, hbody, heq⟩ := h
        cases heq
        exact ⟨_, readUntil?_append tail hname, body, hbody, rfl⟩
      · by_cases hslash : c = '\\'
        · subst hslash
          simp [readProperty?, hskip] at h
        · simp only [readProperty?, hskip, hskip', Option.bind_eq_bind,
            Option.bind_eq_some_iff] at h ⊢
          obtain ⟨p, hp, heq⟩ := h
          cases heq
          exact ⟨p, hp, rfl⟩

section

variable {tail : List Char} (htail : Closes tail)

include htail

theorem readWordEdge?_append {verbose : Bool} {text rest : List Char} {a : Atom}
    (h : readWordEdge? verbose text = some (a, rest)) :
    readWordEdge? verbose (text ++ tail) = some (a, rest ++ tail) := by
  cases text with
  | nil =>
      cases h
      rw [readWordEdge?]
      rintro rest rfl
      exact htail.head_ne (c := '\x7b') (by decide) (by decide) rfl
  | cons c text =>
      by_cases hbrace : c = '\x7b'
      · subst hbrace
        cases hname : readUntil? '\x7d' verbose false text with
        | none => simp [readWordEdge?, hname] at h
        | some found =>
            obtain ⟨name, after⟩ := found
            have hname' := readUntil?_append tail hname
            cases name with
            | nil =>
                simp only [readWordEdge?, hname, List.cons_append, hname'] at h ⊢
                cases h
                rfl
            | cons d name =>
                simp only [readWordEdge?, hname, List.cons_append, hname'] at h ⊢
                split_ifs at h ⊢
                · obtain ⟨entry, hentry, heq⟩ := Option.map_eq_some_iff.mp h
                  cases heq
                  rw [hentry]
                  rfl
                · cases h
                  rfl
      · simp only [readWordEdge?, List.cons.injEq, hbrace, false_and, imp_self, implies_true,
          List.cons_append] at h ⊢
        cases h
        rfl

theorem readEscape?_append {verbose : Bool} {text rest : List Char} {a : Atom}
    (h : readEscape? verbose text = some (a, rest)) :
    readEscape? verbose (text ++ tail) = some (a, rest ++ tail) := by
  cases text with
  | nil => cases h
  | cons c text =>
      simp only [List.cons_append, readEscape?] at h ⊢
      split at h
      case h_1 | h_2 | h_3 => exact readCodePoint?_append tail (by decide) h
      case h_4 | h_5 => exact readProperty?_append tail h
      case h_20 => exact readWordEdge?_append htail h
      case h_24 =>
        split_ifs at h with hescapable
        cases h
        simp [*]
      all_goals
        cases h
        rfl

theorem readClassAtom?_append {verbose : Bool} {text rest : List Char} {a : Atom}
    (h : readClassAtom? verbose text = some (a, rest)) :
    readClassAtom? verbose (text ++ tail) = some (a, rest ++ tail) := by
  cases text with
  | nil => cases h
  | cons c text =>
      rw [List.cons_append, readClassAtom?.eq_def]
      rw [readClassAtom?.eq_def] at h
      by_cases hslash : c = '\\'
      · subst hslash
        exact readEscape?_append htail h
      · simp only at h ⊢
        cases h
        rfl

end

/-! ### Parts of classes -/

theorem peek_append {verbose : Bool} {text : List Char} {c : Char} (tail : List Char)
    (h : peek verbose text = some c) : peek verbose (text ++ tail) = some c := by
  cases verbose with
  | false =>
      simp only [peek, Bool.false_eq_true, if_false] at h ⊢
      rw [List.head?_append, h]
      rfl
  | true =>
      simp only [peek, if_true] at h ⊢
      cases hdrop : text.dropWhile Unicode.isWhiteSpace with
      | nil => simp [hdrop] at h
      | cons d rest =>
          rw [hdrop] at h
          rw [dropWhile_append_of_cons tail hdrop]
          by_cases hsharp : d = '#'
          · subst hsharp
            cases hrest : rest.dropWhile Unicode.isWhiteSpace with
            | nil => simp [hrest] at h
            | cons e rest' =>
                simp only [hrest] at h
                simp only [dropWhile_append_of_cons tail hrest]
                exact h
          · simp only [List.cons.injEq, hsharp, false_and, imp_self, implies_true] at h ⊢
            exact h

/-- Where nothing decides about a hyphen, nothing stands behind it. -/
theorem skip_eq_nil_of_peek {verbose : Bool} {text : List Char} (h : peek verbose text = none) :
    skip verbose text = [] := by
  cases verbose with
  | false => simpa [peek, skip] using h
  | true =>
      simp only [peek, if_true] at h
      rw [skip, if_pos rfl, ← skipTrivia_dropWhile]
      split at h
      next rest hdrop =>
        rw [hdrop]
        have hspaces := List.dropWhile_eq_nil_iff.mp (List.head?_eq_none_iff.mp h)
        have hsharp : Unicode.isWhiteSpace '#' = false := by decide
        rw [skipTrivia, if_neg Bool.false_ne_true, hsharp, if_neg Bool.false_ne_true, if_pos rfl]
        exact skipTrivia_of_isWhiteSpace hspaces
      next =>
        rw [List.head?_eq_none_iff.mp h]
        rfl

theorem readHyphens_append {verbose inComment : Bool} {text rest : List Char} {n : Nat}
    (tail : List Char) (h : readHyphens verbose inComment text = (n, rest)) (hrest : rest ≠ []) :
    readHyphens verbose inComment (text ++ tail) = (n, rest ++ tail) := by
  induction text generalizing inComment n with
  | nil =>
      cases h
      exact absurd rfl hrest
  | cons c text ih =>
      simp only [List.cons_append, readHyphens] at h ⊢
      split_ifs at h ⊢ with hcomment hhyphen hspace hsharp
      · exact ih h
      · cases hread : readHyphens verbose false text with
        | mk m after =>
            rw [hread] at h
            cases h
            rw [ih hread]
      · exact ih h
      · exact ih h
      · cases h
        rfl

theorem readNegation_append {verbose negated : Bool} {text rest : List Char} (tail : List Char)
    (h : readNegation verbose text = (negated, rest)) (hrest : rest ≠ []) :
    readNegation verbose (text ++ tail) = (negated, rest ++ tail) := by
  cases hskip : skip verbose text with
  | nil =>
      rw [readNegation, hskip] at h
      cases h
      exact absurd rfl hrest
  | cons c after =>
      rw [readNegation, hskip] at h
      rw [readNegation, skip_append_of_cons tail hskip]
      by_cases hcaret : c = '^'
      · subst hcaret
        cases h
        simp only [skip_append tail hrest]
      · simp only [List.cons.injEq, hcaret, false_and, imp_self, implies_true] at h ⊢
        cases h
        rfl

theorem readClassOpening_append {verbose negated : Bool} {text rest : List Char}
    {items : List ClassTree} (tail : List Char)
    (h : readClassOpening verbose text = (negated, items, rest)) (hrest : rest ≠ []) :
    readClassOpening verbose (text ++ tail) = (negated, items, rest ++ tail) := by
  cases hnegation : readNegation verbose text with
  | mk negated' after =>
  cases hhyphens : readHyphens verbose false after with
  | mk n after' =>
  simp only [readClassOpening, hnegation, hhyphens] at h
  cases after' with
  | nil =>
      simp only [Prod.mk.injEq] at h
      exact absurd h.2.2.symm hrest
  | cons c after' =>
      have hafter : after ≠ [] := by
        rintro rfl
        cases hhyphens
      simp only [readClassOpening, readNegation_append tail hnegation hafter,
        readHyphens_append tail hhyphens (List.cons_ne_nil c after'), List.cons_append]
      by_cases hbracket : n = 0 ∧ c = ']'
      · obtain ⟨rfl, rfl⟩ := hbracket
        cases h
        rfl
      · have hnot : n = 0 → c ≠ ']' := fun hn hc => hbracket ⟨hn, hc⟩
        simp +contextual only [List.cons.injEq, hnot, false_and, implies_true,
          Prod.mk.injEq] at h ⊢
        obtain ⟨rfl, rfl, rfl⟩ := h
        exact ⟨rfl, rfl, rfl⟩

theorem ne_nil_of_readClassItems? {verbose negated : Bool} {fuel : Nat}
    {left : Option (ClassTree × SetOperation)} {items : List ClassTree} {text : List Char}
    {found : ClassTree × List Char}
    (h : readClassItems? verbose negated fuel left items text = some found) : text ≠ [] := by
  rintro rfl
  cases fuel with
  | zero => cases h
  | succ fuel => cases verbose <;> cases h

theorem readClassItem?_singleton {verbose : Bool} {c : Char} {item : ClassTree} {rest : List Char}
    (h : readClassItem? verbose [c] = some (item, rest)) : rest = [] := by
  by_cases hslash : c = '\\'
  · subst hslash
    cases h
  · have hatom : readClassAtom? verbose [c] = some (.char c, []) := by simp [readClassAtom?]
    have hskip : skip verbose [] = [] := by cases verbose <;> rfl
    simp only [readClassItem?, hatom, Option.bind_eq_bind, Option.bind_some, hskip] at h
    cases h
    rfl

/-- The text goes on with an item of a class, not with its closing bracket, an operator or a class
inside it. -/
def StartsItem (c : Char) (after : List Char) : Prop :=
  c ≠ ']' ∧ c ≠ '[' ∧ ∀ rest, after = c :: rest → c ∉ ['&', '-', '~']

theorem StartsItem.append {c : Char} {after : List Char} (h : StartsItem c after)
    (hafter : after ≠ []) (tail : List Char) : StartsItem c (after ++ tail) := by
  obtain ⟨hclosing, hopening, hoperator⟩ := h
  obtain ⟨d, after, rfl⟩ := List.exists_cons_of_ne_nil hafter
  refine ⟨hclosing, hopening, fun rest heq => hoperator after ?_⟩
  rw [(List.cons.inj heq).1]

theorem startsItem_of_ne {c : Char} {after : List Char}
    (hclosing : ∀ rest, c :: after = ']' :: rest → False)
    (hopening : ∀ rest, c :: after = '[' :: rest → False)
    (hand : ∀ rest, c :: after = '&' :: '&' :: rest → False)
    (hminus : ∀ rest, c :: after = '-' :: '-' :: rest → False)
    (htilde : ∀ rest, c :: after = '~' :: '~' :: rest → False) : StartsItem c after := by
  refine ⟨?_, ?_, ?_⟩
  · rintro rfl
    exact hclosing after rfl
  · rintro rfl
    exact hopening after rfl
  · rintro rest rfl hc
    simp only [List.mem_cons, List.not_mem_nil, or_false] at hc
    obtain rfl | rfl | rfl := hc
    · exact hand rest rfl
    · exact hminus rest rfl
    · exact htilde rest rfl

theorem readClassItems?_of_startsItem {verbose negated : Bool} {fuel : Nat}
    {left : Option (ClassTree × SetOperation)} {items : List ClassTree} {text after : List Char}
    {c : Char} (hskip : skip verbose text = c :: after) (h : StartsItem c after) :
    readClassItems? verbose negated (fuel + 1) left items text =
      match readClassItem? verbose (c :: after) with
      | some (item, rest) => readClassItems? verbose negated fuel left (items ++ [item]) rest
      | none => none := by
  obtain ⟨hclosing, hopening, hoperator⟩ := h
  rw [readClassItems?, hskip]
  split
  next heq => cases heq
  next heq =>
    cases heq
    exact absurd rfl hclosing
  next heq =>
    cases heq
    exact absurd (by simp) (hoperator _ rfl)
  next heq =>
    cases heq
    exact absurd (by simp) (hoperator _ rfl)
  next heq =>
    cases heq
    exact absurd (by simp) (hoperator _ rfl)
  next heq =>
    cases heq
    exact absurd rfl hopening
  next => rfl

section

variable {tail : List Char} (htail : Closes tail)

include htail

/-- With something behind the item it has been read to its end. -/
theorem readClassItem?_append {verbose : Bool} {text rest : List Char} {item : ClassTree}
    (h : readClassItem? verbose text = some (item, rest)) (hrest : rest ≠ []) :
    readClassItem? verbose (text ++ tail) = some (item, rest ++ tail) := by
  simp only [readClassItem?, Option.bind_eq_bind, Option.bind_eq_some_iff] at h ⊢
  obtain ⟨⟨first, after⟩, hfirst, h⟩ := h
  refine ⟨_, readClassAtom?_append htail hfirst, ?_⟩
  cases hskip : skip verbose after with
  | nil =>
      simp only [hskip, Option.bind_eq_some_iff] at h
      obtain ⟨c, hc, heq⟩ := h
      cases heq
      exact absurd rfl hrest
  | cons d after' =>
      simp only [hskip] at h
      simp only [skip_append_of_cons tail hskip]
      by_cases hhyphen : d = '-'
      · subst hhyphen
        simp only at h ⊢
        cases hpeek : peek verbose after' with
        | none =>
            simp [hpeek, skip_eq_nil_of_peek hpeek, readClassAtom?] at h
        | some next =>
            rw [peek_append tail hpeek]
            rw [hpeek] at h
            split_ifs at h ⊢ with hnext
            · obtain ⟨c, hc, heq⟩ := Option.bind_eq_some_iff.mp h
              cases heq
              simp [hc]
            · cases hlast : skip verbose after' with
              | nil => simp [hlast, readClassAtom?] at h
              | cons e after'' =>
                  simp only [hlast, Option.bind_eq_some_iff] at h
                  obtain ⟨⟨last, after₃⟩, hatom, first', hfirst', last', hlast', h⟩ := h
                  rw [skip_append_of_cons tail hlast, ← List.cons_append,
                    readClassAtom?_append htail hatom]
                  split_ifs at h with hle
                  cases h
                  simp [hfirst', hlast', hle]
      · simp only [List.cons.injEq, hhyphen, false_and, imp_self, implies_true] at h ⊢
        obtain ⟨c, hc, heq⟩ := Option.bind_eq_some_iff.mp h
        cases heq
        simp [hc]

theorem readPosixName?_append (negated : Bool) (text : List Char) :
    readPosixName? negated (text ++ tail) =
      (readPosixName? negated text).map fun (item, rest) => (item, rest ++ tail) := by
  have hcolon : tail.dropWhile (· != ':') = [] := by
    rw [List.dropWhile_eq_nil_iff]
    intro c hc
    rcases htail c hc with rfl | rfl <;> decide
  cases hdrop : text.dropWhile (· != ':') with
  | nil => simp [readPosixName?, List.dropWhile_append, hdrop, hcolon]
  | cons c after =>
      rw [readPosixName?, readPosixName?, dropWhile_append_of_cons tail hdrop,
        takeWhile_append_of_dropWhile tail hdrop, hdrop]
      cases after with
      | nil =>
          cases tail with
          | nil => rfl
          | cons d tail =>
              have hd : d ≠ ']' := htail.head_ne (by decide) (by decide)
              simp [hd]
      | cons d after =>
          by_cases hd : d = ']'
          · subst hd
            simp [Option.map_map, Function.comp_def]
          · simp [hd]

theorem readPosix?_append (text : List Char) :
    readPosix? (text ++ tail) =
      (readPosix? text).map fun (item, rest) => (item, rest ++ tail) := by
  have hname := fun negated text => readPosixName?_append htail negated text
  cases text with
  | nil =>
      cases tail with
      | nil => rfl
      | cons d tail =>
          have hd : d ≠ ':' := htail.head_ne (by decide) (by decide)
          simp [readPosix?, hd]
  | cons c text =>
      by_cases hc : c = ':'
      · subst hc
        cases text with
        | nil =>
            cases tail with
            | nil => rfl
            | cons d tail =>
                have hd : d ≠ '^' := htail.head_ne (by decide) (by decide)
                simpa [readPosix?, hd] using hname false []
        | cons d text =>
            by_cases hd : d = '^'
            · subst hd
              exact hname true text
            · simpa [readPosix?, hd] using hname false (d :: text)
      · simp [readPosix?, hc]

/-! ### Bracketed classes -/

theorem readClassItems?_append {verbose negated : Bool} {fuel : Nat}
    {left : Option (ClassTree × SetOperation)} {items : List ClassTree} {text rest : List Char}
    {tree : ClassTree}
    (h : readClassItems? verbose negated fuel left items text = some (tree, rest)) (more : Nat) :
    readClassItems? verbose negated (fuel + more) left items (text ++ tail) =
      some (tree, rest ++ tail) := by
  induction fuel generalizing negated left items text tree rest with
  | zero => cases h
  | succ fuel ih =>
      rw [Nat.add_right_comm]
      cases hskip : skip verbose text with
      | nil => simp [readClassItems?, hskip] at h
      | cons c after =>
          have hskip' := skip_append_of_cons tail hskip
          by_cases hstarts : StartsItem c after
          · rw [readClassItems?_of_startsItem hskip hstarts] at h
            split at h
            next item rest' hitem =>
              have hrest' := ne_nil_of_readClassItems? h
              -- An item of one character at the end of the text would leave nothing behind it.
              have hafter : after ≠ [] := by
                rintro rfl
                exact hrest' (readClassItem?_singleton hitem)
              have hitem' := readClassItem?_append htail hitem hrest'
              rw [List.cons_append] at hitem'
              rw [readClassItems?_of_startsItem hskip' (hstarts.append hafter tail), hitem']
              exact ih h
            next => cases h
          · rw [readClassItems?, hskip] at h
            rw [readClassItems?, hskip']
            split at h
            next => cases h
            next heq =>
              cases heq
              cases h
              rfl
            next heq =>
              cases heq
              exact ih h
            next heq =>
              cases heq
              exact ih h
            next heq =>
              cases heq
              exact ih h
            next heq =>
              cases heq
              simp only [readPosix?_append htail]
              split at h
              next item rest' hposix =>
                simp only [hposix, Option.map_some]
                exact ih h
              next hposix =>
                simp only [hposix, Option.map_none]
                cases hopening : readClassOpening verbose after with
                | mk inner opening =>
                simp only [hopening] at h
                split at h
                next item rest' hinner =>
                  -- A class that is closed has its closing bracket behind the opening.
                  have hopening' := ne_nil_of_readClassItems? hinner
                  simp only [readClassOpening_append tail hopening hopening', ih hinner]
                  exact ih h
                next => cases h
            next hbracket hamp hhyphen htilde hopening =>
              exact absurd (startsItem_of_ne hbracket hopening hamp hhyphen htilde) hstarts

theorem readClass?_append {verbose : Bool} {text rest : List Char} {a : Atom}
    (h : readClass? verbose text = some (a, rest)) :
    readClass? verbose (text ++ tail) = some (a, rest ++ tail) := by
  cases hopening : readClassOpening verbose text with
  | mk negated opening =>
  simp only [readClass?, hopening, Option.bind_eq_bind, Option.bind_eq_some_iff] at h
  obtain ⟨⟨tree, rest'⟩, hitems, heq⟩ := h
  cases heq
  have hopening' := ne_nil_of_readClassItems? hitems
  have hitems' := readClassItems?_append htail hitems tail.length
  rw [Nat.add_right_comm, ← List.length_append] at hitems'
  simp only [readClass?, readClassOpening_append tail hopening hopening', hitems',
    Option.bind_eq_bind, Option.bind_some]

end

end Pattern

end RuleLexer

import RuleLexer.Numeral.Shortest

/-!
The texts of numbers. Integers are written in digits, with a minus in front of
negative ones. A binary number has a point or an exponent besides, or is written
as a name, so that no text is both an integer's and a binary number's.
-/

namespace RuleLexer

/-! ### Digits -/

section

variable {b : Nat}

theorem mem_toDigits {n : Nat} {c : Char} (hb : 1 < b) (h : c ∈ Nat.toDigits b n) :
    ∃ d < b, c = Nat.digitChar d := by
  induction n using Nat.strongRecOn with
  | ind n ih =>
      rw [Nat.toDigits_eq_if hb] at h
      split at h
      case isTrue hlt => exact ⟨n, hlt, List.mem_singleton.mp h⟩
      case isFalse hle =>
        rw [List.mem_append, List.mem_singleton] at h
        obtain h | h := h
        · exact ih (n / b) (Nat.div_lt_self (by omega) hb) h
        · exact ⟨n % b, Nat.mod_lt n (by omega), h⟩

theorem digitChar_inj {d e : Nat} (hd : d < 16) (he : e < 16)
    (h : Nat.digitChar d = Nat.digitChar e) : d = e := by
  have hall : ∀ d < 16, ∀ e < 16, Nat.digitChar d = Nat.digitChar e → d = e := by decide
  exact hall d hd e he h

theorem toDigits_inj {m n : Nat} (hb : 1 < b) (hb' : b ≤ 16)
    (h : Nat.toDigits b m = Nat.toDigits b n) : m = n := by
  induction m using Nat.strongRecOn generalizing n with
  | ind m ih =>
      -- a number below the base has one digit, and only such a number has
      rw [Nat.toDigits_eq_if hb, Nat.toDigits_eq_if hb (n := n)] at h
      split at h <;> split at h
      case isTrue.isTrue hm hn =>
        rw [List.singleton_inj] at h
        exact digitChar_inj (by omega) (by omega) h
      case isTrue.isFalse hm hn =>
        rw [eq_comm, List.append_eq_singleton_iff] at h
        simp [Nat.toDigits_ne_nil] at h
      case isFalse.isTrue hm hn =>
        rw [List.append_eq_singleton_iff] at h
        simp [Nat.toDigits_ne_nil] at h
      case isFalse.isFalse hm hn =>
        obtain ⟨hfront, hlast⟩ := List.append_inj' h rfl
        rw [List.singleton_inj] at hlast
        have hdiv : m / b = n / b := ih (m / b) (Nat.div_lt_self (by omega) hb) hfront
        have hmod : m % b = n % b := by
          have hm' := Nat.mod_lt m (by omega : 0 < b)
          have hn' := Nat.mod_lt n (by omega : 0 < b)
          exact digitChar_inj (by omega) (by omega) hlast
        rw [← Nat.div_add_mod m b, hdiv, hmod, Nat.div_add_mod]

end

/-! ### Integers -/

theorem isDigit_of_mem_toDigits {n : Nat} {c : Char} (h : c ∈ Nat.toDigits 10 n) :
    c.isDigit = true :=
  Nat.isDigit_of_mem_toDigits (by decide) (by decide) h

theorem exists_toDigits_eq_cons (n : Nat) :
    ∃ first rest, Nat.toDigits 10 n = first :: rest ∧ first.isDigit = true := by
  obtain ⟨first, rest, heq⟩ := List.exists_cons_of_ne_nil (Nat.toDigits_ne_nil (n := n) (b := 10))
  exact ⟨first, rest, heq, isDigit_of_mem_toDigits (n := n) (by simp [heq])⟩

theorem isDigit_or_eq_of_mem_repr {n : Int} {c : Char} (h : c ∈ n.repr.toList) :
    c.isDigit = true ∨ c = '-' := by
  rw [Int.repr_eq_if] at h
  split at h
  · rw [Nat.toList_repr] at h
    exact .inl (isDigit_of_mem_toDigits h)
  · rw [String.toList_append, List.mem_append, Nat.toList_repr] at h
    exact h.symm.imp isDigit_of_mem_toDigits List.mem_singleton.mp

theorem repr_ne_nil (n : Int) : n.repr.toList ≠ [] := by
  rw [Int.repr_eq_if]
  split
  · rw [Nat.toList_repr]
    exact Nat.toDigits_ne_nil
  · simp

/-! ### Binary numbers -/

/-- The characters of numbers in decimal. -/
def IsNumberChar (c : Char) : Prop := c.isDigit = true ∨ c = '-' ∨ c = '.' ∨ c = 'e'

/-- What the text of a positive number is like that is no integer's. -/
structure IsFraction (text : List Char) : Prop where
  starts : ∃ first rest, text = first :: rest ∧ first.isDigit = true
  marked : ∃ c ∈ text, c = '.' ∨ c = 'e'
  chars : ∀ c ∈ text, IsNumberChar c

theorem IsFraction.of_mark {first mark : Char} {front back : List Char}
    (hfirst : first.isDigit = true) (hmark : mark = '.' ∨ mark = 'e')
    (hfront : ∀ c ∈ front, IsNumberChar c) (hback : ∀ c ∈ back, IsNumberChar c) :
    IsFraction (first :: front ++ mark :: back) where
  starts := ⟨first, front ++ mark :: back, rfl, hfirst⟩
  marked := ⟨mark, by simp, hmark⟩
  chars := by
    rw [List.forall_mem_append, List.forall_mem_cons, List.forall_mem_cons]
    exact ⟨⟨.inl hfirst, hfront⟩, .inr (.inr hmark), hback⟩

namespace Shortest.Layout

theorem isFraction_text (l : Layout) (digits : Nat) (exponent : Int) :
    IsFraction (l.text digits exponent) := by
  obtain ⟨first, rest, hdigits, hfirst⟩ := exists_toDigits_eq_cons digits
  have hrest : ∀ c ∈ rest, IsNumberChar c := fun c hc =>
    .inl (isDigit_of_mem_toDigits (hdigits ▸ List.mem_cons_of_mem first hc))
  have hzeros (n : Nat) : ∀ c ∈ List.replicate n '0', IsNumberChar c := fun c hc =>
    .inl (by rw [List.eq_of_mem_replicate hc]; rfl)
  rw [text, hdigits]
  dsimp only
  split
  case isTrue =>
    -- the first digit, a fraction where there are more digits, and the exponent
    refine .of_mark hfirst (.inr rfl) ?_ fun c hc => ?_
    · split
      · exact List.forall_mem_nil _
      · exact List.forall_mem_cons.mpr ⟨.inr (.inr (.inl rfl)), hrest⟩
    · exact (isDigit_or_eq_of_mem_repr hc).imp_right .inl
  case isFalse =>
    split
    case isTrue =>
      refine .of_mark rfl (.inl rfl) (List.forall_mem_nil _) ?_
      exact List.forall_mem_append.mpr ⟨hzeros _, List.forall_mem_cons.mpr ⟨.inl hfirst, hrest⟩⟩
    case isFalse hpoint =>
      obtain ⟨k, hk⟩ : ∃ k, Int.toNat ((first :: rest).length + exponent) = k + 1 :=
        ⟨_, (Nat.succ_pred (by omega)).symm⟩
      rw [hk, List.take_succ_cons, List.drop_succ_cons]
      refine .of_mark hfirst (.inl rfl) ?_ ?_
      · exact List.forall_mem_append.mpr ⟨fun c hc => hrest c (List.mem_of_mem_take hc), hzeros _⟩
      · split
        · exact List.forall_mem_singleton.mpr (.inl rfl)
        · exact fun c hc => hrest c (List.mem_of_mem_drop hc)

end Shortest.Layout

/-- The texts of binary numbers, after the kinds of them. -/
inductive IsFloatText : List Char → Prop
  | nan : IsFloatText ['N', 'a', 'N']
  | infinity (negative : Bool) :
    IsFloatText (if negative then ['-', 'i', 'n', 'f'] else ['i', 'n', 'f'])
  | fraction (negative : Bool) {text : List Char} (h : IsFraction text) :
    IsFloatText (if negative then '-' :: text else text)

/-- No text of an integer has such a character. -/
theorem IsFloatText.exists_mark {text : List Char} (h : IsFloatText text) :
    ∃ c ∈ text, c.isDigit = false ∧ c ≠ '-' := by
  cases h with
  | nan => exact ⟨'N', by simp, by decide⟩
  | infinity negative => exact ⟨'i', by cases negative <;> simp, by decide⟩
  | fraction negative h =>
      obtain ⟨c, hmem, hc⟩ := h.marked
      refine ⟨c, ?_, ?_⟩
      · cases negative with
        | false => exact hmem
        | true => exact List.mem_cons_of_mem '-' hmem
      · obtain rfl | rfl := hc <;> decide

namespace Binary64

theorem isFloatText_text (x : Binary64) : IsFloatText x.text.toList := by
  cases x with
  | nan => exact .nan
  | infinity negative =>
      have h := IsFloatText.infinity negative
      cases negative <;> exact h
  | finite negative mantissa exponent _ =>
      rw [text, String.toList_ofList]
      refine .fraction negative ?_
      split
      · exact .of_mark rfl (.inl rfl) (List.forall_mem_nil _)
          (List.forall_mem_singleton.mpr (.inl rfl))
      · exact Shortest.layout.isFraction_text _ _

theorem text_ne_repr (x : Binary64) (n : Int) : x.text ≠ n.repr := by
  intro h
  obtain ⟨c, hmem, hdigit, hminus⟩ := x.isFloatText_text.exists_mark
  rw [h] at hmem
  obtain hc | hc := isDigit_or_eq_of_mem_repr hmem
  · exact absurd hc (by simp [hdigit])
  · exact hminus hc

end Binary64

end RuleLexer

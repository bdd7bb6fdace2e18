import RuleLexer.Proofs.Report.Plain

/-!
What the texts of values and of tokens tell. A value is told by its text up to
numbers that are written alike, since the first character shows what kind it is
of and an integer is never written as a binary number is. A token has the name of
its kind behind its text, so that no symbol passes for a value.
-/

namespace RuleLexer

/-! ### Values -/

namespace Value

/-- The values are equal, or else binary numbers with one text. -/
def Alike : Value → Value → Prop
  | float x, float y => x.text = y.text
  | v, w => v = w

/-- What the first character of a text tells about the value. -/
inductive Form
  | text | character | truth | number
  deriving DecidableEq

def form : Value → Form
  | str _ => .text
  | int _ => .number
  | float _ => .number
  | bool _ => .truth
  | char _ => .character

def formOf (first : Char) : Form :=
  if first = '"' then .text
  else if first = '\'' then .character
  else if first = 't' ∨ first = 'f' then .truth
  else .number

theorem formOf_of_isDigit {c : Char} (h : c.isDigit = true) : formOf c = .number := by
  have hne {d : Char} (hd : d.isDigit = false) : c ≠ d := by
    rintro rfl
    rw [h] at hd
    cases hd
  rw [formOf, if_neg (hne rfl), if_neg (hne rfl), if_neg]
  exact not_or.mpr ⟨hne rfl, hne rfl⟩

theorem formOf_head_repr (n : Int) : (n.repr.toList.head?).map formOf = some .number := by
  obtain ⟨first, rest, heq⟩ := List.exists_cons_of_ne_nil (repr_ne_nil n)
  have hmem : first ∈ n.repr.toList := by simp [heq]
  rw [heq]
  obtain h | rfl := isDigit_or_eq_of_mem_repr hmem
  · exact congrArg some (formOf_of_isDigit h)
  · rfl

theorem formOf_head_text {text : List Char} (h : IsFloatText text) :
    text.head?.map formOf = some .number := by
  cases h with
  | nan => rfl
  | infinity negative => cases negative <;> rfl
  | fraction negative h =>
      obtain ⟨first, rest, rfl, hfirst⟩ := h.starts
      cases negative with
      | false => exact congrArg some (formOf_of_isDigit hfirst)
      | true => rfl

theorem formOf_head_display (v : Value) : v.display.toList.head?.map formOf = some v.form := by
  cases v with
  | str s => simp [display, quoteString, formOf, form]
  | int n => exact formOf_head_repr n
  | float x => exact formOf_head_text x.isFloatText_text
  | bool b => cases b <;> rfl
  | char c => simp [display, quoteChar, formOf, form]

/-- An integer without a minus is told by its digits, and one with a minus by those behind it. -/
theorem eq_of_display_int {m n : Int} (h : (int m).display = (int n).display) : m = n := by
  have hdigits {i j : Nat} (h : i.repr = j.repr) : i = j := by
    have hlist := congrArg String.toList h
    rw [Nat.toList_repr, Nat.toList_repr] at hlist
    exact toDigits_inj (by decide) (by decide) hlist
  have hminus (text : String) (i : Nat) : "-" ++ text ≠ i.repr := by
    intro h
    have hmem : '-' ∈ i.repr.toList := by simp [← h]
    rw [Nat.toList_repr] at hmem
    exact absurd (isDigit_of_mem_toDigits hmem) (by decide)
  change m.repr = n.repr at h
  rw [Int.repr_eq_if, Int.repr_eq_if] at h
  split at h <;> split at h
  case isTrue.isTrue =>
    have heq := hdigits h
    omega
  case isTrue.isFalse => exact absurd h.symm (hminus _ _)
  case isFalse.isTrue => exact absurd h (hminus _ _)
  case isFalse.isFalse =>
    have heq := hdigits ((String.append_right_inj "-").mp h)
    omega

theorem alike_of_display_eq {v w : Value} (h : v.display = w.display) : v.Alike w := by
  have hform : v.form = w.form := by
    have hv := formOf_head_display v
    rw [h, formOf_head_display w] at hv
    exact (Option.some_inj.mp hv).symm
  cases v with
  | str s =>
      cases w with
      | str s' => exact congrArg str (quoteString_inj h)
      | _ => cases hform
  | int n =>
      cases w with
      | int n' => exact congrArg int (eq_of_display_int h)
      | float y => exact absurd h.symm (y.text_ne_repr n)
      | _ => cases hform
  | float x =>
      cases w with
      | int n' => exact absurd h (x.text_ne_repr n')
      | float y => exact h
      | _ => cases hform
  | bool b =>
      cases w with
      | bool b' => cases b <;> cases b' <;> first | rfl | exact absurd h (by decide)
      | _ => cases hform
  | char c =>
      cases w with
      | char c' => exact congrArg char (quoteChar_inj h)
      | _ => cases hform

end Value

/-! ### Tokens -/

namespace Token

/-- Symbols of one name, or values that are alike. -/
def Alike : Token → Token → Prop
  | symbol s, symbol s' => s.name = s'.name
  | value v, value v' => v.Alike v'
  | _, _ => False

end Token

namespace Report

theorem token_symbol (s : Symbol) : token false (.symbol s) = s.name ++ " " ++ "symbol" := rfl

theorem token_value (v : Value) : token false (.value v) = v.display ++ " " ++ "value" := rfl

theorem getLast?_token (t : Token) :
    (token false t).toList.getLast? = some 'l' ∨ (token false t).toList.getLast? = some 'e' := by
  cases t with
  | symbol s => simp [token_symbol]
  | value v => simp [token_value]

theorem symbol_ne_value (s : Symbol) (v : Value) :
    token false (.symbol s) ≠ token false (.value v) := by
  intro h
  have hlast := congrArg (fun text => text.toList.getLast?) h
  simp [token_symbol, token_value] at hlast

theorem alike_of_token_eq {t u : Token} (h : token false t = token false u) : t.Alike u := by
  cases t with
  | symbol s =>
      cases u with
      | symbol s' =>
          rw [token_symbol, token_symbol, String.append_left_inj, String.append_left_inj] at h
          exact h
      | value v' => exact absurd h (symbol_ne_value s v')
  | value v =>
      cases u with
      | symbol s' => exact absurd h.symm (symbol_ne_value s' v)
      | value v' =>
          rw [token_value, token_value, String.append_left_inj, String.append_left_inj] at h
          exact Value.alike_of_display_eq h

theorem notMem_token {c : Char} (hc : c.toNat < 0x20) {t : Token} (h : t.NameAvoids c) :
    c ∉ (token false t).toList := by
  have hplain {text : String} (htext : IsPlain text) : c ∉ text.toList := htext.notMem hc
  cases t with
  | symbol s =>
      rw [token_symbol, String.toList_append, String.toList_append]
      simp only [List.mem_append, not_or]
      exact ⟨⟨h, hplain (by decide)⟩, hplain (by decide)⟩
  | value v =>
      rw [token_value]
      refine hplain ?_
      simp only [IsPlain.append_iff, isPlain_display]
      decide

end Report

end RuleLexer

import Mathlib.Tactic.SplitIfs
import RuleLexer.Proofs.Numeral.Text
import RuleLexer.Text.Quoted

/-!
Quoting can be undone. Some characters are written as a backslash and a letter,
others as a backslash and their code in braces, and the rest as they are. What is
written for a character tells where it ends, so that a quoted text is that of one
text only.
-/

namespace RuleLexer

/-- A list up to the first place of a mark, and what stands behind it. -/
theorem eq_of_append_cons {α : Type} [DecidableEq α] {mark : α} {a b s t : List α} (ha : mark ∉ a)
    (hb : mark ∉ b) (h : a ++ mark :: s = b ++ mark :: t) : a = b ∧ s = t := by
  have hsplit := congrArg (List.splitOn mark) h
  rw [List.splitOn_append_cons_self_of_not_mem ha, List.splitOn_append_cons_self_of_not_mem hb,
    List.cons.injEq] at hsplit
  obtain ⟨rfl, -⟩ := hsplit
  exact ⟨rfl, (List.cons.inj (List.append_cancel_left h)).2⟩

namespace Quoted

/-- What stands behind the backslash where the escape is one character long. -/
def letter? (quote c : Char) : Option Char :=
  if c = '\x00' then some '0'
  else if c = '\t' then some 't'
  else if c = '\r' then some 'r'
  else if c = '\n' then some 'n'
  else if c = '\\' then some '\\'
  else if c = quote then some quote
  else none

/-- This is written for a character. -/
inductive Writes (quote c : Char) : List Char → Prop
  | short {letter : Char} (h : letter? quote c = some letter) : Writes quote c ['\\', letter]
  | itself (h : letter? quote c = none) (hvisible : Unicode.isVisible c = true) :
    Writes quote c [c]
  | code (h : letter? quote c = none) : Writes quote c (unicodeEscape c)

theorem writes_escape (quote c : Char) : Writes quote c (escape quote c) := by
  have hshort {letter : Char} (h : letter? quote c = some letter) :
      Writes quote c ['\\', letter] := .short h
  unfold letter? at hshort
  unfold escape
  split_ifs at hshort ⊢ with h0 ht hr hn hbackslash hquote hvisible
  all_goals try exact hshort rfl
  · exact .itself (by simp [letter?, *]) hvisible
  · exact .code (by simp [letter?, *])

theorem ne_of_letter?_eq_none {quote c : Char} (h : letter? quote c = none) :
    c ≠ '\\' ∧ c ≠ quote := by
  unfold letter? at h
  split_ifs at h with _ _ _ _ hbackslash hquote
  exact ⟨hbackslash, hquote⟩

/-- The character for which the letter stands. -/
def named (letter : Char) : Char :=
  if letter = '0' then '\x00'
  else if letter = 't' then '\t'
  else if letter = 'r' then '\r'
  else if letter = 'n' then '\n'
  else letter

/-! ### Undoing -/

section

variable {quote : Char} (hquote : quote = '"' ∨ quote = '\'')

include hquote

theorem named_of_letter? {c letter : Char} (h : letter? quote c = some letter) :
    named letter = c ∧ letter ≠ 'u' ∧ 0x20 ≤ letter.toNat := by
  unfold letter? at h
  split_ifs at h with h0 ht hr hn hbackslash hc <;> rw [Option.some_inj] at h <;> subst h
  case pos => exact ⟨h0.symm, by decide⟩
  case pos => exact ⟨ht.symm, by decide⟩
  case pos => exact ⟨hr.symm, by decide⟩
  case pos => exact ⟨hn.symm, by decide⟩
  case pos => exact ⟨hbackslash.symm, by decide⟩
  case pos =>
    rw [hc]
    obtain rfl | rfl := hquote <;> decide

end

theorem notMem_toDigits_brace (n : Nat) : '\x7d' ∉ Nat.toDigits 16 n := by
  intro hmem
  obtain ⟨d, hd, heq⟩ := mem_toDigits (by decide) hmem
  have hall : ∀ d < 16, '\x7d' ≠ Nat.digitChar d := by decide
  exact hall d hd heq

theorem unicodeEscape_append_inj {c d : Char} {a b : List Char}
    (h : unicodeEscape c ++ a = unicodeEscape d ++ b) : c = d ∧ a = b := by
  unfold unicodeEscape at h
  simp only [List.cons_append, List.append_assoc, List.nil_append, List.cons.injEq, true_and] at h
  obtain ⟨hdigits, hrest⟩ := eq_of_append_cons (notMem_toDigits_brace _) (notMem_toDigits_brace _) h
  exact ⟨Char.toNat_inj.mp (toDigits_inj (by decide) (by decide) hdigits), hrest⟩

theorem escape_append_inj {quote c d : Char} {a b : List Char}
    (hquote : quote = '"' ∨ quote = '\'')
    (h : escape quote c ++ a = escape quote d ++ b) : c = d ∧ a = b := by
  have hc := writes_escape quote c
  have hd := writes_escape quote d
  generalize escape quote c = first at h hc
  generalize escape quote d = second at h hd
  cases hc with
  | @short letter hc =>
      cases hd with
      | @short letter' hd =>
          simp only [List.cons_append, List.nil_append, List.cons.injEq, true_and] at h
          obtain ⟨rfl, rfl⟩ := h
          exact ⟨(named_of_letter? hquote hc).1.symm.trans (named_of_letter? hquote hd).1, rfl⟩
      | itself hd hvisible =>
          simp only [List.cons_append, List.cons.injEq] at h
          exact absurd h.1.symm (ne_of_letter?_eq_none hd).1
      | code hd =>
          simp only [unicodeEscape, List.cons_append, List.cons.injEq, true_and] at h
          exact absurd h.1 (named_of_letter? hquote hc).2.1
  | itself hc hvisible =>
      have hne := (ne_of_letter?_eq_none hc).1
      cases hd with
      | @short letter' hd =>
          simp only [List.cons_append, List.cons.injEq] at h
          exact absurd h.1 hne
      | itself hd _ =>
          simp only [List.cons_append, List.nil_append, List.cons.injEq] at h
          exact h
      | code hd =>
          simp only [unicodeEscape, List.cons_append, List.cons.injEq] at h
          exact absurd h.1 hne
  | code hc =>
      cases hd with
      | @short letter' hd =>
          simp only [unicodeEscape, List.cons_append, List.cons.injEq, true_and] at h
          exact absurd h.1.symm (named_of_letter? hquote hd).2.1
      | itself hd _ =>
          simp only [unicodeEscape, List.cons_append, List.cons.injEq] at h
          exact absurd h.1.symm (ne_of_letter?_eq_none hd).1
      | code hd => exact unicodeEscape_append_inj h

theorem escape_ne_nil (quote c : Char) : escape quote c ≠ [] := by
  have h := writes_escape quote c
  generalize escape quote c = text at h
  cases h <;> simp [unicodeEscape]

theorem flatMap_escape_inj {quote : Char} (hquote : quote = '"' ∨ quote = '\'') {s t : List Char}
    (h : s.flatMap (escape quote) = t.flatMap (escape quote)) : s = t := by
  induction s generalizing t with
  | nil =>
      cases t with
      | nil => rfl
      | cons d t => simp [escape_ne_nil] at h
  | cons c s ih =>
      cases t with
      | nil => simp [escape_ne_nil] at h
      | cons d t =>
          rw [List.flatMap_cons, List.flatMap_cons] at h
          obtain ⟨rfl, hrest⟩ := escape_append_inj hquote h
          rw [ih hrest]

end Quoted

theorem quoteString_inj {s t : String} (h : quoteString s = quoteString t) : s = t := by
  have hlist := String.ofList_injective h
  rw [List.cons.injEq, List.append_cancel_right_eq] at hlist
  exact String.toList_inj.mp (Quoted.flatMap_escape_inj (.inl rfl) hlist.2)

theorem quoteChar_inj {c d : Char} (h : quoteChar c = quoteChar d) : c = d := by
  have hlist := String.ofList_injective h
  rw [List.cons.injEq] at hlist
  exact (Quoted.escape_append_inj (.inr rfl) hlist.2).1

end RuleLexer

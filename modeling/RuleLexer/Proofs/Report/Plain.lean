import RuleLexer.CommandLine
import RuleLexer.Proofs.Numeral.Text
import RuleLexer.Proofs.Rule.Failures
import RuleLexer.Proofs.Text.Quoted

/-!
Plain texts, which have no control character in them, neither a line break nor
an escape. Numbers are plain, and so is whatever stands in quotes: a character
is quoted as it is only where it is visible. Hence all that a report shows of an
input is plain.
-/

namespace RuleLexer

/-- No character stands below the space. -/
def IsPlain (text : String) : Prop := ∀ c ∈ text.toList, 0x20 ≤ c.toNat

instance (text : String) : Decidable (IsPlain text) :=
  decidable_of_iff (text.toList.all fun c => 0x20 ≤ c.toNat) (by simp [IsPlain])

namespace IsPlain

variable {a b : String}

theorem notMem (h : IsPlain a) {c : Char} (hc : c.toNat < 0x20) : c ∉ a.toList :=
  fun hmem => absurd (h c hmem) (Nat.not_le_of_lt hc)

theorem append_iff : IsPlain (a ++ b) ↔ IsPlain a ∧ IsPlain b := by
  rw [IsPlain, String.toList_append]
  exact List.forall_mem_append

theorem ofList {text : List Char} (h : ∀ c ∈ text, 0x20 ≤ c.toNat) :
    IsPlain (String.ofList text) := by
  intro c hc
  rw [String.toList_ofList] at hc
  exact h c hc

end IsPlain

/-! ### Numbers -/

theorem plain_of_isDigit {c : Char} (h : c.isDigit = true) : 0x20 ≤ c.toNat := by
  rw [Char.isDigit, Bool.and_eq_true, decide_eq_true_eq] at h
  have hle : 48 ≤ c.toNat := h.1
  omega

theorem IsNumberChar.plain {c : Char} (h : IsNumberChar c) : 0x20 ≤ c.toNat := by
  obtain h | rfl | rfl | rfl := h
  · exact plain_of_isDigit h
  all_goals decide

theorem isPlain_natRepr (n : Nat) : IsPlain n.repr :=
  .ofList fun _ hc => plain_of_isDigit (isDigit_of_mem_toDigits hc)

theorem isPlain_intRepr (n : Int) : IsPlain n.repr := by
  intro c hc
  exact IsNumberChar.plain ((isDigit_or_eq_of_mem_repr hc).imp_right .inl)

theorem IsFloatText.plain {text : List Char} (h : IsFloatText text) :
    ∀ c ∈ text, 0x20 ≤ c.toNat := by
  cases h with
  | nan => simp
  | infinity negative => cases negative <;> simp
  | fraction negative h =>
      have hchars := fun c hc => (h.chars c hc).plain
      cases negative with
      | false => exact hchars
      | true => exact List.forall_mem_cons.mpr ⟨by decide, hchars⟩

theorem isPlain_binary64 (x : Binary64) : IsPlain x.text := x.isFloatText_text.plain

/-! ### Quoted texts -/

theorem plain_of_isVisible {c : Char} (h : Unicode.isVisible c = true) : 0x20 ≤ c.toNat := by
  unfold Unicode.isVisible at h
  split at h
  · exact of_decide_eq_true h
  · omega

theorem plain_toDigits_sixteen (n : Nat) : ∀ c ∈ Nat.toDigits 16 n, 0x20 ≤ c.toNat := by
  intro c hc
  obtain ⟨d, hd, rfl⟩ := mem_toDigits (by decide) hc
  have hall : ∀ d < 16, 0x20 ≤ (Nat.digitChar d).toNat := by decide
  exact hall d hd

theorem plain_escape {quote : Char} (hquote : quote = '"' ∨ quote = '\'') (c : Char) :
    ∀ d ∈ Quoted.escape quote c, 0x20 ≤ d.toNat := by
  have h := Quoted.writes_escape quote c
  generalize Quoted.escape quote c = text at h
  cases h with
  | short h =>
      have hletter := (Quoted.named_of_letter? hquote h).2.2
      simp [hletter]
  | itself _ hvisible => exact List.forall_mem_singleton.mpr (plain_of_isVisible hvisible)
  | code =>
      have hdigits := plain_toDigits_sixteen c.toNat
      simp only [Quoted.unicodeEscape, List.forall_mem_cons, List.forall_mem_append]
      exact ⟨by decide, by decide, by decide, hdigits, by decide, List.forall_mem_nil _⟩

theorem isPlain_quoteString (s : String) : IsPlain (quoteString s) := by
  refine .ofList (List.forall_mem_cons.mpr ⟨by decide, List.forall_mem_append.mpr
    ⟨fun d hd => ?_, List.forall_mem_singleton.mpr (by decide)⟩⟩)
  obtain ⟨c, -, hd⟩ := List.mem_flatMap.mp hd
  exact plain_escape (.inl rfl) c d hd

theorem isPlain_quoteChar (c : Char) : IsPlain (quoteChar c) :=
  .ofList (List.forall_mem_cons.mpr ⟨by decide, List.forall_mem_append.mpr
    ⟨plain_escape (.inr rfl) c, List.forall_mem_singleton.mpr (by decide)⟩⟩)

/-! ### What reports show -/

theorem isPlain_display (v : Value) : IsPlain v.display := by
  cases v with
  | str s => exact isPlain_quoteString s
  | int n => exact isPlain_intRepr n
  | float x => exact isPlain_binary64 x
  | bool b => cases b <;> decide
  | char c => exact isPlain_quoteChar c

/-- The character is not in the name of the symbol, where the token is one. -/
def Token.NameAvoids (c : Char) : Token → Prop
  | .symbol s => c ∉ s.name.toList
  | .value _ => True

/-- The character is in no name of a symbol among the tokens. -/
def CommandLine.ScanOutput.NamesAvoid (c : Char) : ScanOutput → Prop
  | run r => ∀ t ∈ r.tokens, t.NameAvoids c
  | lines ls => ∀ tokens ∈ ls, ∀ t ∈ tokens, t.NameAvoids c
  | error _ => True

/-- The report of a scan that took so many nanoseconds. -/
def CommandLine.ScanOutput.stdout (color : Bool) (input : String) (nanoseconds : Nat)
    (output : ScanOutput) : String :=
  (output.response color input (Report.duration nanoseconds)).stdout

theorem ScanPath.isPlain_display (path : ScanPath) : IsPlain path.display := by
  cases path <;> decide

theorem IntegerFault.isPlain_message (fault : IntegerFault) : IsPlain fault.message := by
  cases fault <;> decide

theorem FloatFault.isPlain_message (fault : FloatFault) : IsPlain fault.message := by
  cases fault <;> decide

theorem ConvertError.IsNumeric.isPlain_message {fault : ConvertError} (h : fault.IsNumeric) :
    IsPlain fault.message := by
  cases h with
  | integer fault => exact fault.isPlain_message
  | float fault => exact fault.isPlain_message

theorem ScanError.isPlain_message {e : ScanError}
    (h : ∀ fault, e = .convert fault → fault.IsNumeric) : IsPlain e.message := by
  cases e with
  | invalidToken character position offset =>
      unfold message
      simp only [IsPlain.append_iff, isPlain_quoteChar, isPlain_natRepr, and_true]
      decide
  | convert fault => exact (h fault rfl).isPlain_message

theorem Report.isPlain_duration (nanoseconds : Nat) : IsPlain (duration nanoseconds) := by
  have hunit (places : Nat) {name : String} (hname : IsPlain name) {kept : List Char}
      (hkept : ∀ c ∈ kept, c.isDigit = true) :
      IsPlain ((nanoseconds / Nat.pow 10 places).repr
        ++ (if kept = [] then "" else "." ++ String.ofList kept) ++ name) := by
    rw [IsPlain.append_iff, IsPlain.append_iff]
    refine ⟨⟨isPlain_natRepr _, ?_⟩, hname⟩
    split
    · decide
    · rw [IsPlain.append_iff]
      exact ⟨by decide, .ofList fun c hc => plain_of_isDigit (hkept c hc)⟩
  have hkept (n : Nat) : ∀ c ∈ (((Nat.toDigits 10 n).drop 1).reverse.dropWhile (· == '0')).reverse,
      c.isDigit = true := by
    intro c hc
    rw [List.mem_reverse] at hc
    have hdigits := List.mem_reverse.mp ((List.dropWhile_sublist _).mem hc)
    exact isDigit_of_mem_toDigits (List.mem_of_mem_drop hdigits)
  unfold duration
  dsimp only
  split
  · exact hunit 9 (by decide) (hkept _)
  split
  · exact hunit 6 (by decide) (hkept _)
  split
  · exact hunit 3 (by decide) (hkept _)
  · exact hunit 0 (by decide) (hkept _)

end RuleLexer

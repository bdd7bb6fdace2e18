import Mathlib.Data.Nat.Digits.Defs
import Mathlib.Tactic.Ring
import RuleLexer.Numeral.Decimal
import RuleLexer.Numeral.Integer

/-!
Integers from decimal digits. Reading stops at the first digit that takes the
value out of bounds. The value only moves away from zero with each digit, so
this comes to reading all digits first and to looking at the bounds then.
-/

namespace RuleLexer

/-- The value of decimal digits. -/
def decimalValue (digits : List Char) : Nat :=
  Nat.ofDigits 10 (digits.reverse.map fun c => c.toNat - '0'.toNat)

@[simp] theorem decimalValue_nil : decimalValue [] = 0 := rfl

theorem decimalValue_cons (c : Char) (digits : List Char) :
    decimalValue (c :: digits) =
      (c.toNat - '0'.toNat) * 10 ^ digits.length + decimalValue digits := by
  rw [decimalValue, decimalValue, List.reverse_cons, List.map_append, Nat.ofDigits_append,
    List.length_map, List.length_reverse, List.map_singleton, Nat.ofDigits_singleton]
  ring

namespace IntegerKind

theorem digit?_eq_some {c : Char} (h : Decimal.isDigit c = true) :
    digit? 10 c = some (c.toNat - '0'.toNat) := by
  rw [Decimal.isDigit, Bool.and_eq_true, decide_eq_true_eq, decide_eq_true_eq] at h
  have hlt : c.toNat - '0'.toNat < 10 := by
    have hle : c.toNat ≤ '9'.toNat := h.2
    have h0 : '0'.toNat = 48 := rfl
    have h9 : '9'.toNat = 57 := rfl
    omega
  rw [digit?, if_pos h, if_pos hlt]

/-- The value, or the fault of the bound that it is beyond. -/
def bounded (kind : IntegerKind) (value : Int) : Except IntegerFault Int :=
  if kind.greatest < value then .error .tooLarge
  else if value < kind.least then .error .tooSmall
  else .ok value

variable {kind : IntegerKind} {value : Int} {digits : List Char}

theorem bounded_eq_ok (h : kind.least ≤ value ∧ value ≤ kind.greatest) :
    kind.bounded value = .ok value := by
  rw [bounded, if_neg (not_lt.mpr h.2), if_neg (not_lt.mpr h.1)]

theorem bounded_eq_tooLarge (h : kind.greatest < value) :
    kind.bounded value = .error .tooLarge := if_pos h

theorem bounded_eq_tooSmall (h : value < kind.least) (h' : value ≤ kind.greatest) :
    kind.bounded value = .error .tooSmall := by
  rw [bounded, if_neg (not_lt.mpr h'), if_pos h]

/-- Upward from a value that is not negative. -/
theorem readDigits_upward (hdigits : ∀ c ∈ digits, Decimal.isDigit c = true) (hsign : 0 ≤ value)
    (hvalue : kind.least ≤ value ∧ value ≤ kind.greatest) :
    kind.readDigits 10 false value digits =
      kind.bounded (value * 10 ^ digits.length + decimalValue digits) := by
  induction digits generalizing value with
  | nil => simp [readDigits, bounded_eq_ok hvalue]
  | cons c digits ih =>
      obtain ⟨hc, hdigits⟩ := List.forall_mem_cons.mp hdigits
      generalize hd : c.toNat - '0'.toNat = d
      have hpow : (1 : Int) ≤ 10 ^ digits.length := one_le_pow₀ (by decide)
      have htotal : value * 10 ^ (c :: digits).length + (decimalValue (c :: digits) : Int) =
          (value * 10 + d) * 10 ^ digits.length + decimalValue digits := by
        rw [decimalValue_cons, hd, List.length_cons]
        push_cast
        ring
      rw [htotal, readDigits, digit?_eq_some hc, hd]
      simp only [Bool.false_eq_true, if_false]
      split_ifs with hlarge hsmall
      · have hmore : value * 10 + d ≤ (value * 10 + d) * 10 ^ digits.length :=
          le_mul_of_one_le_right (by omega) hpow
        exact (bounded_eq_tooLarge (by omega)).symm
      · omega
      · exact ih hdigits (by omega) (by omega)

/-- Downward from a value that is not positive. -/
theorem readDigits_downward (hdigits : ∀ c ∈ digits, Decimal.isDigit c = true) (hsign : value ≤ 0)
    (hvalue : kind.least ≤ value ∧ value ≤ kind.greatest) :
    kind.readDigits 10 true value digits =
      kind.bounded (value * 10 ^ digits.length - decimalValue digits) := by
  induction digits generalizing value with
  | nil => simp [readDigits, bounded_eq_ok hvalue]
  | cons c digits ih =>
      obtain ⟨hc, hdigits⟩ := List.forall_mem_cons.mp hdigits
      generalize hd : c.toNat - '0'.toNat = d
      have hpow : (1 : Int) ≤ 10 ^ digits.length := one_le_pow₀ (by decide)
      have htotal : value * 10 ^ (c :: digits).length - (decimalValue (c :: digits) : Int) =
          (value * 10 - d) * 10 ^ digits.length - decimalValue digits := by
        rw [decimalValue_cons, hd, List.length_cons]
        push_cast
        ring
      rw [htotal, readDigits, digit?_eq_some hc, hd]
      simp only [if_true]
      split_ifs with hlarge hsmall
      · omega
      · have hmore : (value * 10 - d) * 10 ^ digits.length ≤ value * 10 - d :=
          mul_le_of_one_le_right (by omega) hpow
        exact (bounded_eq_tooSmall (by omega) (by omega)).symm
      · exact ih hdigits (by omega) (by omega)

/-! ### Signs -/

theorem read_digits (hdigits : ∀ c ∈ digits, Decimal.isDigit c = true) (hne : digits ≠ [])
    (hzero : kind.least ≤ 0 ∧ 0 ≤ kind.greatest) :
    kind.read 10 digits = kind.bounded (decimalValue digits) := by
  have hread : kind.read 10 digits = kind.readDigits 10 false 0 digits := by
    obtain ⟨c, digits, rfl⟩ := List.exists_cons_of_ne_nil hne
    have hc := hdigits c (by simp)
    have hplus : c ≠ '+' := fun h => by rw [h] at hc; exact absurd hc (by decide)
    have hminus : c ≠ '-' := fun h => by rw [h] at hc; exact absurd hc (by decide)
    simp [read, hplus, hminus]
  rw [hread, readDigits_upward hdigits (Int.le_refl 0) hzero, zero_mul, zero_add]

theorem read_plus (hdigits : ∀ c ∈ digits, Decimal.isDigit c = true) (hne : digits ≠ [])
    (hzero : kind.least ≤ 0 ∧ 0 ≤ kind.greatest) :
    kind.read 10 ('+' :: digits) = kind.bounded (decimalValue digits) := by
  have hread : kind.read 10 ('+' :: digits) = kind.readDigits 10 false 0 digits := by
    simp [read]
  rw [hread, readDigits_upward hdigits (Int.le_refl 0) hzero, zero_mul, zero_add]

theorem read_minus (hdigits : ∀ c ∈ digits, Decimal.isDigit c = true) (hne : digits ≠ [])
    (hzero : kind.least < 0 ∧ 0 ≤ kind.greatest) :
    kind.read 10 ('-' :: digits) = kind.bounded (-decimalValue digits) := by
  have hread : kind.read 10 ('-' :: digits) = kind.readDigits 10 true 0 digits := by
    simp [read, hzero.1]
  rw [hread, readDigits_downward hdigits (Int.le_refl 0) ⟨Int.le_of_lt hzero.1, hzero.2⟩, zero_mul,
    zero_sub]

end IntegerKind

end RuleLexer

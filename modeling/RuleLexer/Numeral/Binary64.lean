/-! Binary floating-point numbers with 53 bits of precision, as exact data, and rounding to them. -/

namespace RuleLexer

/-- The form of the finite number `mantissa · 2 ^ exponent`. The mantissa has exactly 53 bits unless
the exponent is the least one; so equal numbers have one form, but for the sign of zero. -/
structure Binary64.IsCanonical (mantissa : Nat) (exponent : Int) : Prop where
  mantissa_lt : mantissa < Nat.pow 2 53
  least_le : -1074 ≤ exponent
  le_greatest : exponent ≤ 971
  full : exponent = -1074 ∨ Nat.pow 2 52 ≤ mantissa

inductive Binary64
  | nan
  | infinity (negative : Bool)
  | finite (negative : Bool) (mantissa : Nat) (exponent : Int)
    (canonical : Binary64.IsCanonical mantissa exponent)
  deriving DecidableEq, Repr

namespace Binary64

def zero (negative : Bool) : Binary64 :=
  finite negative 0 (-1074) ⟨by decide, by decide, by decide, .inl rfl⟩

/-! ### Division -/

/-- `num / den` to the nearest integer, a half to the even one. -/
def divideRounding (num den : Nat) : Nat :=
  let quotient := num / den
  let twice := 2 * (num % den)
  if twice < den then quotient
  else if den < twice then quotient + 1
  else quotient + quotient % 2

theorem divideRounding_bounds (num den : Nat) :
    num / den ≤ divideRounding num den ∧ divideRounding num den ≤ num / den + 1 := by
  have hmod := Nat.mod_lt (num / den) (by decide : 0 < 2)
  rw [divideRounding]
  split
  · omega
  · split <;> omega

theorem le_divideRounding {num den a : Nat} (hden : 0 < den) (h : den * a ≤ num) :
    a ≤ divideRounding num den := by
  have hquotient : a ≤ num / den := (Nat.le_div_iff_mul_le hden).mpr (Nat.mul_comm a den ▸ h)
  exact Nat.le_trans hquotient (divideRounding_bounds num den).1

theorem divideRounding_le {num den a : Nat} (hden : 0 < den) (h : num < den * a) :
    divideRounding num den ≤ a := by
  have hquotient : num / den < a := (Nat.div_lt_iff_lt_mul hden).mpr (Nat.mul_comm den a ▸ h)
  exact Nat.le_trans (divideRounding_bounds num den).2 hquotient

/-! ### Powers of two below a ratio -/

/-- `2 ^ k ≤ num / den`, for positive `den`. -/
def Reaches (num den : Nat) (k : Int) : Prop :=
  den * Nat.pow 2 k.toNat ≤ num * Nat.pow 2 (-k).toNat

instance (num den : Nat) (k : Int) : Decidable (Reaches num den k) :=
  inferInstanceAs (Decidable (_ ≤ _))

/-- Both sides may be multiplied by a power of two. -/
theorem reaches_iff {num den a b : Nat} {k : Int} (hk : k = a - b) :
    Reaches num den k ↔ den * Nat.pow 2 a ≤ num * Nat.pow 2 b := by
  have hpow (m n : Nat) : Nat.pow 2 (m + n) = Nat.pow 2 m * Nat.pow 2 n := Nat.pow_add 2 m n
  have hpos (n : Nat) : 0 < Nat.pow 2 n := Nat.two_pow_pos n
  have hsum : k.toNat + b = a + (-k).toNat := by omega
  calc Reaches num den k
      ↔ den * Nat.pow 2 k.toNat * Nat.pow 2 b ≤ num * Nat.pow 2 (-k).toNat * Nat.pow 2 b :=
        (Nat.mul_le_mul_right_iff (hpos b)).symm
    _ ↔ den * Nat.pow 2 a * Nat.pow 2 (-k).toNat ≤ num * Nat.pow 2 b * Nat.pow 2 (-k).toNat := by
        rw [Nat.mul_assoc den, ← hpow, hsum, hpow, ← Nat.mul_assoc, Nat.mul_right_comm num]
    _ ↔ den * Nat.pow 2 a ≤ num * Nat.pow 2 b := Nat.mul_le_mul_right_iff (hpos _)

theorem reaches_add_iff {num den bits : Nat} {k : Int} :
    Reaches num den (k + bits) ↔
      den * Nat.pow 2 k.toNat * Nat.pow 2 bits ≤ num * Nat.pow 2 (-k).toNat := by
  have hpow : Nat.pow 2 (k.toNat + bits) = Nat.pow 2 k.toNat * Nat.pow 2 bits := Nat.pow_add 2 _ _
  rw [reaches_iff (a := k.toNat + bits) (b := (-k).toNat) (by omega), hpow, Nat.mul_assoc]

theorem Reaches.mono {num den : Nat} {j k : Int} (h : Reaches num den k) (hjk : j ≤ k) :
    Reaches num den j := by
  obtain ⟨bits, rfl⟩ : ∃ bits : Nat, k = j + bits := ⟨(k - j).toNat, by omega⟩
  exact Nat.le_trans (Nat.le_mul_of_pos_right _ (Nat.two_pow_pos bits)) (reaches_add_iff.mp h)

/-- The largest `k` with `2 ^ k ≤ num / den`, for positive `num` and `den`. -/
def log2Ratio (num den : Nat) : Int :=
  let guess : Int := (num.log2 : Int) - den.log2
  if Reaches num den guess then guess else guess - 1

theorem log2Ratio_spec {num den : Nat} (hnum : num ≠ 0) (hden : 0 < den) :
    Reaches num den (log2Ratio num den) ∧ ¬ Reaches num den (log2Ratio num den + 1) := by
  have hnumLow : Nat.pow 2 num.log2 ≤ num := Nat.log2_self_le hnum
  have hnumHigh : num < Nat.pow 2 (num.log2 + 1) := Nat.lt_log2_self
  have hdenLow : Nat.pow 2 den.log2 ≤ den := Nat.log2_self_le (Nat.ne_of_gt hden)
  have hdenHigh : den < Nat.pow 2 (den.log2 + 1) := Nat.lt_log2_self
  -- the guess is one too large at most
  have hbelow : Reaches num den ((num.log2 : Int) - den.log2 - 1) := by
    rw [reaches_iff (a := num.log2) (b := den.log2 + 1) (by omega), Nat.mul_comm num]
    exact Nat.mul_le_mul (Nat.le_of_lt hdenHigh) hnumLow
  have habove : ¬ Reaches num den ((num.log2 : Int) - den.log2 + 1) := by
    rw [reaches_iff (a := num.log2 + 1) (b := den.log2) (by omega), Nat.not_le, Nat.mul_comm num]
    exact Nat.mul_lt_mul_of_le_of_lt hdenLow hnumHigh hden
  rw [log2Ratio]
  split
  case isTrue hguess => exact ⟨hguess, habove⟩
  case isFalse hguess => exact ⟨hbelow, by rwa [Int.sub_add_cancel]⟩

/-! ### Rounding -/

/-- `num / den` in steps of `2 ^ exponent`. -/
def mantissaAt (num den : Nat) (exponent : Int) : Nat :=
  divideRounding (num * Nat.pow 2 (-exponent).toNat) (den * Nat.pow 2 exponent.toNat)

section

variable {num den bits : Nat} {exponent : Int}

theorem le_mantissaAt (hden : 0 < den) (h : Reaches num den (exponent + bits)) :
    Nat.pow 2 bits ≤ mantissaAt num den exponent :=
  le_divideRounding (Nat.mul_pos hden (Nat.two_pow_pos _)) (reaches_add_iff.mp h)

theorem mantissaAt_le (hden : 0 < den) (h : ¬ Reaches num den (exponent + bits)) :
    mantissaAt num den exponent ≤ Nat.pow 2 bits :=
  divideRounding_le (Nat.mul_pos hden (Nat.two_pow_pos _))
    (Nat.lt_of_not_le (mt reaches_add_iff.mpr h))

end

/-- The exponent with which a positive number has 53 bits, or the least one. -/
def exponentOf (num den : Nat) : Int := max (log2Ratio num den - 52) (-1074)

/-- The form of the nearest number if exponents were not bounded above. A mantissa that rounding
makes one bit longer is carried. -/
def rounded (num den : Nat) : Nat × Int :=
  let exponent := exponentOf num den
  let mantissa := mantissaAt num den exponent
  if mantissa = Nat.pow 2 53 then (Nat.pow 2 52, exponent + 1) else (mantissa, exponent)

theorem isCanonical_rounded {num den : Nat} (hnum : num ≠ 0) (hden : 0 < den)
    (hgreatest : (rounded num den).2 ≤ 971) :
    IsCanonical (rounded num den).1 (rounded num den).2 := by
  obtain ⟨hreaches, hnot⟩ := log2Ratio_spec hnum hden
  have hleast : -1074 ≤ exponentOf num den := Int.le_max_right _ _
  have hexponent : log2Ratio num den - 52 ≤ exponentOf num den := Int.le_max_left _ _
  have hle : mantissaAt num den (exponentOf num den) ≤ Nat.pow 2 53 :=
    mantissaAt_le hden fun h => hnot (h.mono (by omega))
  have hfull : exponentOf num den = -1074 ∨
      Nat.pow 2 52 ≤ mantissaAt num den (exponentOf num den) := by
    by_cases h : exponentOf num den = -1074
    · exact .inl h
    · have heq : exponentOf num den = log2Ratio num den - 52 := by
        rw [exponentOf] at h ⊢
        omega
      exact .inr (le_mantissaAt hden (hreaches.mono (by omega)))
  revert hgreatest
  rw [rounded]
  split
  case isTrue =>
    have hlt : Nat.pow 2 52 < Nat.pow 2 53 := by decide
    have hnext : -1074 ≤ exponentOf num den + 1 := by omega
    exact fun hgreatest => ⟨hlt, hnext, hgreatest, .inr (Nat.le_refl _)⟩
  case isFalse hne =>
    exact fun hgreatest => ⟨Nat.lt_of_le_of_ne hle hne, hleast, hgreatest, hfull⟩

/-- The number nearest to `num / den`, of two the one with the even mantissa. What is half a step
beyond the greatest number or more becomes infinity. -/
def ofRatio (negative : Bool) (num den : Nat) (hden : 0 < den) : Binary64 :=
  if hnum : num = 0 then zero negative
  else
    let r := rounded num den
    if h : r.2 ≤ 971 then finite negative r.1 r.2 (isCanonical_rounded hnum hden h)
    else infinity negative

end Binary64

end RuleLexer

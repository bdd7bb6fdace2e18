import Mathlib.Data.List.TakeWhile
import RuleLexer.Numeral.Decimal

/-!
Texts that are read as binary numbers. Digits with a point, before it or behind
it, and perhaps an exponent are all that is asked for, and a sign may stand in
front.
-/

namespace RuleLexer

namespace Decimal

variable {whole fraction digits rest : List Char}

theorem ne_of_isDigit {c d : Char} (hc : isDigit c = true) (hd : isDigit d = false) : c ≠ d := by
  rintro rfl
  rw [hc] at hd
  cases hd

/-- The text does not go on with a digit. -/
def Stops (rest : List Char) : Prop := ∀ c ∈ rest.head?, isDigit c = false

theorem takeWhile_append_of_stops (hdigits : ∀ c ∈ digits, isDigit c = true) (hrest : Stops rest) :
    (digits ++ rest).takeWhile isDigit = digits := by
  rw [List.takeWhile_append_of_pos hdigits]
  cases rest with
  | nil => simp
  | cons c rest => simp [hrest c rfl]

theorem dropWhile_append_of_stops (hdigits : ∀ c ∈ digits, isDigit c = true) (hrest : Stops rest) :
    (digits ++ rest).dropWhile isDigit = rest := by
  rw [List.dropWhile_append_of_pos hdigits]
  cases rest with
  | nil => rfl
  | cons c rest => simp [hrest c rfl]

/-! ### Exponents -/

/-- An exponent as it is read: the letter, a sign if there is one, and digits. -/
inductive IsExponent : List Char → Prop
  | mk (letter : Char) (sign digits : List Char) (hletter : letter = 'e' ∨ letter = 'E')
      (hsign : sign = [] ∨ sign = ['+'] ∨ sign = ['-'])
      (hdigits : ∀ c ∈ digits, isDigit c = true) (hne : digits ≠ []) :
      IsExponent (letter :: (sign ++ digits))

theorem IsExponent.isSome_readExponent? {text : List Char} (h : IsExponent text) :
    (readExponent? text).isSome = true := by
  obtain ⟨letter, sign, digits, hletter, hsign, hdigits, hne⟩ := h
  have hall : digits.all isDigit = true := List.all_eq_true.mpr hdigits
  rcases hsign with rfl | rfl | rfl
  · obtain ⟨c, digits, rfl⟩ := List.exists_cons_of_ne_nil hne
    have hc := hdigits c (by simp)
    have hplus : c ≠ '+' := ne_of_isDigit hc (by decide)
    have hminus : c ≠ '-' := ne_of_isDigit hc (by decide)
    simp_all [readExponent?]
  · simp [readExponent?, hletter, hne, hall]
  · simp [readExponent?, hletter, hne, hall]

theorem IsExponent.stops {text : List Char} (h : IsExponent text) : Stops text := by
  obtain ⟨letter, sign, digits, rfl | rfl, -, -, -⟩ := h <;>
  · rintro c ⟨⟩
    decide

/-! ### Numerals -/

theorem isSome_read?_whole (hdigits : ∀ c ∈ whole, isDigit c = true) (hne : whole ≠ [])
    (hexponent : IsExponent rest) : (read? (whole ++ rest)).isSome = true := by
  have hread := hexponent.isSome_readExponent?
  rw [read?, takeWhile_append_of_stops hdigits hexponent.stops,
    dropWhile_append_of_stops hdigits hexponent.stops]
  obtain ⟨letter, sign, digits, rfl | rfl, -, -, -⟩ := hexponent <;>
  · simp [hne, hread]

theorem stops_point (rest : List Char) : Stops ('.' :: rest) := by
  rintro c ⟨⟩
  decide

theorem isSome_read?_point (hwhole : ∀ c ∈ whole, isDigit c = true)
    (hfraction : ∀ c ∈ fraction, isDigit c = true) (hne : ¬ (whole = [] ∧ fraction = []))
    (hexponent : rest = [] ∨ IsExponent rest) :
    (read? (whole ++ '.' :: (fraction ++ rest))).isSome = true := by
  have hread : (readExponent? rest).isSome = true ∧ Stops rest := by
    rcases hexponent with rfl | hexponent
    · exact ⟨rfl, fun c hc => by cases hc⟩
    · exact ⟨hexponent.isSome_readExponent?, hexponent.stops⟩
  rw [read?, takeWhile_append_of_stops hwhole (stops_point _),
    dropWhile_append_of_stops hwhole (stops_point _)]
  simp only [takeWhile_append_of_stops hfraction hread.2,
    dropWhile_append_of_stops hfraction hread.2, if_neg hne, Option.isSome_map]
  exact hread.1

end Decimal

namespace Binary64

variable {text : List Char}

theorem exists_readMagnitude (negative : Bool) (h : (Decimal.read? text).isSome = true) :
    ∃ x, readMagnitude negative text = .ok x := by
  obtain ⟨d, hd⟩ := Option.isSome_iff_exists.mp h
  rw [readMagnitude, hd]
  split_ifs
  · exact ⟨_, rfl⟩
  · exact ⟨_, rfl⟩
  · exact ⟨_, rfl⟩

theorem exists_read_plus (h : (Decimal.read? text).isSome = true) :
    ∃ x, Binary64.read ('+' :: text) = .ok x :=
  exists_readMagnitude false h

theorem exists_read_minus (h : (Decimal.read? text).isSome = true) :
    ∃ x, Binary64.read ('-' :: text) = .ok x :=
  exists_readMagnitude true h

theorem exists_read (h : (Decimal.read? text).isSome = true) :
    ∃ x, Binary64.read text = .ok x := by
  rw [Binary64.read.eq_def]
  split
  next => exact absurd h (by decide)
  next => simp [Decimal.read?, Decimal.isDigit] at h
  next => simp [Decimal.read?, Decimal.isDigit] at h
  next => exact exists_readMagnitude false h

end Binary64

end RuleLexer

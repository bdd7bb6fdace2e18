import RuleLexer.Proofs.Pattern.Ways

/-!
What stands at the places of a pattern. A place is come to in many ways, but
what is still to be matched there is always the same, so going through it once
is enough. A pattern is in place, with something to be matched behind it, if
this holds of its places and of those of all that it leads to.
-/

namespace RuleLexer

namespace Pattern

/-! ### What is still to be matched at a place -/

def standingLiteral (rest : Residual) : List Char → Nat → Nat → Residual
  | [], _, _ => rest
  | a :: as, place, i =>
    if i = place then .pattern place (literal a as) :: rest
    else standingLiteral rest as (place + 1) i

/-- Rounds that must be there before the last one, and the place at which that one begins again. -/
def standingUnbounded (greedy : Bool) (p : Pattern) (body : Nat → Residual → Nat → Residual)
    (rest : Residual) : Nat → Nat → Nat → Residual
  | 0, place, i =>
    if i = place then .again place greedy p :: rest
    else body (place + 1) (.again place greedy p :: rest) i
  | low + 1, place, i =>
    let next := place + p.places
    if i < next then body place (.pattern next (rounds (low + 1) none greedy p) :: rest) i
    else standingUnbounded greedy p body rest low next i

def standingOptional (greedy : Bool) (p : Pattern) (body : Nat → Residual → Nat → Residual)
    (rest : Residual) : Nat → Nat → Nat → Residual
  | 0, _, _ => rest
  | more + 1, place, i =>
    let next := place + 1 + p.places
    if i = place then .pattern place (rounds 0 (some (more + 1)) greedy p) :: rest
    else if i < next then body (place + 1) (leftOver 0 more greedy p next rest) i
    else standingOptional greedy p body rest more next i

def standingBounded (greedy : Bool) (p : Pattern) (body : Nat → Residual → Nat → Residual)
    (rest : Residual) (more : Nat) : Nat → Nat → Nat → Residual
  | 0, place, i => standingOptional greedy p body rest more place i
  | low + 1, place, i =>
    let next := place + p.places
    if i < next then body place (leftOver low (low + more) greedy p next rest) i
    else standingBounded greedy p body rest more low next i

/-- What is still to be matched at the place `i` of a pattern, given the number that its places
begin at and what comes after it. -/
def standing : Pattern → Nat → Residual → Nat → Residual
  | empty, _, rest, _ => rest
  | literal a as, place, rest, i => standingLiteral rest (a :: as) place i
  | set s, place, rest, _ => .pattern place (set s) :: rest
  | look _, _, rest, _ => rest
  | capture _ p, place, rest, i => p.standing place rest i
  | seq p q, place, rest, i =>
    let next := place + p.places
    if i < next then p.standing place (.pattern next q :: rest) i else q.standing next rest i
  | alt p q, place, rest, i =>
    let next := place + 1 + p.places
    if i = place then .pattern place (alt p q) :: rest
    else if i < next then p.standing (place + 1) rest i
    else q.standing next rest i
  | rounds low none greedy p, place, rest, i =>
    standingUnbounded greedy p p.standing rest (low - 1) place i
  | rounds low (some high) greedy p, place, rest, i =>
    standingBounded greedy p p.standing rest (high - low) low place i

section Equations

variable {p q : Pattern} {place i : Nat} {rest : Residual}

theorem standing_literal {a : Char} {as : List Char} :
    (literal a as).standing place rest i =
      if i = place then .pattern place (literal a as) :: rest
      else standingLiteral rest as (place + 1) i := rfl

theorem standing_set {s : CharSet} :
    (set s).standing place rest i = .pattern place (set s) :: rest := rfl

theorem standing_seq :
    (seq p q).standing place rest i =
      if i < place + p.places then p.standing place (.pattern (place + p.places) q :: rest) i
      else q.standing (place + p.places) rest i := rfl

theorem standing_alt :
    (alt p q).standing place rest i =
      if i = place then .pattern place (alt p q) :: rest
      else if i < place + 1 + p.places then p.standing (place + 1) rest i
      else q.standing (place + 1 + p.places) rest i := rfl

theorem standing_unbounded_again {low : Nat} (hlow : low ≤ 1) {greedy : Bool} :
    (rounds low none greedy p).standing place rest i =
      if i = place then .again place greedy p :: rest
      else p.standing (place + 1) (.again place greedy p :: rest) i := by
  have hzero : low - 1 = 0 := by omega
  show standingUnbounded greedy p p.standing rest (low - 1) place i = _
  rw [hzero]
  rfl

theorem standing_unbounded_succ {low : Nat} {greedy : Bool} :
    (rounds (low + 2) none greedy p).standing place rest i =
      if i < place + p.places then
        p.standing place (.pattern (place + p.places) (rounds (low + 1) none greedy p) :: rest) i
      else (rounds (low + 1) none greedy p).standing (place + p.places) rest i := rfl

theorem standing_bounded_succ {low more : Nat} {greedy : Bool} :
    (rounds (low + 1) (some (low + 1 + more)) greedy p).standing place rest i =
      if i < place + p.places then
        p.standing place (leftOver low (low + more) greedy p (place + p.places) rest) i
      else (rounds low (some (low + more)) greedy p).standing (place + p.places) rest i := by
  show standingBounded greedy p p.standing rest (low + 1 + more - (low + 1)) (low + 1) place i =
    if i < place + p.places then
      p.standing place (leftOver low (low + more) greedy p (place + p.places) rest) i
    else standingBounded greedy p p.standing rest (low + more - low) low (place + p.places) i
  rw [Nat.add_sub_cancel_left, Nat.add_sub_cancel_left]
  rfl

theorem standing_optional_succ {more : Nat} {greedy : Bool} :
    (rounds 0 (some (more + 1)) greedy p).standing place rest i =
      if i = place then .pattern place (rounds 0 (some (more + 1)) greedy p) :: rest
      else if i < place + 1 + p.places then
        p.standing (place + 1) (leftOver 0 more greedy p (place + 1 + p.places) rest) i
      else (rounds 0 (some more) greedy p).standing (place + 1 + p.places) rest i := rfl

end Equations

/-! ### Patterns in place -/

/-- At all places of the pattern stands what is to be matched there, and no place has a number that
is too great. -/
structure Placed (stands : Nat → Residual) (size : Nat) (p : Pattern) (place : Nat)
    (rest : Residual) : Prop where
  progressive : p.isProgressive = true
  fits : place + p.places ≤ size
  standing : ∀ i, place ≤ i → i < place + p.places → stands i = p.standing place rest i

/-- The same of all that is to be matched one after another. -/
inductive InPlace (stands : Nat → Residual) (size : Nat) : Residual → Prop
  | nil : InPlace stands size []
  | pattern {place : Nat} {p : Pattern} {rest : Residual} (hp : Placed stands size p place rest)
      (hrest : InPlace stands size rest) : InPlace stands size (.pattern place p :: rest)
  | again {place : Nat} {greedy : Bool} {p : Pattern} {rest : Residual}
      (hconsumes : p.consumes = true) (hplace : place < size)
      (hstands : stands place = .again place greedy p :: rest)
      (hp : Placed stands size p (place + 1) (.again place greedy p :: rest))
      (hrest : InPlace stands size rest) : InPlace stands size (.again place greedy p :: rest)

theorem places_bounded_succ (low more : Nat) (greedy : Bool) (p : Pattern) :
    (rounds (low + 1) (some (low + 1 + more)) greedy p).places =
      p.places + (rounds low (some (low + more)) greedy p).places := by
  show (low + 1) * p.places + (low + 1 + more - (low + 1)) * (1 + p.places) =
    p.places + (low * p.places + (low + more - low) * (1 + p.places))
  rw [Nat.add_sub_cancel_left, Nat.add_sub_cancel_left, Nat.succ_mul]
  omega

theorem places_optional_succ (more : Nat) (greedy : Bool) (p : Pattern) :
    (rounds 0 (some (more + 1)) greedy p).places =
      1 + p.places + (rounds 0 (some more) greedy p).places := by
  show 0 * p.places + (more + 1 - 0) * (1 + p.places) =
    1 + p.places + (0 * p.places + (more - 0) * (1 + p.places))
  rw [Nat.sub_zero, Nat.sub_zero, Nat.succ_mul]
  omega

theorem placed_standing {p : Pattern} (h : p.isProgressive = true) :
    Placed (p.standing 0 []) p.places p 0 [] :=
  ⟨h, by omega, fun _ _ _ => rfl⟩

variable {stands : Nat → Residual} {size : Nat}

namespace Placed

variable {p q : Pattern} {place : Nat} {rest : Residual}

theorem literal_place {a : Char} {as : List Char}
    (h : Placed stands size (literal a as) place rest) :
    place < size ∧ stands place = .pattern place (literal a as) :: rest := by
  have hplaces : (literal a as).places = as.length + 1 := rfl
  have hfits := h.fits
  refine ⟨by omega, ?_⟩
  rw [h.standing place (Nat.le_refl _) (by omega), standing_literal, if_pos rfl]

theorem literal_next {a b : Char} {as : List Char}
    (h : Placed stands size (literal a (b :: as)) place rest) :
    Placed stands size (literal b as) (place + 1) rest := by
  have hplaces : (literal a (b :: as)).places = (literal b as).places + 1 := rfl
  have hfits := h.fits
  refine ⟨rfl, by omega, fun i hi hlt => ?_⟩
  rw [h.standing i (by omega) (by omega), standing_literal, if_neg (by omega)]
  rfl

theorem set_place {s : CharSet} (h : Placed stands size (set s) place rest) :
    place < size ∧ stands place = .pattern place (set s) :: rest := by
  have hplaces : (set s).places = 1 := rfl
  have hfits := h.fits
  refine ⟨by omega, ?_⟩
  rw [h.standing place (Nat.le_refl _) (by omega), standing_set]

theorem capture {index : Nat} (h : Placed stands size (capture index p) place rest) :
    Placed stands size p place rest :=
  ⟨h.progressive, h.fits, h.standing⟩

theorem seq_progressive (h : Placed stands size (seq p q) place rest) :
    p.isProgressive = true ∧ q.isProgressive = true :=
  (Bool.and_eq_true _ _).mp h.progressive

theorem seq_left (h : Placed stands size (seq p q) place rest) :
    Placed stands size p place (.pattern (place + p.places) q :: rest) := by
  have hplaces : (seq p q).places = p.places + q.places := rfl
  have hfits := h.fits
  refine ⟨h.seq_progressive.1, by omega, fun i hi hlt => ?_⟩
  rw [h.standing i hi (by omega), standing_seq, if_pos hlt]

theorem seq_right (h : Placed stands size (seq p q) place rest) :
    Placed stands size q (place + p.places) rest := by
  have hplaces : (seq p q).places = p.places + q.places := rfl
  have hfits := h.fits
  refine ⟨h.seq_progressive.2, by omega, fun i hi hlt => ?_⟩
  rw [h.standing i (by omega) (by omega), standing_seq, if_neg (by omega)]

theorem alt_progressive (h : Placed stands size (alt p q) place rest) :
    p.isProgressive = true ∧ q.isProgressive = true :=
  (Bool.and_eq_true _ _).mp h.progressive

theorem alt_place (h : Placed stands size (alt p q) place rest) :
    place < size ∧ stands place = .pattern place (alt p q) :: rest := by
  have hplaces : (alt p q).places = 1 + p.places + q.places := rfl
  have hfits := h.fits
  refine ⟨by omega, ?_⟩
  rw [h.standing place (Nat.le_refl _) (by omega), standing_alt, if_pos rfl]

theorem alt_left (h : Placed stands size (alt p q) place rest) :
    Placed stands size p (place + 1) rest := by
  have hplaces : (alt p q).places = 1 + p.places + q.places := rfl
  have hfits := h.fits
  refine ⟨h.alt_progressive.1, by omega, fun i hi hlt => ?_⟩
  rw [h.standing i (by omega) (by omega), standing_alt, if_neg (by omega), if_pos hlt]

theorem alt_right (h : Placed stands size (alt p q) place rest) :
    Placed stands size q (place + 1 + p.places) rest := by
  have hplaces : (alt p q).places = 1 + p.places + q.places := rfl
  have hfits := h.fits
  refine ⟨h.alt_progressive.2, by omega, fun i hi hlt => ?_⟩
  rw [h.standing i (by omega) (by omega), standing_alt, if_neg (by omega),
    if_neg (by omega)]

/-! ### Unbounded repetitions -/

theorem body_consumes {low : Nat} {greedy : Bool}
    (h : Placed stands size (rounds low none greedy p) place rest) : p.consumes = true := by
  have hprogressive : (false || p.consumes) = true := ((Bool.and_eq_true _ _).mp h.progressive).1
  rwa [Bool.false_or] at hprogressive

theorem body_progressive {low : Nat} {high : Option Nat} {greedy : Bool}
    (h : Placed stands size (rounds low high greedy p) place rest) : p.isProgressive = true :=
  ((Bool.and_eq_true _ _).mp h.progressive).2

/-- The first round of those that must be there before the last one. -/
theorem unbounded_first {low : Nat} {greedy : Bool}
    (h : Placed stands size (rounds (low + 2) none greedy p) place rest) :
    Placed stands size p place
      (.pattern (place + p.places) (rounds (low + 1) none greedy p) :: rest) := by
  have hplaces : (rounds (low + 2) none greedy p).places =
      (low + 1) * p.places + (1 + p.places) := rfl
  have hle : p.places ≤ (low + 1) * p.places := Nat.le_mul_of_pos_left _ (by omega)
  have hfits := h.fits
  refine ⟨h.body_progressive, by omega, fun i hi hlt => ?_⟩
  rw [h.standing i hi (by omega), standing_unbounded_succ, if_pos hlt]

theorem unbounded_rest {low : Nat} {greedy : Bool}
    (h : Placed stands size (rounds (low + 2) none greedy p) place rest) :
    Placed stands size (rounds (low + 1) none greedy p) (place + p.places) rest := by
  have hplaces : (rounds (low + 2) none greedy p).places =
      p.places + (rounds (low + 1) none greedy p).places := by
    show (low + 1) * p.places + (1 + p.places) = p.places + (low * p.places + (1 + p.places))
    rw [Nat.succ_mul, Nat.add_comm _ p.places, Nat.add_assoc]
  have hfits := h.fits
  refine ⟨h.progressive, by omega, fun i hi hlt => ?_⟩
  rw [h.standing i (by omega) (by omega), standing_unbounded_succ, if_neg (by omega)]

/-- The place at which the last round that must be there begins again. -/
theorem unbounded_again {low : Nat} (hlow : low ≤ 1) {greedy : Bool}
    (h : Placed stands size (rounds low none greedy p) place rest)
    (hrest : InPlace stands size rest) :
    InPlace stands size (.again place greedy p :: rest) := by
  have hplaces : (rounds low none greedy p).places = 1 + p.places := by
    obtain rfl | rfl : low = 0 ∨ low = 1 := by omega
    · simp [places, h.body_consumes]
    · simp [places]
  have hfits := h.fits
  refine .again h.body_consumes (by omega) ?_ ⟨h.body_progressive, by omega, ?_⟩ hrest
  · rw [h.standing place (Nat.le_refl _) (by omega), standing_unbounded_again hlow, if_pos rfl]
  · intro i hi hlt
    rw [h.standing i (by omega) (by omega), standing_unbounded_again hlow, if_neg (by omega)]

/-! ### Bounded repetitions -/

theorem bounded_first {low more : Nat} {greedy : Bool}
    (h : Placed stands size (rounds (low + 1) (some (low + 1 + more)) greedy p) place rest) :
    Placed stands size p place
      (leftOver low (low + more) greedy p (place + p.places) rest) := by
  have hplaces := places_bounded_succ low more greedy p
  have hfits := h.fits
  refine ⟨h.body_progressive, by omega, fun i hi hlt => ?_⟩
  rw [h.standing i hi (by omega), standing_bounded_succ, if_pos hlt]

theorem bounded_rest {low more : Nat} {greedy : Bool}
    (h : Placed stands size (rounds (low + 1) (some (low + 1 + more)) greedy p) place rest) :
    Placed stands size (rounds low (some (low + more)) greedy p) (place + p.places) rest := by
  have hplaces := places_bounded_succ low more greedy p
  have hfits := h.fits
  refine ⟨h.progressive, by omega, fun i hi hlt => ?_⟩
  rw [h.standing i (by omega) (by omega), standing_bounded_succ, if_neg (by omega)]

theorem optional_place {more : Nat} {greedy : Bool}
    (h : Placed stands size (rounds 0 (some (more + 1)) greedy p) place rest) :
    place < size ∧
      stands place = .pattern place (rounds 0 (some (more + 1)) greedy p) :: rest := by
  have hplaces := places_optional_succ more greedy p
  have hfits := h.fits
  refine ⟨by omega, ?_⟩
  rw [h.standing place (Nat.le_refl _) (by omega), standing_optional_succ, if_pos rfl]

theorem optional_first {more : Nat} {greedy : Bool}
    (h : Placed stands size (rounds 0 (some (more + 1)) greedy p) place rest) :
    Placed stands size p (place + 1)
      (leftOver 0 more greedy p (place + 1 + p.places) rest) := by
  have hplaces := places_optional_succ more greedy p
  have hfits := h.fits
  refine ⟨h.body_progressive, by omega, fun i hi hlt => ?_⟩
  rw [h.standing i (by omega) (by omega), standing_optional_succ, if_neg (by omega), if_pos hlt]

theorem optional_rest {more : Nat} {greedy : Bool}
    (h : Placed stands size (rounds 0 (some (more + 1)) greedy p) place rest) :
    Placed stands size (rounds 0 (some more) greedy p) (place + 1 + p.places) rest := by
  have hplaces := places_optional_succ more greedy p
  have hfits := h.fits
  refine ⟨h.progressive, by omega, fun i hi hlt => ?_⟩
  rw [h.standing i (by omega) (by omega), standing_optional_succ, if_neg (by omega),
    if_neg (by omega)]

end Placed

theorem inPlace_leftOver {low high : Nat} {greedy : Bool} {p : Pattern} {place : Nat}
    {rest : Residual} (h : Placed stands size (rounds low (some high) greedy p) place rest)
    (hrest : InPlace stands size rest) :
    InPlace stands size (leftOver low high greedy p place rest) := by
  rw [leftOver]
  split
  · exact hrest
  · exact .pattern h hrest

end Pattern

end RuleLexer

import RuleLexer.Pattern.Match
import Mathlib.Data.List.Basic

/-!
The ways in which a pattern matches at a gap of a text, from the most to the
least preferred. This says which match is preferred without following all ways
at once: a sequence goes on from every way of its first part in turn, and a
choice takes all ways of its first branch before those of the second.
-/

namespace RuleLexer

/-- A gap of a text, by the character before it and the text behind it. -/
structure Cursor where
  before : Option Char
  text : List Char
  deriving DecidableEq, Repr

namespace Cursor

def gap (c : Cursor) : Gap := ⟨c.before, c.text.head?⟩

/-- The gap behind the next character, if the set has it. -/
def read (s : CharSet) : Cursor → List Cursor
  | ⟨_, []⟩ => []
  | ⟨_, a :: text⟩ => if s.contains a then [⟨some a, text⟩] else []

/-- The gap behind the characters, if they come next. -/
def readAll : List Char → Cursor → List Cursor
  | [], c => [c]
  | a :: as, c => (c.read (.one a)).flatMap (readAll as)

/-- The number of characters between two gaps of a text. -/
def lengthTo (c d : Cursor) : Nat := c.text.length - d.text.length

@[simp] theorem read_nil (s : CharSet) (before : Option Char) : read s ⟨before, []⟩ = [] := rfl

theorem read_cons (s : CharSet) (before : Option Char) (a : Char) (text : List Char) :
    read s ⟨before, a :: text⟩ = if s.contains a then [⟨some a, text⟩] else [] := rfl

theorem readAll_cons (a : Char) (as : List Char) (c : Cursor) :
    readAll (a :: as) c = (c.read (.one a)).flatMap (readAll as) := rfl

@[simp] theorem readAll_singleton (a : Char) (c : Cursor) : readAll [a] c = c.read (.one a) :=
  List.flatMap_singleton' (c.read (.one a))

end Cursor

namespace Pattern

/-! ### Rounds -/

/-- So many rounds. -/
def times (round : Cursor → List Cursor) : Nat → Cursor → List Cursor
  | 0, c => [c]
  | n + 1, c => (round c).flatMap (times round n)

/-- At most so many rounds, first the ways with one more if they are greedy. -/
def upTo (round : Cursor → List Cursor) (greedy : Bool) : Nat → Cursor → List Cursor
  | 0, c => [c]
  | n + 1, c =>
    if greedy then (round c).flatMap (upTo round greedy n) ++ [c]
    else c :: (round c).flatMap (upTo round greedy n)

/-- The gaps to which the pattern leads, the most preferred first. Where the rounds of an unbounded
repetition consume something there are no more of them than characters. -/
def ways : Pattern → Cursor → List Cursor
  | empty, c => [c]
  | literal a as, c => c.readAll (a :: as)
  | set s, c => c.read s
  | look l, c => if l.holds c.gap then [c] else []
  | capture _ p, c => p.ways c
  | seq p q, c => (p.ways c).flatMap q.ways
  | alt p q, c => p.ways c ++ q.ways c
  | rounds low high greedy p, c =>
    (times p.ways low c).flatMap fun d =>
      upTo p.ways greedy (match high with
        | some high => high - low
        | none => d.text.length) d

/-- Every round of an unbounded repetition is known to consume something. -/
def isProgressive : Pattern → Bool
  | empty => true
  | literal .. => true
  | set _ => true
  | look _ => true
  | capture _ p => p.isProgressive
  | seq p q => p.isProgressive && q.isProgressive
  | alt p q => p.isProgressive && q.isProgressive
  | rounds _ high _ p => (high.isSome || p.consumes) && p.isProgressive

/-! ### What ways consume -/

/-- Wherever the ways lead, they have gone over so many characters at least. -/
def Shortens (n : Nat) (f : Cursor → List Cursor) : Prop :=
  ∀ c, ∀ d ∈ f c, d.text <:+ c.text ∧ d.text.length + n ≤ c.text.length

theorem Shortens.mono {m n : Nat} {f : Cursor → List Cursor} (h : Shortens n f) (hle : m ≤ n) :
    Shortens m f := by
  intro c d hd
  obtain ⟨hsuffix, hlength⟩ := h c d hd
  exact ⟨hsuffix, by omega⟩

theorem shortens_singleton : Shortens 0 fun c => [c] := by
  intro c d hd
  obtain rfl := List.mem_singleton.mp hd
  exact ⟨List.suffix_rfl, Nat.le_refl _⟩

theorem shortens_read (s : CharSet) : Shortens 1 (Cursor.read s) := by
  rintro ⟨before, text⟩ d hd
  cases text with
  | nil => cases hd
  | cons a text =>
      rw [Cursor.read_cons] at hd
      split at hd
      · obtain rfl := List.mem_singleton.mp hd
        exact ⟨List.suffix_cons a text, Nat.le_refl _⟩
      · cases hd

theorem Shortens.flatMap {m n : Nat} {f g : Cursor → List Cursor} (hf : Shortens m f)
    (hg : Shortens n g) : Shortens (m + n) fun c => (f c).flatMap g := by
  intro c d hd
  obtain ⟨e, he, hd⟩ := List.mem_flatMap.mp hd
  obtain ⟨hsuffix, hlength⟩ := hf c e he
  obtain ⟨hsuffix', hlength'⟩ := hg e d hd
  exact ⟨hsuffix'.trans hsuffix, by omega⟩

theorem Shortens.append {n : Nat} {f g : Cursor → List Cursor} (hf : Shortens n f)
    (hg : Shortens n g) : Shortens n fun c => f c ++ g c := by
  intro c d hd
  rcases List.mem_append.mp hd with hd | hd
  · exact hf c d hd
  · exact hg c d hd

theorem shortens_readAll (as : List Char) : Shortens as.length (Cursor.readAll as) := by
  induction as with
  | nil => exact shortens_singleton
  | cons a as ih =>
      have h := (shortens_read (.one a)).flatMap ih
      rw [Nat.add_comm] at h
      exact h

theorem Shortens.times {n : Nat} {round : Cursor → List Cursor} (h : Shortens n round)
    (low : Nat) : Shortens (low * n) (times round low) := by
  induction low with
  | zero =>
      rw [Nat.zero_mul]
      exact shortens_singleton
  | succ low ih =>
      rw [Nat.succ_mul, Nat.add_comm]
      exact h.flatMap ih

theorem Shortens.upTo {round : Cursor → List Cursor} (h : Shortens 0 round) (greedy : Bool)
    (n : Nat) : Shortens 0 (upTo round greedy n) := by
  induction n with
  | zero => exact shortens_singleton
  | succ n ih =>
      have hmore : Shortens 0 fun c => (round c).flatMap (Pattern.upTo round greedy n) :=
        h.flatMap ih
      cases greedy with
      | false => exact shortens_singleton.append hmore
      | true => exact hmore.append shortens_singleton

theorem shortens_ways (p : Pattern) : Shortens (p.minLength.getD 0) p.ways := by
  induction p with
  | empty => exact shortens_singleton
  | literal a as => exact shortens_readAll (a :: as)
  | set s =>
      apply (shortens_read s).mono
      rw [minLength]
      split <;> simp
  | look l =>
      intro c d hd
      rw [ways] at hd
      split at hd
      · exact shortens_singleton c d hd
      · cases hd
  | capture index p ih => exact ih
  | seq p q ihp ihq =>
      apply (ihp.flatMap ihq).mono
      cases hp : p.minLength <;> cases hq : q.minLength <;> simp [minLength, hp, hq]
  | alt p q ihp ihq =>
      have hle : (alt p q).minLength.getD 0 ≤ p.minLength.getD 0 ∧
          (alt p q).minLength.getD 0 ≤ q.minLength.getD 0 := by
        cases hp : p.minLength <;> cases hq : q.minLength <;>
          simp only [minLength, hp, hq, Option.bind_eq_bind, Option.bind_none, Option.bind_some,
            Option.getD_none, Option.getD_some] <;> omega
      exact (ihp.mono hle.1).append (ihq.mono hle.2)
  | rounds low high greedy p ih =>
      have hmore : Shortens 0 fun d =>
          upTo p.ways greedy (match high with
            | some high => high - low
            | none => d.text.length) d :=
        fun d => (ih.mono (Nat.zero_le _)).upTo greedy _ d
      apply ((ih.times low).flatMap hmore).mono
      cases hp : p.minLength <;> simp [minLength, hp]

theorem suffix_of_mem_ways {p : Pattern} {c d : Cursor} (h : d ∈ p.ways c) :
    d.text <:+ c.text :=
  (p.shortens_ways c d h).1

theorem consumes_iff {p : Pattern} : p.consumes = true ↔ 0 < p.minLength.getD 0 := by
  rw [consumes]
  cases p.minLength <;> simp

theorem consumes_set {s : CharSet} {c : Char} (h : s.contains c = true) :
    (set s).consumes = true := by
  have hbounds : s.bounds ≠ [] := fun hnil => by simp [CharSet.contains, hnil, CharSet.inside] at h
  rw [consumes_iff, minLength, if_neg hbounds]
  exact Nat.one_pos

theorem shortens_of_consumes {p : Pattern} (h : p.consumes = true) : Shortens 1 p.ways :=
  p.shortens_ways.mono (consumes_iff.mp h)

/-! ### Equations of repetitions -/

theorem Shortens.eq_nil {f : Cursor → List Cursor} (h : Shortens 1 f) {c : Cursor}
    (hc : c.text.length = 0) : f c = [] := by
  rw [List.eq_nil_iff_forall_not_mem]
  intro d hd
  have hlength := (h c d hd).2
  omega

/-- Where each round consumes something, as many of them are allowed as there are characters. -/
theorem Shortens.upTo_of_le {round : Cursor → List Cursor} (h : Shortens 1 round) (greedy : Bool)
    {n : Nat} {c : Cursor} (hn : c.text.length ≤ n) :
    Pattern.upTo round greedy n c = Pattern.upTo round greedy c.text.length c := by
  induction n using Nat.strongRecOn generalizing c with
  | _ n ih =>
    cases n with
    | zero => rw [Nat.le_zero.mp hn]
    | succ n =>
        cases hc : c.text.length with
        | zero => simp [Pattern.upTo, h.eq_nil hc]
        | succ k =>
            have hmore : (round c).flatMap (Pattern.upTo round greedy n) =
                (round c).flatMap (Pattern.upTo round greedy k) := by
              apply List.flatMap_congr
              intro d hd
              have hd' := (h c d hd).2
              rw [ih n (by omega) (by omega), ih k (by omega) (by omega)]
            rw [Pattern.upTo, Pattern.upTo, hmore]

@[simp] theorem ways_empty (c : Cursor) : empty.ways c = [c] := rfl

@[simp] theorem ways_literal (a : Char) (as : List Char) (c : Cursor) :
    (literal a as).ways c = c.readAll (a :: as) := rfl

@[simp] theorem ways_set (s : CharSet) (c : Cursor) : (set s).ways c = c.read s := rfl

theorem ways_look (l : Look) (c : Cursor) :
    (look l).ways c = if l.holds c.gap then [c] else [] := rfl

@[simp] theorem ways_seq (p q : Pattern) (c : Cursor) :
    (seq p q).ways c = (p.ways c).flatMap q.ways := rfl

@[simp] theorem ways_alt (p q : Pattern) (c : Cursor) :
    (alt p q).ways c = p.ways c ++ q.ways c := rfl

theorem ways_rounds_none_zero (greedy : Bool) (p : Pattern) (c : Cursor) :
    (rounds 0 none greedy p).ways c = upTo p.ways greedy c.text.length c := by
  simp [ways, times]

theorem ways_rounds_some_zero (high : Nat) (greedy : Bool) (p : Pattern) (c : Cursor) :
    (rounds 0 (some high) greedy p).ways c = upTo p.ways greedy high c := by
  simp [ways, times]

theorem ways_rounds_none_succ (low : Nat) (greedy : Bool) (p : Pattern) (c : Cursor) :
    (rounds (low + 1) none greedy p).ways c =
      (p.ways c).flatMap (rounds low none greedy p).ways := by
  simp [ways, times, List.flatMap_assoc]

theorem ways_rounds_some_succ (low more : Nat) (greedy : Bool) (p : Pattern) (c : Cursor) :
    (rounds (low + 1) (some (low + 1 + more)) greedy p).ways c =
      (p.ways c).flatMap (rounds low (some (low + more)) greedy p).ways := by
  simp [ways, times, List.flatMap_assoc]

/-- One more round or the end of the repetition, whichever is preferred. -/
theorem ways_rounds_none {p : Pattern} (h : p.consumes = true) (greedy : Bool) (c : Cursor) :
    (rounds 0 none greedy p).ways c =
      if greedy then (p.ways c).flatMap (rounds 0 none greedy p).ways ++ [c]
      else c :: (p.ways c).flatMap (rounds 0 none greedy p).ways := by
  have hshortens := shortens_of_consumes h
  rw [ways_rounds_none_zero]
  cases hc : c.text.length with
  | zero => simp [upTo, hshortens.eq_nil hc]
  | succ n =>
      have hmore : (p.ways c).flatMap (upTo p.ways greedy n) =
          (p.ways c).flatMap (rounds 0 none greedy p).ways := by
        apply List.flatMap_congr
        intro d hd
        have hd' := (hshortens c d hd).2
        rw [ways_rounds_none_zero, hshortens.upTo_of_le greedy (by omega)]
      rw [upTo, hmore]

end Pattern

end RuleLexer

import RuleLexer.Proofs.Pattern.Simulation
import RuleLexer.Proofs.Pattern.Words

/-!
Patterns that match the longest of their words. A pattern matches one of its
words if any is at the start of the text, but the preferred one need not be the
longest. It is where the ways come in the order of their lengths. Greedy
repetitions of a part that can match in one way only have that order, and it is
kept by what has one length behind them or one way before them.
-/

namespace RuleLexer

namespace Pattern

/-! ### Ways in the order of their lengths -/

/-- Of any two ways the one that goes further is preferred. -/
def PrefersLonger (f : Cursor → List Cursor) : Prop :=
  ∀ c, (f c).Pairwise fun d e => d.text.length < e.text.length

/-- There is one way at most. -/
def Deterministic (f : Cursor → List Cursor) : Prop := ∀ c, (f c).length ≤ 1

theorem deterministic_read (s : CharSet) : Deterministic (Cursor.read s) := by
  rintro ⟨before, text⟩
  cases text with
  | nil => simp
  | cons a text =>
      rw [Cursor.read_cons]
      split <;> simp

theorem length_read {s : CharSet} {c d : Cursor} (h : d ∈ c.read s) :
    d.text.length + 1 = c.text.length := by
  obtain ⟨word, ⟨a, -, rfl⟩, hspans⟩ := (recognizes_read s c d).mp h
  rw [hspans.length, List.length_singleton, Nat.add_comm]

theorem Deterministic.eq_nil_or_singleton {f : Cursor → List Cursor} (h : Deterministic f)
    (c : Cursor) : f c = [] ∨ ∃ d, f c = [d] := by
  cases hc : f c with
  | nil => exact .inl rfl
  | cons d ds =>
      have hlength := h c
      rw [hc, List.length_cons] at hlength
      obtain rfl : ds = [] := List.length_eq_zero_iff.mp (by omega)
      exact .inr ⟨d, rfl⟩

theorem Deterministic.prefersLonger {f : Cursor → List Cursor} (h : Deterministic f) :
    PrefersLonger f := by
  intro c
  obtain hc | ⟨d, hc⟩ := h.eq_nil_or_singleton c
  · rw [hc]
    exact .nil
  · rw [hc]
    exact List.pairwise_singleton _ d

theorem Deterministic.seq {p q : Pattern} (hp : Deterministic p.ways) (hq : PrefersLonger q.ways) :
    PrefersLonger (seq p q).ways := by
  intro c
  obtain hc | ⟨d, hc⟩ := hp.eq_nil_or_singleton c
  · rw [ways_seq, hc]
    exact .nil
  · rw [ways_seq, hc, List.flatMap_singleton]
    exact hq d

theorem PrefersLonger.seq_set {p : Pattern} (h : PrefersLonger p.ways) (s : CharSet) :
    PrefersLonger (seq p (set s)).ways := by
  intro c
  rw [ways_seq, List.pairwise_flatMap]
  refine ⟨fun d _ => (deterministic_read s).prefersLonger d, (h c).imp ?_⟩
  intro d e hlt x hx y hy
  have hdx := length_read hx
  have hey := length_read hy
  omega

/-- Leaving the part out is the last choice. -/
theorem PrefersLonger.optional {p : Pattern} (h : PrefersLonger p.ways)
    (hconsumes : p.consumes = true) : PrefersLonger (rounds 0 (some 1) true p).ways := by
  intro c
  have hways : (rounds 0 (some 1) true p).ways c = p.ways c ++ [c] := by
    rw [ways_rounds_some_zero]
    simp [upTo, List.flatMap_singleton']
  rw [hways, List.pairwise_append]
  refine ⟨h c, List.pairwise_singleton _ c, fun d hd e he => ?_⟩
  obtain rfl := List.mem_singleton.mp he
  exact (shortens_of_consumes hconsumes e d hd).2

/-- As many rounds as there can be are preferred, where each round can go one way only. -/
theorem prefersLonger_rounds {p : Pattern} (h : Deterministic p.ways)
    (hconsumes : p.consumes = true) : PrefersLonger (rounds 0 none true p).ways := by
  intro c
  induction hn : c.text.length using Nat.strongRecOn generalizing c with
  | _ n ih =>
    have hshortens := shortens_of_consumes hconsumes
    rw [ways_rounds_none hconsumes, if_pos rfl, List.pairwise_append]
    refine ⟨?_, List.pairwise_singleton _ c, fun d hd e he => ?_⟩
    · obtain hways | ⟨d, hways⟩ := h.eq_nil_or_singleton c
      · rw [hways]
        exact .nil
      · have hd := (hshortens c d (by simp [hways])).2
        rw [hways, List.flatMap_singleton]
        exact ih d.text.length (by omega) d rfl
    · obtain rfl := List.mem_singleton.mp he
      obtain ⟨d', hd', hd⟩ := List.mem_flatMap.mp hd
      have hlt := (hshortens e d' hd').2
      have hle := (suffix_of_mem_ways hd).length_le
      omega

/-! ### Words at the start of a text -/

/-- The word is at the start of the text, and no longer one of the language is. -/
structure LongestPrefix (l : Language Char) (text word : List Char) : Prop where
  mem : word ∈ l
  isPrefix : word <+: text
  longest : ∀ other ∈ l, other <+: text → other.length ≤ word.length

/-- Every way leads behind a word that is at the start of the text. -/
theorem Recognizes.exists_word {f : Cursor → List Cursor} {l : Language Char}
    (h : Recognizes f l) {c d : Cursor} (hd : d ∈ f c) :
    ∃ word ∈ l, word <+: c.text ∧ c.lengthTo d = word.length := by
  obtain ⟨word, hword, hspans⟩ := (h c d).mp hd
  refine ⟨word, hword, ⟨d.text, hspans.1.symm⟩, ?_⟩
  rw [Cursor.lengthTo, hspans.length, Nat.add_sub_cancel_right]

theorem Recognizes.eq_nil_iff {f : Cursor → List Cursor} {l : Language Char}
    (h : Recognizes f l) {c : Cursor} : f c = [] ↔ ∀ word ∈ l, ¬ word <+: c.text := by
  rw [List.eq_nil_iff_forall_not_mem]
  constructor
  · intro hnone word hword hbegins
    obtain ⟨d, hspans⟩ := Cursor.exists_spans.mpr hbegins
    exact hnone d ((h c d).mpr ⟨word, hword, hspans⟩)
  · intro hnone d hd
    obtain ⟨word, hword, hbegins, -⟩ := h.exists_word hd
    exact hnone word hword hbegins

section Matches

variable {p : Pattern} (hlook : p.isLookFree = true) (hprogressive : p.isProgressive = true)
include hlook hprogressive

/-- The match is a word of the pattern, if there is one at the start of the text. -/
theorem matchPrefix?_cases (text : List Char) :
    ((∀ word ∈ p.language, ¬ word <+: text) ∧ p.matchPrefix? text = none) ∨
    ∃ word ∈ p.language, word <+: text ∧ p.matchPrefix? text = some word.length := by
  have hrecognizes := recognizes_ways hlook hprogressive
  rw [matchPrefix?_eq hprogressive]
  cases hways : p.ways ⟨none, text⟩ with
  | nil => exact .inl ⟨hrecognizes.eq_nil_iff.mp hways, rfl⟩
  | cons d ds =>
      have hd : d ∈ p.ways ⟨none, text⟩ := by simp [hways]
      obtain ⟨word, hword, hbegins, hlength⟩ := hrecognizes.exists_word hd
      exact .inr ⟨word, hword, hbegins, congrArg some hlength⟩

/-- Where longer ways are preferred it is the longest of them. -/
theorem matchPrefix?_longest (hlonger : PrefersLonger p.ways) (text : List Char) :
    ((∀ word ∈ p.language, ¬ word <+: text) ∧ p.matchPrefix? text = none) ∨
    ∃ word, LongestPrefix p.language text word ∧ p.matchPrefix? text = some word.length := by
  have hrecognizes := recognizes_ways hlook hprogressive
  have hsorted := hlonger ⟨none, text⟩
  rw [matchPrefix?_eq hprogressive]
  cases hways : p.ways ⟨none, text⟩ with
  | nil => exact .inl ⟨hrecognizes.eq_nil_iff.mp hways, rfl⟩
  | cons d ds =>
      rw [hways, List.pairwise_cons] at hsorted
      have hd : d ∈ p.ways ⟨none, text⟩ := by simp [hways]
      obtain ⟨word, hword, hbegins, hlength⟩ := hrecognizes.exists_word hd
      refine .inr ⟨word, ⟨hword, hbegins, fun other hother hstart => ?_⟩, congrArg some hlength⟩
      -- every other way leads to a place before that of the first
      obtain ⟨e, hspans⟩ := Cursor.exists_spans (c := ⟨none, text⟩).mpr hstart
      have he : e ∈ p.ways ⟨none, text⟩ := (hrecognizes _ e).mpr ⟨other, hother, hspans⟩
      have hle : d.text.length ≤ e.text.length := by
        rw [hways] at he
        rcases List.mem_cons.mp he with rfl | he
        · exact Nat.le_refl _
        · exact Nat.le_of_lt (hsorted.1 e he)
      have hspansLength := hspans.length
      rw [← hlength, Cursor.lengthTo]
      omega

end Matches

-- Here the shorter way is preferred, and the match is not the longest word.
example : (alt (literal 'a' []) (literal 'a' ['b'])).matchPrefix? ['a', 'b'] = some 1 := by decide

end Pattern

end RuleLexer

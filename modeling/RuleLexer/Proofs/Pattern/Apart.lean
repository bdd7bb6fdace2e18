import RuleLexer.Proofs.Pattern.LongestWord

/-!
Patterns whose parts are apart. A sequence prefers its longer words where the
second part cannot start inside a word of the first one, and a choice does where
a text never starts with words of both branches.
-/

namespace RuleLexer

open Computability

namespace Pattern

/-! ### Sequences that lean to the right -/

/-- One pattern before another, in the form that sequences have when they are read. -/
def before : Pattern → Pattern → Pattern
  | seq p q, r => seq p (q.before r)
  | p, r => seq p r

theorem ways_before (p q : Pattern) : (p.before q).ways = (seq p q).ways := by
  induction p with
  | seq p p' _ ih =>
      funext c
      rw [before, ways_seq, ways_seq, ways_seq, List.flatMap_assoc, ih]
      rfl
  | _ => rfl

theorem language_before (p q : Pattern) : (p.before q).language = (seq p q).language := by
  induction p with
  | seq p p' _ ih => simp only [before, language_seq, ih, mul_assoc]
  | _ => rfl

theorem isLookFree_before (p q : Pattern) :
    (p.before q).isLookFree = (seq p q).isLookFree := by
  induction p with
  | seq p p' _ ih => simp only [before, isLookFree, ih, Bool.and_assoc]
  | _ => rfl

theorem isProgressive_before (p q : Pattern) :
    (p.before q).isProgressive = (seq p q).isProgressive := by
  induction p with
  | seq p p' _ ih => simp only [before, isProgressive, ih, Bool.and_assoc]
  | _ => rfl

/-! ### Words that are apart -/

/-- No word of the second language starts with what the words of the first consist of. -/
structure Separates (kind : Char → Bool) (l m : Language Char) : Prop where
  inside : ∀ v ∈ l, ∀ a ∈ v, kind a = true
  outside : ∀ w ∈ m, ∀ a ∈ w.head?, kind a = false

/-- Behind a word that could be longer there is only the empty word of the second language. -/
theorem Separates.eq_of_longer {kind : Char → Bool} {l m : Language Char}
    (h : Separates kind l m) {c d e f : Cursor} {v w u : List Char} (hv : v ∈ l) (hu : u ∈ m)
    (hspans : c.Spans v d) (hspans' : c.Spans w e) (hlonger : d.text.length < e.text.length)
    (hnext : e.Spans u f) : f = e := by
  have hlength := hspans.length
  have hlength' := hspans'.length
  obtain ⟨more, rfl⟩ : w <+: v :=
    List.prefix_of_prefix_length_le ⟨e.text, hspans'.1.symm⟩ ⟨d.text, hspans.1.symm⟩ (by omega)
  have htext : more ++ d.text = e.text := by
    have heq := hspans.1.symm.trans hspans'.1
    rwa [List.append_assoc, List.append_cancel_left_eq] at heq
  cases u with
  | nil => exact Cursor.spans_nil.mp hnext
  | cons b u =>
      cases more with
      | nil =>
          rw [List.append_nil] at hlength
          omega
      | cons a more =>
          obtain ⟨rfl, -⟩ := List.cons.inj (htext.trans hnext.1)
          have hinside := h.inside _ hv a (by simp)
          rw [h.outside _ hu a rfl] at hinside
          cases hinside

/-- The first character of the kind is one thing in the words of one language and another thing in
those of the other. -/
def Distinguishes (kind : Char → Bool) (l m : Language Char) : Prop :=
  ∀ v ∈ l, ∀ w ∈ m, ∃ a b, v.find? kind = some a ∧ w.find? kind = some b ∧ a ≠ b

theorem Distinguishes.not_isPrefix {kind : Char → Bool} {l m : Language Char}
    (h : Distinguishes kind l m) {v w text : List Char} (hv : v ∈ l) (hw : w ∈ m)
    (hbegins : v <+: text) : ¬ w <+: text := by
  intro hbegins'
  obtain ⟨a, b, ha, hb, hne⟩ := h v hv w hw
  have heq : some a = some b :=
    (hbegins.find?_eq_some ha).symm.trans (hbegins'.find?_eq_some hb)
  exact hne (Option.some.inj heq)

theorem Distinguishes.symm {kind : Char → Bool} {l m : Language Char}
    (h : Distinguishes kind l m) : Distinguishes kind m l := by
  intro w hw v hv
  obtain ⟨a, b, ha, hb, hne⟩ := h v hv w hw
  exact ⟨b, a, hb, ha, hne.symm⟩

/-! ### Patterns that take the longest word -/

/-- The pattern matches the words of the language, and the longest of those at a place. -/
structure TakesLongest (p : Pattern) (l : Language Char) : Prop where
  isLookFree : p.isLookFree = true
  isProgressive : p.isProgressive = true
  language_eq : p.language = l
  prefersLonger : PrefersLonger p.ways

namespace TakesLongest

variable {p q : Pattern} {l m : Language Char} {kind : Char → Bool}

theorem recognizes (h : p.TakesLongest l) : Recognizes p.ways l := by
  rw [← h.language_eq]
  exact recognizes_ways h.isLookFree h.isProgressive

theorem set (s : CharSet) : (set s).TakesLongest (characters s) where
  isLookFree := rfl
  isProgressive := rfl
  language_eq := rfl
  prefersLonger := (deterministic_read s).prefersLonger

/-- As many characters of the set as there are. -/
theorem many {s : CharSet} {c : Char} (hc : s.contains c = true) :
    (rounds 0 none true (.set s)).TakesLongest (characters s)∗ where
  isLookFree := rfl
  isProgressive := by simp [Pattern.isProgressive, consumes_set hc]
  language_eq := language_rounds_none true (.set s)
  prefersLonger := prefersLonger_rounds (deterministic_read s) (consumes_set hc)

theorem optional (h : p.TakesLongest l) (hconsumes : p.consumes = true) :
    (rounds 0 (some 1) true p).TakesLongest (1 + l) where
  isLookFree := h.isLookFree
  isProgressive := by simp [Pattern.isProgressive, h.isProgressive]
  language_eq := by rw [language_rounds_one, h.language_eq]
  prefersLonger := h.prefersLonger.optional hconsumes

theorem of_seq (hp : p.TakesLongest l) (hq : q.TakesLongest m)
    (hprefers : PrefersLonger (seq p q).ways) : (seq p q).TakesLongest (l * m) where
  isLookFree := by rw [Pattern.isLookFree, hp.isLookFree, hq.isLookFree]; rfl
  isProgressive := by rw [Pattern.isProgressive, hp.isProgressive, hq.isProgressive]; rfl
  language_eq := by rw [language_seq, hp.language_eq, hq.language_eq]
  prefersLonger := hprefers

theorem behindSet (s : CharSet) (hq : q.TakesLongest m) :
    (seq (.set s) q).TakesLongest (characters s * m) :=
  (set s).of_seq hq (Deterministic.seq (p := .set s) (deterministic_read s) hq.prefersLonger)

theorem behindChar (a : Char) (hq : q.TakesLongest m) :
    (seq (.literal a []) q).TakesLongest ({[a]} * m) := by
  have hdeterministic : Deterministic (Pattern.literal a []).ways := fun c => by
    rw [ways_literal, Cursor.readAll_singleton]
    exact deterministic_read (.one a) c
  exact of_seq ⟨rfl, rfl, rfl, hdeterministic.prefersLonger⟩ hq
    (hdeterministic.seq hq.prefersLonger)

theorem seq (hp : p.TakesLongest l) (hq : q.TakesLongest m) (h : Separates kind l m) :
    (seq p q).TakesLongest (l * m) := by
  refine hp.of_seq hq fun c => ?_
  rw [ways_seq, List.pairwise_flatMap]
  refine ⟨fun d _ => hq.prefersLonger d, (hp.prefersLonger c).imp_of_mem ?_⟩
  intro d e hd he hlonger x hx y hy
  obtain ⟨v, hv, hspans⟩ := (hp.recognizes c d).mp hd
  obtain ⟨w, -, hspans'⟩ := (hp.recognizes c e).mp he
  obtain ⟨u, hu, hnext⟩ := (hq.recognizes e y).mp hy
  rw [h.eq_of_longer hv hu hspans hspans' hlonger hnext]
  exact Nat.lt_of_le_of_lt (suffix_of_mem_ways hx).length_le hlonger

theorem before (hp : p.TakesLongest l) (hq : q.TakesLongest m) (h : Separates kind l m) :
    (p.before q).TakesLongest (l * m) := by
  have hseq := hp.seq hq h
  refine ⟨?_, ?_, ?_, ?_⟩
  · rw [isLookFree_before, hseq.isLookFree]
  · rw [isProgressive_before, hseq.isProgressive]
  · rw [language_before, hseq.language_eq]
  · rw [ways_before]
    exact hseq.prefersLonger

/-- No text starts with words of both branches. -/
theorem alt (hp : p.TakesLongest l) (hq : q.TakesLongest m) (h : Distinguishes kind l m) :
    (alt p q).TakesLongest (l + m) where
  isLookFree := by rw [Pattern.isLookFree, hp.isLookFree, hq.isLookFree]; rfl
  isProgressive := by rw [Pattern.isProgressive, hp.isProgressive, hq.isProgressive]; rfl
  language_eq := by rw [language_alt, hp.language_eq, hq.language_eq]
  prefersLonger := by
    intro c
    rw [ways_alt]
    by_cases hnone : p.ways c = []
    · rw [hnone, List.nil_append]
      exact hq.prefersLonger c
    · obtain ⟨d, hd⟩ := List.exists_mem_of_ne_nil _ hnone
      obtain ⟨v, hv, hbegins, -⟩ := hp.recognizes.exists_word hd
      have hnone' : q.ways c = [] :=
        hq.recognizes.eq_nil_iff.mpr fun w hw => h.not_isPrefix hv hw hbegins
      rw [hnone', List.append_nil]
      exact hp.prefersLonger c

/-- One round at least. -/
theorem some {s : CharSet} {c : Char} (hc : s.contains c = true) :
    (rounds 1 none true (.set s)).TakesLongest (characters s * (characters s)∗) := by
  have hseq := behindSet s (many hc)
  refine ⟨rfl, hseq.isProgressive, ?_, ?_⟩
  · rw [language, pow_one, language_set]
  · have hways : (rounds 1 none true (.set s)).ways =
        (Pattern.seq (.set s) (.rounds 0 none true (.set s))).ways :=
      funext fun c => ways_rounds_none_succ 0 true (.set s) c
    rw [hways]
    exact hseq.prefersLonger

end TakesLongest

end Pattern

end RuleLexer

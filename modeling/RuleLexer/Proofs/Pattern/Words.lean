import Mathlib.Computability.Language
import RuleLexer.Proofs.Pattern.Ways

/-!
The words of a pattern without assertions, as a language. The ways of the
pattern lead just behind those of its words that come next in the text.
-/

namespace RuleLexer

open Computability

namespace Cursor

/-- The characters stand between two gaps of a text. -/
def Spans (c : Cursor) (word : List Char) (d : Cursor) : Prop :=
  c.text = word ++ d.text ∧ d.before = word.getLast?.or c.before

theorem spans_nil {c d : Cursor} : c.Spans [] d ↔ d = c := by
  constructor
  · rintro ⟨htext, hbefore⟩
    cases d
    cases c
    simp_all
  · rintro rfl
    exact ⟨rfl, by simp⟩

theorem spans_append {c d : Cursor} {v w : List Char} :
    c.Spans (v ++ w) d ↔ ∃ e, c.Spans v e ∧ e.Spans w d := by
  constructor
  · rintro ⟨htext, hbefore⟩
    refine ⟨⟨v.getLast?.or c.before, w ++ d.text⟩, ⟨by simp [htext], rfl⟩, rfl, ?_⟩
    rw [hbefore, List.getLast?_append, Option.or_assoc]
  · rintro ⟨e, ⟨htext, hbefore⟩, htext', hbefore'⟩
    refine ⟨by rw [htext, htext', List.append_assoc], ?_⟩
    rw [hbefore', hbefore, List.getLast?_append, Option.or_assoc]

theorem exists_spans {c : Cursor} {word : List Char} :
    (∃ d, c.Spans word d) ↔ word <+: c.text := by
  constructor
  · rintro ⟨d, htext, -⟩
    exact ⟨d.text, htext.symm⟩
  · rintro ⟨rest, htext⟩
    exact ⟨⟨word.getLast?.or c.before, rest⟩, htext.symm, rfl⟩

theorem Spans.length {c d : Cursor} {word : List Char} (h : c.Spans word d) :
    c.text.length = word.length + d.text.length := by
  rw [h.1, List.length_append]

end Cursor

namespace Pattern

/-! ### Languages -/

/-- The words of one character of the set. -/
def characters (s : CharSet) : Language Char := {word | ∃ a, s.contains a = true ∧ word = [a]}

/-- The words that the ways go over, where assertions are taken to hold. -/
def language : Pattern → Language Char
  | empty => 1
  | literal a as => {a :: as}
  | set s => characters s
  | look _ => 1
  | capture _ p => p.language
  | seq p q => p.language * q.language
  | alt p q => p.language + q.language
  | rounds low none _ p => p.language ^ low * p.language∗
  | rounds low (some high) _ p => p.language ^ low * (1 + p.language) ^ (high - low)

@[simp] theorem language_literal (a : Char) (as : List Char) :
    (literal a as).language = {a :: as} := rfl

@[simp] theorem language_set (s : CharSet) : (set s).language = characters s := rfl

@[simp] theorem language_seq (p q : Pattern) : (seq p q).language = p.language * q.language := rfl

@[simp] theorem language_alt (p q : Pattern) : (alt p q).language = p.language + q.language := rfl

@[simp] theorem language_rounds_none (greedy : Bool) (p : Pattern) :
    (rounds 0 none greedy p).language = p.language∗ := by
  rw [language, pow_zero, one_mul]

@[simp] theorem language_rounds_one (greedy : Bool) (p : Pattern) :
    (rounds 0 (some 1) greedy p).language = 1 + p.language := by
  rw [language, pow_zero, one_mul, pow_one]

theorem append_mem_kstar {l : Language Char} {v w : List Char} (hv : v ∈ l∗) (hw : w ∈ l) :
    v ++ w ∈ l∗ :=
  (kstar_mul_le_kstar : l∗ * l ≤ l∗) (Language.append_mem_mul hv hw)

theorem mem_kstar_characters {s : CharSet} {word : List Char} :
    word ∈ (characters s)∗ ↔ ∀ c ∈ word, s.contains c = true := by
  constructor
  · rintro ⟨ws, rfl, hws⟩ c hc
    obtain ⟨w, hw, hc⟩ := List.mem_flatten.mp hc
    obtain ⟨a, ha, rfl⟩ := hws w hw
    obtain rfl := List.mem_singleton.mp hc
    exact ha
  · intro h
    induction word using List.reverseRecOn with
    | nil => exact Language.nil_mem_kstar _
    | append_singleton word c ih =>
        have hword := ih fun d hd => h d (List.mem_append_left _ hd)
        exact append_mem_kstar hword ⟨c, h c (by simp), rfl⟩

def isLookFree : Pattern → Bool
  | look _ => false
  | capture _ p => p.isLookFree
  | seq p q => p.isLookFree && q.isLookFree
  | alt p q => p.isLookFree && q.isLookFree
  | rounds _ _ _ p => p.isLookFree
  | _ => true

/-- The ways lead behind the words of the language that come next, and nowhere else. -/
def Recognizes (f : Cursor → List Cursor) (l : Language Char) : Prop :=
  ∀ c d, d ∈ f c ↔ ∃ word ∈ l, c.Spans word d

theorem recognizes_one : Recognizes (fun c => [c]) 1 := by
  intro c d
  simp [Cursor.spans_nil]

theorem recognizes_read (s : CharSet) : Recognizes (Cursor.read s) (characters s) := by
  rintro ⟨before, text⟩ ⟨before', text'⟩
  cases text with
  | nil =>
      refine ⟨fun hd => (by cases hd), ?_⟩
      rintro ⟨word, ⟨a, -, rfl⟩, htext, -⟩
      cases htext
  | cons a text =>
      rw [Cursor.read_cons]
      constructor
      · intro hd
        split at hd
        next hcontains =>
          cases List.mem_singleton.mp hd
          exact ⟨[a], ⟨a, hcontains, rfl⟩, rfl, rfl⟩
        next => cases hd
      · rintro ⟨word, ⟨b, hcontains, rfl⟩, htext, hbefore⟩
        obtain ⟨rfl, rfl⟩ := List.cons.inj htext
        simp_all

theorem Recognizes.flatMap {f g : Cursor → List Cursor} {l m : Language Char}
    (hf : Recognizes f l) (hg : Recognizes g m) :
    Recognizes (fun c => (f c).flatMap g) (l * m) := by
  intro c d
  simp only [List.mem_flatMap, Language.mem_mul]
  constructor
  · rintro ⟨e, he, hd⟩
    obtain ⟨v, hv, hspans⟩ := (hf c e).mp he
    obtain ⟨w, hw, hspans'⟩ := (hg e d).mp hd
    exact ⟨v ++ w, ⟨v, hv, w, hw, rfl⟩, Cursor.spans_append.mpr ⟨e, hspans, hspans'⟩⟩
  · rintro ⟨_, ⟨v, hv, w, hw, rfl⟩, hspans⟩
    obtain ⟨e, hspans, hspans'⟩ := Cursor.spans_append.mp hspans
    exact ⟨e, (hf c e).mpr ⟨v, hv, hspans⟩, (hg e d).mpr ⟨w, hw, hspans'⟩⟩

theorem Recognizes.append {f g : Cursor → List Cursor} {l m : Language Char}
    (hf : Recognizes f l) (hg : Recognizes g m) : Recognizes (fun c => f c ++ g c) (l + m) := by
  intro c d
  rw [List.mem_append, hf c d, hg c d]
  constructor
  · rintro (⟨word, hword, hspans⟩ | ⟨word, hword, hspans⟩)
    · exact ⟨word, .inl hword, hspans⟩
    · exact ⟨word, .inr hword, hspans⟩
  · rintro ⟨word, hword | hword, hspans⟩
    · exact .inl ⟨word, hword, hspans⟩
    · exact .inr ⟨word, hword, hspans⟩

theorem recognizes_readAll (as : List Char) :
    Recognizes (Cursor.readAll as) {as} := by
  induction as with
  | nil => exact recognizes_one
  | cons a as ih =>
      have h := (recognizes_read (.one a)).flatMap ih
      have hwords : characters (.one a) * {as} = {a :: as} := by
        ext word
        rw [Language.mem_mul]
        constructor
        · rintro ⟨v, ⟨b, hb, rfl⟩, w, rfl, rfl⟩
          rw [CharSet.contains_one, decide_eq_true_eq] at hb
          exact congrArg (· :: w) hb
        · rintro rfl
          exact ⟨[a], ⟨a, by simp, rfl⟩, as, rfl, rfl⟩
      rwa [hwords] at h

theorem Recognizes.times {round : Cursor → List Cursor} {l : Language Char}
    (h : Recognizes round l) (n : Nat) : Recognizes (times round n) (l ^ n) := by
  induction n with
  | zero =>
      rw [pow_zero]
      exact recognizes_one
  | succ n ih =>
      rw [pow_succ']
      exact h.flatMap ih

theorem one_add_pow_succ (l : Language Char) (n : Nat) :
    (1 + l) ^ (n + 1) = 1 + l * (1 + l) ^ n := by
  induction n with
  | zero => simp
  | succ n ih =>
      have hsum : (1 + l) ^ n + (1 + l) ^ n * (1 + l) = (1 + l) ^ (n + 1) := by
        rw [mul_add, mul_one, ← add_assoc, Language.add_self, pow_succ, mul_add, mul_one]
      calc
        (1 + l) ^ (n + 2) = (1 + l) ^ (n + 1) + l * (1 + l) ^ (n + 1) := by
          rw [pow_succ' (1 + l) (n + 1), add_mul, one_mul]
        _ = 1 + l * ((1 + l) ^ n + (1 + l) ^ n * (1 + l)) := by
          rw [mul_add, ← add_assoc, ← ih, pow_succ]
        _ = 1 + l * (1 + l) ^ (n + 1) := by rw [hsum]

theorem Recognizes.upTo {round : Cursor → List Cursor} {l : Language Char}
    (h : Recognizes round l) (greedy : Bool) (n : Nat) :
    Recognizes (upTo round greedy n) ((1 + l) ^ n) := by
  induction n with
  | zero =>
      rw [pow_zero]
      exact recognizes_one
  | succ n ih =>
      rw [one_add_pow_succ]
      cases greedy with
      | false => exact recognizes_one.append (h.flatMap ih)
      | true =>
          rw [add_comm 1]
          exact (h.flatMap ih).append recognizes_one

/-- Rounds that each consume something. -/
theorem Recognizes.star {p : Pattern} {l : Language Char} (h : Recognizes p.ways l)
    (hconsumes : p.consumes = true) (greedy : Bool) :
    Recognizes (rounds 0 none greedy p).ways l∗ := by
  have hstep (c d : Cursor) : d ∈ (rounds 0 none greedy p).ways c ↔
      d = c ∨ ∃ e ∈ p.ways c, d ∈ (rounds 0 none greedy p).ways e := by
    rw [ways_rounds_none hconsumes]
    cases greedy <;> simp [or_comm]
  intro c d
  constructor
  · intro hd
    -- each round leaves less of the text
    induction hn : c.text.length using Nat.strongRecOn generalizing c with
    | _ n ih =>
      rcases (hstep c d).mp hd with rfl | ⟨e, he, hd⟩
      · exact ⟨[], Language.nil_mem_kstar l, Cursor.spans_nil.mpr rfl⟩
      · have hlt := (shortens_of_consumes hconsumes c e he).2
        obtain ⟨w, ⟨ws, rfl, hws⟩, hspans'⟩ := ih e.text.length (by omega) e hd rfl
        obtain ⟨v, hv, hspans⟩ := (h c e).mp he
        refine ⟨v ++ ws.flatten, ⟨v :: ws, rfl, ?_⟩, Cursor.spans_append.mpr ⟨e, hspans, hspans'⟩⟩
        exact List.forall_mem_cons.mpr ⟨hv, hws⟩
  · rintro ⟨_, ⟨ws, rfl, hws⟩, hspans⟩
    induction ws generalizing c with
    | nil => exact (hstep c d).mpr (.inl (Cursor.spans_nil.mp hspans))
    | cons v ws ih =>
        obtain ⟨hv, hws⟩ := List.forall_mem_cons.mp hws
        rw [List.flatten_cons] at hspans
        obtain ⟨e, hspans, hspans'⟩ := Cursor.spans_append.mp hspans
        exact (hstep c d).mpr (.inr ⟨e, (h c e).mpr ⟨v, hv, hspans⟩, ih e hws hspans'⟩)

theorem recognizes_ways {p : Pattern} (hlook : p.isLookFree = true)
    (hprogressive : p.isProgressive = true) : Recognizes p.ways p.language := by
  induction p with
  | empty => exact recognizes_one
  | literal a as => exact recognizes_readAll (a :: as)
  | set s => exact recognizes_read s
  | look l => cases hlook
  | capture index p ih => exact ih hlook hprogressive
  | seq p q ihp ihq =>
      rw [isLookFree, Bool.and_eq_true] at hlook
      rw [isProgressive, Bool.and_eq_true] at hprogressive
      exact (ihp hlook.1 hprogressive.1).flatMap (ihq hlook.2 hprogressive.2)
  | alt p q ihp ihq =>
      rw [isLookFree, Bool.and_eq_true] at hlook
      rw [isProgressive, Bool.and_eq_true] at hprogressive
      exact (ihp hlook.1 hprogressive.1).append (ihq hlook.2 hprogressive.2)
  | rounds low high greedy p ih =>
      rw [isProgressive, Bool.and_eq_true] at hprogressive
      have hp := ih hlook hprogressive.2
      cases high with
      | none =>
          have hstar := hp.star (by simpa using hprogressive.1) greedy
          have hways : (rounds low none greedy p).ways =
              fun c => (times p.ways low c).flatMap (rounds 0 none greedy p).ways := by
            funext c
            simp [ways, times]
          rw [hways]
          exact (hp.times low).flatMap hstar
      | some high => exact (hp.times low).flatMap (hp.upTo greedy (high - low))

end Pattern

end RuleLexer

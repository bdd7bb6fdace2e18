import RuleLexer.Pattern.Match
import RuleLexer.Proofs.Pattern.Normal

/-!
Matching of patterns that begin with an assertion about the gap. Where the
assertion holds the rest of the pattern matches as it does by itself, and
where it does not nothing matches.
-/

namespace RuleLexer

namespace Pattern

/-! ### Patterns that lead to the same -/

/-- The patterns lead to the same at the gap. -/
def SameAt (gap : Gap) (p q : Pattern) : Prop :=
  p.places = q.places ∧ ∀ f : Frontier, f.reached = true → p.expand gap 0 [] f = q.expand gap 0 [] f

theorem expandAll_single {gap : Gap} {p : Pattern} (f : Frontier) :
    expandAll gap [.pattern 0 p] f = p.expand gap 0 [] f := by
  rw [expandAll, Pending.expand]
  split
  · rfl
  · rfl

/-- What is gone through first at a gap is the whole pattern. -/
theorem threads_single (size : Nat) (gap : Gap) (p : Pattern) :
    threads size gap [[.pattern 0 p]] =
      let f := p.expand gap 0 [] ⟨{}, [], [], true⟩
      if f.reached then (f.threads.reverse, true) else explore gap size f := by
  rw [threads, List.length_singleton, Nat.add_comm, explore]
  simp only [Frontier.start, expandAll_single]

theorem threads_of_sameAt {gap : Gap} {p q : Pattern} (h : SameAt gap p q) (size : Nat) :
    threads size gap [[.pattern 0 p]] = threads size gap [[.pattern 0 q]] := by
  rw [threads_single, threads_single, h.2 _ rfl]

/-- No gap but the first is about the pattern as a whole. -/
theorem matchAt?_of_sameAt {p q : Pattern} {before : Option Char} {text : List Char}
    (h : SameAt ⟨before, text.head?⟩ p q) : p.matchAt? before text = q.matchAt? before text := by
  have hthreads := threads_of_sameAt h p.places
  rw [matchAt?, matchAt?, ← h.1]
  cases text with
  | nil =>
      rw [List.head?_nil] at hthreads
      rw [run, run, hthreads]
  | cons c text =>
      rw [List.head?_cons] at hthreads
      rw [run, run, hthreads]

theorem explore_of_later_eq_nil {gap : Gap} {f : Frontier} (h : f.later = []) (fuel : Nat) :
    explore gap fuel f = (f.threads.reverse, false) := by
  cases fuel with
  | zero => rfl
  | succ fuel => rw [explore, h]

theorem matchAt?_of_fails {p : Pattern} {before : Option Char} {text : List Char}
    (h : ∀ f : Frontier, p.expand ⟨before, text.head?⟩ 0 [] f = f.fail) :
    p.matchAt? before text = none := by
  have hthreads : threads p.places ⟨before, text.head?⟩ [[.pattern 0 p]] = ([], false) := by
    rw [threads_single, h]
    exact explore_of_later_eq_nil rfl p.places
  rw [matchAt?]
  cases text with
  | nil =>
      rw [List.head?_nil] at hthreads
      rw [run, hthreads]
      rfl
  | cons c text =>
      rw [List.head?_cons] at hthreads
      rw [run, hthreads]
      rfl

/-! ### Assertions -/

/-- A pattern that is nothing but an assertion or begins with it. -/
inductive StartsWithLook (l : Look) : Pattern → Prop
  | only : StartsWithLook l (look l)
  | before (q : Pattern) : StartsWithLook l (seq (look l) q)

theorem StartsWithLook.expand {l : Look} {p : Pattern} (h : StartsWithLook l p) {gap : Gap}
    (hfails : l.holds gap = false) (f : Frontier) : p.expand gap 0 [] f = f.fail := by
  cases h with
  | only => simp [Pattern.expand, hfails]
  | before q => simp [Pattern.expand, hfails, Frontier.fail]

/-- Where the assertion fails nothing matches. -/
theorem StartsWithLook.matchAt? {l : Look} {p : Pattern} (h : StartsWithLook l p)
    {before : Option Char} {text : List Char} (hfails : l.holds ⟨before, text.head?⟩ = false) :
    p.matchAt? before text = none :=
  matchAt?_of_fails (h.expand hfails)

theorem sameAt_seq_look {gap : Gap} {l : Look} (h : l.holds gap = true) (q : Pattern) :
    SameAt gap (seq (look l) q) q := by
  refine ⟨by simp [places], fun f hf => ?_⟩
  simp [expand, places, h, hf]

theorem sameAt_look {gap : Gap} {l : Look} (h : l.holds gap = true) :
    SameAt gap (look l) empty :=
  ⟨rfl, fun f _ => by simp [expand, h]⟩

theorem concat_look_eq (l : Look) (p : Pattern) :
    concat [look l, p] = seqs (look l :: joinLiterals p.parts) := by
  simp [concat, parts, joinLiterals]

theorem startsWithLook_concat (l : Look) (p : Pattern) : StartsWithLook l (concat [look l, p]) := by
  rw [concat_look_eq]
  cases joinLiterals p.parts with
  | nil => exact .only
  | cons q qs => exact .before (seqs (q :: qs))

theorem StartsWithLook.branches {l : Look} {p : Pattern} (h : StartsWithLook l p) :
    p.branches = [p] := by
  cases h with
  | only => rfl
  | before q => rfl

/-- A pattern in normal form that is put behind an assertion stays as it is. -/
theorem Normal.concat_look {p : Pattern} (h : p.Normal) (l : Look) :
    p = empty ∧ concat [look l, p] = look l ∨ concat [look l, p] = seq (look l) p := by
  obtain ⟨-, hchain, hseqs⟩ := h.parts
  rw [concat_look_eq, joinLiterals_eq_self hchain]
  cases hparts : p.parts with
  | nil =>
      rw [hparts] at hseqs
      exact .inl ⟨hseqs.symm, rfl⟩
  | cons q qs =>
      rw [hparts] at hseqs
      exact .inr (congrArg (seq (look l)) hseqs)

/-- Where the assertion holds it makes no difference. -/
theorem Normal.matchAt?_concat_look {p : Pattern} (h : p.Normal) {l : Look}
    {before : Option Char} {text : List Char} (hholds : l.holds ⟨before, text.head?⟩ = true) :
    (concat [look l, p]).matchAt? before text = p.matchAt? before text := by
  apply matchAt?_of_sameAt
  obtain ⟨rfl, hconcat⟩ | hconcat := h.concat_look l
  · rw [hconcat]
    exact sameAt_look hholds
  · rw [hconcat]
    exact sameAt_seq_look hholds p

/-! ### The start of the text -/

/-- A pattern behind an assertion that the text starts there. -/
def behindAnchor (p : Pattern) : Pattern := concat [look .textStart, p]

theorem matchAt?_behindAnchor (p : Pattern) (c : Char) (text : List Char) :
    (behindAnchor p).matchAt? (some c) text = none :=
  (startsWithLook_concat .textStart p).matchAt? rfl

theorem Normal.matchPrefix?_behindAnchor {p : Pattern} (h : p.Normal) (text : List Char) :
    (behindAnchor p).matchPrefix? text = p.matchPrefix? text :=
  h.matchAt?_concat_look rfl

/-- Nothing is found where no gap but the first one matches. -/
theorem searchFrom_of_anchored {p : Pattern} (h : ∀ c text, p.matchAt? (some c) text = none)
    (c : Char) (offset : Nat) (text : List Char) : p.searchFrom (some c) offset text = none := by
  induction text generalizing c offset with
  | nil => rw [searchFrom, h, Option.map_none]
  | cons d text ih =>
      rw [searchFrom, h]
      exact ih d (offset + 1)

theorem search?_of_anchored {p : Pattern} (h : ∀ c text, p.matchAt? (some c) text = none)
    (text : List Char) : p.search? text = (p.matchPrefix? text).map fun n => (0, n) := by
  cases text with
  | nil => rfl
  | cons c text =>
      rw [search?, searchFrom, matchPrefix?]
      cases p.matchAt? none (c :: text) with
      | none => exact searchFrom_of_anchored h c 1 text
      | some n => rfl

end Pattern

end RuleLexer

import Mathlib.Data.List.Chain
import Mathlib.Tactic.SplitIfs
import RuleLexer.Pattern.Parser

/-!
The normal form of patterns. The functions that put patterns together keep
them in it, and a builder puts patterns together in no other way.
-/

namespace RuleLexer

namespace Pattern

def isLiteral : Pattern → Bool
  | literal .. => true
  | _ => false

/-- Not two literals, which would make one. -/
def Apart (p q : Pattern) : Prop :=
  ¬ (p.isLiteral = true ∧ q.isLiteral = true)

/-- Sequences and choices lean to the right, no two literals follow one another, and a set has more
or less than one character. -/
def Normal : Pattern → Prop
  | empty => True
  | literal .. => True
  | set s => s.single? = none
  | look _ => True
  | capture _ p => p.Normal
  | seq p q => p.Normal ∧ q.Normal ∧ p.parts = [p] ∧ q ≠ empty ∧ (p :: q.parts).IsChain Apart
  | alt p q => p.Normal ∧ q.Normal ∧ p.branches = [p]
  | rounds _ _ _ p => p.Normal

/-! ### Sequences -/

theorem joinLiterals_cons_of_not_isLiteral {p : Pattern} (h : p.isLiteral = false)
    (ps : List Pattern) : joinLiterals (p :: ps) = p :: joinLiterals ps := by
  cases p <;> first | rfl | cases h

theorem joinLiterals_eq_self {ps : List Pattern} (h : ps.IsChain Apart) : joinLiterals ps = ps := by
  induction ps with
  | nil => rfl
  | cons p ps ih =>
      have htail := ih h.tail
      cases hp : p.isLiteral with
      | false => rw [joinLiterals_cons_of_not_isLiteral hp, htail]
      | true =>
          cases p with
          | literal c cs =>
              rw [joinLiterals, htail]
              cases ps with
              | nil => rfl
              | cons q qs =>
                  cases q with
                  | literal d ds => exact absurd ⟨rfl, rfl⟩ (List.isChain_cons_cons.mp h).1
                  | _ => rfl
          | _ => cases hp

theorem isChain_cons_of_isLiteral {p q : Pattern} {ps : List Pattern} (hp : p.isLiteral = true)
    (h : (p :: ps).IsChain Apart) : (q :: ps).IsChain Apart := by
  cases ps with
  | nil => exact List.IsChain.singleton q
  | cons r ps =>
      obtain ⟨hapart, hchain⟩ := List.isChain_cons_cons.mp h
      exact List.isChain_cons_cons.mpr ⟨fun hboth => hapart ⟨hp, hboth.2⟩, hchain⟩

theorem isChain_joinLiterals (ps : List Pattern) : (joinLiterals ps).IsChain Apart := by
  induction ps with
  | nil => exact List.IsChain.nil
  | cons p ps ih =>
      cases hp : p.isLiteral with
      | false =>
          rw [joinLiterals_cons_of_not_isLiteral hp]
          cases hjoin : joinLiterals ps with
          | nil => exact List.IsChain.singleton p
          | cons q qs =>
              rw [hjoin] at ih
              exact List.isChain_cons_cons.mpr ⟨by simp [Apart, hp], ih⟩
      | true =>
          cases p with
          | literal c cs =>
              rw [joinLiterals]
              split
              next d ds qs hjoin =>
                rw [hjoin] at ih
                exact isChain_cons_of_isLiteral rfl ih
              next qs hjoin =>
                cases hqs : joinLiterals ps with
                | nil => exact List.IsChain.singleton _
                | cons q qs' =>
                    rw [hqs] at ih hjoin
                    refine List.isChain_cons_cons.mpr ⟨?_, ih⟩
                    rintro ⟨-, hq⟩
                    cases q with
                    | literal d ds => exact hjoin d ds qs' rfl
                    | _ => cases hq
          | _ => cases hp

theorem mem_joinLiterals {ps : List Pattern} {p : Pattern} (h : p ∈ joinLiterals ps) :
    p ∈ ps ∨ p.isLiteral = true := by
  induction ps with
  | nil => cases h
  | cons q ps ih =>
      cases hq : q.isLiteral with
      | false =>
          rw [joinLiterals_cons_of_not_isLiteral hq] at h
          rcases List.mem_cons.mp h with rfl | h
          · exact .inl List.mem_cons_self
          · exact (ih h).imp_left (List.mem_cons_of_mem q)
      | true =>
          cases q with
          | literal c cs =>
              rw [joinLiterals] at h
              split at h
              next d ds qs hjoin =>
                rcases List.mem_cons.mp h with rfl | h
                · exact .inr rfl
                · refine (ih ?_).imp_left (List.mem_cons_of_mem _)
                  rw [hjoin]
                  exact List.mem_cons_of_mem _ h
              next =>
                rcases List.mem_cons.mp h with rfl | h
                · exact .inr rfl
                · exact (ih h).imp_left (List.mem_cons_of_mem _)
          | _ => cases hq

/-- A part of a sequence, which is no sequence itself. -/
def IsPart (p : Pattern) : Prop := p.Normal ∧ p.parts = [p]

theorem isPart_of_isLiteral {p : Pattern} (h : p.isLiteral = true) : p.IsPart := by
  cases p with
  | literal c cs => exact ⟨trivial, rfl⟩
  | _ => cases h

theorem Normal.parts {p : Pattern} (h : p.Normal) :
    (∀ q ∈ p.parts, q.IsPart) ∧ p.parts.IsChain Apart ∧ seqs p.parts = p := by
  induction p with
  | empty => exact ⟨by simp [Pattern.parts], .nil, rfl⟩
  | seq p q _ ihq =>
      obtain ⟨hp, hq, hparts, hne, hchain⟩ := h
      obtain ⟨hall, -, hseqs⟩ := ihq hq
      refine ⟨List.forall_mem_cons.mpr ⟨⟨hp, hparts⟩, hall⟩, hchain, ?_⟩
      cases hcons : q.parts with
      | nil =>
          rw [hcons] at hseqs
          exact absurd hseqs.symm hne
      | cons r rs =>
          rw [hcons] at hseqs
          rw [Pattern.parts, hcons, ← hseqs]
          rfl
  | _ => exact ⟨by simp [Pattern.parts, IsPart, h], .singleton _, rfl⟩

theorem parts_seqs {ps : List Pattern} (h : ∀ p ∈ ps, p.parts = [p]) : (seqs ps).parts = ps := by
  induction ps with
  | nil => rfl
  | cons p ps ih =>
      obtain ⟨hp, hps⟩ := List.forall_mem_cons.mp h
      cases ps with
      | nil => exact hp
      | cons q ps => exact congrArg (p :: ·) (ih hps)

theorem normal_seqs {ps : List Pattern} (h : ∀ p ∈ ps, p.IsPart) (hchain : ps.IsChain Apart) :
    (seqs ps).Normal := by
  induction ps with
  | nil => trivial
  | cons p ps ih =>
      obtain ⟨hp, hps⟩ := List.forall_mem_cons.mp h
      cases ps with
      | nil => exact hp.1
      | cons q ps =>
          have hparts := parts_seqs fun p hp => (hps p hp).2
          have hne : seqs (q :: ps) ≠ empty := by
            intro heq
            rw [heq] at hparts
            cases hparts
          exact ⟨hp.1, ih hps hchain.tail, hp.2, hne, by rwa [hparts]⟩

theorem normal_concat {ps : List Pattern} (h : ∀ p ∈ ps, p.Normal) : (concat ps).Normal := by
  refine normal_seqs (fun p hp => ?_) (isChain_joinLiterals _)
  rcases mem_joinLiterals hp with hp | hp
  · obtain ⟨q, hq, hpq⟩ := List.mem_flatMap.mp hp
    exact (h q hq).parts.1 p hpq
  · exact isPart_of_isLiteral hp

/-! ### Choices -/

/-- A branch of a choice, which is no choice itself. -/
def IsBranch (p : Pattern) : Prop := p.Normal ∧ p.branches = [p]

theorem Normal.branches {p : Pattern} (h : p.Normal) : ∀ q ∈ p.branches, q.IsBranch := by
  induction p with
  | alt p q _ ihq =>
      obtain ⟨hp, hq, hbranches⟩ := h
      exact List.forall_mem_cons.mpr ⟨⟨hp, hbranches⟩, ihq hq⟩
  | _ =>
      intro q hq
      obtain rfl := List.mem_singleton.mp hq
      exact ⟨h, rfl⟩

theorem normal_alts {ps : List Pattern} (h : ∀ p ∈ ps, p.IsBranch) : (alts ps).Normal := by
  induction ps with
  | nil => trivial
  | cons p ps ih =>
      obtain ⟨hp, hps⟩ := List.forall_mem_cons.mp h
      cases ps with
      | nil => exact hp.1
      | cons q ps => exact ⟨hp.1, ih hps, hp.2⟩

theorem normal_ofSet (s : CharSet) : (ofSet s).Normal := by
  rw [ofSet]
  split
  next => trivial
  next h => exact h

theorem normal_choice {ps : List Pattern} (h : ∀ p ∈ ps, p.Normal) : (choice ps).Normal := by
  have hbranches : ∀ p ∈ ps.flatMap Pattern.branches, p.IsBranch := by
    intro p hp
    obtain ⟨q, hq, hpq⟩ := List.mem_flatMap.mp hp
    exact (h q hq).branches p hpq
  rw [choice]
  split
  next p hp =>
    rw [hp] at hbranches
    exact (hbranches p List.mem_cons_self).1
  next =>
    split
    next s _ => exact normal_ofSet s
    next => exact normal_alts hbranches

theorem mem_of_mem_shared {ps qs : List Pattern} {p : Pattern} (h : p ∈ shared ps qs) : p ∈ ps := by
  induction ps generalizing qs with
  | nil => cases h
  | cons r ps ih =>
      cases qs with
      | nil => cases h
      | cons q qs =>
          rw [shared] at h
          split_ifs at h with heq
          · rcases List.mem_cons.mp h with rfl | h
            · exact List.mem_cons_self
            · exact List.mem_cons_of_mem r (ih h)
          · cases h

theorem mem_of_mem_foldl_shared {others : List (List Pattern)} {ps : List Pattern} {p : Pattern}
    (h : p ∈ others.foldl shared ps) : p ∈ ps := by
  induction others generalizing ps with
  | nil => exact h
  | cons other others ih => exact mem_of_mem_shared (ih h)

theorem seqParts?_eq_some {p : Pattern} {ps : List Pattern} (h : p.seqParts? = some ps) :
    ps = p.parts := by
  cases p <;> first | (cases h; rfl) | cases h

theorem exists_of_mem_mapM {α β : Type} {f : α → Option β} {as : List α} {bs : List β}
    (h : as.mapM f = some bs) {b : β} (hb : b ∈ bs) : ∃ a ∈ as, f a = some b := by
  induction as generalizing bs with
  | nil =>
      cases h
      cases hb
  | cons a as ih =>
      simp only [List.mapM_cons, Option.bind_eq_bind, Option.bind_eq_some_iff] at h
      obtain ⟨b', hb', bs', hbs', heq⟩ := h
      cases heq
      rcases List.mem_cons.mp hb with rfl | hb
      · exact ⟨a, List.mem_cons_self, hb'⟩
      · obtain ⟨a', ha', hfa'⟩ := ih hbs' hb
        exact ⟨a', List.mem_cons_of_mem a ha', hfa'⟩

theorem normal_of_factor? {ps start ends : List Pattern} (hps : ∀ p ∈ ps, p.Normal)
    (h : factor? ps = some (start, ends)) :
    (∀ p ∈ start, p.Normal) ∧ ∀ p ∈ ends, p.Normal := by
  rw [factor?] at h
  split at h
  next first others hparts =>
    -- Whatever is listed is a part of one of the patterns.
    have hmem : ∀ parts ∈ first :: others, ∀ p ∈ parts, p.Normal := by
      intro parts hmem p hp
      obtain ⟨q, hq, hqparts⟩ := exists_of_mem_mapM hparts hmem
      rw [seqParts?_eq_some hqparts] at hp
      exact ((hps q hq).parts.1 p hp).1
    split at h
    next => cases h
    next hshared =>
      cases h
      constructor
      · intro p hp
        exact hmem first List.mem_cons_self p (mem_of_mem_foldl_shared hp)
      · intro p hp
        obtain ⟨parts, hparts, rfl⟩ := List.mem_map.mp hp
        exact normal_concat fun q hq => hmem parts hparts q (List.mem_of_mem_drop hq)
  next => cases h

theorem normal_alternate {ps : List Pattern} (h : ∀ p ∈ ps, p.Normal) : (alternate ps).Normal := by
  have hchoice := normal_choice h
  rw [alternate]
  split
  next p q heq =>
    rw [heq] at hchoice
    split
    next start ends hfactor =>
      have hbranches (r : Pattern) (hr : r ∈ p :: q.branches) : r.Normal :=
        (hchoice.branches r hr).1
      obtain ⟨hstart, hends⟩ := normal_of_factor? hbranches hfactor
      refine normal_concat fun r hr => ?_
      rcases List.mem_append.mp hr with hr | hr
      · exact hstart r hr
      · obtain rfl := List.mem_singleton.mp hr
        exact normal_choice hends
    next => exact hchoice
  next => exact hchoice

theorem branches_ne_nil (p : Pattern) : p.branches ≠ [] := by
  cases p <;> simp [branches]

theorem alternate_singleton {p : Pattern} (h : p.branches = [p]) : alternate [p] = p := by
  have hchoice : choice [p] = p := by simp [choice, h]
  rw [alternate, hchoice]
  cases p with
  | alt q r => exact absurd (List.cons.inj h).2 r.branches_ne_nil
  | _ => rfl

/-! ### Repetitions -/

theorem normal_repeated {p : Pattern} (h : p.Normal) (low : Nat) (high : Option Nat)
    (greedy : Bool) : (repeated low high greedy p).Normal := by
  rw [repeated]
  split
  split_ifs
  · trivial
  · exact h
  · exact h

/-! ### What is built of a text -/

theorem normal_of_literal? {mode : Mode} {l : Literal} {p : Pattern}
    (h : l.pattern? mode = some p) : p.Normal := by
  rw [Literal.pattern?] at h
  split_ifs at h
  · cases h
    exact normal_ofSet _
  · cases h
    trivial

theorem normal_of_atom? {mode : Mode} {a : Atom} {p : Pattern} (h : a.pattern? mode = some p) :
    p.Normal := by
  cases a with
  | literal l => exact normal_of_literal? h
  | dot =>
      rw [Atom.pattern?] at h
      split_ifs at h
      all_goals
        cases h
        show CharSet.single? _ = none
        decide
  | caret =>
      cases h
      trivial
  | dollar =>
      cases h
      trivial
  | textStart =>
      cases h
      trivial
  | textEnd =>
      cases h
      trivial
  | word edge =>
      cases h
      trivial
  | set c depth =>
      obtain ⟨s, -, rfl⟩ := Option.map_eq_some_iff.mp h
      exact normal_ofSet s

def Item.Normal (i : Item) : Prop := ∀ p, i.pattern = some p → p.Normal

structure Level.Normal (l : Level) : Prop where
  branches : ∀ i ∈ l.branches, i.Normal
  items : ∀ i ∈ l.items, i.Normal

structure Builder.Normal (b : Builder) : Prop where
  level : b.level.Normal
  outer : ∀ l ∈ b.outer, l.Normal

namespace Level

theorem normal_filterMap {items : List Item} (h : ∀ i ∈ items, i.Normal) :
    ∀ p ∈ items.reverse.filterMap Item.pattern, p.Normal := by
  intro p hp
  obtain ⟨i, hi, hip⟩ := List.mem_filterMap.mp hp
  exact h i (List.mem_reverse.mp hi) p hip

theorem Normal.branch {l : Level} (h : l.Normal) : l.branch.Normal := by
  rintro p hp
  cases hp
  exact normal_concat (normal_filterMap h.items)

theorem Normal.addBranch {l : Level} (h : l.Normal) : l.addBranch.Normal :=
  ⟨List.forall_mem_cons.mpr ⟨h.branch, h.branches⟩, by simp [Level.addBranch]⟩

theorem Normal.group {l : Level} (h : l.Normal) : l.group.Normal := by
  have hbody := normal_alternate (normal_filterMap h.addBranch.branches)
  rintro p hp
  cases hp
  cases l.index with
  | none => exact hbody
  | some index => exact hbody

theorem Normal.cons {l : Level} (h : l.Normal) {i : Item} (hi : i.Normal) :
    Level.Normal { l with items := i :: l.items } :=
  ⟨h.branches, List.forall_mem_cons.mpr ⟨hi, h.items⟩⟩

theorem Normal.repeat? {l l' : Level} (h : l.Normal) {low : Nat} {high : Option Nat}
    {marked : Bool} (hrepeat : l.repeat? low high marked = some l') : l'.Normal := by
  rw [Level.repeat?.eq_def] at hrepeat
  split at hrepeat
  next p depth items hitems =>
    cases hrepeat
    have hall := h.items
    rw [hitems] at hall
    obtain ⟨hp, hitems⟩ := List.forall_mem_cons.mp hall
    refine ⟨h.branches, List.forall_mem_cons.mpr ⟨?_, hitems⟩⟩
    rintro q hq
    cases hq
    exact normal_repeated (hp p rfl) _ _ _
  next => cases hrepeat

theorem normal_mk (index : Option Nat) (mode : Mode) : Level.Normal ⟨index, mode, [], []⟩ :=
  ⟨by simp, by simp⟩

end Level

namespace Builder

theorem Normal.push? {b b' : Builder} {lexeme : Lexeme} (h : b.Normal)
    (hpush : b.push? lexeme = some b') : b'.Normal := by
  cases lexeme with
  | atom a =>
      obtain ⟨p, hp, rfl⟩ := Option.map_eq_some_iff.mp hpush
      refine ⟨h.level.cons ?_, h.outer⟩
      rintro q hq
      cases hq
      exact normal_of_atom? hp
  | repetition low high marked =>
      obtain ⟨l, hl, rfl⟩ := Option.map_eq_some_iff.mp hpush
      exact ⟨h.level.repeat? hl, h.outer⟩
  | bar =>
      cases hpush
      exact ⟨h.level.addBranch, h.outer⟩
  | directive changes =>
      cases hpush
      have hitem : Item.Normal ⟨none, 0⟩ := by
        rintro p hp
        cases hp
      obtain ⟨hbranches, hitems⟩ := h.level.cons hitem
      exact ⟨⟨hbranches, hitems⟩, h.outer⟩
  | opening o =>
      have houter := List.forall_mem_cons.mpr ⟨h.level, h.outer⟩
      cases o with
      | group changes =>
          cases hpush
          exact ⟨Level.normal_mk _ _, houter⟩
      | capture name =>
          rw [Builder.push?] at hpush
          split_ifs at hpush
          cases hpush
          exact ⟨Level.normal_mk _ _, houter⟩
  | closing =>
      rw [Builder.push?] at hpush
      cases hlevels : b.outer with
      | nil => simp [hlevels] at hpush
      | cons l levels =>
          simp only [hlevels] at hpush
          cases hpush
          have hall := h.outer
          rw [hlevels] at hall
          obtain ⟨hl, hothers⟩ := List.forall_mem_cons.mp hall
          exact ⟨hl.cons h.level.group, hothers⟩

theorem normal_start (mode : Mode) : (start mode).Normal :=
  ⟨Level.normal_mk none mode, by simp [start]⟩

theorem Normal.read? {fuel : Nat} {b b' : Builder} {text : List Char} (h : b.Normal)
    (hread : Builder.read? fuel b text = some b') : b'.Normal := by
  induction fuel generalizing b text with
  | zero =>
      rw [Builder.read?] at hread
      split_ifs at hread
      cases hread
      exact h
  | succ fuel ih =>
      rw [Builder.read?] at hread
      split at hread
      next =>
        cases hread
        exact h
      next =>
        split at hread
        next => cases hread
        next =>
          split at hread
          next => cases hread
          next hpush => exact ih (h.push? hpush) hread

end Builder

end Pattern

end RuleLexer

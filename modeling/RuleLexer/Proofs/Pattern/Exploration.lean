import Mathlib.Data.Finset.Card
import Mathlib.Data.Finset.Range
import Mathlib.Logic.Relation
import RuleLexer.Proofs.Pattern.Places

/-!
Following all ways at a gap. The places gone through, the threads found and
what has been put off change in five kinds of moves, and no move changes which
way is the preferred one. A place that is come to again leads to nothing new:
all that it leads to has been found before, since what is being followed weighs
less than any place that has not been gone through to the end.
-/

namespace RuleLexer

namespace Pattern

/-! ### What is to be matched one after another -/

def Pending.ways : Pending → Cursor → List Cursor
  | pattern _ p => p.ways
  | again _ greedy p => (rounds 0 none greedy p).ways

def waysThrough : Residual → Cursor → List Cursor
  | [], c => [c]
  | p :: rest, c => (p.ways c).flatMap (waysThrough rest)

def Thread.ways (t : Thread) (c : Cursor) : List Cursor :=
  (c.read t.set).flatMap (waysThrough t.rest)

/-- How many places can be gone through at most before a character has to be read. -/
def weight : Residual → Nat
  | [] => 0
  | .pattern _ p :: rest => p.places + if p.consumes then 0 else weight rest
  | .again _ _ p :: rest => 1 + p.places + weight rest

@[simp] theorem waysThrough_nil (c : Cursor) : waysThrough [] c = [c] := rfl

@[simp] theorem waysThrough_pattern (place : Nat) (p : Pattern) (rest : Residual) :
    waysThrough (.pattern place p :: rest) = fun c => (p.ways c).flatMap (waysThrough rest) := rfl

@[simp] theorem waysThrough_again (place : Nat) (greedy : Bool) (p : Pattern) (rest : Residual) :
    waysThrough (.again place greedy p :: rest) =
      fun c => ((rounds 0 none greedy p).ways c).flatMap (waysThrough rest) := rfl

theorem waysThrough_leftOver {low high : Nat} (h : low ≤ high) (greedy : Bool) (p : Pattern)
    (place : Nat) (rest : Residual) (c : Cursor) :
    waysThrough (leftOver low high greedy p place rest) c =
      ((rounds low (some high) greedy p).ways c).flatMap (waysThrough rest) := by
  rw [leftOver]
  split
  next hhigh =>
    obtain rfl : low = 0 := by omega
    rw [ways_rounds_some_zero, hhigh]
    simp [upTo]
  next => rfl

/-! ### Patterns that consume something -/

theorem consumes_seq {p q : Pattern} (h : (seq p q).consumes = true) :
    p.consumes = true ∨ q.consumes = true := by
  simp only [consumes_iff] at h ⊢
  cases hp : p.minLength <;> cases hq : q.minLength <;> simp [minLength, hp, hq] at h ⊢
  omega

theorem consumes_alt {p q : Pattern} (h : (alt p q).consumes = true) :
    p.consumes = true ∧ q.consumes = true := by
  simp only [consumes_iff] at h ⊢
  cases hp : p.minLength <;> cases hq : q.minLength <;> simp [minLength, hp, hq] at h ⊢
  omega

theorem consumes_rounds {low : Nat} {high : Option Nat} {greedy : Bool} {p : Pattern} :
    (rounds low high greedy p).consumes = true ↔ 0 < low ∧ p.consumes = true := by
  simp only [consumes_iff]
  cases hp : p.minLength with
  | none => simp [minLength, hp]
  | some n =>
      simp only [minLength, hp, Option.map_some, Option.getD_some]
      refine ⟨fun h => ⟨?_, ?_⟩, fun h => Nat.mul_pos h.1 h.2⟩
      · exact Nat.pos_of_ne_zero fun hlow => by simp [hlow] at h
      · exact Nat.pos_of_ne_zero fun hn => by simp [hn] at h

theorem reached_read (f : Frontier) (place : Nat) (s : CharSet) (rest : Residual) :
    (f.read place s rest).reached = false := by
  rw [Frontier.read, Frontier.atPlace]
  split <;> rfl

/-- The way through such a pattern does not come to what follows at the same gap. -/
theorem reached_expand {p : Pattern} (h : p.consumes = true) (gap : Gap) (place : Nat)
    (rest : Residual) (f : Frontier) : (p.expand gap place rest f).reached = false := by
  induction p generalizing place rest f with
  | empty => cases h
  | literal a as => exact reached_read f place (.one a) _
  | set s => exact reached_read f place s rest
  | look l => cases h
  | capture index p ih => exact ih h place rest f
  | seq p q ihp ihq =>
      rw [expand]
      cases hreached : (p.expand gap place (.pattern (place + p.places) q :: rest) f).reached with
      | false => simp [hreached]
      | true =>
          simp only [if_true]
          rcases consumes_seq h with hp | hq
          · rw [ihp hp] at hreached
            cases hreached
          · exact ihq hq _ rest _
  | alt p q ihp ihq =>
      rw [expand, Frontier.atPlace]
      split
      · rfl
      · exact ihp (consumes_alt h).1 _ rest _
  | rounds low high greedy p ih =>
      obtain ⟨hlow, hp⟩ := consumes_rounds.mp h
      obtain ⟨low, rfl⟩ := Nat.exists_eq_succ_of_ne_zero (Nat.ne_of_gt hlow)
      cases high with
      | none =>
          rw [expand]
          cases low with
          | zero => simp [expandUnbounded, expandOneOrMore, ih hp]
          | succ low => simp [expandUnbounded, ih hp]
      | some high => simp [expand, expandBounded, ih hp]

/-! ### Stages -/

/-- How far the ways at a gap have been followed: the places gone through, the threads found, last
first, what is being followed, if anything, and what has been put off. -/
structure Stage where
  seen : Std.TreeSet Nat
  threads : List Thread
  active : Option Residual
  later : List Residual

namespace Stage

def todo (s : Stage) : List Residual := s.active.toList ++ s.later

/-- The gaps to which all leads that has been found or is still to be followed. -/
def ways (s : Stage) (c : Cursor) : List Cursor :=
  s.threads.reverse.flatMap (Thread.ways · c) ++ s.todo.flatMap (waysThrough · c)

end Stage

/-- The stage once a way has been followed up to `rest`. -/
def Frontier.stage (f : Frontier) (rest : Residual) : Stage :=
  ⟨f.seen, f.threads, if f.reached then some rest else none, f.later⟩

theorem Frontier.stage_of_reached {f : Frontier} (h : f.reached = true) (rest : Residual) :
    f.stage rest = ⟨f.seen, f.threads, some rest, f.later⟩ := by
  rw [stage, if_pos h]

theorem Frontier.stage_of_not_reached {f : Frontier} (h : f.reached = false) (rest : Residual) :
    f.stage rest = ⟨f.seen, f.threads, none, f.later⟩ := by
  rw [stage, h]
  rfl

/-! ### Moves -/

/-- What can be done with what is being followed at the gap `c`. -/
inductive Move (stands : Nat → Residual) (size : Nat) (c : Cursor) : Stage → Stage → Prop
  /-- It is as good as something that weighs no more. -/
  | become {seen : Std.TreeSet Nat} {threads : List Thread} {later : List Residual}
      {r r' : Residual} (hways : waysThrough r c = waysThrough r' c)
      (hweight : weight r' ≤ weight r) (hr' : InPlace stands size r') :
      Move stands size c ⟨seen, threads, some r, later⟩ ⟨seen, threads, some r', later⟩
  | fail {seen : Std.TreeSet Nat} {threads : List Thread} {later : List Residual} {r : Residual}
      (hways : waysThrough r c = []) :
      Move stands size c ⟨seen, threads, some r, later⟩ ⟨seen, threads, none, later⟩
  /-- It begins at a place that has been gone through before. -/
  | revisit {seen : Std.TreeSet Nat} {threads : List Thread} {later : List Residual} {place : Nat}
      (hseen : seen.contains place = true) :
      Move stands size c ⟨seen, threads, some (stands place), later⟩ ⟨seen, threads, none, later⟩
  | read {seen : Std.TreeSet Nat} {threads : List Thread} {later : List Residual} {place : Nat}
      {t : Thread} (hplace : place < size) (hseen : seen.contains place = false)
      (hways : waysThrough (stands place) c = t.ways c) (hrest : InPlace stands size t.rest) :
      Move stands size c ⟨seen, threads, some (stands place), later⟩
        ⟨seen.insert place, t :: threads, none, later⟩
  /-- Of two ways to go on the second is put off. -/
  | fork {seen : Std.TreeSet Nat} {threads : List Thread} {later : List Residual} {place : Nat}
      {r r' : Residual} (hplace : place < size) (hseen : seen.contains place = false)
      (hways : waysThrough (stands place) c = waysThrough r c ++ waysThrough r' c)
      (hr : InPlace stands size r) (hr' : InPlace stands size r')
      (hweight : weight r < weight (stands place)) (hweight' : weight r' < weight (stands place)) :
      Move stands size c ⟨seen, threads, some (stands place), later⟩
        ⟨seen.insert place, threads, some r, r' :: later⟩

abbrev Moves (stands : Nat → Residual) (size : Nat) (c : Cursor) : Stage → Stage → Prop :=
  Relation.ReflTransGen (Move stands size c)

/-! ### What moves keep -/

/-- Whatever the place leads to is among the threads or comes of the first residuals that are still
to be followed. All of those weigh less than the place. -/
def Covered (stands : Nat → Residual) (c : Cursor) (threads : List Thread) (todo : List Residual)
    (place : Nat) : Prop :=
  ∃ start, start <+: todo ∧ (∀ r ∈ start, weight r < weight (stands place)) ∧
    ((∀ t ∈ threads, t.ways c = []) → (∀ r ∈ start, waysThrough r c = []) →
      waysThrough (stands place) c = [])

/-- The places that have been gone through are covered. -/
structure Sound (stands : Nat → Residual) (size : Nat) (c : Cursor) (s : Stage) : Prop where
  todo : ∀ r ∈ s.todo, InPlace stands size r
  threads : ∀ t ∈ s.threads, InPlace stands size t.rest
  covered : ∀ place, s.seen.contains place = true → Covered stands c s.threads s.todo place

variable {stands : Nat → Residual} {size : Nat} {c : Cursor}

/-- What is followed may be replaced by threads and by residuals that weigh no more. -/
theorem Covered.replace {threads : List Thread} {r : Residual} {later : List Residual}
    {place : Nat} (h : Covered stands c threads (r :: later) place) (new : List Thread)
    (rs : List Residual) (hweight : ∀ q ∈ rs, weight q ≤ weight r)
    (hways : (∀ t ∈ new ++ threads, t.ways c = []) → (∀ q ∈ rs, waysThrough q c = []) →
      waysThrough r c = []) :
    Covered stands c (new ++ threads) (rs ++ later) place := by
  obtain ⟨start, hstart, hless, hempty⟩ := h
  have hold : (∀ t ∈ new ++ threads, t.ways c = []) → ∀ t ∈ threads, t.ways c = [] :=
    fun ht t htmem => ht t (List.mem_append_right new htmem)
  cases start with
  | nil => exact ⟨[], List.nil_prefix, by simp, fun ht _ => hempty (hold ht) (by simp)⟩
  | cons q start =>
      obtain ⟨rfl, hlater⟩ := List.cons_prefix_cons.mp hstart
      obtain ⟨hr, hless⟩ := List.forall_mem_cons.mp hless
      refine ⟨rs ++ start, (List.prefix_append_right_inj rs).mpr hlater, ?_, fun ht hrs => ?_⟩
      · intro p hp
        rcases List.mem_append.mp hp with hp | hp
        · exact Nat.lt_of_le_of_lt (hweight p hp) hr
        · exact hless p hp
      · rw [List.forall_mem_append] at hrs
        exact hempty (hold ht) (List.forall_mem_cons.mpr ⟨hways ht hrs.1, hrs.2⟩)

/-- A place that weighs no more than what is being followed leads to nothing but what has been
found. -/
theorem Covered.eq_nil {threads : List Thread} {later : List Residual} {place : Nat}
    (h : Covered stands c threads (stands place :: later) place)
    (hthreads : ∀ t ∈ threads, t.ways c = []) : waysThrough (stands place) c = [] := by
  obtain ⟨start, hstart, hless, hempty⟩ := h
  cases start with
  | nil => exact hempty hthreads (by simp)
  | cons q start =>
      obtain ⟨rfl, -⟩ := List.cons_prefix_cons.mp hstart
      have hlt := hless (stands place) (by simp)
      omega

theorem covered_insert {seen : Std.TreeSet Nat} {threads : List Thread} {todo : List Residual}
    {place : Nat} (hnew : Covered stands c threads todo place)
    (hold : ∀ i, seen.contains i = true → Covered stands c threads todo i) :
    ∀ i, (seen.insert place).contains i = true → Covered stands c threads todo i := by
  intro i hi
  rw [Std.TreeSet.contains_insert, Bool.or_eq_true, beq_iff_eq, Std.LawfulEqCmp.compare_eq_iff_eq]
    at hi
  rcases hi with rfl | hi
  · exact hnew
  · exact hold i hi

theorem Sound.move {s s' : Stage} (h : Sound stands size c s) (hmove : Move stands size c s s') :
    Sound stands size c s' := by
  obtain ⟨htodo, hthreads, hcovered⟩ := h
  cases hmove with
  | @become seen threads later r r' hways hweight hr' =>
      have hlater := (List.forall_mem_cons.mp htodo).2
      refine ⟨List.forall_mem_cons.mpr ⟨hr', hlater⟩, hthreads, fun place hseen => ?_⟩
      apply (hcovered place hseen).replace [] [r']
      · simpa using hweight
      · simp [hways]
  | @fail seen threads later r hways =>
      have hlater := (List.forall_mem_cons.mp htodo).2
      refine ⟨hlater, hthreads, fun place hseen => ?_⟩
      exact (hcovered place hseen).replace [] [] (by simp) fun _ _ => hways
  | @revisit seen threads later place hseen =>
      have hlater := (List.forall_mem_cons.mp htodo).2
      refine ⟨hlater, hthreads, fun i hi => ?_⟩
      exact (hcovered i hi).replace [] [] (by simp) fun ht _ =>
        (hcovered place hseen).eq_nil ht
  | @read seen threads later place t hplace hseen hways hrest =>
      have hlater := (List.forall_mem_cons.mp htodo).2
      refine ⟨hlater, List.forall_mem_cons.mpr ⟨hrest, hthreads⟩, covered_insert ?_ fun i hi => ?_⟩
      · refine ⟨[], List.nil_prefix, by simp, fun ht _ => ?_⟩
        rw [hways]
        exact ht t (by simp)
      · apply (hcovered i hi).replace [t] [] (by simp)
        intro ht _
        rw [hways]
        exact ht t (by simp)
  | @fork seen threads later place r r' hplace hseen hways hr hr' hweight hweight' =>
      have hlater := (List.forall_mem_cons.mp htodo).2
      have hempty (hrs : ∀ q ∈ [r, r'], waysThrough q c = []) :
          waysThrough (stands place) c = [] := by
        rw [hways, hrs r (by simp), hrs r' (by simp), List.append_nil]
      refine ⟨?_, hthreads, covered_insert ?_ fun i hi => ?_⟩
      · exact List.forall_mem_cons.mpr ⟨hr, List.forall_mem_cons.mpr ⟨hr', hlater⟩⟩
      · refine ⟨[r, r'], ⟨later, rfl⟩, ?_, fun _ => hempty⟩
        simpa using ⟨hweight, hweight'⟩
      · apply (hcovered i hi).replace [] [r, r']
        · simpa using ⟨Nat.le_of_lt hweight, Nat.le_of_lt hweight'⟩
        · exact fun _ => hempty

/-- No move changes where the preferred way leads to. -/
theorem Sound.head?_ways {s s' : Stage} (h : Sound stands size c s)
    (hmove : Move stands size c s s') : (s'.ways c).head? = (s.ways c).head? := by
  cases hmove with
  | become hways hweight hr' => simp [Stage.ways, Stage.todo, hways]
  | fail hways => simp [Stage.ways, Stage.todo, hways]
  | @revisit seen threads later place hseen =>
      -- If no thread leads anywhere the place does not, else a thread is preferred to it.
      have hempty := (h.covered place hseen).eq_nil
      simp only [Stage.ways, Stage.todo, Option.toList_some, Option.toList_none, List.nil_append,
        List.singleton_append, List.flatMap_cons]
      cases hfound : threads.reverse.flatMap (Thread.ways · c) with
      | nil =>
          rw [List.flatMap_eq_nil_iff] at hfound
          rw [hempty fun t ht => hfound t (List.mem_reverse.mpr ht), List.nil_append,
            List.nil_append]
      | cons d found => rfl
  | read hplace hseen hways hrest => simp [Stage.ways, Stage.todo, hways]
  | fork hplace hseen hways hr hr' hweight hweight' => simp [Stage.ways, Stage.todo, hways]

/-! ### How many moves there can be -/

/-- The number of places that have not been gone through. -/
def unseen (size : Nat) (seen : Std.TreeSet Nat) : Nat :=
  ((Finset.range size).filter fun i => seen.contains i = false).card

theorem unseen_insert {place : Nat} {seen : Std.TreeSet Nat} (hplace : place < size)
    (hseen : seen.contains place = false) :
    unseen size (seen.insert place) + 1 = unseen size seen := by
  have hfilter : ((Finset.range size).filter fun i => (seen.insert place).contains i = false) =
      ((Finset.range size).filter fun i => seen.contains i = false).erase place := by
    ext i
    simp only [Finset.mem_filter, Finset.mem_erase, Std.TreeSet.contains_insert,
      Bool.or_eq_false_iff, beq_eq_false_iff_ne, ne_eq, Std.LawfulEqCmp.compare_eq_iff_eq,
      eq_comm (a := place)]
    tauto
  rw [unseen, hfilter]
  exact Finset.card_erase_add_one (by simpa using ⟨hplace, hseen⟩)

/-- Something is put off only where a place is gone through for the first time. -/
theorem Move.later_add_unseen_le {s s' : Stage} (h : Move stands size c s s') :
    s'.later.length + unseen size s'.seen ≤ s.later.length + unseen size s.seen := by
  cases h with
  | become hways hweight hr' => exact Nat.le_refl _
  | fail hways => exact Nat.le_refl _
  | revisit hseen => exact Nat.le_refl _
  | @read seen threads later place t hplace hseen hways hrest =>
      have hinsert := unseen_insert hplace hseen
      show later.length + unseen size (seen.insert place) ≤ later.length + unseen size seen
      omega
  | @fork seen threads later place r r' hplace hseen hways hr hr' hweight hweight' =>
      have hinsert := unseen_insert hplace hseen
      show (r' :: later).length + unseen size (seen.insert place) ≤
        later.length + unseen size seen
      rw [List.length_cons]
      omega

theorem Sound.moves {s s' : Stage} (h : Sound stands size c s) (hmoves : Moves stands size c s s') :
    Sound stands size c s' ∧ (s'.ways c).head? = (s.ways c).head? ∧
      s'.later.length + unseen size s'.seen ≤ s.later.length + unseen size s.seen := by
  induction hmoves with
  | refl => exact ⟨h, rfl, Nat.le_refl _⟩
  | tail _ hmove ih =>
      obtain ⟨hsound, hhead, hle⟩ := ih
      exact ⟨hsound.move hmove, (hsound.head?_ways hmove).trans hhead,
        hmove.later_add_unseen_le.trans hle⟩

end Pattern

end RuleLexer

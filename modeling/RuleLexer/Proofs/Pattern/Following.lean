import RuleLexer.Proofs.Pattern.Exploration

/-!
Following a pattern from a gap up to what comes after it is a matter of moves,
whatever the pattern is. So the threads that are found at a gap, with a match
that ends there, lead where the residuals lead, and in the same order as far as
the preferred way is concerned.
-/

namespace RuleLexer

namespace Pattern

variable {stands : Nat → Residual} {size : Nat} {c : Cursor}

/-! ### Expansions make moves -/

/-- The place has been gone through. -/
def Frontier.visit (f : Frontier) (place : Nat) : Frontier :=
  { f with seen := f.seen.insert place }

theorem Frontier.atPlace_eq (f : Frontier) (place : Nat) (go : Frontier → Frontier) :
    f.atPlace place go = if f.seen.contains place then f.fail else go (f.visit place) := rfl

variable {f : Frontier} {place : Nat} {rest : Residual}

theorem moves_fail {r : Residual} (hf : f.reached = true) (hways : waysThrough r c = [])
    (rest : Residual) : Moves stands size c (f.stage r) (f.fail.stage rest) := by
  rw [Frontier.stage_of_reached hf]
  exact .single (.fail hways)

theorem moves_revisit (hf : f.reached = true) (hseen : f.seen.contains place = true)
    (rest : Residual) : Moves stands size c (f.stage (stands place)) (f.fail.stage rest) := by
  rw [Frontier.stage_of_reached hf]
  exact .single (.revisit hseen)

theorem moves_become {r r' : Residual} (hf : f.reached = true)
    (hways : waysThrough r c = waysThrough r' c) (hweight : weight r' ≤ weight r)
    (hr' : InPlace stands size r') : Moves stands size c (f.stage r) (f.stage r') := by
  rw [Frontier.stage_of_reached hf, Frontier.stage_of_reached hf]
  exact .single (.become hways hweight hr')

theorem moves_fork {r r' : Residual} (hf : f.reached = true) (hplace : place < size)
    (hseen : f.seen.contains place = false)
    (hways : waysThrough (stands place) c = waysThrough r c ++ waysThrough r' c)
    (hr : InPlace stands size r) (hr' : InPlace stands size r')
    (hweight : weight r < weight (stands place)) (hweight' : weight r' < weight (stands place)) :
    Moves stands size c (f.stage (stands place))
      (((f.visit place).putOff r').stage r) := by
  have hvisit : ((f.visit place).putOff r').reached = true := hf
  rw [Frontier.stage_of_reached hf, Frontier.stage_of_reached hvisit]
  exact .single (.fork hplace hseen hways hr hr' hweight hweight')

theorem moves_read {s : CharSet} {next : Residual} (hf : f.reached = true) (hplace : place < size)
    (hways : waysThrough (stands place) c = (Thread.mk s next).ways c)
    (hnext : InPlace stands size next) (rest : Residual) :
    Moves stands size c (f.stage (stands place)) ((f.read place s next).stage rest) := by
  rw [Frontier.read, Frontier.atPlace]
  split
  next hseen => exact moves_revisit hf hseen rest
  next hseen =>
    rw [Frontier.stage_of_reached hf, Frontier.stage_of_not_reached rfl]
    exact .single (.read hplace (Bool.eq_false_iff.mpr hseen) hways hnext)

/-- What is behind a part is gone on with only if the part has been followed to its end. -/
theorem moves_goOn {s : Stage} {next : Residual} {go : Frontier → Frontier}
    (hnext : Moves stands size c s (f.stage next))
    (hgo : f.reached = true → Moves stands size c (f.stage next) ((go f).stage rest)) :
    Moves stands size c s ((if f.reached then go f else f).stage rest) := by
  split
  next hreached => exact hnext.trans (hgo hreached)
  next hreached =>
    rw [Frontier.stage_of_not_reached (Bool.eq_false_iff.mpr hreached)] at hnext ⊢
    exact hnext

/-- Following a pattern up to what comes after it is a matter of moves. -/
def Follows (stands : Nat → Residual) (size : Nat) (c : Cursor) (p : Pattern) : Prop :=
  ∀ place rest f, Placed stands size p place rest → InPlace stands size rest →
    Frontier.reached f = true →
    Moves stands size c (f.stage (.pattern place p :: rest))
      ((p.expand c.gap place rest f).stage rest)

theorem follows_literal (a : Char) (as : List Char) : Follows stands size c (literal a as) := by
  intro place rest f hp hrest hf
  obtain ⟨hplace, hstands⟩ := hp.literal_place
  rw [← hstands]
  cases as with
  | nil => exact moves_read hf hplace (by simp [hstands, Thread.ways]) hrest rest
  | cons b as =>
      refine moves_read hf hplace ?_ (.pattern hp.literal_next hrest) rest
      simp [hstands, Thread.ways, Cursor.readAll_cons, List.flatMap_assoc]

theorem follows_set (s : CharSet) : Follows stands size c (set s) := by
  intro place rest f hp hrest hf
  obtain ⟨hplace, hstands⟩ := hp.set_place
  rw [← hstands]
  exact moves_read hf hplace (by simp [hstands, Thread.ways]) hrest rest

theorem follows_look (l : Look) : Follows stands size c (look l) := by
  intro place rest f hp hrest hf
  rw [expand]
  split
  next hholds =>
    have hways : waysThrough (.pattern place (look l) :: rest) c = waysThrough rest c := by
      simp [ways_look, hholds]
    exact moves_become hf hways (Nat.le_add_left _ _) hrest
  next hfails => exact moves_fail hf (by simp [ways_look, hfails]) rest

theorem Follows.capture {p : Pattern} (h : Follows stands size c p) (index : Nat) :
    Follows stands size c (capture index p) := by
  intro place rest f hp hrest hf
  have hsame : Moves stands size c (f.stage (.pattern place (.capture index p) :: rest))
      (f.stage (.pattern place p :: rest)) :=
    moves_become hf rfl (Nat.le_refl _) (.pattern hp.capture hrest)
  exact hsame.trans (h place rest f hp.capture hrest hf)

theorem weight_seq_le (p q : Pattern) (place next : Nat) (rest : Residual) :
    weight (.pattern place p :: .pattern next q :: rest) ≤
      weight (.pattern place (seq p q) :: rest) := by
  have hplaces : (seq p q).places = p.places + q.places := rfl
  simp only [weight]
  split
  · omega
  · split
    · omega
    · split
      next hconsumes => rcases consumes_seq hconsumes with hp | hq <;> contradiction
      next => omega

theorem Follows.seq {p q : Pattern} (hp : Follows stands size c p) (hq : Follows stands size c q) :
    Follows stands size c (seq p q) := by
  intro place rest f hpq hrest hf
  have hnext : InPlace stands size (.pattern (place + p.places) q :: rest) :=
    .pattern hpq.seq_right hrest
  have hfirst := hp place _ f hpq.seq_left hnext hf
  have hsplit := moves_become (c := c) hf (by simp [List.flatMap_assoc])
    (weight_seq_le p q place (place + p.places) rest) (.pattern hpq.seq_left hnext)
  exact moves_goOn (hsplit.trans hfirst) (hq _ rest _ hpq.seq_right hrest)

theorem Follows.alt {p q : Pattern} (hp : Follows stands size c p) :
    Follows stands size c (alt p q) := by
  intro place rest f hpq hrest hf
  obtain ⟨hplace, hstands⟩ := hpq.alt_place
  have hweight : weight (.pattern (place + 1) p :: rest) < weight (stands place) ∧
      weight (.pattern (place + 1 + p.places) q :: rest) < weight (stands place) := by
    have hplaces : (Pattern.alt p q).places = 1 + p.places + q.places := rfl
    have hconsumes := @consumes_alt p q
    rw [hstands]
    simp only [weight]
    split_ifs <;> first | omega | grind
  rw [expand, Frontier.atPlace_eq, ← hstands]
  split
  next hseen => exact moves_revisit hf hseen rest
  next hseen =>
    have hfork := moves_fork (c := c) hf hplace (Bool.eq_false_iff.mpr hseen) (by simp [hstands])
      (.pattern hpq.alt_left hrest) (.pattern hpq.alt_right hrest) hweight.1 hweight.2
    exact hfork.trans (hp _ rest _ hpq.alt_left hrest hf)

/-! ### Repetitions -/

/-- A pattern that consumes something does not come to what is behind it at this gap, whatever that
is. -/
theorem Follows.stops {p : Pattern} (h : Follows stands size c p) (hconsumes : p.consumes = true)
    {next : Residual} (hp : Placed stands size p place next) (hnext : InPlace stands size next)
    (hf : f.reached = true) (rest : Residual) :
    Moves stands size c (f.stage (.pattern place p :: next))
      ((p.expand c.gap place next f).stage rest) := by
  have hmoves := h place next f hp hnext hf
  have hreached := reached_expand hconsumes c.gap place next f
  rw [Frontier.stage_of_not_reached hreached] at hmoves ⊢
  exact hmoves

theorem Follows.again {p : Pattern} (h : Follows stands size c p) {greedy : Bool}
    (hagain : InPlace stands size (.again place greedy p :: rest)) (hf : f.reached = true) :
    Moves stands size c (f.stage (.again place greedy p :: rest))
      ((expandAgain greedy p (p.expand c.gap) place rest f).stage rest) := by
  cases hagain with
  | again hconsumes hplace hstands hp hrest =>
    have hnext := InPlace.again hconsumes hplace hstands hp hrest
    have hbody : InPlace stands size (.pattern (place + 1) p :: .again place greedy p :: rest) :=
      .pattern hp hnext
    have hways := ways_rounds_none hconsumes greedy c
    have hweight : weight (.pattern (place + 1) p :: .again place greedy p :: rest) <
        weight (stands place) := by
      simp only [hstands, weight, hconsumes, if_true]
      omega
    have hweight' : weight rest < weight (stands place) := by
      simp only [hstands, weight]
      omega
    have hstart : f.stage (.again place greedy p :: rest) = f.stage (stands place) := by
      rw [hstands]
    rw [expandAgain, Frontier.atPlace_eq, hstart]
    split
    next hseen => exact moves_revisit hf hseen rest
    next hseen =>
      have hseen := Bool.eq_false_iff.mpr hseen
      cases greedy with
      | true =>
          have hsplit : waysThrough (stands place) c =
              waysThrough (.pattern (place + 1) p :: .again place true p :: rest) c ++
                waysThrough rest c := by
            simp [hstands, hways, List.flatMap_assoc]
          have hround := h.stops hconsumes hp hnext (f := (f.visit place).putOff rest) hf rest
          rw [Frontier.stage_of_not_reached (reached_expand hconsumes ..)] at hround
          exact (moves_fork hf hplace hseen hsplit hbody hrest hweight hweight').trans hround
      | false =>
          have hsplit : waysThrough (stands place) c = waysThrough rest c ++
              waysThrough (.pattern (place + 1) p :: .again place false p :: rest) c := by
            simp [hstands, hways, List.flatMap_assoc]
          exact moves_fork hf hplace hseen hsplit hrest hbody hweight' hweight

theorem weight_first_le {p : Pattern} (h : p.consumes = true) (low : Nat) (greedy : Bool)
    (place i : Nat) (rest next : Residual) :
    weight (.pattern i p :: next) ≤
      weight (.pattern place (rounds (low + 1) none greedy p) :: rest) := by
  have hplaces : (rounds (low + 1) none greedy p).places =
      low * p.places + (1 + p.places) := rfl
  simp only [weight, h, if_true]
  omega

theorem Follows.unbounded {p : Pattern} (h : Follows stands size c p) (low : Nat) (greedy : Bool) :
    Follows stands size c (rounds low none greedy p) := by
  intro place rest f hp hrest hf
  have hconsumes := hp.body_consumes
  rw [expand]
  rcases low with _ | _ | low
  case zero =>
    have hagain := hp.unbounded_again (Nat.zero_le 1) hrest
    have hweight : weight (.again place greedy p :: rest) ≤
        weight (.pattern place (rounds 0 none greedy p) :: rest) := by
      simp [weight, places, hconsumes, consumes_rounds]
    have hsame : Moves stands size c (f.stage (.pattern place (rounds 0 none greedy p) :: rest))
        (f.stage (.again place greedy p :: rest)) :=
      moves_become hf rfl hweight hagain
    rw [expandUnbounded, if_pos hconsumes]
    exact hsame.trans (h.again hagain hf)
  case succ.zero =>
    have hagain := hp.unbounded_again (Nat.le_refl 1) hrest
    have hfirst : Placed stands size p (place + 1) (.again place greedy p :: rest) := by
      cases hagain with
      | again hconsumes hplace hstands hbody hrest => exact hbody
    have hsame := moves_become (c := c) hf (by simp [ways_rounds_none_succ, List.flatMap_assoc])
      (weight_first_le hconsumes 0 greedy place (place + 1) rest _) (.pattern hfirst hagain)
    rw [expandUnbounded, expandOneOrMore]
    simp only [reached_expand hconsumes, Bool.false_eq_true, if_false]
    exact hsame.trans (h.stops hconsumes hfirst hagain hf rest)
  case succ.succ =>
    have hnext := InPlace.pattern hp.unbounded_rest hrest
    have hsame := moves_become (c := c) hf (by simp [ways_rounds_none_succ, List.flatMap_assoc])
      (weight_first_le hconsumes (low + 1) greedy place place rest _)
      (.pattern hp.unbounded_first hnext)
    rw [expandUnbounded]
    simp only [reached_expand hconsumes, Bool.false_eq_true, if_false]
    exact hsame.trans (h.stops hconsumes hp.unbounded_first hnext hf rest)

theorem weight_leftOver_le (low high : Nat) (greedy : Bool) (p : Pattern) (place : Nat)
    (rest : Residual) :
    weight (leftOver low high greedy p place rest) ≤
      (rounds low (some high) greedy p).places + weight rest := by
  rw [leftOver]
  split
  · exact Nat.le_add_left _ _
  · rw [weight]
    split <;> omega

theorem expandOptional_succ (greedy : Bool) (p : Pattern) (round : Expansion) (size : Nat)
    (rest : Residual) (more place : Nat) (f : Frontier) :
    expandOptional greedy p round size rest (more + 1) place f =
      f.atPlace place fun f =>
        let next := place + 1 + size
        let others := leftOver 0 more greedy p next rest
        if greedy then
          let f := round (place + 1) others (f.putOff rest)
          if f.reached then expandOptional greedy p round size rest more next f else f
        else f.putOff (.pattern (place + 1) p :: others) := rfl

theorem Follows.optional {p : Pattern} (h : Follows stands size c p) (greedy : Bool) (more : Nat)
    {place : Nat} {rest : Residual} {f : Frontier}
    (hp : Placed stands size (rounds 0 (some more) greedy p) place rest)
    (hrest : InPlace stands size rest) (hf : f.reached = true) :
    Moves stands size c (f.stage (leftOver 0 more greedy p place rest))
      ((expandOptional greedy p (p.expand c.gap) p.places rest more place f).stage rest) := by
  induction more generalizing place f with
  | zero => exact .refl
  | succ more ih =>
      obtain ⟨hplace, hstands⟩ := hp.optional_place
      have hothers := inPlace_leftOver hp.optional_rest hrest
      have hbody := InPlace.pattern hp.optional_first hothers
      have hplaces := places_optional_succ more greedy p
      have hleft := weight_leftOver_le 0 more greedy p (place + 1 + p.places) rest
      have hweight : weight (.pattern (place + 1) p ::
          leftOver 0 more greedy p (place + 1 + p.places) rest) < weight (stands place) := by
        simp only [hstands, weight, consumes_rounds, Nat.lt_irrefl, false_and, if_false]
        split <;> omega
      have hweight' : weight rest < weight (stands place) := by
        simp only [hstands, weight, consumes_rounds, Nat.lt_irrefl, false_and, if_false]
        omega
      have hstart : leftOver 0 (more + 1) greedy p place rest = stands place := by
        rw [hstands, leftOver, if_neg (Nat.succ_ne_zero more)]
      have hways : (p.ways c).flatMap (waysThrough
          (leftOver 0 more greedy p (place + 1 + p.places) rest)) =
            ((p.ways c).flatMap (upTo p.ways greedy more)).flatMap (waysThrough rest) := by
        rw [List.flatMap_assoc]
        apply List.flatMap_congr
        intro d _
        rw [waysThrough_leftOver (Nat.zero_le more), ways_rounds_some_zero]
      rw [expandOptional_succ, Frontier.atPlace_eq, hstart]
      split
      next hseen => exact moves_revisit hf hseen rest
      next hseen =>
        have hseen := Bool.eq_false_iff.mpr hseen
        cases greedy with
        | true =>
            have hsplit : waysThrough (stands place) c =
                waysThrough (.pattern (place + 1) p ::
                  leftOver 0 more true p (place + 1 + p.places) rest) c ++ waysThrough rest c := by
              simp [hstands, ways_rounds_some_zero, upTo, hways]
            have hround := h _ _ ((f.visit place).putOff rest) hp.optional_first hothers hf
            have hfork := moves_fork hf hplace hseen hsplit hbody hrest hweight hweight'
            exact moves_goOn (hfork.trans hround) (ih hp.optional_rest)
        | false =>
            have hsplit : waysThrough (stands place) c = waysThrough rest c ++
                waysThrough (.pattern (place + 1) p ::
                  leftOver 0 more false p (place + 1 + p.places) rest) c := by
              simp [hstands, ways_rounds_some_zero, upTo, hways]
            exact moves_fork hf hplace hseen hsplit hrest hbody hweight' hweight

theorem Follows.bounded {p : Pattern} (h : Follows stands size c p) (greedy : Bool) (low more : Nat)
    {place : Nat} {rest : Residual} {f : Frontier}
    (hp : Placed stands size (rounds low (some (low + more)) greedy p) place rest)
    (hrest : InPlace stands size rest) (hf : f.reached = true) :
    Moves stands size c (f.stage (leftOver low (low + more) greedy p place rest))
      ((expandBounded greedy p (p.expand c.gap) p.places rest more low place f).stage rest) := by
  induction low generalizing place f with
  | zero =>
      rw [Nat.zero_add] at hp ⊢
      exact h.optional greedy more hp hrest hf
  | succ low ih =>
      have hothers := inPlace_leftOver hp.bounded_rest hrest
      have hbody := InPlace.pattern hp.bounded_first hothers
      have hplaces := places_bounded_succ low more greedy p
      have hleft := weight_leftOver_le low (low + more) greedy p (place + p.places) rest
      have hweight : weight (.pattern place p ::
          leftOver low (low + more) greedy p (place + p.places) rest) ≤
          weight (.pattern place (rounds (low + 1) (some (low + 1 + more)) greedy p) :: rest) := by
        simp only [weight, consumes_rounds, Nat.zero_lt_succ, true_and]
        split <;> omega
      have hways : waysThrough
          (.pattern place (rounds (low + 1) (some (low + 1 + more)) greedy p) :: rest) c =
          waysThrough (.pattern place p ::
            leftOver low (low + more) greedy p (place + p.places) rest) c := by
        simp only [waysThrough_pattern, ways_rounds_some_succ, List.flatMap_assoc]
        apply List.flatMap_congr
        intro d _
        rw [waysThrough_leftOver (Nat.le_add_right low more)]
      have hfirst := moves_become hf hways hweight hbody
      rw [leftOver, if_neg (by omega)]
      exact moves_goOn (hfirst.trans (h _ _ f hp.bounded_first hothers hf)) (ih hp.bounded_rest)

/-- A bound below the number of rounds that must be there is as good as that number. -/
theorem Follows.rounds_some {p : Pattern} (h : Follows stands size c p) (low high : Nat)
    (greedy : Bool) : Follows stands size c (rounds low (some high) greedy p) := by
  intro place rest f hp hrest hf
  have hmore : low + (high - low) - low = high - low := Nat.add_sub_cancel_left ..
  have hp' : Placed stands size (rounds low (some (low + (high - low))) greedy p) place rest := by
    refine ⟨hp.progressive, ?_, fun i hi hlt => ?_⟩
    · have hfits := hp.fits
      rw [places] at hfits ⊢
      rwa [hmore]
    · have hstanding := hp.standing i hi
      rw [places, standing] at hstanding
      rw [places, hmore] at hlt
      rw [standing, hmore]
      exact hstanding hlt
  have hways : waysThrough (.pattern place (rounds low (some high) greedy p) :: rest) c =
      waysThrough (leftOver low (low + (high - low)) greedy p place rest) c := by
    rw [waysThrough_leftOver (Nat.le_add_right low _)]
    simp [ways]
  have hweight : weight (leftOver low (low + (high - low)) greedy p place rest) ≤
      weight (.pattern place (rounds low (some high) greedy p) :: rest) := by
    rw [leftOver]
    split
    next hzero =>
      obtain rfl : low = 0 := by omega
      simp [weight, consumes_rounds]
    next => simp [weight, places, consumes_rounds]
  have hsame := moves_become hf hways hweight (inPlace_leftOver hp' hrest)
  rw [expand]
  exact hsame.trans (h.bounded greedy low (high - low) hp' hrest hf)

/-- Every pattern is followed by moves. -/
theorem follows (p : Pattern) : Follows stands size c p := by
  induction p with
  | empty =>
      intro place rest f hp hrest hf
      exact moves_become hf (by simp) (Nat.le_add_left _ _) hrest
  | literal a as => exact follows_literal a as
  | set s => exact follows_set s
  | look l => exact follows_look l
  | capture index p ih => exact ih.capture index
  | seq p q ihp ihq => exact ihp.seq ihq
  | alt p q ihp ihq => exact ihp.alt
  | rounds low high greedy p ih =>
      cases high with
      | none => exact ih.unbounded low greedy
      | some high => exact ih.rounds_some low high greedy

theorem moves_expandAll {r : Residual} (hr : InPlace stands size r) (hf : f.reached = true) :
    Moves stands size c (f.stage r) ((expandAll c.gap r f).stage []) := by
  induction hr generalizing f with
  | nil => exact .refl
  | @pattern place p rest hp hrest ih =>
      exact moves_goOn (follows p place rest f hp hrest hf) ih
  | @again place greedy p rest hconsumes hplace hstands hp hrest ih =>
      have hagain := InPlace.again hconsumes hplace hstands hp hrest
      exact moves_goOn ((follows p).again hagain hf) ih

/-! ### All ways at a gap -/

/-- The gaps to which threads lead, and the gap itself if a match ends there. -/
def waysFound (found : List Thread × Bool) (c : Cursor) : List Cursor :=
  found.1.flatMap (Thread.ways · c) ++ if found.2 then [c] else []

/-- What is found leads to the preferred way, if there is one. -/
theorem explore_spec {fuel : Nat} {f : Frontier}
    (hsound : Sound stands size c ⟨f.seen, f.threads, none, f.later⟩)
    (hfuel : f.later.length + unseen size f.seen ≤ fuel) :
    (∀ t ∈ (explore c.gap fuel f).1, InPlace stands size t.rest) ∧
    (waysFound (explore c.gap fuel f) c).head? =
      (Stage.ways ⟨f.seen, f.threads, none, f.later⟩ c).head? := by
  induction fuel generalizing f with
  | zero =>
      have hlater : f.later = [] := List.length_eq_zero_iff.mp (by omega)
      refine ⟨fun t ht => hsound.threads t (List.mem_reverse.mp ht), ?_⟩
      simp [explore, waysFound, Stage.ways, Stage.todo, hlater]
  | succ fuel ih =>
      rw [explore]
      split
      next hlater =>
        refine ⟨fun t ht => hsound.threads t (List.mem_reverse.mp ht), ?_⟩
        simp [waysFound, Stage.ways, Stage.todo, hlater]
      next r later hlater =>
        rw [hlater] at hfuel ⊢
        have hstart : Sound stands size c ⟨f.seen, f.threads, some r, later⟩ := by
          obtain ⟨htodo, hthreads, hcovered⟩ := hsound
          rw [hlater] at htodo hcovered
          exact ⟨htodo, hthreads, hcovered⟩
        have hmoves := moves_expandAll (c := c) (f := { f with later, reached := true })
          (hstart.todo r (by simp [Stage.todo])) rfl
        rw [Frontier.stage_of_reached rfl] at hmoves
        obtain ⟨hsound', hhead, hle⟩ := hstart.moves hmoves
        -- What has been put off when the residual has been followed to its end is gone on with.
        generalize expandAll c.gap r { f with later, reached := true } = f' at hsound' hhead hle ⊢
        cases hreached : f'.reached with
        | true =>
            rw [Frontier.stage_of_reached hreached] at hsound' hhead
            simp only [hreached, if_true]
            refine ⟨fun t ht => hsound'.threads t (List.mem_reverse.mp ht), ?_⟩
            have hsame : (Stage.ways ⟨f.seen, f.threads, some r, later⟩ c).head? =
                (Stage.ways ⟨f.seen, f.threads, none, r :: later⟩ c).head? := rfl
            rw [← hsame, ← hhead]
            simp [waysFound, Stage.ways, Stage.todo, List.head?_append]
        | false =>
            rw [Frontier.stage_of_not_reached hreached] at hsound' hhead hle
            simp only [hreached, Bool.false_eq_true, if_false]
            rw [List.length_cons] at hfuel
            obtain ⟨hthreads, hways⟩ := ih hsound' (hle.trans (by simp only; omega))
            exact ⟨hthreads, hways.trans hhead⟩

/-- At a gap every way through the residuals begins with a thread or ends there. -/
theorem threads_spec {residuals : List Residual} (h : ∀ r ∈ residuals, InPlace stands size r) :
    (∀ t ∈ (threads size c.gap residuals).1, InPlace stands size t.rest) ∧
    (waysFound (threads size c.gap residuals) c).head? =
      (residuals.flatMap (waysThrough · c)).head? := by
  have hunseen : unseen size {} ≤ size := by
    have hcard := Finset.card_filter_le (Finset.range size)
      fun i => (({} : Std.TreeSet Nat).contains i) = false
    rwa [Finset.card_range] at hcard
  have hsound : Sound stands size c ⟨{}, [], none, residuals⟩ :=
    ⟨h, by simp, fun place hplace => by simp at hplace⟩
  have hspec := explore_spec (f := .start residuals) hsound (Nat.add_le_add_left hunseen _)
  exact hspec

end Pattern

end RuleLexer

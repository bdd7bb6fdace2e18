import RuleLexer.Proofs.Pattern.Following

/-!
Following all ways at once finds the preferred match. At each gap the threads
stand for all ways that go on from there, in order, and a match that ends there
is kept until a way preferred to it comes to a match further on.
-/

namespace RuleLexer

namespace Pattern

variable {stands : Nat → Residual} {size : Nat}

/-! ### From gap to gap -/

theorem ways_thread_nil (t : Thread) (before : Option Char) : t.ways ⟨before, []⟩ = [] := rfl

theorem ways_thread_cons (t : Thread) (before : Option Char) (a : Char) (text : List Char) :
    t.ways ⟨before, a :: text⟩ =
      (t.step? a).toList.flatMap (waysThrough · ⟨some a, text⟩) := by
  rw [Thread.ways, Cursor.read_cons, Thread.step?]
  split <;> simp

/-- Reading a character leads from the threads to what is to be matched at the next gap. -/
theorem flatMap_ways_cons (ts : List Thread) (before : Option Char) (a : Char)
    (text : List Char) :
    ts.flatMap (Thread.ways · ⟨before, a :: text⟩) =
      (ts.filterMap fun t => t.step? a).flatMap (waysThrough · ⟨some a, text⟩) := by
  induction ts with
  | nil => rfl
  | cons t ts ih =>
      rw [List.flatMap_cons, ih, ways_thread_cons, List.filterMap_cons]
      cases t.step? a with
      | none => rfl
      | some r => simp

theorem inPlace_of_step? {ts : List Thread} (h : ∀ t ∈ ts, InPlace stands size t.rest) (a : Char) :
    ∀ r ∈ ts.filterMap fun t => t.step? a, InPlace stands size r := by
  intro r hr
  obtain ⟨t, ht, hstep⟩ := List.mem_filterMap.mp hr
  rw [Thread.step?] at hstep
  split at hstep
  · obtain rfl := Option.some.inj hstep
    exact h t ht
  · cases hstep

theorem suffix_of_mem_waysThrough {r : Residual} {c d : Cursor} (h : d ∈ waysThrough r c) :
    d.text <:+ c.text := by
  induction r generalizing c with
  | nil =>
      obtain rfl := List.mem_singleton.mp h
      exact List.suffix_rfl
  | cons p rest ih =>
      obtain ⟨e, he, hd⟩ := List.mem_flatMap.mp h
      have hfirst : e.text <:+ c.text := by
        cases p with
        | pattern place p => exact suffix_of_mem_ways he
        | again place greedy p => exact suffix_of_mem_ways he
      exact (ih hd).trans hfirst

/-- A run comes to the end of the preferred way, or to the best match so far. -/
theorem run_eq {residuals : List Residual} (h : ∀ r ∈ residuals, InPlace stands size r)
    (c : Cursor) (count : Nat) (best : Option Nat) :
    run size c.before residuals count best c.text =
      ((residuals.flatMap (waysThrough · c)).head?.map fun d => count + c.lengthTo d).or best := by
  obtain ⟨before, text⟩ := c
  induction text generalizing before residuals count best with
  | nil =>
      obtain ⟨-, hhead⟩ := threads_spec (c := ⟨before, []⟩) h
      have hthreads : (threads size ⟨before, none⟩ residuals).1.flatMap
          (Thread.ways · ⟨before, []⟩) = [] :=
        List.flatMap_eq_nil_iff.mpr fun t _ => ways_thread_nil t before
      rw [← hhead, waysFound]
      simp only [Cursor.gap, List.head?_nil, hthreads, List.nil_append]
      rw [run]
      split <;> simp_all [Cursor.lengthTo]
  | cons a text ih =>
      obtain ⟨hts, hhead⟩ := threads_spec (c := ⟨before, a :: text⟩) h
      have hgap : Cursor.gap ⟨before, a :: text⟩ = ⟨before, some a⟩ := rfl
      cases hthreads : threads size ⟨before, some a⟩ residuals with
      | mk ts accepts =>
        rw [hgap, hthreads] at hts hhead
        have hnext := ih (inPlace_of_step? hts a) (count + 1)
          (if accepts then some count else best) (some a)
        have hlength (d : Cursor) (hd : d ∈ (ts.filterMap fun t => t.step? a).flatMap
            (waysThrough · ⟨some a, text⟩)) :
            count + 1 + Cursor.lengthTo ⟨some a, text⟩ d =
              count + Cursor.lengthTo ⟨before, a :: text⟩ d := by
          obtain ⟨r, -, hd⟩ := List.mem_flatMap.mp hd
          have hle := (suffix_of_mem_waysThrough hd).length_le
          simp only [Cursor.lengthTo, List.length_cons] at hle ⊢
          omega
        have hrun : run size before residuals count best (a :: text) =
            run size (some a) (ts.filterMap fun t => t.step? a) (count + 1)
              (if accepts then some count else best) text := by
          rw [run, hthreads]
          simp only
          split
          next hempty =>
            rw [List.isEmpty_iff] at hempty
            rw [hnext, hempty]
            rfl
          next => rfl
        rw [hrun, hnext, ← hhead, waysFound, flatMap_ways_cons]
        -- A way that reads on is preferred to the match that ends here.
        cases hways : (ts.filterMap fun t => t.step? a).flatMap
            (waysThrough · ⟨some a, text⟩) with
        | nil => cases accepts <;> simp [Cursor.lengthTo]
        | cons d ways => simp [hlength d (by simp [hways])]

/-- A match ends where the preferred way leads, and there is one if there is any way. -/
theorem matchAt?_eq {p : Pattern} (h : p.isProgressive = true) (c : Cursor) :
    p.matchAt? c.before c.text = (p.ways c).head?.map c.lengthTo := by
  have hplaced : InPlace (p.standing 0 []) p.places [.pattern 0 p] :=
    .pattern (placed_standing h) .nil
  have hways : [[Pending.pattern 0 p]].flatMap (waysThrough · c) = p.ways c := by
    simp [waysThrough, Pending.ways]
  rw [matchAt?, run_eq (by simpa using hplaced), hways]
  simp

theorem matchPrefix?_eq {p : Pattern} (h : p.isProgressive = true) (text : List Char) :
    p.matchPrefix? text = (p.ways ⟨none, text⟩).head?.map (Cursor.lengthTo ⟨none, text⟩) :=
  matchAt?_eq h ⟨none, text⟩

end Pattern

end RuleLexer

import RuleLexer.Unicode.Run

/-! Sets of characters. A set is kept as the code points at which membership changes, in ascending
order, so that equal sets are equal terms and every Boolean combination of two sets is one walk
along both. -/

namespace RuleLexer

/-- Code points at which membership changes, from outside below the first of them. The surrogates,
which are no characters, go with the character after them. -/
structure CharSet where
  bounds : List Nat
  ascending : bounds.Pairwise (· < ·)
  deriving DecidableEq

namespace CharSet

/-! ### Membership -/

/-- An odd number of the bounds lies at or below the point. -/
def inside : List Nat → Nat → Bool
  | [], _ => false
  | b :: bounds, point => decide (b ≤ point) && !inside bounds point

def contains (s : CharSet) (c : Char) : Bool :=
  inside s.bounds c.toNat

theorem inside_of_lt {bounds : List Nat} {point : Nat} (h : ∀ b ∈ bounds, point < b) :
    inside bounds point = false := by
  cases bounds with
  | nil => rfl
  | cons b bounds =>
    have : ¬b ≤ point := Nat.not_le.2 (h b (by simp))
    simp [inside, this]

/-! ### Combinations -/

/-- A bound if membership changes there. -/
def boundIf (before after : Bool) (b : Nat) (bounds : List Nat) : List Nat :=
  if before = after then bounds else b :: bounds

/-- The bounds of `g` of a set, being in which is `y` below the first of its bounds. -/
def mapBounds (g : Bool → Bool) : Bool → List Nat → List Nat
  | _, [] => []
  | y, b :: bounds => boundIf (g y) (g !y) b (mapBounds g (!y) bounds)

/-- The bounds of a combination up to `a`, the next bound of the first set; `next` gives those
beyond it. -/
def mergeUpTo (f : Bool → Bool → Bool) (a : Nat) (x : Bool) (next : Bool → List Nat → List Nat) :
    Bool → List Nat → List Nat
  | y, [] => boundIf (f x y) (f (!x) y) a (next y [])
  | y, b :: bounds =>
    if b < a then boundIf (f x y) (f x !y) b (mergeUpTo f a x next (!y) bounds)
    else if b = a then boundIf (f x y) (f (!x) !y) a (next (!y) bounds)
    else boundIf (f x y) (f (!x) y) a (next y (b :: bounds))

/-- The bounds of a combination of two sets, given whether the point before is in each. -/
def merge (f : Bool → Bool → Bool) : Bool → List Nat → Bool → List Nat → List Nat
  | x, [] => mapBounds (f x)
  | x, a :: bounds => mergeUpTo f a x (merge f (!x) bounds)

theorem mem_boundIf {before after : Bool} {b c : Nat} {bounds : List Nat}
    (h : c ∈ boundIf before after b bounds) : c = b ∨ c ∈ bounds := by
  unfold boundIf at h
  split at h
  · exact .inr h
  · simpa using h

theorem mem_mapBounds {g : Bool → Bool} {y : Bool} {bs : List Nat} {c : Nat}
    (h : c ∈ mapBounds g y bs) : c ∈ bs := by
  induction bs generalizing y with
  | nil => simp [mapBounds] at h
  | cons b bs ih =>
    rcases mem_boundIf h with h | h
    · simp [h]
    · simp [ih h]

theorem mem_mergeUpTo {f : Bool → Bool → Bool} {a : Nat} {x : Bool} {as : List Nat}
    {next : Bool → List Nat → List Nat}
    (hnext : ∀ y bs c, c ∈ next y bs → c ∈ as ∨ c ∈ bs) {y : Bool} {bs : List Nat} {c : Nat}
    (h : c ∈ mergeUpTo f a x next y bs) : c ∈ a :: as ∨ c ∈ bs := by
  induction bs generalizing y with
  | nil =>
    rcases mem_boundIf h with h | h
    · simp [h]
    · rcases hnext _ _ _ h with h | h <;> simp_all
  | cons b bs ih =>
    unfold mergeUpTo at h
    split at h
    · rcases mem_boundIf h with h | h
      · simp [h]
      · rcases ih h with h | h <;> simp [h]
    · split at h
      · rcases mem_boundIf h with h | h
        · simp [h]
        · rcases hnext _ _ _ h with h | h <;> simp [h]
      · rcases mem_boundIf h with h | h
        · simp [h]
        · rcases hnext _ _ _ h with h | h <;> simp_all

theorem mem_merge {f : Bool → Bool → Bool} {x y : Bool} {as bs : List Nat} {c : Nat}
    (h : c ∈ merge f x as y bs) : c ∈ as ∨ c ∈ bs := by
  induction as generalizing x y bs c with
  | nil => exact .inr (mem_mapBounds h)
  | cons a as ih => exact mem_mergeUpTo (fun _ _ _ hc => ih hc) h

theorem pairwise_boundIf {before after : Bool} {b : Nat} {bounds : List Nat}
    (h : bounds.Pairwise (· < ·)) (hb : ∀ c ∈ bounds, b < c) :
    (boundIf before after b bounds).Pairwise (· < ·) := by
  unfold boundIf
  split
  · exact h
  · exact List.pairwise_cons.2 ⟨hb, h⟩

theorem pairwise_mapBounds {g : Bool → Bool} {y : Bool} {bs : List Nat}
    (h : bs.Pairwise (· < ·)) : (mapBounds g y bs).Pairwise (· < ·) := by
  induction bs generalizing y with
  | nil => exact .nil
  | cons b bs ih =>
    have ⟨hb, hbs⟩ := List.pairwise_cons.1 h
    exact pairwise_boundIf (ih hbs) fun c hc => hb c (mem_mapBounds hc)

theorem pairwise_merge {f : Bool → Bool → Bool} {x y : Bool} {as bs : List Nat}
    (has : as.Pairwise (· < ·)) (hbs : bs.Pairwise (· < ·)) :
    (merge f x as y bs).Pairwise (· < ·) := by
  induction as generalizing x y bs with
  | nil => exact pairwise_mapBounds hbs
  | cons a as ih =>
    have ⟨ha, has⟩ := List.pairwise_cons.1 has
    have hmem {y bs c} (h : c ∈ merge f (!x) as y bs) : c ∈ as ∨ c ∈ bs := mem_merge h
    show (mergeUpTo f a x _ y bs).Pairwise (· < ·)
    induction bs generalizing y with
    | nil =>
      refine pairwise_boundIf (ih has .nil) fun c hc => ?_
      rcases hmem hc with h | h
      · exact ha c h
      · simp at h
    | cons b bs ihb =>
      have ⟨hb, hbs'⟩ := List.pairwise_cons.1 hbs
      unfold mergeUpTo
      split
      · rename_i hlt
        refine pairwise_boundIf (ihb hbs') fun c hc => ?_
        rcases mem_mergeUpTo (fun _ _ _ h => hmem h) hc with h | h
        · rcases List.mem_cons.1 h with h | h
          · omega
          · have := ha c h
            omega
        · exact hb c h
      · split
        · rename_i heq
          refine pairwise_boundIf (ih has hbs') fun c hc => ?_
          rcases hmem hc with h | h
          · exact ha c h
          · exact heq ▸ hb c h
        · refine pairwise_boundIf (ih has hbs) fun c hc => ?_
          rcases hmem hc with h | h
          · exact ha c h
          · rcases List.mem_cons.1 h with h | h
            · omega
            · have := hb c h
              omega

theorem inside_boundIf {before after : Bool} {b point : Nat} {bounds : List Nat} :
    (before ^^ inside (boundIf before after b bounds) point) =
      if b ≤ point then after ^^ inside bounds point
      else if before = after then after ^^ inside bounds point else before := by
  unfold boundIf
  by_cases h : before = after
  · simp [h]
  · by_cases hb : b ≤ point
    · cases before <;> cases after <;> simp_all [inside]
    · simp [h, hb, inside]

theorem inside_mapBounds {g : Bool → Bool} {y : Bool} {bs : List Nat} {point : Nat}
    (h : bs.Pairwise (· < ·)) :
    (g y ^^ inside (mapBounds g y bs) point) = g (y ^^ inside bs point) := by
  induction bs generalizing y with
  | nil => simp [mapBounds, inside]
  | cons b bs ih =>
    have ⟨hb, hbs⟩ := List.pairwise_cons.1 h
    rw [mapBounds, inside_boundIf, ih hbs]
    by_cases hp : b ≤ point
    · simp [hp, inside]
    · have : inside bs point = false := inside_of_lt fun c hc => by have := hb c hc; omega
      simp only [hp, inside, this]
      by_cases hg : g y = g !y <;> simp [hg]

theorem inside_merge {f : Bool → Bool → Bool} {x y : Bool} {as bs : List Nat} {point : Nat}
    (has : as.Pairwise (· < ·)) (hbs : bs.Pairwise (· < ·)) :
    (f x y ^^ inside (merge f x as y bs) point) =
      f (x ^^ inside as point) (y ^^ inside bs point) := by
  induction as generalizing x y bs with
  | nil => simpa [merge, inside] using inside_mapBounds (g := f x) hbs
  | cons a as ih =>
    have ⟨ha, has'⟩ := List.pairwise_cons.1 has
    have hout (hp : ¬a ≤ point) : inside as point = false :=
      inside_of_lt fun c hc => by have := ha c hc; omega
    show (f x y ^^ inside (mergeUpTo f a x _ y bs) point) = _
    induction bs generalizing y with
    | nil =>
      rw [mergeUpTo, inside_boundIf, ih has' .nil]
      by_cases hp : a ≤ point
      · simp [hp, inside]
      · simp only [hp, inside, hout hp]
        by_cases hf : f x y = f (!x) y <;> simp [hf]
    | cons b bs ihb =>
      have ⟨hb, hbs'⟩ := List.pairwise_cons.1 hbs
      have hout' (hp : ¬b ≤ point) : inside bs point = false :=
        inside_of_lt fun c hc => by have := hb c hc; omega
      unfold mergeUpTo
      split
      · rename_i hlt
        rw [inside_boundIf, ihb hbs']
        by_cases hp : b ≤ point
        · simp [hp, inside]
        · have hpa : ¬a ≤ point := by omega
          simp only [hp, hpa, inside, hout' hp]
          by_cases hf : f x y = f x !y <;> simp [hf]
      · split
        · rename_i heq
          subst heq
          rw [inside_boundIf, ih has' hbs']
          by_cases hp : b ≤ point
          · simp [hp, inside]
          · simp only [hp, inside, hout hp, hout' hp]
            by_cases hf : f x y = f (!x) !y <;> simp [hf]
        · rw [inside_boundIf, ih has' hbs]
          by_cases hp : a ≤ point
          · simp [hp, inside]
          · have hpb : ¬b ≤ point := by omega
            simp only [hp, hpb, inside, hout hp]
            by_cases hf : f x y = f (!x) y <;> simp [hf]

/-- The characters for which `f` holds of being in `s` and being in `t`. -/
def combine (f : Bool → Bool → Bool) (s t : CharSet) : CharSet :=
  ⟨merge f false s.bounds false t.bounds, pairwise_merge s.ascending t.ascending⟩

theorem contains_combine {f : Bool → Bool → Bool} (hf : f false false = false) (s t : CharSet)
    (c : Char) : (combine f s t).contains c = f (s.contains c) (t.contains c) := by
  have h : (f false false ^^ inside (merge f false s.bounds false t.bounds) c.toNat) = _ :=
    inside_merge s.ascending t.ascending
  simpa [hf, contains, combine] using h

def none : CharSet := ⟨[], .nil⟩

def any : CharSet := ⟨[0], by simp⟩

def union (s t : CharSet) : CharSet := combine or s t

def inter (s t : CharSet) : CharSet := combine and s t

def diff (s t : CharSet) : CharSet := combine (fun x y => x && !y) s t

def symmDiff (s t : CharSet) : CharSet := combine xor s t

def compl (s : CharSet) : CharSet := any.diff s

def negateIf (negated : Bool) (s : CharSet) : CharSet :=
  if negated then s.compl else s

def unions (sets : List CharSet) : CharSet :=
  sets.foldl union none

@[simp] theorem contains_none (c : Char) : none.contains c = false := rfl

@[simp] theorem contains_any (c : Char) : any.contains c = true := by simp [contains, any, inside]

@[simp] theorem contains_union (s t : CharSet) (c : Char) :
    (s.union t).contains c = (s.contains c || t.contains c) := contains_combine rfl s t c

@[simp] theorem contains_inter (s t : CharSet) (c : Char) :
    (s.inter t).contains c = (s.contains c && t.contains c) := contains_combine rfl s t c

@[simp] theorem contains_diff (s t : CharSet) (c : Char) :
    (s.diff t).contains c = (s.contains c && !t.contains c) := contains_combine rfl s t c

@[simp] theorem contains_symmDiff (s t : CharSet) (c : Char) :
    (s.symmDiff t).contains c = (s.contains c ^^ t.contains c) := contains_combine rfl s t c

@[simp] theorem contains_compl (s : CharSet) (c : Char) :
    s.compl.contains c = !s.contains c := by simp [compl]

@[simp] theorem contains_negateIf (negated : Bool) (s : CharSet) (c : Char) :
    (s.negateIf negated).contains c = (s.contains c ^^ negated) := by
  cases negated <;> simp [negateIf]

theorem contains_foldl_union (s : CharSet) (sets : List CharSet) (c : Char) :
    (sets.foldl union s).contains c = (s.contains c || sets.any fun t => t.contains c) := by
  induction sets generalizing s with
  | nil => simp
  | cons t sets ih => simp [ih, Bool.or_assoc]

@[simp] theorem contains_unions (sets : List CharSet) (c : Char) :
    (unions sets).contains c = sets.any fun t => t.contains c := by
  simp [unions, contains_foldl_union]

/-! ### Ranges -/

def lastPoint : Nat := 0x10FFFF

/-- Where membership changes if it changes at a character. -/
def boundAt (point : Nat) : Nat :=
  if point = 0xE000 then 0xD800 else point

/-- The bounds that are greater than all before them, and none below `least`. -/
def ascend (least : Nat) : List Nat → List Nat
  | [] => []
  | b :: bounds => if least ≤ b then b :: ascend (b + 1) bounds else ascend least bounds

theorem le_of_mem_ascend {least c : Nat} {bounds : List Nat} (h : c ∈ ascend least bounds) :
    least ≤ c := by
  induction bounds generalizing least with
  | nil => simp [ascend] at h
  | cons b bounds ih =>
    unfold ascend at h
    split at h
    · rcases List.mem_cons.1 h with h | h
      · omega
      · have := ih h
        omega
    · exact ih h

theorem pairwise_ascend (least : Nat) (bounds : List Nat) :
    (ascend least bounds).Pairwise (· < ·) := by
  induction bounds generalizing least with
  | nil => exact .nil
  | cons b bounds ih =>
    unfold ascend
    split
    · exact List.pairwise_cons.2 ⟨fun c hc => le_of_mem_ascend hc, ih _⟩
    · exact ih _

/-- The set with the given bounds, which are in ascending order. -/
def ofBounds (bounds : List Nat) : CharSet := ⟨ascend 0 bounds, pairwise_ascend 0 bounds⟩

/-- The bounds of the code points from `first` to `last`. -/
def rangeBounds (first last : Nat) : List Nat :=
  boundAt first :: if last < lastPoint then [boundAt (last + 1)] else []

def range (first last : Char) : CharSet :=
  if first ≤ last then ofBounds (rangeBounds first.toNat last.toNat) else none

def one (c : Char) : CharSet := range c c

def ofList (cs : List Char) : CharSet := unions (cs.map one)

/-- The union of ranges. -/
def ofRanges (ranges : List (Char × Char)) : CharSet :=
  unions (ranges.map fun r => range r.1 r.2)

/-- The characters of a table, whose runs are in ascending order and apart from one another. -/
def ofRuns (runs : List Unicode.Run) : CharSet :=
  ofBounds (runs.flatMap fun r =>
    if r.step = 1 then rangeBounds r.first r.last
    else r.points.flatMap fun point => rangeBounds point point)

/-- The bounds of code points in ascending order. -/
def pointBounds : List Nat → List Nat
  | [] => []
  | point :: points =>
    match pointBounds points with
    | [] => [point, point + 1]
    | b :: bounds =>
      if b = point then b :: bounds
      else if b = point + 1 then point :: bounds
      else point :: (point + 1) :: b :: bounds

def ofPoints (points : List Nat) : CharSet :=
  ofBounds (pointBounds (points.mergeSort (· ≤ ·)))

/-- The ranges of code points between bounds. -/
def rangesOf : List Nat → List (Nat × Nat)
  | [] => []
  | [b] => [(if b = 0xD800 then 0xE000 else b, lastPoint)]
  | b :: b' :: bounds => (if b = 0xD800 then 0xE000 else b, b' - 1) :: rangesOf bounds

/-- The longest ranges of code points that the set consists of, in ascending order. Surrogates are
among them where the characters on both sides are. -/
def ranges (s : CharSet) : List (Nat × Nat) := rangesOf s.bounds

/-- The character of a set that has just one. -/
def single? (s : CharSet) : Option Char :=
  match s.ranges with
  | [(first, last)] => if first = last then some (Char.ofNat first) else Option.none
  | _ => Option.none

/-- The bounds beyond a point, and whether the point is inside those dropped. -/
def dropUpTo (point : Nat) : Bool → List Nat → Bool × List Nat
  | x, [] => (x, [])
  | x, b :: bounds => if b ≤ point then dropUpTo point (!x) bounds else (x, b :: bounds)

/-- The values of the points in a set; the points are in ascending order. -/
def select (x : Bool) (bounds : List Nat) : List (Nat × Nat) → List Nat
  | [] => []
  | (point, value) :: pairs =>
    let (x, bounds) := dropUpTo point x bounds
    if x then value :: select x bounds pairs else select x bounds pairs

/-- The values that the pairs give to points of the set. -/
def image (pairs : List (Nat × Nat)) (s : CharSet) : CharSet :=
  ofPoints (select false s.bounds pairs)

theorem boundAt_le_iff (d c : Char) : boundAt d.toNat ≤ c.toNat ↔ d ≤ c := by
  have hd := d.valid
  have hc := c.valid
  simp only [Char.le_def, UInt32.le_iff_toNat_le, Nat.isValidChar, UInt32.isValidChar] at *
  unfold boundAt Char.toNat
  split <;> omega

theorem boundAt_succ_le_iff (d c : Char) : boundAt (d.toNat + 1) ≤ c.toNat ↔ ¬c ≤ d := by
  have hd := d.valid
  have hc := c.valid
  simp only [Char.le_def, UInt32.le_iff_toNat_le, Nat.isValidChar, UInt32.isValidChar] at *
  unfold boundAt Char.toNat
  split <;> omega

theorem boundAt_lt_succ {first last : Char} (h : first ≤ last) :
    boundAt first.toNat < boundAt (last.toNat + 1) := by
  have := (boundAt_le_iff first last).2 h
  have : ¬boundAt (last.toNat + 1) ≤ last.toNat := fun hl =>
    (boundAt_succ_le_iff last last).1 hl (Char.le_refl last)
  omega

@[simp] theorem contains_range (first last c : Char) :
    (range first last).contains c = (decide (first ≤ c) && decide (c ≤ last)) := by
  have hf := boundAt_le_iff first c
  have hl := boundAt_succ_le_iff last c
  have hc : c.toNat ≤ lastPoint := by
    have := c.valid
    simp only [UInt32.isValidChar, Nat.isValidChar, lastPoint, Char.toNat] at *
    omega
  unfold range
  split
  · rename_i h
    have hlt := boundAt_lt_succ h
    simp only [contains, ofBounds, rangeBounds]
    by_cases hlast : last.toNat < lastPoint
    · simp only [hlast, if_true, ascend, Nat.zero_le, if_pos (Nat.succ_le_of_lt hlt), inside]
      simp only [hf, hl, decide_not, Bool.not_not, Bool.and_true, Bool.not_false]
    · have h2 : c ≤ last := by
        simp only [Char.le_def, UInt32.le_iff_toNat_le]
        unfold Char.toNat at *
        omega
      simp [hlast, ascend, inside, hf, h2]
  · rename_i h
    have : ¬(first ≤ c ∧ c ≤ last) := fun hc => h (Char.le_trans hc.1 hc.2)
    simpa using this

@[simp] theorem contains_one (d c : Char) : (one d).contains c = decide (c = d) := by
  by_cases h : c = d
  · simp [one, h]
  · have : ¬(d ≤ c ∧ c ≤ d) := fun hd => h (Char.le_antisymm hd.2 hd.1)
    simpa [one, h] using fun hd hc => this ⟨hd, hc⟩

@[simp] theorem contains_ofList (cs : List Char) (c : Char) :
    (ofList cs).contains c = cs.contains c := by
  induction cs with
  | nil => rfl
  | cons d cs ih => simp_all [ofList]

@[simp] theorem contains_ofRanges (ranges : List (Char × Char)) (c : Char) :
    (ofRanges ranges).contains c =
      ranges.any fun r => decide (r.1 ≤ c) && decide (c ≤ r.2) := by
  induction ranges with
  | nil => rfl
  | cons r ranges ih => simp_all [ofRanges]

end CharSet

end RuleLexer

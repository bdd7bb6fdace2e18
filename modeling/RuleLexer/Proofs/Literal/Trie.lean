import RuleLexer.Literal.Trie

/-!
A trie as a map from literals to what they stand for. Insertion overwrites one
literal, and the longest literal at the start of a text is found by the map
alone: of the literals that the map has, it is the longest that is a prefix.
-/

namespace RuleLexer

namespace Trie

variable {α : Type}

/-- What a literal stands for. -/
def get? : Trie α → List Char → Option α
  | nil, _ => none
  | branch .., [] => none
  | branch label terminal below beside, c :: rest =>
    if c = label then
      match rest with
      | [] => terminal
      | d :: rest => below.get? (d :: rest)
    else beside.get? (c :: rest)

@[simp] theorem get?_nil (literal : List Char) : (nil : Trie α).get? literal = none := by
  cases literal <;> rfl

/-- No trie has the empty literal. -/
@[simp] theorem get?_empty (t : Trie α) : t.get? [] = none := by
  cases t <;> rfl

theorem get?_branch_label (label : Char) (terminal : Option α) (below beside : Trie α)
    (rest : List Char) :
    (branch label terminal below beside).get? (label :: rest) =
      if rest = [] then terminal else below.get? rest := by
  cases rest <;> simp [get?]

theorem get?_branch_beside {label c : Char} (h : c ≠ label) (terminal : Option α)
    (below beside : Trie α) (rest : List Char) :
    (branch label terminal below beside).get? (c :: rest) = beside.get? (c :: rest) := by
  simp [get?, h]

/-! ### Insertion -/

theorem get?_path (value : α) (c : Char) (rest key : List Char) :
    (path value c rest).get? key = if key = c :: rest then some value else none := by
  induction rest generalizing c key with
  | nil =>
      rw [path]
      cases key with
      | nil => simp
      | cons k key =>
          by_cases hk : k = c
          · subst hk
            simp [get?_branch_label]
          · simp [get?_branch_beside hk, hk]
  | cons d rest ih =>
      rw [path]
      cases key with
      | nil => simp
      | cons k key =>
          by_cases hk : k = c
          · subst hk
            cases key <;> simp [get?_branch_label, ih]
          · simp [get?_branch_beside hk, hk]

/-- Insertion overwrites one literal and leaves all others as they are. -/
theorem get?_insert (t : Trie α) (value : α) (c : Char) (rest key : List Char) :
    (t.insert value c rest).get? key = if key = c :: rest then some value else t.get? key := by
  induction t generalizing c rest key with
  | nil => simp [insert, get?_path]
  | branch label terminal below beside ihBelow ihBeside =>
      cases key with
      | nil => simp
      | cons k key =>
          -- Below the node the literal and the key go on, beside it they start again.
          by_cases hc : c = label
          · subst hc
            by_cases hk : k = c
            · subst hk
              cases rest <;> cases key <;> simp [insert, get?_branch_label, ihBelow]
            · cases rest <;> simp [insert, get?_branch_beside hk, hk]
          · by_cases hk : k = label
            · subst hk
              simp [insert, hc, get?_branch_label, Ne.symm hc]
            · simp [insert, hc, get?_branch_beside hk, ihBeside]

/-! ### Literals in a list -/

@[simp] theorem ofPairs_nil : ofPairs ([] : List (List Char × α)) = nil := rfl

theorem ofPairs_concat_empty (pairs : List (List Char × α)) (value : α) :
    ofPairs (pairs ++ [([], value)]) = ofPairs pairs := by
  simp [ofPairs]

theorem ofPairs_concat_cons (pairs : List (List Char × α)) (c : Char) (rest : List Char)
    (value : α) :
    ofPairs (pairs ++ [(c :: rest, value)]) = (ofPairs pairs).insert value c rest := by
  simp [ofPairs]

/-- A literal stands for what comes with it last in the list. -/
theorem get?_ofPairs (pairs : List (List Char × α)) (c : Char) (rest : List Char) :
    (ofPairs pairs).get? (c :: rest) =
      (pairs.reverse.find? fun pair => pair.1 == c :: rest).map Prod.snd := by
  suffices h : ∀ reversed : List (List Char × α),
      (ofPairs reversed.reverse).get? (c :: rest) =
        (reversed.find? fun pair => pair.1 == c :: rest).map Prod.snd by
    simpa using h pairs.reverse
  intro reversed
  induction reversed with
  | nil => simp
  | cons pair reversed ih =>
      obtain ⟨literal, value⟩ := pair
      rw [List.reverse_cons]
      cases literal with
      -- an empty literal is left out, and it is not the one that is looked for
      | nil => simpa [ofPairs_concat_empty] using ih
      | cons d literal =>
          rw [ofPairs_concat_cons, get?_insert, ih]
          by_cases h : c :: rest = d :: literal
          · simp [h]
          · have hne : (d :: literal == c :: rest) = false := by
              simpa using fun hd hrest => h (by rw [hd, hrest])
            rw [if_neg h, List.find?_cons_of_neg (by simp [hne])]

/-! ### The longest literal at the start of a text -/

/-- Whatever literal of a trie a text starts with is no longer than this one. -/
structure IsLongest (t : Trie α) (text literal : List Char) (value : α) : Prop where
  atStart : literal <+: text
  get? : t.get? literal = some value
  length_le : ∀ other, other <+: text → (t.get? other).isSome → other.length ≤ literal.length

/-- A text has one longest literal, as its prefixes have different lengths. -/
theorem IsLongest.unique {t : Trie α} {text literal literal' : List Char} {value value' : α}
    (h : t.IsLongest text literal value) (h' : t.IsLongest text literal' value') :
    literal = literal' ∧ value = value' := by
  have hle : literal.length ≤ literal'.length :=
    h'.length_le literal h.atStart (by simp [h.get?])
  have hge : literal'.length ≤ literal.length :=
    h.length_le literal' h'.atStart (by simp [h'.get?])
  have heq : literal = literal' :=
    (List.prefix_of_prefix_length_le h.atStart h'.atStart hle).eq_of_length_le hge
  subst heq
  exact ⟨rfl, Option.some.inj (h.get?.symm.trans h'.get?)⟩

theorem isLongest_branch_below {label : Char} {terminal : Option α} {below beside : Trie α}
    {rest literal : List Char} {value : α} (h : below.IsLongest rest literal value) :
    (branch label terminal below beside).IsLongest (label :: rest) (label :: literal) value := by
  have hne : literal ≠ [] := by
    rintro rfl
    simpa using h.get?
  refine ⟨List.cons_prefix_cons.mpr ⟨rfl, h.atStart⟩, ?_, ?_⟩
  · rw [get?_branch_label, if_neg hne, h.get?]
  · intro other hother hsome
    obtain rfl | ⟨other, rfl, hrest⟩ := List.prefix_cons_iff.mp hother
    · simp
    · by_cases hnil : other = []
      · simp [hnil]
      · rw [get?_branch_label, if_neg hnil] at hsome
        simpa using h.length_le other hrest hsome

theorem isLongest_branch_label {label : Char} {value : α} {below beside : Trie α}
    {rest : List Char} (h : ∀ literal, literal <+: rest → below.get? literal = none) :
    (branch label (some value) below beside).IsLongest (label :: rest) [label] value := by
  refine ⟨by simp, by simp [get?_branch_label], ?_⟩
  intro other hother hsome
  obtain rfl | ⟨other, rfl, hrest⟩ := List.prefix_cons_iff.mp hother
  · simp
  · by_cases hnil : other = []
    · simp [hnil]
    · rw [get?_branch_label, if_neg hnil, h other hrest] at hsome
      cases hsome

/-- A node does not have the literals at the start of a text that its label does not start. -/
theorem get?_branch_of_ne {label c : Char} (hc : c ≠ label) {terminal : Option α}
    {below beside : Trie α} {rest literal : List Char} (h : literal <+: c :: rest) :
    (branch label terminal below beside).get? literal = beside.get? literal := by
  obtain rfl | ⟨literal, rfl, -⟩ := List.prefix_cons_iff.mp h
  · simp
  · exact get?_branch_beside hc ..

theorem isLongest_branch_beside {label c : Char} {terminal : Option α} {below beside : Trie α}
    {rest literal : List Char} {value : α} (hc : c ≠ label)
    (h : beside.IsLongest (c :: rest) literal value) :
    (branch label terminal below beside).IsLongest (c :: rest) literal value := by
  refine ⟨h.atStart, by rw [get?_branch_of_ne hc h.atStart, h.get?], ?_⟩
  intro other hother hsome
  rw [get?_branch_of_ne hc hother] at hsome
  exact h.length_le other hother hsome

/-- What the search finds is the longest literal, and it finds one if there is any. -/
theorem longest?_spec (t : Trie α) (text : List Char) :
    match t.longest? text with
    | some (value, literal) => t.IsLongest text literal value
    | none => ∀ literal, literal <+: text → t.get? literal = none := by
  induction t generalizing text with
  | nil => simp [longest?]
  | branch label terminal below beside ihBelow ihBeside =>
      cases text with
      | nil =>
          intro literal hliteral
          simp [List.prefix_nil.mp hliteral]
      | cons c rest =>
          by_cases hc : c = label
          · subst hc
            rw [longest?, if_pos rfl]
            -- A literal found below is longer than the one that ends at this node.
            have hbelow := ihBelow rest
            cases hfound : below.longest? rest with
            | some found =>
                rw [hfound] at hbelow
                exact isLongest_branch_below hbelow
            | none =>
                rw [hfound] at hbelow
                cases terminal with
                | some value => exact isLongest_branch_label hbelow
                | none =>
                    intro literal hliteral
                    obtain rfl | ⟨literal, rfl, hrest⟩ := List.prefix_cons_iff.mp hliteral
                    · simp
                    · simp [get?_branch_label, hbelow literal hrest]
          · rw [longest?, if_neg hc]
            have hbeside := ihBeside (c :: rest)
            cases hfound : beside.longest? (c :: rest) with
            | some found =>
                rw [hfound] at hbeside
                exact isLongest_branch_beside hc hbeside
            | none =>
                rw [hfound] at hbeside
                intro literal hliteral
                rw [get?_branch_of_ne hc hliteral, hbeside _ hliteral]

theorem longest?_eq_some_iff {t : Trie α} {text literal : List Char} {value : α} :
    t.longest? text = some (value, literal) ↔ t.IsLongest text literal value := by
  have hspec := t.longest?_spec text
  constructor
  · intro h
    rwa [h] at hspec
  · intro h
    cases hfound : t.longest? text with
    | none =>
        rw [hfound] at hspec
        have hget := h.get?
        rw [hspec literal h.atStart] at hget
        cases hget
    | some found =>
        rw [hfound] at hspec
        obtain ⟨rfl, rfl⟩ := hspec.unique h
        rfl

theorem longest?_eq_none_iff {t : Trie α} {text : List Char} :
    t.longest? text = none ↔ ∀ literal, literal <+: text → t.get? literal = none := by
  have hspec := t.longest?_spec text
  constructor
  · intro h
    rwa [h] at hspec
  · intro h
    cases hfound : t.longest? text with
    | none => rfl
    | some found =>
        rw [hfound] at hspec
        have hget := hspec.get?
        rw [h _ hspec.atStart] at hget
        cases hget

end Trie

end RuleLexer

import Mathlib.Data.Char
import Mathlib.Data.List.Lex
import RuleLexer.Proofs.Literal.Longest

/-!
Lists of literals, looked up at the start of a text. Of the literals in the
list that a text starts with the longest is found, and it stands for what comes
with it last. Where equal literals keep their order, the order of the list does
not matter. So a trie can be filled from the longest literal to the shortest,
and it can be searched by a walk downwards that keeps in mind the last literal
that it has come past.
-/

namespace RuleLexer

namespace Trie

variable {α : Type}

/-- The literal is in the list, and this is what comes with it last. -/
def IsLast (pairs : List (List Char × α)) (literal : List Char) (value : α) : Prop :=
  ∃ before after, pairs = before ++ (literal, value) :: after ∧ literal ∉ after.map Prod.fst

/-- Whatever literal of the list a text starts with is no longer than this one, which is not
empty. -/
structure LongestOf (pairs : List (List Char × α)) (text literal : List Char) : Prop where
  ne_nil : literal ≠ []
  mem : literal ∈ pairs.map Prod.fst
  atStart : literal <+: text
  length_le : ∀ other ∈ pairs.map Prod.fst, other <+: text → other.length ≤ literal.length

/-! ### What the trie of a list has -/

theorem find?_reverse_eq_some_iff {pairs : List (List Char × α)} {literal : List Char} {value : α} :
    (pairs.reverse.find? fun pair => pair.1 == literal).map Prod.snd = some value ↔
      IsLast pairs literal value := by
  rw [Option.map_eq_some_iff]
  constructor
  · rintro ⟨⟨key, value⟩, hfound, rfl⟩
    obtain ⟨hkey, after, before, hpairs, hafter⟩ := List.find?_eq_some_iff_append.mp hfound
    obtain rfl : key = literal := eq_of_beq hkey
    refine ⟨before.reverse, after.reverse, ?_, ?_⟩
    · rw [← List.reverse_reverse pairs, hpairs]
      simp
    · intro hmem
      obtain ⟨pair, hpair, heq⟩ := List.mem_map.mp hmem
      have hne := hafter pair (List.mem_reverse.mp hpair)
      simp [heq] at hne
  · rintro ⟨before, after, rfl, hafter⟩
    refine ⟨(literal, value), List.find?_eq_some_iff_append.mpr ⟨beq_self_eq_true literal,
      after.reverse, before.reverse, by simp, ?_⟩, rfl⟩
    intro pair hpair
    have hne : pair.1 ≠ literal := fun heq =>
      hafter (List.mem_map.mpr ⟨pair, List.mem_reverse.mp hpair, heq⟩)
    simpa using hne

theorem get?_ofPairs_eq_some_iff {pairs : List (List Char × α)} {literal : List Char} {value : α} :
    (ofPairs pairs).get? literal = some value ↔ literal ≠ [] ∧ IsLast pairs literal value := by
  cases literal with
  | nil => simp
  | cons c rest =>
      rw [get?_ofPairs, find?_reverse_eq_some_iff, and_iff_right (List.cons_ne_nil _ _)]

theorem isSome_get?_ofPairs {pairs : List (List Char × α)} {literal : List Char} :
    ((ofPairs pairs).get? literal).isSome ↔ literal ≠ [] ∧ literal ∈ pairs.map Prod.fst := by
  cases literal with
  | nil => simp
  | cons c rest =>
      rw [get?_ofPairs, Option.isSome_map, List.find?_isSome]
      simp

theorem isLongest_ofPairs_iff {pairs : List (List Char × α)} {text literal : List Char}
    {value : α} :
    (ofPairs pairs).IsLongest text literal value ↔
      LongestOf pairs text literal ∧ IsLast pairs literal value := by
  constructor
  · intro h
    obtain ⟨hne, hlast⟩ := get?_ofPairs_eq_some_iff.mp h.get?
    have hsome := isSome_get?_ofPairs.mp (Option.isSome_of_eq_some h.get?)
    refine ⟨⟨hne, hsome.2, h.atStart, fun other hmem hother => ?_⟩, hlast⟩
    cases other with
    | nil => exact Nat.zero_le _
    | cons c rest =>
        exact h.length_le _ hother (isSome_get?_ofPairs.mpr ⟨List.cons_ne_nil c rest, hmem⟩)
  · rintro ⟨h, hlast⟩
    refine ⟨h.atStart, get?_ofPairs_eq_some_iff.mpr ⟨h.ne_nil, hlast⟩, ?_⟩
    intro other hother hsome
    exact h.length_le other (isSome_get?_ofPairs.mp hsome).2 hother

theorem lookup?_ofPairs_eq_some_iff {pairs : List (List Char × α)} {text : List Char} {value : α}
    {size : Nat} :
    (ofPairs pairs).lookup? text = some (value, size) ↔
      ∃ literal, LongestOf pairs text literal ∧ IsLast pairs literal value ∧
        size = byteLength literal := by
  rw [lookup?, Option.map_eq_some_iff]
  constructor
  · rintro ⟨⟨value', literal⟩, hfound, heq⟩
    obtain ⟨rfl, rfl⟩ := Prod.mk.inj heq
    obtain ⟨hlongest, hlast⟩ := isLongest_ofPairs_iff.mp (longest?_eq_some_iff.mp hfound)
    exact ⟨literal, hlongest, hlast, rfl⟩
  · rintro ⟨literal, hlongest, hlast, rfl⟩
    exact ⟨(value, literal),
      longest?_eq_some_iff.mpr (isLongest_ofPairs_iff.mpr ⟨hlongest, hlast⟩), rfl⟩

theorem lookup?_ofPairs_eq_none_iff {pairs : List (List Char × α)} {text : List Char} :
    (ofPairs pairs).lookup? text = none ↔
      ∀ literal ∈ pairs.map Prod.fst, literal ≠ [] → ¬ literal <+: text := by
  rw [lookup?, Option.map_eq_none_iff, longest?_eq_none_iff]
  constructor
  · intro hnone literal hmem hne hliteral
    have hsome := isSome_get?_ofPairs.mpr ⟨hne, hmem⟩
    rw [hnone literal hliteral] at hsome
    cases hsome
  · intro hnone literal hliteral
    rw [← Option.not_isSome_iff_eq_none, isSome_get?_ofPairs]
    rintro ⟨hne, hmem⟩
    exact hnone literal hmem hne hliteral

theorem isEmpty_ofPairs {pairs : List (List Char × α)} :
    (ofPairs pairs).isEmpty ↔ ∀ literal ∈ pairs.map Prod.fst, literal = [] := by
  constructor
  · intro hempty literal hmem
    by_contra hne
    have hsome := isSome_get?_ofPairs.mpr ⟨hne, hmem⟩
    cases htrie : ofPairs pairs with
    | nil => simp [htrie] at hsome
    | branch => simp [htrie, isEmpty] at hempty
  · intro hall
    have hnil : ofPairs pairs = nil := by
      induction pairs using List.reverseRecOn with
      | nil => rfl
      | append_singleton pairs pair ih =>
          obtain ⟨literal, value⟩ := pair
          obtain rfl := hall literal (by simp)
          rw [ofPairs_concat_empty]
          exact ih fun literal hmem => hall literal (by simp [List.mem_map.mp hmem])
    rw [hnil]
    rfl

/-! ### The order of the list -/

theorem IsLongest.congr {t u : Trie α} (h : ∀ literal, t.get? literal = u.get? literal)
    {text literal : List Char} {value : α} (hlongest : t.IsLongest text literal value) :
    u.IsLongest text literal value where
  atStart := hlongest.atStart
  get? := by rw [← h, hlongest.get?]
  length_le other hother hsome := hlongest.length_le other hother (by rwa [h])

/-- A search sees of a trie what each literal stands for in it, and nothing else. -/
theorem lookup?_congr {t u : Trie α} (h : ∀ literal, t.get? literal = u.get? literal)
    (text : List Char) : t.lookup? text = u.lookup? text := by
  have hlongest : t.longest? text = u.longest? text := by
    ext ⟨value, literal⟩
    rw [longest?_eq_some_iff, longest?_eq_some_iff]
    exact ⟨.congr h, .congr fun literal => (h literal).symm⟩
  rw [lookup?, lookup?, hlongest]

/-- What a trie has is decided by the order of equal literals alone. -/
theorem get?_ofPairs_congr {pairs others : List (List Char × α)}
    (h : ∀ literal ≠ [], (others.filter fun pair => pair.1 == literal) =
      pairs.filter fun pair => pair.1 == literal) (literal : List Char) :
    (ofPairs others).get? literal = (ofPairs pairs).get? literal := by
  cases literal with
  | nil => simp
  | cons c rest =>
      rw [get?_ofPairs, get?_ofPairs, ← List.head?_filter, ← List.head?_filter,
        List.filter_reverse, List.filter_reverse, h _ (List.cons_ne_nil c rest)]

theorem filter_eq_of_perm {pairs others : List (List Char × α)} (h : others.Perm pairs)
    (hnodup : (pairs.map Prod.fst).Nodup) (literal : List Char) :
    (others.filter fun pair => pair.1 == literal) =
      pairs.filter fun pair => pair.1 == literal := by
  have hperm := h.filter fun pair => pair.1 == literal
  -- there is one pair with the literal at most
  have hle : (pairs.filter fun pair => pair.1 == literal).length ≤ 1 := by
    rw [← List.countP_eq_length_filter]
    have hcount := List.nodup_iff_count_le_one.mp hnodup literal
    rwa [List.count, List.countP_map] at hcount
  cases hone : pairs.filter fun pair => pair.1 == literal with
  | nil => rw [hone] at hperm; exact hperm.eq_nil
  | cons pair rest =>
      rw [hone] at hperm hle
      obtain rfl : rest = [] := List.eq_nil_of_length_eq_zero (by simpa using hle)
      exact List.perm_singleton.mp hperm

/-! ### Filled from the longest literal to the shortest -/

/-- A longer literal goes first, and literals of one length go by their characters. -/
def goesBefore (a b : List Char × α) : Bool :=
  decide (b.1.length < a.1.length ∨ a.1.length = b.1.length ∧ a.1 ≤ b.1)

/-- The trie of a list, with the longest literals inserted first. -/
def fromLongest (pairs : List (List Char × α)) : Trie α :=
  ofPairs ((pairs.filter fun pair => !pair.1.isEmpty).mergeSort goesBefore)

theorem goesBefore_trans (a b c : List Char × α) (hab : goesBefore a b) (hbc : goesBefore b c) :
    goesBefore a c := by
  rw [goesBefore, decide_eq_true_iff] at *
  obtain hab | ⟨hab, hle⟩ := hab
  · left
    omega
  · obtain hbc | ⟨hbc, hle'⟩ := hbc
    · left
      omega
    · right
      exact ⟨hab.trans hbc, le_trans hle hle'⟩

theorem goesBefore_total (a b : List Char × α) : goesBefore a b || goesBefore b a := by
  rw [Bool.or_eq_true, goesBefore, goesBefore, decide_eq_true_iff, decide_eq_true_iff]
  obtain h | h | h := Nat.lt_trichotomy a.1.length b.1.length
  · exact .inr (.inl h)
  · obtain hle | hle := le_total a.1 b.1
    · exact .inl (.inr ⟨h, hle⟩)
    · exact .inr (.inr ⟨h.symm, hle⟩)
  · exact .inl (.inl h)

/-- Equal literals keep their order. -/
theorem filter_mergeSort (pairs : List (List Char × α)) (literal : List Char) :
    ((pairs.mergeSort goesBefore).filter fun pair => pair.1 == literal) =
      pairs.filter fun pair => pair.1 == literal := by
  have hsorted : (pairs.filter fun pair => pair.1 == literal).Pairwise
      fun a b => goesBefore a b := by
    refine List.pairwise_of_forall_mem_list fun a ha b hb => ?_
    rw [goesBefore, eq_of_beq (List.mem_filter.mp ha).2, eq_of_beq (List.mem_filter.mp hb).2]
    simp
  have hsublist := (List.sublist_mergeSort goesBefore_trans goesBefore_total hsorted
    List.filter_sublist).filter fun pair => pair.1 == literal
  rw [List.filter_filter] at hsublist
  simp only [Bool.and_self] at hsublist
  have hlength := ((List.mergeSort_perm pairs goesBefore).filter
    fun pair => pair.1 == literal).length_eq
  exact (hsublist.eq_of_length hlength.symm).symm

theorem get?_fromLongest (pairs : List (List Char × α)) (literal : List Char) :
    (fromLongest pairs).get? literal = (ofPairs pairs).get? literal := by
  refine get?_ofPairs_congr (fun literal hne => ?_) literal
  rw [filter_mergeSort, List.filter_filter]
  refine List.filter_congr fun pair _ => ?_
  cases hkey : pair.1 with
  | nil => simpa using hne
  | cons c rest => simp

theorem isEmpty_fromLongest (pairs : List (List Char × α)) :
    (fromLongest pairs).isEmpty = (ofPairs pairs).isEmpty := by
  rw [Bool.eq_iff_iff, fromLongest, isEmpty_ofPairs, isEmpty_ofPairs]
  simp only [List.mem_map, List.mem_mergeSort, List.mem_filter]
  constructor
  · rintro hall literal ⟨pair, hpair, rfl⟩
    by_contra hne
    exact hne (hall pair.1 ⟨pair, ⟨hpair, by simpa using hne⟩, rfl⟩)
  · rintro hall literal ⟨pair, ⟨hpair, -⟩, rfl⟩
    exact hall pair.1 ⟨pair, hpair, rfl⟩

/-! ### A walk downwards -/

/-- The node that a character leads to, by what the literal that ends there stands for and by what
is below. -/
def child? : Trie α → Char → Option (Option α × Trie α)
  | nil, _ => none
  | branch label terminal below beside, c =>
    if c = label then some (terminal, below) else beside.child? c

/-- Walks on from a node that so many bytes have led to. The last literal on the way is kept in
mind, and where nothing is below one the walk is over at once. -/
def walk? (passed : Option (α × Nat)) (size : Nat) (terminal : Option α) (below : Trie α) :
    List Char → Option (α × Nat)
  | [] => (terminal.map fun value => (value, size)).or passed
  | c :: rest =>
    let passed := (terminal.map fun value => (value, size)).or passed
    match below.child? c with
    | none => passed
    | some (some value, nil) => some (value, size + c.utf8Size)
    | some (terminal, below) => walk? passed (size + c.utf8Size) terminal below rest

theorem lookup?_nil (t : Trie α) : t.lookup? [] = none := by
  cases t <;> rfl

theorem lookup?_cons (t : Trie α) (c : Char) (rest : List Char) :
    t.lookup? (c :: rest) =
      (t.child? c).bind fun (terminal, below) =>
        ((below.lookup? rest).map fun (value, size) => (value, c.utf8Size + size)).or
          (terminal.map fun value => (value, c.utf8Size)) := by
  induction t with
  | nil => rfl
  | branch label terminal below beside _ ih =>
      by_cases hc : c = label
      · rw [lookup?, longest?, child?, if_pos hc, if_pos hc, Option.bind_some]
        simp only [lookup?]
        cases below.longest? rest with
        | some found => rfl
        | none => cases terminal <;> rfl
      · rw [lookup?, longest?, if_neg hc, child?, if_neg hc]
        exact ih

/-- A walk from a node comes to the longest literal below the node, else to the literal that ends
there, else to what it has come past. -/
theorem walk?_eq (passed : Option (α × Nat)) (size : Nat) (terminal : Option α) (below : Trie α)
    (text : List Char) :
    walk? passed size terminal below text =
      ((below.lookup? text).map fun (value, more) => (value, size + more)).or
        ((terminal.map fun value => (value, size)).or passed) := by
  induction text generalizing passed size terminal below with
  | nil => rw [lookup?_nil]; rfl
  | cons c rest ih =>
      rw [walk?, lookup?_cons]
      cases hchild : below.child? c with
      | none => rfl
      | some child =>
          obtain ⟨terminal', below'⟩ := child
          have hwalk : walk? ((terminal.map fun value => (value, size)).or passed)
              (size + c.utf8Size) terminal' below' rest =
              ((((below'.lookup? rest).map fun (value, more) => (value, c.utf8Size + more)).or
                (terminal'.map fun value => (value, c.utf8Size))).map
                  fun (value, more) => (value, size + more)).or
                ((terminal.map fun value => (value, size)).or passed) := by
            rw [ih]
            cases below'.lookup? rest <;> cases terminal' <;> simp [Nat.add_assoc]
          rw [Option.bind_some, ← hwalk]
          cases below' with
          | branch => cases terminal' <;> rfl
          | nil =>
              cases terminal' with
              | none => rfl
              -- with nothing below, the walk on would come to the same literal
              | some value =>
                  rw [ih]
                  cases rest <;> rfl

/-- In the trie of a list the longest literal of the list is found that is not empty and that a
text starts with, and it stands for what comes with it last. The trie is empty if there is no such
literal for any text. With all literals different their order makes no difference. To fill the trie
from the longest literal to the shortest and to walk down in it comes to the same. -/
theorem lookup?_ofPairs (pairs : List (List Char × α)) :
    (∀ text value size, (ofPairs pairs).lookup? text = some (value, size) ↔
      ∃ literal, LongestOf pairs text literal ∧ IsLast pairs literal value ∧
        size = byteLength literal) ∧
    (∀ text, (ofPairs pairs).lookup? text = none ↔
      ∀ literal ∈ pairs.map Prod.fst, literal ≠ [] → ¬ literal <+: text) ∧
    ((ofPairs pairs).isEmpty ↔ ∀ literal ∈ pairs.map Prod.fst, literal = []) ∧
    (∀ others : List (List Char × α), others.Perm pairs → (pairs.map Prod.fst).Nodup →
      ∀ text, (ofPairs others).lookup? text = (ofPairs pairs).lookup? text) ∧
    (fromLongest pairs).isEmpty = (ofPairs pairs).isEmpty ∧
    ∀ text, walk? none 0 none (fromLongest pairs) text = (ofPairs pairs).lookup? text := by
  refine ⟨fun _ _ _ => lookup?_ofPairs_eq_some_iff, fun _ => lookup?_ofPairs_eq_none_iff,
    isEmpty_ofPairs, ?_, isEmpty_fromLongest pairs, ?_⟩
  · intro others hperm hnodup text
    exact lookup?_congr
      (get?_ofPairs_congr fun literal _ => filter_eq_of_perm hperm hnodup literal) text
  · intro text
    rw [walk?_eq, lookup?_congr (get?_fromLongest pairs)]
    simp

/-- Past the literal that comes last the walk goes on, and has to come back to it. -/
example : (ofPairs [(['a', 'b', 'c'], 0), (['a'], 1), ([], 2), (['a'], 3)]).lookup?
    ['a', 'b', 'a'] = some (3, 1) := by decide

end Trie

end RuleLexer

import Mathlib.Data.List.Nodup
import RuleLexer.Literal.Table

/-!
The table of an enumeration. An enumeration without faults has a table, which
has just the literals that are claimed, each for the symbol that claims it. So
the order in which symbols and literals are declared decides nothing but the
order in which the table is filled.
-/

namespace RuleLexer

namespace SymbolTable

theorem mem_entries_insert {table table' : SymbolTable} {literal : String} {symbol : Symbol}
    (h : table.insert literal symbol = .ok table') (entry : String × Symbol) :
    entry ∈ table'.entries ↔ entry ∈ table.entries ∨ entry = (literal, symbol) := by
  rw [insert] at h
  split at h
  · cases h
  · split at h
    · rename_i first hfirst
      -- the literal is in the table already, for this very symbol
      split at h
      · cases h
        subst symbol
        have hmem := get?_eq_some_iff.mp hfirst
        exact ⟨.inl, fun hentry => hentry.elim id fun heq => heq ▸ hmem⟩
      · cases h
    · cases h
      simp

theorem mem_entries_foldlM {claims : List (String × Symbol)} {table table' : SymbolTable}
    (h : claims.foldlM (fun t claim => t.insert claim.1 claim.2) table = .ok table')
    (entry : String × Symbol) :
    entry ∈ table'.entries ↔ entry ∈ table.entries ∨ entry ∈ claims := by
  induction claims generalizing table with
  | nil =>
      cases h
      simp
  | cons claim claims ih =>
      rw [List.foldlM_cons] at h
      cases hinsert : table.insert claim.1 claim.2 with
      | error fault =>
          rw [hinsert] at h
          cases h
      | ok next =>
          rw [hinsert] at h
          rw [ih h, mem_entries_insert hinsert, List.mem_cons, or_assoc]

/-- A table has a literal for a symbol if the symbol claims it. -/
theorem mem_entries_iff_mem_claims {e : Enumeration} {table : SymbolTable}
    (h : ofEnumeration e = .ok table) (entry : String × Symbol) :
    entry ∈ table.entries ↔ entry ∈ e.claims := by
  rw [mem_entries_foldlM h]
  simp [empty]

/-! ### Enumerations without faults -/

/-- No literal is empty, and none is for two symbols. -/
structure Consistent (entries : List (String × Symbol)) : Prop where
  ne_empty : ∀ entry ∈ entries, entry.1 ≠ ""
  eq_of_mem : ∀ literal symbol symbol', (literal, symbol) ∈ entries →
    (literal, symbol') ∈ entries → symbol = symbol'

theorem consistent_entries (table : SymbolTable) : Consistent table.entries where
  ne_empty entry hentry hempty := table.nonempty (List.mem_map.mpr ⟨entry, hentry, hempty⟩)
  eq_of_mem literal symbol symbol' h h' := by
    rw [← get?_eq_some_iff] at h h'
    exact Option.some.inj (h.symm.trans h')

theorem Consistent.of_subset {entries entries' : List (String × Symbol)} (h : Consistent entries)
    (hsubset : entries' ⊆ entries) : Consistent entries' where
  ne_empty entry hentry := h.ne_empty entry (hsubset hentry)
  eq_of_mem literal symbol symbol' hmem hmem' :=
    h.eq_of_mem literal symbol symbol' (hsubset hmem) (hsubset hmem')

theorem exists_insert {table : SymbolTable} {literal : String} {symbol : Symbol}
    (hne : literal ≠ "") (hfirst : ∀ first, table.get? literal = some first → first = symbol) :
    ∃ table', table.insert literal symbol = .ok table' := by
  rw [insert, dif_neg hne]
  split
  · rename_i first hget
    exact ⟨table, if_pos (hfirst first hget)⟩
  · exact ⟨_, rfl⟩

/-- Literals that are claimed without a fault can all be added to a table that has no fault with
them. -/
theorem exists_foldlM {claims : List (String × Symbol)} {table : SymbolTable}
    (h : Consistent (table.entries ++ claims)) :
    ∃ table', claims.foldlM (fun t claim => t.insert claim.1 claim.2) table = .ok table' := by
  induction claims generalizing table with
  | nil => exact ⟨table, rfl⟩
  | cons claim claims ih =>
      obtain ⟨literal, symbol⟩ := claim
      have hfirst : ∀ first, table.get? literal = some first → first = symbol := by
        intro first hget
        exact h.eq_of_mem literal first symbol
          (List.mem_append_left _ (get?_eq_some_iff.mp hget)) (by simp)
      obtain ⟨next, hnext⟩ := exists_insert (h.ne_empty (literal, symbol) (by simp)) hfirst
      have hsubset : next.entries ++ claims ⊆ table.entries ++ (literal, symbol) :: claims := by
        intro entry hentry
        rw [List.mem_append, mem_entries_insert hnext] at hentry
        rwa [List.mem_append, List.mem_cons, ← or_assoc]
      obtain ⟨table', htable'⟩ := ih (h.of_subset hsubset)
      refine ⟨table', ?_⟩
      rw [List.foldlM_cons, hnext]
      exact htable'

/-- An enumeration has a table if its claims have no fault. -/
theorem exists_ofEnumeration_iff {e : Enumeration} :
    (∃ table, ofEnumeration e = .ok table) ↔ Consistent e.claims := by
  constructor
  · rintro ⟨table, htable⟩
    exact table.consistent_entries.of_subset fun entry =>
      (mem_entries_iff_mem_claims htable entry).mpr
  · intro h
    have hall : Consistent (empty.entries ++ e.claims) := h
    exact exists_foldlM hall

/-- The same claims in another order make the same table, filled in another order. -/
theorem perm_entries_of_perm_claims {e e' : Enumeration} {table table' : SymbolTable}
    (hperm : e.claims.Perm e'.claims) (h : ofEnumeration e = .ok table)
    (h' : ofEnumeration e' = .ok table') : table.entries.Perm table'.entries := by
  rw [List.perm_ext_iff_of_nodup table.nodup.of_map table'.nodup.of_map]
  intro entry
  rw [mem_entries_iff_mem_claims h, mem_entries_iff_mem_claims h', hperm.mem_iff]

end SymbolTable

/-! ### Another order -/

namespace Enumeration

/-- The symbols are declared in any order, and so are the literals of each. -/
inductive Reorders : Enumeration → Enumeration → Prop
  | nil : Reorders [] []
  | cons {symbol : Symbol} {literals literals' : List String} {e e' : Enumeration}
      (hliterals : literals.Perm literals') (hrest : Reorders e e') :
      Reorders (⟨symbol, literals⟩ :: e) (⟨symbol, literals'⟩ :: e')
  | swap (v w : Variant) (e : Enumeration) : Reorders (v :: w :: e) (w :: v :: e)
  | trans {e e' e'' : Enumeration} (h : Reorders e e') (h' : Reorders e' e'') : Reorders e e''

theorem Reorders.perm_claims {e e' : Enumeration} (h : e.Reorders e') :
    e.claims.Perm e'.claims := by
  induction h with
  | nil => exact .nil
  | cons hliterals _ ih =>
      rw [claims, List.flatMap_cons]
      exact (hliterals.map _).append ih
  | swap v w e =>
      simp only [claims, List.flatMap_cons, ← List.append_assoc]
      exact List.perm_append_comm.append_right _
  | trans _ _ ih ih' => exact ih.trans ih'

end Enumeration

end RuleLexer

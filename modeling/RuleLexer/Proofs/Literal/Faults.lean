import Mathlib.Data.Finset.Card
import RuleLexer.Proofs.Literal.Claims
import RuleLexer.Proofs.Scan.Singles

/-!
Enumerations with faults. The claims of an enumeration are gone through in the
order of their declaration, and the first that has a fault decides the error.
Without a fault the table has just what is claimed, and its sizes are those of
the set of all literals.
-/

namespace RuleLexer

namespace Enumeration

/-- All literals, each once. -/
def literals (e : Enumeration) : Finset String := (e.claims.map Prod.fst).toFinset

theorem mem_claims {e : Enumeration} {literal : String} {symbol : Symbol} :
    (literal, symbol) ∈ e.claims ↔ ∃ v ∈ e, v.symbol = symbol ∧ literal ∈ v.literals := by
  rw [claims, List.mem_flatMap]
  refine exists_congr fun v => and_congr_right fun _ => ?_
  simp [and_comm]

theorem mem_literals {e : Enumeration} {literal : String} :
    literal ∈ e.literals ↔ ∃ symbol, (literal, symbol) ∈ e.claims := by
  simp [literals]

end Enumeration

namespace SymbolTable

/-! ### The first fault -/

/-- Behind these claims this one has a fault: its literal is empty, or has been claimed for another
symbol. -/
def IsFault (before : List (String × Symbol)) (claim : String × Symbol) : Prop :=
  claim.1 = "" ∨ ∃ first, (claim.1, first) ∈ before ∧ first ≠ claim.2

/-- Of all claims this one is the first with a fault, and these are the claims before it. -/
structure FirstFault (claims before : List (String × Symbol)) (claim : String × Symbol) : Prop where
  atStart : before ++ [claim] <+: claims
  isFault : IsFault before claim
  not_isFault : ∀ start earlier, start ++ [earlier] <+: before → ¬ IsFault start earlier

theorem Consistent.concat {claims : List (String × Symbol)} {claim : String × Symbol}
    (h : Consistent claims) (hclaim : ¬ IsFault claims claim) :
    Consistent (claims ++ [claim]) := by
  obtain ⟨hne, hsame⟩ := not_or.mp hclaim
  have hfirst : ∀ first, (claim.1, first) ∈ claims → first = claim.2 := fun first hmem => by
    by_contra hother
    exact hsame ⟨first, hmem, hother⟩
  constructor
  · intro entry hentry
    obtain hentry | rfl := List.mem_append.mp hentry |>.imp_right List.mem_singleton.mp
    · exact h.ne_empty entry hentry
    · exact hne
  · intro literal symbol symbol' hmem hmem'
    rw [List.mem_append, List.mem_singleton] at hmem hmem'
    obtain hmem | rfl := hmem
    · obtain hmem' | rfl := hmem'
      · exact h.eq_of_mem literal symbol symbol' hmem hmem'
      · exact hfirst symbol hmem
    · obtain hmem' | heq := hmem'
      · exact (hfirst symbol' hmem').symm
      · exact (Prod.mk.inj heq).2.symm

theorem Consistent.not_isFault {claims before : List (String × Symbol)} {claim : String × Symbol}
    (h : Consistent claims) (hstart : before ++ [claim] <+: claims) : ¬ IsFault before claim := by
  have hmem : claim ∈ claims := hstart.subset (by simp)
  rintro (hempty | ⟨first, hfirst, hne⟩)
  · exact h.ne_empty claim hmem hempty
  · exact hne (h.eq_of_mem claim.1 first claim.2 (hstart.subset (by simp [hfirst])) hmem)

/-- Claims without a fault are consistent, and else one of them is the first that has one. -/
theorem consistent_or_exists_firstFault (claims : List (String × Symbol)) :
    Consistent claims ∨ ∃ before claim, FirstFault claims before claim := by
  induction claims using List.reverseRecOn with
  | nil => exact .inl ⟨List.forall_mem_nil _, by simp⟩
  | append_singleton claims claim ih =>
      obtain hconsistent | ⟨before, fault, hstart, hfault, hearlier⟩ := ih
      · by_cases hclaim : IsFault claims claim
        · exact .inr ⟨claims, claim, List.prefix_rfl, hclaim,
            fun _ _ hstart => hconsistent.not_isFault hstart⟩
        · exact .inl (hconsistent.concat hclaim)
      · exact .inr ⟨before, fault, hstart.trans (List.prefix_append _ _), hfault, hearlier⟩

theorem FirstFault.consistent_before {claims before : List (String × Symbol)}
    {claim : String × Symbol} (h : FirstFault claims before claim) : Consistent before := by
  obtain hconsistent | ⟨start, earlier, hfault⟩ := consistent_or_exists_firstFault before
  · exact hconsistent
  · exact absurd hfault.isFault (h.not_isFault start earlier hfault.atStart)

/-- The claims before the first with a fault make a table that has just these claims. -/
theorem FirstFault.exists_table {claims before : List (String × Symbol)} {claim : String × Symbol}
    (h : FirstFault claims before claim) :
    ∃ table, before.foldlM (fun t claim => t.insert claim.1 claim.2) empty = .ok table ∧
      ∀ literal symbol, table.get? literal = some symbol ↔ (literal, symbol) ∈ before := by
  have hall : Consistent (empty.entries ++ before) := h.consistent_before
  obtain ⟨table, htable⟩ := exists_foldlM hall
  refine ⟨table, htable, fun literal symbol => ?_⟩
  rw [get?_eq_some_iff, mem_entries_foldlM htable]
  simp [empty]

/-- What is behind a claim that the table before it refuses does not matter. -/
theorem foldlM_of_insert_eq_error {claims before : List (String × Symbol)}
    {claim : String × Symbol} {table : SymbolTable} {fault : ConfigError}
    (hstart : before ++ [claim] <+: claims)
    (htable : before.foldlM (fun t claim => t.insert claim.1 claim.2) empty = .ok table)
    (hfault : table.insert claim.1 claim.2 = .error fault) :
    claims.foldlM (fun t claim => t.insert claim.1 claim.2) empty = .error fault := by
  obtain ⟨after, rfl⟩ := hstart
  have hstop : (claim :: after).foldlM (fun t claim => t.insert claim.1 claim.2) table =
      .error fault := by
    rw [List.foldlM_cons, hfault]
    rfl
  rw [List.append_assoc, List.foldlM_append, htable]
  exact hstop

theorem insert_empty (table : SymbolTable) (symbol : Symbol) :
    table.insert "" symbol = .error (.emptyLiteral symbol) :=
  dif_pos rfl

theorem insert_of_get?_of_ne {table : SymbolTable} {literal : String} {first symbol : Symbol}
    (hne : literal ≠ "") (hget : table.get? literal = some first) (hfirst : first ≠ symbol) :
    table.insert literal symbol = .error (.duplicateLiteral literal first symbol) := by
  rw [insert, dif_neg hne]
  split
  · rename_i first' hget'
    obtain rfl : first' = first := Option.some.inj (hget'.symm.trans hget)
    exact if_neg hfirst
  · rename_i hnone
    rw [hget] at hnone
    cases hnone

/-! ### Tables without faults -/

section

variable {e : Enumeration} {table : SymbolTable} (h : ofEnumeration e = .ok table)

include h

theorem toFinset_entries : (table.entries.map Prod.fst).toFinset = e.literals := by
  ext literal
  simp [Enumeration.literals, mem_entries_iff_mem_claims h]

theorem size_eq_card : table.size = e.literals.card := by
  rw [← toFinset_entries h, List.toFinset_card_of_nodup table.nodup, List.length_map, size]

theorem length_le_longest_of_mem {literal : String} (hliteral : literal ∈ e.literals) :
    literal.length ≤ table.longest := by
  obtain ⟨symbol, hclaim⟩ := Enumeration.mem_literals.mp hliteral
  have hget := get?_eq_some_iff.mpr ((mem_entries_iff_mem_claims h _).mpr hclaim)
  exact length_le_longest (Option.isSome_of_eq_some hget)

theorem longest_eq_zero_or_exists_length_eq :
    e.literals = ∅ ∧ table.longest = 0 ∨
      ∃ literal ∈ e.literals, literal.length = table.longest := by
  rw [← toFinset_entries h, longest]
  induction table.entries with
  | nil => exact .inl ⟨rfl, rfl⟩
  | cons entry entries ih =>
      simp only [List.map_cons, List.foldr_cons]
      right
      by_cases hle : (entries.map fun entry => entry.1.length).foldr max 0 ≤ entry.1.length
      · exact ⟨entry.1, by simp, (Nat.max_eq_left hle).symm⟩
      · -- the length of the others is not zero, so one of them has it
        obtain ⟨literal, hliteral, hlength⟩ := ih.resolve_left fun hzero => by omega
        refine ⟨literal, ?_, ?_⟩
        · simpa using .inr (by simpa using hliteral)
        · rw [hlength]
          omega

theorem isSome_singles?_iff :
    table.singles?.isSome ↔ ∀ literal ∈ e.literals, literal.length = 1 := by
  rw [← toFinset_entries h]
  simp only [List.mem_toFinset, List.forall_mem_map]
  constructor
  · intro hsome entry hentry
    obtain ⟨singles, hsingles⟩ := Option.isSome_iff_exists.mp hsome
    rw [singles?_eq_some_iff.mp hsingles] at hentry
    obtain ⟨single, -, rfl⟩ := List.mem_map.mp hentry
    exact String.length_singleton
  · intro hall
    obtain ⟨singles, hsingles⟩ := exists_singles? hall
    exact Option.isSome_of_eq_some hsingles

end

/-- If a claim has a fault the first that has one decides the error. It names the symbol of an empty
literal, or else the literal with the one symbol that has claimed it before and the symbol that
claims it now. Without a fault there is a table. It has a symbol for just the literals of that
symbol, its sizes are those of the set of all literals, and there is a table by characters if each
literal is one character, with the same symbols. -/
theorem ofEnumeration_eq (e : Enumeration) :
    (∀ before literal symbol, FirstFault e.claims before (literal, symbol) →
      (literal = "" → ofEnumeration e = .error (.emptyLiteral symbol)) ∧
      (literal ≠ "" → ∃ first ≠ symbol, (literal, first) ∈ before ∧
        (∀ other, (literal, other) ∈ before → other = first) ∧
        ofEnumeration e = .error (.duplicateLiteral literal first symbol))) ∧
    ((¬ ∃ before claim, FirstFault e.claims before claim) →
      ∃ table, ofEnumeration e = .ok table ∧
        (∀ literal symbol, table.get? literal = some symbol ↔
          ∃ v ∈ e, v.symbol = symbol ∧ literal ∈ v.literals) ∧
        table.size = e.literals.card ∧
        (∀ literal ∈ e.literals, literal.length ≤ table.longest) ∧
        (e.literals = ∅ ∧ table.longest = 0 ∨
          ∃ literal ∈ e.literals, literal.length = table.longest) ∧
        (table.singles?.isSome ↔ ∀ literal ∈ e.literals, literal.length = 1) ∧
        ∀ singles, table.singles? = some singles → ∀ c,
          (singles.find? fun entry => entry.1 == c).map Prod.snd =
            table.get? (String.singleton c)) := by
  constructor
  · intro before literal symbol h
    obtain ⟨table, htable, hget⟩ := h.exists_table
    constructor
    · rintro rfl
      exact foldlM_of_insert_eq_error h.atStart htable (table.insert_empty symbol)
    · intro hne
      obtain ⟨first, hfirst, hother⟩ := h.isFault.resolve_left hne
      refine ⟨first, hother, hfirst, ?_, ?_⟩
      · exact fun other hmem => h.consistent_before.eq_of_mem literal other first hmem hfirst
      · exact foldlM_of_insert_eq_error h.atStart htable
          (insert_of_get?_of_ne hne ((hget literal first).mpr hfirst) hother)
  · intro hnone
    have hconsistent := (consistent_or_exists_firstFault e.claims).resolve_right hnone
    obtain ⟨table, h⟩ := exists_ofEnumeration_iff.mpr hconsistent
    refine ⟨table, h, fun literal symbol => ?_, size_eq_card h,
      fun _ => length_le_longest_of_mem h, longest_eq_zero_or_exists_length_eq h,
      isSome_singles?_iff h, fun singles hsingles c => find?_singles hsingles c⟩
    rw [get?_eq_some_iff, mem_entries_iff_mem_claims h, Enumeration.mem_claims]

/-- A symbol may claim a literal twice. The other one is another symbol, though of the same name. -/
example :
    ofEnumeration [⟨⟨0, "Sign"⟩, ["+", "+"]⟩, ⟨⟨1, "Sign"⟩, ["-", "+", ""]⟩] =
      .error (.duplicateLiteral "+" ⟨0, "Sign"⟩ ⟨1, "Sign"⟩) := rfl

end SymbolTable

end RuleLexer

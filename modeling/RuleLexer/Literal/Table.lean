import RuleLexer.Error

/-! Symbol tables: each literal of an enumeration with the one symbol it spells. -/

namespace RuleLexer

/-- No literal is empty and each is listed once. -/
structure SymbolTable where
  entries : List (String × Symbol)
  nodup : (entries.map Prod.fst).Nodup
  nonempty : "" ∉ entries.map Prod.fst

namespace SymbolTable

def empty : SymbolTable := ⟨[], .nil, List.not_mem_nil⟩

def get? (t : SymbolTable) (literal : String) : Option Symbol :=
  (t.entries.find? fun entry => entry.1 == literal).map Prod.snd

theorem get?_eq_none_iff {t : SymbolTable} {literal : String} :
    t.get? literal = none ↔ literal ∉ t.entries.map Prod.fst := by
  simp only [get?, Option.map_eq_none_iff, List.find?_eq_none, beq_iff_eq, List.mem_map, not_exists,
    not_and]

theorem find?_eq_some_iff_mem {κ α : Type} [BEq κ] [LawfulBEq κ] {entries : List (κ × α)}
    (hnodup : (entries.map Prod.fst).Nodup) {key : κ} {value : α} :
    (entries.find? fun entry => entry.1 == key).map Prod.snd = some value ↔
      (key, value) ∈ entries := by
  induction entries with
  | nil => simp
  | cons entry entries ih =>
    obtain ⟨k, v⟩ := entry
    rw [List.map_cons, List.nodup_cons] at hnodup
    by_cases h : k = key
    · subst h
      have : (k, value) ∉ entries := fun hm => hnodup.1 (List.mem_map.2 ⟨_, hm, rfl⟩)
      simp [this, eq_comm]
    · simp [h, Ne.symm h, ← ih hnodup.2]

theorem get?_eq_some_iff {t : SymbolTable} {literal : String} {symbol : Symbol} :
    t.get? literal = some symbol ↔ (literal, symbol) ∈ t.entries :=
  find?_eq_some_iff_mem t.nodup

/-- Adds a literal at the end. A symbol may claim a literal again, another symbol may not. -/
def insert (t : SymbolTable) (literal : String) (symbol : Symbol) :
    Except ConfigError SymbolTable :=
  if hne : literal = "" then .error (.emptyLiteral symbol)
  else match h : t.get? literal with
    | some first =>
      if first = symbol then .ok t else .error (.duplicateLiteral literal first symbol)
    | none => .ok
      { entries := t.entries ++ [(literal, symbol)]
        nodup := by
          rw [List.map_append, List.nodup_append]
          refine ⟨t.nodup, by simp, fun a ha b hb => ?_⟩
          have hb : b = literal := by simpa using hb
          rintro rfl
          exact get?_eq_none_iff.1 h (hb ▸ ha)
        nonempty := by
          rw [List.map_append, List.mem_append, not_or]
          exact ⟨t.nonempty, by simpa using Ne.symm hne⟩ }

/-- The table of an enumeration, or the fault of the first literal in declaration order that has
one. -/
def ofEnumeration (e : Enumeration) : Except ConfigError SymbolTable :=
  e.claims.foldlM (fun t claim => t.insert claim.1 claim.2) empty

def size (t : SymbolTable) : Nat := t.entries.length

def isEmpty (t : SymbolTable) : Bool := t.entries.isEmpty

/-- The number of characters of the longest literal. -/
def longest (t : SymbolTable) : Nat :=
  (t.entries.map fun entry => entry.1.length).foldr max 0

/-- The table by characters, if every literal is one character. -/
def singles? (t : SymbolTable) : Option (List (Char × Symbol)) :=
  t.entries.mapM fun entry =>
    match entry.1.toList with
    | [c] => some (c, entry.2)
    | _ => none

/-- The entries in the order of their literals. -/
def sorted (t : SymbolTable) : List (String × Symbol) :=
  t.entries.mergeSort fun a b => decide (a.1 ≤ b.1)

end SymbolTable

end RuleLexer

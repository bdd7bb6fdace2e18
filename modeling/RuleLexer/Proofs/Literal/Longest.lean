import Mathlib.Data.List.Nodup
import RuleLexer.Proofs.Literal.Trie
import RuleLexer.Proofs.Text.Boundary
import RuleLexer.Scan.Tokenizer

/-!
The literals of a table at the start of a text. The trie of a tokenizer has
just what its table has, whatever the order in which the table is gone through,
and no literal is longer than the window, so that what a tokenizer finds in the
window is the longest literal of the table at the start of the whole text.
-/

namespace RuleLexer

namespace SymbolTable

/-- Whatever literal of a table a text starts with is no longer than this one. -/
structure IsLongest (table : SymbolTable) (text : List Char) (literal : String)
    (symbol : Symbol) : Prop where
  get? : table.get? literal = some symbol
  atStart : literal.toList <+: text
  length_le : ∀ other, (table.get? other).isSome → other.toList <+: text →
    other.length ≤ literal.length

/-- The text starts with none of the literals. -/
def NoneAt (table : SymbolTable) (text : List Char) : Prop :=
  ∀ literal, (table.get? literal).isSome → ¬ literal.toList <+: text

/-- A table as a trie, if its entries are gone through in this order. -/
def trieOf (entries : List (String × Symbol)) : Trie Symbol :=
  Trie.ofPairs (entries.map fun entry => (entry.1.toList, entry.2))

theorem get?_empty (table : SymbolTable) : table.get? "" = none :=
  get?_eq_none_iff.mpr table.nonempty

/-- In whatever order the entries of a table are gone through, the trie has what the table has. -/
theorem get?_trieOf {table : SymbolTable} {entries : List (String × Symbol)}
    (h : entries.Perm table.entries) (literal : String) :
    (trieOf entries).get? literal.toList = table.get? literal := by
  cases hl : literal.toList with
  | nil =>
      obtain rfl := String.toList_eq_nil_iff.mp hl
      rw [Trie.get?_empty, get?_empty]
  | cons c rest =>
      have hnodup : (entries.map Prod.fst).Nodup := (h.map Prod.fst).nodup_iff.mpr table.nodup
      -- With each literal listed once it does not matter which of two values comes last.
      have hkeys : ((entries.map fun entry =>
          (entry.1.toList, entry.2)).reverse.map Prod.fst).Nodup := by
        rw [List.map_reverse, List.map_map, List.nodup_reverse]
        have hmap := hnodup.map fun _ _ => String.toList_injective
        rwa [List.map_map] at hmap
      rw [trieOf, Trie.get?_ofPairs, ← hl]
      ext symbol
      rw [find?_eq_some_iff_mem hkeys, get?_eq_some_iff, ← h.mem_iff]
      simp [String.toList_inj]

theorem length_le_longest {table : SymbolTable} {literal : String}
    (h : (table.get? literal).isSome) : literal.length ≤ table.longest := by
  obtain ⟨symbol, hsymbol⟩ := Option.isSome_iff_exists.mp h
  have hmem := get?_eq_some_iff.mp hsymbol
  rw [longest]
  generalize table.entries = entries at hmem ⊢
  induction entries with
  | nil => cases hmem
  | cons entry entries ih =>
      rw [List.map_cons, List.foldr_cons]
      rcases List.mem_cons.mp hmem with rfl | hmem
      · exact Nat.le_max_left ..
      · exact Nat.le_trans (ih hmem) (Nat.le_max_right ..)

/-! ### The longest literal of a table -/

theorem isLongest_trieOf_iff {table : SymbolTable} {entries : List (String × Symbol)}
    (h : entries.Perm table.entries) {text literal : List Char} {symbol : Symbol} :
    (trieOf entries).IsLongest text literal symbol ↔
      table.IsLongest text (String.ofList literal) symbol := by
  have hget (key : List Char) : (trieOf entries).get? key = table.get? (String.ofList key) := by
    simpa using get?_trieOf h (String.ofList key)
  constructor
  · intro hl
    refine ⟨by rw [← hget, hl.get?], by simpa using hl.atStart, ?_⟩
    intro other hsome hother
    rw [← get?_trieOf h] at hsome
    simpa [String.length_toList] using hl.length_le other.toList hother hsome
  · intro hl
    refine ⟨by simpa using hl.atStart, by rw [hget, hl.get?], ?_⟩
    intro other hother hsome
    rw [hget] at hsome
    simpa using hl.length_le (String.ofList other) hsome (by simpa using hother)

theorem noneAt_iff_trieOf {table : SymbolTable} {entries : List (String × Symbol)}
    (h : entries.Perm table.entries) {text : List Char} :
    table.NoneAt text ↔ ∀ literal, literal <+: text → (trieOf entries).get? literal = none := by
  constructor
  · intro hnone literal hliteral
    have hnot := hnone (String.ofList literal)
    rw [← get?_trieOf h] at hnot
    simpa [hliteral] using hnot
  · intro hnone literal hsome hliteral
    rw [← get?_trieOf h, hnone _ hliteral] at hsome
    cases hsome

theorem longest?_trieOf_eq_some_iff {table : SymbolTable} {entries : List (String × Symbol)}
    (h : entries.Perm table.entries) {text literal : List Char} {symbol : Symbol} :
    (trieOf entries).longest? text = some (symbol, literal) ↔
      table.IsLongest text (String.ofList literal) symbol := by
  rw [Trie.longest?_eq_some_iff, isLongest_trieOf_iff h]

theorem longest?_trieOf_eq_none_iff {table : SymbolTable} {entries : List (String × Symbol)}
    (h : entries.Perm table.entries) {text : List Char} :
    (trieOf entries).longest? text = none ↔ table.NoneAt text := by
  rw [Trie.longest?_eq_none_iff, noneAt_iff_trieOf h]

/-- A window of so many characters shows every literal that the text starts with. -/
theorem isLongest_take_iff {table : SymbolTable} {text : List Char} {n : Nat}
    (hn : table.longest ≤ n) {literal : String} {symbol : Symbol} :
    table.IsLongest (text.take n) literal symbol ↔ table.IsLongest text literal symbol := by
  have hstart {other : String} (hsome : (table.get? other).isSome) :
      other.toList <+: text.take n ↔ other.toList <+: text := by
    rw [List.prefix_take_iff, String.length_toList]
    exact and_iff_left (Nat.le_trans (length_le_longest hsome) hn)
  constructor
  · intro hl
    refine ⟨hl.get?, (hstart (by simp [hl.get?])).mp hl.atStart, ?_⟩
    intro other hsome hother
    exact hl.length_le other hsome ((hstart hsome).mpr hother)
  · intro hl
    refine ⟨hl.get?, (hstart (by simp [hl.get?])).mpr hl.atStart, ?_⟩
    intro other hsome hother
    exact hl.length_le other hsome ((hstart hsome).mp hother)

theorem longest?_trieOf_take {table : SymbolTable} {entries : List (String × Symbol)}
    (h : entries.Perm table.entries) (text : List Char) {n : Nat} (hn : table.longest ≤ n) :
    (trieOf entries).longest? (text.take n) = (trieOf entries).longest? text := by
  ext ⟨symbol, literal⟩
  rw [longest?_trieOf_eq_some_iff h, longest?_trieOf_eq_some_iff h, isLongest_take_iff hn]

theorem longest?_trieOf_perm {table : SymbolTable} {entries entries' : List (String × Symbol)}
    (h : entries.Perm table.entries) (h' : entries'.Perm table.entries) (text : List Char) :
    (trieOf entries).longest? text = (trieOf entries').longest? text := by
  ext ⟨symbol, literal⟩
  rw [longest?_trieOf_eq_some_iff h, longest?_trieOf_eq_some_iff h']

end SymbolTable

/-- The longest literal at the start of a text, by what it stands for and its number of bytes. -/
def Trie.lookup? {α : Type} (t : Trie α) (text : List Char) : Option (α × Nat) :=
  (t.longest? text).map fun (value, literal) => (value, byteLength literal)

theorem SymbolTable.lookup?_trieOf_eq_some_iff {table : SymbolTable}
    {entries : List (String × Symbol)} (h : entries.Perm table.entries) {text : List Char}
    {symbol : Symbol} {size : Nat} :
    (trieOf entries).lookup? text = some (symbol, size) ↔
      ∃ literal, table.IsLongest text literal symbol ∧ size = literal.utf8ByteSize := by
  rw [Trie.lookup?, Option.map_eq_some_iff]
  constructor
  · rintro ⟨⟨symbol', literal⟩, hfound, heq⟩
    obtain ⟨rfl, rfl⟩ := Prod.mk.inj heq
    exact ⟨String.ofList literal, (longest?_trieOf_eq_some_iff h).mp hfound,
      byteLength_eq_utf8ByteSize literal⟩
  · rintro ⟨literal, hl, rfl⟩
    refine ⟨(symbol, literal.toList), ?_, by simp [byteLength_toList]⟩
    rw [longest?_trieOf_eq_some_iff h, String.ofList_toList]
    exact hl

namespace Tokenizer

theorem trie_eq (t : Tokenizer) : t.trie = SymbolTable.trieOf t.symbols.entries := rfl

theorem longest_le_window (t : Tokenizer) : t.symbols.longest ≤ t.window :=
  Nat.le_max_right ..

/-- In its window a tokenizer finds the longest literal of its table at the start of the whole
text, with its size in UTF-8, whatever the order in which the table is made a trie. -/
theorem lookup?_window (t : Tokenizer) (text : List Char) :
    (∀ symbol size, t.trie.lookup? (text.take t.window) = some (symbol, size) ↔
      ∃ literal, t.symbols.IsLongest text literal symbol ∧ size = literal.utf8ByteSize) ∧
    (t.trie.lookup? (text.take t.window) = none ↔ t.symbols.NoneAt text) ∧
    t.trie.lookup? (text.take t.window) = t.trie.lookup? text ∧
    ∀ entries, entries.Perm t.symbols.entries →
      (SymbolTable.trieOf entries).lookup? (text.take t.window) =
        t.trie.lookup? (text.take t.window) := by
  have hperm := List.Perm.refl t.symbols.entries
  have hwindow : t.trie.lookup? (text.take t.window) = t.trie.lookup? text := by
    rw [Trie.lookup?, Trie.lookup?, trie_eq,
      SymbolTable.longest?_trieOf_take hperm text t.longest_le_window]
  refine ⟨?_, ?_, hwindow, ?_⟩
  · intro symbol size
    rw [hwindow, trie_eq, SymbolTable.lookup?_trieOf_eq_some_iff hperm]
  · rw [hwindow, trie_eq, Trie.lookup?, Option.map_eq_none_iff,
      SymbolTable.longest?_trieOf_eq_none_iff hperm]
  · intro entries h
    rw [trie_eq, Trie.lookup?, Trie.lookup?, SymbolTable.longest?_trieOf_perm h hperm]

end Tokenizer

end RuleLexer

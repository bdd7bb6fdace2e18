import Mathlib.Data.List.DropRight
import RuleLexer.Text.Position

/-!
Bytes of a text at which it can be cut in two: those at which a character
starts, and the end. `byteLength` and these boundaries are the size and the
valid positions of the text as a string in UTF-8. One of them is where the last
line of the text starts, and a position is told by what is before and after it.
-/

namespace RuleLexer

theorem byteLength_toList (s : String) : byteLength s.toList = s.utf8ByteSize := by
  induction s using String.push_induction with
  | empty => simp
  | push s c ih => simp [ih, String.utf8ByteSize_push]

theorem byteLength_eq_utf8ByteSize (text : List Char) :
    byteLength text = (String.ofList text).utf8ByteSize := by
  rw [← byteLength_toList, String.toList_ofList]

theorem byteLength_pos {text : List Char} (h : text ≠ []) : 0 < byteLength text := by
  cases text with
  | nil => exact absurd rfl h
  | cons c rest => exact Nat.add_pos_left c.utf8Size_pos _

/-- The text before a byte and the text from that byte on, if the byte is a boundary. -/
def splitBytes? : List Char → Nat → Option (List Char × List Char)
  | [], n => if n = 0 then some ([], []) else none
  | c :: rest, n =>
    if n = 0 then some ([], c :: rest)
    else if c.utf8Size ≤ n then
      (splitBytes? rest (n - c.utf8Size)).map fun (before, after) => (c :: before, after)
    else none

@[simp] theorem splitBytes?_append (before after : List Char) :
    splitBytes? (before ++ after) (byteLength before) = some (before, after) := by
  induction before with
  | nil => cases after <;> simp [splitBytes?]
  | cons c before ih =>
      have hpos : c.utf8Size ≠ 0 := Nat.ne_of_gt c.utf8Size_pos
      simp [splitBytes?, hpos, ih]

theorem splitBytes?_eq_some_iff {text before after : List Char} {n : Nat} :
    splitBytes? text n = some (before, after) ↔ text = before ++ after ∧ byteLength before = n := by
  constructor
  · intro h
    induction text generalizing before n with
    | nil =>
        simp only [splitBytes?, Option.ite_none_right_eq_some, Option.some.injEq,
          Prod.mk.injEq] at h
        obtain ⟨rfl, rfl, rfl⟩ := h
        simp
    | cons c rest ih =>
        rw [splitBytes?] at h
        by_cases hn : n = 0
        · rw [if_pos hn] at h
          cases h
          simp [hn]
        · rw [if_neg hn, Option.ite_none_right_eq_some, Option.map_eq_some_iff] at h
          obtain ⟨hle, ⟨before', after'⟩, hsplit, heq⟩ := h
          obtain ⟨rfl, rfl⟩ := Prod.mk.inj heq
          obtain ⟨rfl, hlen⟩ := ih hsplit
          exact ⟨rfl, by rw [byteLength_cons, hlen]; omega⟩
  · rintro ⟨rfl, rfl⟩
    exact splitBytes?_append before after

/-- A text can be cut where its UTF-8 encoding has a valid position. -/
theorem isSome_splitBytes?_iff {text : List Char} {n : Nat} :
    (splitBytes? text n).isSome ↔ (⟨n⟩ : String.Pos.Raw).IsValid (String.ofList text) := by
  rw [String.Pos.Raw.isValid_ofList, Option.isSome_iff_exists]
  constructor
  · rintro ⟨⟨before, after⟩, h⟩
    obtain ⟨rfl, rfl⟩ := splitBytes?_eq_some_iff.mp h
    exact ⟨before.length, by simp [byteLength_eq_utf8ByteSize]⟩
  · rintro ⟨i, hi⟩
    refine ⟨(text.take i, text.drop i), splitBytes?_eq_some_iff.mpr ⟨by simp, ?_⟩⟩
    rw [byteLength_eq_utf8ByteSize, ← hi]

example : (List.range 5).map (fun n => (splitBytes? ['a', 'é', 'b'] n).isSome) =
    [true, true, false, true, true] := by decide

/-- The text from one byte up to another, if both are boundaries. -/
def slice? (text : List Char) (start stop : Nat) : Option (List Char) := do
  let (before, _) ← splitBytes? text stop
  let (_, piece) ← splitBytes? before start
  some piece

theorem slice?_append (before piece after : List Char) :
    slice? (before ++ (piece ++ after)) (byteLength before) (byteLength before + byteLength piece) =
      some piece := by
  rw [slice?, ← List.append_assoc, ← byteLength_append, splitBytes?_append]
  simp

/-! ### The last line -/

/-- The text after the last line feed. -/
def lastLine (text : List Char) : List Char :=
  text.rtakeWhile fun c => c != '\n'

/-- The byte after the last line feed. -/
def lastLineStart (text : List Char) : Nat :=
  byteLength (text.rdropWhile fun c => c != '\n')

theorem splitBytes?_lastLineStart (text : List Char) :
    splitBytes? text (lastLineStart text) =
      some (text.rdropWhile fun c => c != '\n', lastLine text) := by
  rw [splitBytes?_eq_some_iff]
  refine ⟨?_, rfl⟩
  exact (List.rdropWhile_append_rtakeWhile ..).symm

/-- Lines are counted by line feeds, and columns in the last line. -/
theorem Position.after_eq (text : List Char) :
    Position.after text = ⟨text.count '\n' + 1, (lastLine text).length + 1⟩ := by
  induction text using List.reverseRecOn with
  | nil => rfl
  | append_singleton text c ih =>
      rw [Position.after_concat, ih, Position.advance, lastLine, lastLine, List.rtakeWhile_concat,
        List.count_append]
      by_cases hc : c = '\n'
      · simp [hc]
      · simp [hc]

/-! ### Places in one text -/

theorem lastLine_append {after : List Char} (h : '\n' ∉ after) (before : List Char) :
    lastLine (before ++ after) = lastLine before ++ after := by
  have hafter : ∀ c ∈ after.reverse, (c != '\n') = true := by
    intro c hc
    rw [bne_iff_ne]
    rintro rfl
    exact h (List.mem_reverse.mp hc)
  rw [lastLine, List.rtakeWhile, List.reverse_append, List.takeWhile_append_of_pos hafter]
  simp [lastLine, List.rtakeWhile]

theorem lastLine_eq_self {text : List Char} (h : '\n' ∉ text) : lastLine text = text :=
  lastLine_append h []

/-- Of two places in a text one comes before the other, so what tells a place from all behind it
tells all places apart. -/
theorem eq_of_isPrefix {α : Type} {f : List Char → α}
    (hf : ∀ before after, f (before ++ after) = f before → after = []) {text p q : List Char}
    (hp : p <+: text) (hq : q <+: text) (h : f p = f q) : p = q := by
  obtain ⟨after, rfl⟩ | ⟨after, rfl⟩ := List.prefix_or_prefix_of_prefix hp hq
  · rw [hf p after h.symm, List.append_nil]
  · rw [hf q after h, List.append_nil]

theorem eq_nil_of_byteLength_append {before after : List Char}
    (h : byteLength (before ++ after) = byteLength before) : after = [] := by
  rw [byteLength_append] at h
  by_contra hne
  have hpos := byteLength_pos hne
  omega

theorem Position.eq_nil_of_after_append {before after : List Char}
    (h : Position.after (before ++ after) = .after before) : after = [] := by
  rw [Position.after_eq, Position.after_eq] at h
  obtain ⟨hline, hcolumn⟩ := Position.mk.inj h
  -- Nothing has come behind the last line feed, so the last line has grown by all that has come.
  have hnone : '\n' ∉ after := by
    rw [List.count_append] at hline
    exact List.count_eq_zero.mp (by omega)
  rw [lastLine_append hnone, List.length_append] at hcolumn
  exact List.length_eq_zero_iff.mp (by omega)

/-- In a text a place is known by its byte, and as well by its line and its column. -/
theorem Position.after_eq_iff_byteLength_eq {text p q : List Char} (hp : p <+: text)
    (hq : q <+: text) : Position.after p = .after q ↔ byteLength p = byteLength q := by
  constructor
  · intro h
    rw [eq_of_isPrefix (fun _ _ => Position.eq_nil_of_after_append) hp hq h]
  · intro h
    rw [eq_of_isPrefix (fun _ _ => eq_nil_of_byteLength_append) hp hq h]

end RuleLexer

import RuleLexer.Rule.Library

/-!
Failures of the library's rules. Their converters read numbers, so that whatever
text they are given they fail with faults of numerals.
-/

namespace RuleLexer

/-- A fault of a numeral, unlike the faults that converters of the caller may have. -/
inductive ConvertError.IsNumeric : ConvertError → Prop
  | integer (fault : IntegerFault) : IsNumeric (.integer fault)
  | float (fault : FloatFault) : IsNumeric (.float fault)

namespace Library

theorem isNumeric_readInt {s : String} {fault : ConvertError} (h : readInt s = .error fault) :
    fault.IsNumeric := by
  unfold readInt at h
  split at h <;> cases h
  exact .integer _

theorem isNumeric_readHex {s : String} {fault : ConvertError} (h : readHex s = .error fault) :
    fault.IsNumeric := by
  unfold readHex at h
  split at h <;> cases h
  exact .integer _

theorem isNumeric_readFloat {s : String} {fault : ConvertError} (h : readFloat s = .error fault) :
    fault.IsNumeric := by
  unfold readFloat at h
  split at h <;> cases h
  exact .float _

/-- What the rules of the library do with what they match. -/
inductive IsAction : Action → Prop
  | emit : IsAction .emit
  | int : IsAction (.convert readInt)
  | hex : IsAction (.convert readHex)
  | float : IsAction (.convert readFloat)

theorem isAction_of_mem_groups : ∀ entry ∈ groups, ∀ r ∈ entry.2.rules, IsAction r.action := by
  simp only [groups, List.forall_mem_cons, RuleGroup.one, string, number, signedNumber, anyInt,
    anyFloat, anyNumber, RuleGroup.union, List.cons_append, List.nil_append]
  and_intros
  all_goals
    first | exact List.forall_mem_nil _ | exact .emit | exact .int | exact .hex | exact .float

/-- The rule is one of the library. -/
def IsMember (r : Rule) : Prop := ∃ entry ∈ groups, r ∈ entry.2.rules

/-- The converter of a rule of the library fails so. -/
def FailsWith (fault : ConvertError) : Prop :=
  ∃ r converter s, IsMember r ∧ r.action = .convert converter ∧ converter s = .error fault

theorem FailsWith.isNumeric {fault : ConvertError} (h : FailsWith fault) : fault.IsNumeric := by
  obtain ⟨r, converter, s, ⟨entry, hentry, hr⟩, haction, hconvert⟩ := h
  have hlibrary := isAction_of_mem_groups entry hentry r hr
  rw [haction] at hlibrary
  cases hlibrary with
  | int => exact isNumeric_readInt hconvert
  | hex => exact isNumeric_readHex hconvert
  | float => exact isNumeric_readFloat hconvert

end Library

end RuleLexer

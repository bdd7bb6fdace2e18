import RuleLexer.CharSet

/-! Ranges of characters as sequences of byte ranges: the encodings of the characters of a set are
the byte strings that go through one of its sequences, byte for byte. -/

namespace RuleLexer

namespace Utf8

structure ByteRange where
  first : Nat
  last : Nat
  deriving DecidableEq, Repr

/-- The bytes after the first have six bits each, beside this mark. -/
def continuation : Nat := 0x80

def anyContinuation : ByteRange := ⟨0x80, 0xBF⟩

/-- The sequences for the numbers from `first` to `last` that are written with the mark `lead` and
`more` bytes after the first. Numbers with the same first byte are apart from the others unless they
are all there. -/
def sequencesOf (lead : Nat) : Nat → Nat → Nat → List (List ByteRange)
  | 0, first, last => [[⟨lead + first, lead + last⟩]]
  | more + 1, first, last =>
    let unit := 64 ^ (more + 1)
    let low := first / unit
    let high := last / unit
    let within byte first last :=
      (sequencesOf continuation more first last).map (⟨lead + byte, lead + byte⟩ :: ·)
    if low = high then within low (first % unit) (last % unit)
    else
      let start := if first % unit = 0 then low else low + 1
      let stop := if last % unit = unit - 1 then high + 1 else high
      (if start = low then [] else within low (first % unit) (unit - 1))
        ++ (if start < stop then
              [⟨lead + start, lead + stop - 1⟩ :: List.replicate (more + 1) anyContinuation]
            else [])
        ++ (if stop = high then within high 0 (last % unit) else [])

/-- The ranges of code points with encodings of one form: their ends, the mark of the first byte and
the number of bytes after it. Surrogates have no encoding. -/
def forms : List (Nat × Nat × Nat × Nat) :=
  [(0, 0x7F, 0, 0), (0x80, 0x7FF, 0xC0, 1), (0x800, 0xD7FF, 0xE0, 2), (0xE000, 0xFFFF, 0xE0, 2),
   (0x10000, 0x10FFFF, 0xF0, 3)]

/-- The sequences for a range of code points, in ascending order. -/
def rangeSequences (first last : Nat) : List (List ByteRange) :=
  forms.flatMap fun (low, high, lead, more) =>
    if max first low ≤ min last high then sequencesOf lead more (max first low) (min last high)
    else []

def sequences (s : CharSet) : List (List ByteRange) :=
  s.ranges.flatMap fun r => rangeSequences r.1 r.2

end Utf8

end RuleLexer

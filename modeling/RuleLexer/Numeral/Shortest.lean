import RuleLexer.Numeral.Binary64

/-! The shortest decimal text that reads back as the same binary number. -/

namespace RuleLexer

namespace Shortest

/-- The numbers strictly between `low / scale` and `high / scale` round to one binary number, and
so do the two ends where `closed` holds. The number itself is `value / scale`. -/
structure Interval where
  scale : Nat
  low : Nat
  value : Nat
  high : Nat
  closed : Bool

def Interval.contains (i : Interval) (num den : Nat) : Bool :=
  let below := if i.closed then i.low * den ≤ num * i.scale else i.low * den < num * i.scale
  let above := if i.closed then num * i.scale ≤ i.high * den else num * i.scale < i.high * den
  decide below && decide above

/-- The interval of a positive number. Its ends lie half a step away, and below a power of two
the steps are half as wide. -/
def interval (mantissa : Nat) (exponent : Int) : Interval :=
  let narrow := mantissa = Nat.pow 2 52 ∧ -1074 < exponent
  let up := Nat.pow 2 exponent.toNat
  { scale := 4 * Nat.pow 2 (-exponent).toNat
    low := (4 * mantissa - if narrow then 1 else 2) * up
    value := 4 * mantissa * up
    high := (4 * mantissa + 2) * up
    closed := mantissa % 2 = 0 }

/-- The power of ten `10 ^ e` as a ratio. -/
def powerOfTen (e : Int) : Nat × Nat := (Nat.pow 10 e.toNat, Nat.pow 10 (-e).toNat)

/-- The least `e` with `num / den < 10 ^ e`, searched upward from `e` for at most `fuel` steps. -/
def magnitude (num den : Nat) : Nat → Int → Int
  | 0, e => e
  | fuel + 1, e =>
    let (p, q) := powerOfTen e
    if num * q < p * den then e else magnitude num den fuel (e + 1)

/-- The digits `d` for which `d · 10 ^ e` lies in the interval and is one of the two multiples of
`10 ^ e` around the number. Of two the nearer is taken, and of two equally near the greater. -/
def onGrid? (i : Interval) (e : Int) : Option Nat :=
  let (p, q) := powerOfTen e
  let floor := i.value * q / (i.scale * p)
  let hit d := i.contains (d * p) q
  if hit floor ∧ hit (floor + 1) then
    if 2 * (i.value * q) < (2 * floor + 1) * (i.scale * p) then some floor else some (floor + 1)
  else if hit floor then some floor
  else if hit (floor + 1) then some (floor + 1)
  else none

/-- Digits and exponent on the coarsest grid that has a hit. Each step makes the grid ten times
finer. -/
def search (i : Interval) : Nat → Int → Nat × Int
  | 0, e => ((onGrid? i e).getD 0, e)
  | fuel + 1, e =>
    match onGrid? i e with
    | some d => (d, e)
    | none => search i fuel (e - 1)

/-- Digits without zeros at the end, and the exponent that goes with them. -/
def trim : Nat → Nat → Int → Nat × Int
  | 0, d, e => (d, e)
  | fuel + 1, d, e => if d ≠ 0 ∧ d % 10 = 0 then trim fuel (d / 10) (e + 1) else (d, e)

/-- The fewest digits, seventeen at most, that read back as a positive number, with the power of ten
they are multiplied by. A binary exponent times `log 2 / log 10` is within one of the decimal one,
so the search for that starts there. -/
def digits (mantissa : Nat) (exponent : Int) : Nat × Int :=
  let i := interval mantissa exponent
  let top := magnitude i.value i.scale 5 (Binary64.log2Ratio i.value i.scale * 30103 / 100000 - 1)
  let (d, e) := search i 16 (top - 1)
  trim 17 d e

/-- Where a number is written with a point and where with an exponent. -/
structure Layout where
  /-- The least exponent, in scientific form, of a number written with a point. -/
  leastPlain : Int
  /-- The greatest such exponent. -/
  greatestPlain : Int

/-- From `1e-4` up to below `1e16` a point is written, with a digit on both sides of it. -/
def layout : Layout := ⟨-4, 15⟩

/-- The text of `digits · 10 ^ exponent` for positive `digits`. -/
def Layout.text (l : Layout) (digits : Nat) (exponent : Int) : List Char :=
  let ds := Nat.toDigits 10 digits
  let point : Int := ds.length + exponent
  let scientific := point - 1
  if scientific < l.leastPlain ∨ l.greatestPlain < scientific then
    let fraction := ds.drop 1
    ds.take 1 ++ (if fraction = [] then [] else '.' :: fraction)
      ++ 'e' :: (toString scientific).toList
  else if point ≤ 0 then '0' :: '.' :: (List.replicate (-point).toNat '0' ++ ds)
  else
    let whole := ds.take point.toNat ++ List.replicate exponent.toNat '0'
    let fraction := ds.drop point.toNat
    whole ++ '.' :: (if fraction = [] then ['0'] else fraction)

end Shortest

/-- The text of a number: its shortest digits, or its name. -/
def Binary64.text : Binary64 → String
  | nan => "NaN"
  | infinity negative => if negative then "-inf" else "inf"
  | finite negative mantissa exponent _ =>
    let body :=
      if mantissa = 0 then ['0', '.', '0']
      else
        let (d, e) := Shortest.digits mantissa exponent
        Shortest.layout.text d e
    String.ofList (if negative then '-' :: body else body)

end RuleLexer

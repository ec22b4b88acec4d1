import ScadaBridge.Number.Binary

/-!
# The fewest digits that read back

`Shortest.digits` gives the decimal digits with which a positive number is written: the fewest that
round back to the same bit pattern and, among those, the nearest to the number. The number is
`m * 2 ^ e`; the reals that round to it form an interval, which contains its ends exactly when `m` is
even. For 1, 2, 3, … digits the two neighbours of the number on the grid of that many digits are
tested against the interval; the first grid with a hit wins. Where the number lies halfway between two
hits, a `HalfRule` decides.
-/

namespace ScadaBridge

/-- Decimal digits and the power of ten of the first one: `d₁.d₂d₃… * 10 ^ exponent`. -/
structure DecimalDigits where
  /-- The digits as one numeral; it does not end in zero unless it is zero. -/
  numeral : Nat
  /-- The power of ten of the leading digit. -/
  exponent : Int
deriving DecidableEq, Repr

/-- What becomes of a number halfway between two candidates. -/
inductive HalfRule where
  /-- It goes to the even one. -/
  | toEven
  /-- It goes to the greater one. -/
  | up
deriving DecidableEq, Repr

/-- The natural number nearest to a quotient. -/
def HalfRule.roundDiv (num den : Nat) : HalfRule → Nat
  | .toEven => BinaryFormat.roundDiv num den
  | .up => (2 * num + den) / (2 * den)

namespace Shortest

/-- The interval of numbers that read back, over one denominator. -/
structure Interval where
  /-- Numerator of the lower end. -/
  low : Nat
  value : Nat
  /-- Numerator of the upper end. -/
  high : Nat
  den : Nat
  /-- Whether the ends themselves read back. -/
  closed : Bool

/-- The interval around `m * 2 ^ e`. Below a power of two the neighbour is half as far away. -/
def Interval.around (f : BinaryFormat) (m : Nat) (e : Int) : Interval :=
  let below := if m = Nat.pow 2 f.fractionBits ∧ f.leastExponent < e then 1 else 2
  let scale := if 2 ≤ e then Nat.pow 2 (e - 2).toNat else 1
  let den := if 2 ≤ e then 1 else Nat.pow 2 (2 - e).toNat
  { low := (4 * m - below) * scale
    value := 4 * m * scale
    high := (4 * m + 2) * scale
    den := den
    closed := m % 2 = 0 }

/-- Whether `num / den'` lies in the interval. -/
def Interval.contains (i : Interval) (num den' : Nat) : Bool :=
  let x := num * i.den
  if i.closed then i.low * den' ≤ x && x ≤ i.high * den'
  else i.low * den' < x && x < i.high * den'

/-- The greatest `k` with `10 ^ k ≤ num / den`, found by counting down from an upper bound. -/
def floorLog10 (num den : Nat) : Nat → Int → Int
  | 0, k => k
  | fuel + 1, k =>
    let reached := if 0 ≤ k then den * Nat.pow 10 k.toNat ≤ num else den ≤ num * Nat.pow 10 (-k).toNat
    if reached then k else floorLog10 num den fuel (k - 1)

/-- The better of the two neighbours of the number on the grid of step `10 ^ grid`, if one of them
reads back. -/
def onGrid? (half : HalfRule) (i : Interval) (grid : Int) : Option Nat :=
  let up := if 0 ≤ grid then Nat.pow 10 grid.toNat else 1
  let down := if 0 ≤ grid then 1 else Nat.pow 10 (-grid).toNat
  let lower := i.value * down / (i.den * up)
  let hit (n : Nat) : Bool := 0 < n && i.contains (n * up) down
  let nearest := half.roundDiv (i.value * down) (i.den * up)
  match hit lower, hit (lower + 1) with
  | true, true => some nearest
  | true, false => some lower
  | false, true => some (lower + 1)
  | false, false => none

/-- Tries ever finer grids; seventeen digits always suffice for the formats at hand. -/
def search (half : HalfRule) (i : Interval) : Nat → Int → Nat × Int
  | 0, grid => (i.value / i.den, grid)
  | fuel + 1, grid =>
    match onGrid? half i grid with
    | some n => (n, grid)
    | none => search half i fuel (grid - 1)

/-- A numeral without its trailing zeros, with the number of zeros dropped. -/
def dropZeros : Nat → Nat → Nat × Nat
  | 0, n => (n, 0)
  | fuel + 1, n =>
    if n ≠ 0 ∧ n % 10 = 0 then
      let (n', dropped) := dropZeros fuel (n / 10)
      (n', dropped + 1)
    else (n, 0)

/-- The shortest digits of the positive number `m * 2 ^ e`. -/
def digits (half : HalfRule) (f : BinaryFormat) (m : Nat) (e : Int) : DecimalDigits :=
  let i := Interval.around f m e
  let bound : Int := (Nat.toDigits 10 (i.value / i.den)).length
  let leading := floorLog10 i.value i.den 400 (bound - 1)
  let (n, grid) := search half i 25 leading
  let (n', dropped) := dropZeros 25 n
  { numeral := n', exponent := grid + dropped + (Nat.toDigits 10 n').length - 1 }

example : digits .toEven .double 0x1999999999999a (-56) = ⟨1, -1⟩ := by decide +kernel
example : digits .toEven .double 1 (-1074) = ⟨5, -324⟩ := by decide +kernel
example : digits .toEven .single 0x800000 (-35) = ⟨24414062, -4⟩ := by decide +kernel
example : digits .up .single 0x800000 (-35) = ⟨24414063, -4⟩ := by decide +kernel

end Shortest

end ScadaBridge

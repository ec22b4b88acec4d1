import ScadaBridge.Json.Basic

/-!
# Numbers in JSON texts

A number without point and exponent is an integer if it fits 64 bits. Any other is read quickly rather
than exactly: its digits are cut down to a significand of 64 bits (`Scaled.ofDigits`), and the power of
ten is applied in double precision (`Scaled.magnitude?`), so the result may differ from the nearest
double in its last places.
-/

namespace ScadaBridge.Json

def isDigit (b : UInt8) : Bool := 0x30 ≤ b && b ≤ 0x39

def digitValue (b : UInt8) : Nat := b.toNat - 0x30

/-- The number that decimal digits spell. -/
def decimal (digits : List UInt8) : Nat := digits.foldl (fun n b => n * 10 + digitValue b) 0

/-- The number `significand * 10 ^ exponent`. -/
structure Scaled where
  significand : Nat
  /-- The power of ten. -/
  exponent : Int
deriving DecidableEq, Repr

namespace Scaled

/-- Appends digits to a significand as long as it fits 64 bits; with the digits that are left. -/
def append (significand : Nat) : List UInt8 → Nat × List UInt8
  | [] => (significand, [])
  | b :: rest =>
    let next := significand * 10 + digitValue b
    if next < UInt64.size then append next rest else (significand, b :: rest)

/-- A numeral with the digits `whole` before the point and `fraction` after it. Digits before the point
that do not fit the significand count as zeros; those after it are dropped. -/
def ofDigits (whole fraction : List UInt8) : Scaled :=
  let (significand, zeros) := append 0 whole
  let (significand', dropped) := append significand fraction
  ⟨significand', (zeros.length : Int) - (fraction.length - dropped.length : Nat)⟩

/-- The greatest power of ten that is applied at once. -/
def greatestPower : Nat := 308

/-- The pattern of a power of ten. -/
def powerOfTen (n : Nat) : Nat := BinaryFormat.double.roundRatio (Nat.pow 10 n) 1

/-- The pattern of the number, computed in double precision; nothing beyond the greatest double. Below
the reach of two divisions everything is zero. -/
def magnitude? (s : Scaled) : Option Nat :=
  let f := BinaryFormat.double.roundRatio s.significand 1
  let places := s.exponent.natAbs
  if 0 ≤ s.exponent then
    if s.significand = 0 then some 0
    else if greatestPower < places then none
    else
      (some (BinaryFormat.double.product f (powerOfTen places))).filter fun bits =>
        bits != BinaryFormat.double.infinity
  else if places ≤ greatestPower then some (BinaryFormat.double.quotient f (powerOfTen places))
  else if places ≤ 2 * greatestPower then
    let f' := BinaryFormat.double.quotient f (powerOfTen greatestPower)
    some (BinaryFormat.double.quotient f' (powerOfTen (places - greatestPower)))
  else some 0

/-- The document of the number with a sign. -/
def toJson (negative : Bool) (s : Scaled) : Json :=
  match s.magnitude? with
  | some bits => .num (.double (.ofNat (BinaryFormat.double.withSign negative bits)))
  | none => .unreadable

end Scaled

/-- The document of a number with digits before and after the point. -/
def ofDigits (negative : Bool) (whole fraction : List UInt8) : Json :=
  (Scaled.ofDigits whole fraction).toJson negative

/-- The document of a number with digits before and after the point and an exponent. -/
def ofDigitsExponent (negative : Bool) (whole fraction : List UInt8) (exponent : Int) : Json :=
  let s := Scaled.ofDigits whole fraction
  Scaled.toJson negative ⟨s.significand, s.exponent + exponent⟩

/-- The document of a numeral without point and exponent: an integer if it fits 64 bits (signed when
negative), else a double; minus zero is a double. -/
def ofNumeral (negative : Bool) (digits : List UInt8) : Json :=
  let n := decimal digits
  if negative then
    if 0 < n ∧ n ≤ UInt64.size / 2 then .num (.int (-n)) else ofDigits true digits []
  else if n < UInt64.size then .num (.int n)
  else ofDigits false digits []

example : Scaled.magnitude? ⟨1, -1⟩ = some 0x3fb999999999999a := by decide +kernel
example : Scaled.magnitude? ⟨1, -45⟩ = some 0x3696d601ad376aba := by decide +kernel
example : Scaled.magnitude? ⟨1, 309⟩ = none ∧ Scaled.magnitude? ⟨1, -700⟩ = some 0 := by
  decide +kernel

end ScadaBridge.Json

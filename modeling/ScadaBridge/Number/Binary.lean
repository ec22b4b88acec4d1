/-!
# Binary interchange formats

Readings of the types Float and Double are held as bit patterns, so a NaN keeps its payload and a
zero its sign. This module gives the patterns their meaning: `BinaryFormat.decode` splits a pattern
into sign, mantissa and exponent, and `BinaryFormat.roundRatio` rounds an exact ratio to the nearest
pattern, ties to the even one. All arithmetic is on integers.
-/

namespace ScadaBridge

/-- The widths of a binary format: a sign bit, then a biased exponent, then a fraction. -/
structure BinaryFormat where
  fractionBits : Nat
  exponentBits : Nat

/-- What a bit pattern stands for. -/
inductive BinaryValue where
  /-- The number `mantissa * 2 ^ exponent`, negated when `negative` is set. -/
  | finite (negative : Bool) (mantissa : Nat) (exponent : Int)
  | infinite (negative : Bool)
  | nan
deriving DecidableEq, Repr

namespace BinaryFormat

def single : BinaryFormat := ⟨23, 8⟩

def double : BinaryFormat := ⟨52, 11⟩

/-- The exponent of the last place of the least positive number. -/
def leastExponent (f : BinaryFormat) : Int :=
  2 - (Nat.pow 2 (f.exponentBits - 1) : Nat) - f.fractionBits

def infinity (f : BinaryFormat) : Nat :=
  (Nat.pow 2 f.exponentBits - 1) * Nat.pow 2 f.fractionBits

def signWeight (f : BinaryFormat) : Nat :=
  Nat.pow 2 (f.fractionBits + f.exponentBits)

/-- The number behind a bit pattern. -/
def decode (f : BinaryFormat) (bits : Nat) : BinaryValue :=
  let fraction := bits % Nat.pow 2 f.fractionBits
  let biased := bits / Nat.pow 2 f.fractionBits % Nat.pow 2 f.exponentBits
  let negative := bits / f.signWeight % 2 == 1
  if biased = Nat.pow 2 f.exponentBits - 1 then
    if fraction = 0 then .infinite negative else .nan
  else if biased = 0 then
    .finite negative fraction f.leastExponent
  else
    .finite negative (Nat.pow 2 f.fractionBits + fraction) (f.leastExponent + biased - 1)

def isFinite (f : BinaryFormat) (bits : Nat) : Bool :=
  bits / Nat.pow 2 f.fractionBits % Nat.pow 2 f.exponentBits != Nat.pow 2 f.exponentBits - 1

/-- The quotient rounded to the nearest integer, a half going to the even neighbour. -/
def roundDiv (num den : Nat) : Nat :=
  let q := num / den
  let r := num % den
  if 2 * r < den then q
  else if den < 2 * r then q + 1
  else if q % 2 = 0 then q else q + 1

/-- The greatest `e` with `2 ^ e ≤ num / den`, for positive `num` and `den`. -/
def floorLog2 (num den : Nat) : Int :=
  let estimate : Int := (Nat.log2 num : Int) - Nat.log2 den
  let reached :=
    if 0 ≤ estimate then den * Nat.pow 2 estimate.toNat ≤ num else den ≤ num * Nat.pow 2 (-estimate).toNat
  if reached then estimate else estimate - 1

/-- The pattern of the number nearest to `num / den` (without a sign); what rounds past the greatest
number is infinite. -/
def roundRatio (f : BinaryFormat) (num den : Nat) : Nat :=
  if num = 0 then 0
  else
    let exponent := max (floorLog2 num den - f.fractionBits) f.leastExponent
    let mantissa :=
      if 0 ≤ exponent then roundDiv num (den * Nat.pow 2 exponent.toNat)
      else roundDiv (num * Nat.pow 2 (-exponent).toNat) den
    min ((exponent - f.leastExponent).toNat * Nat.pow 2 f.fractionBits + mantissa) f.infinity

def roundScaled (f : BinaryFormat) (m : Nat) (e : Int) : Nat :=
  if 0 ≤ e then f.roundRatio (m * Nat.pow 2 e.toNat) 1 else f.roundRatio m (Nat.pow 2 (-e).toNat)

def withSign (f : BinaryFormat) (negative : Bool) (magnitude : Nat) : Nat :=
  if negative then f.signWeight + magnitude else magnitude

/-- The pattern of an integer, rounded. -/
def ofInt (f : BinaryFormat) (i : Int) : Nat :=
  f.withSign (i < 0) (f.roundRatio i.natAbs 1)

/-- The pattern of the product of two positive numbers given by their patterns, rounded. -/
def product (f : BinaryFormat) (a b : Nat) : Nat :=
  match f.decode a, f.decode b with
  | .finite _ m e, .finite _ m' e' => f.roundScaled (m * m') (e + e')
  | _, _ => f.infinity

/-- The pattern of the quotient of two positive numbers given by their patterns, rounded. -/
def quotient (f : BinaryFormat) (a b : Nat) : Nat :=
  match f.decode a, f.decode b with
  | .finite _ m e, .finite _ m' e' =>
    if e' ≤ e then f.roundRatio (m * Nat.pow 2 (e - e').toNat) m'
    else f.roundRatio m (m' * Nat.pow 2 (e' - e).toNat)
  | _, _ => f.infinity

/-- The pattern of the same number in another format, rounded; a NaN becomes a quiet NaN. -/
def convert (source target : BinaryFormat) (bits : Nat) : Nat :=
  match source.decode bits with
  | .finite negative m e => target.withSign negative (target.roundScaled m e)
  | .infinite negative => target.withSign negative target.infinity
  | .nan => target.infinity + Nat.pow 2 (target.fractionBits - 1)

/-- The double-precision pattern of a single-precision number. -/
def widen (bits : UInt32) : UInt64 := .ofNat (convert single double bits.toNat)

/-- The single-precision pattern nearest to a double-precision number. -/
def narrow (bits : UInt64) : UInt32 := .ofNat (convert double single bits.toNat)

/-- The double-precision pattern nearest to an integer. -/
def doubleOfInt (i : Int) : UInt64 := .ofNat (double.ofInt i)

/-- The single-precision pattern nearest to an integer. -/
def singleOfInt (i : Int) : UInt32 := .ofNat (single.ofInt i)

/-- The double-precision pattern of `± digits * 10 ^ exponent`, or nothing when the number lies
beyond the greatest double. Exponents far outside the format are decided by size alone. -/
def doubleOfDecimal? (negative : Bool) (digits : Nat) (exponent : Int) : Option UInt64 :=
  let places : Int := (Nat.toDigits 10 digits).length
  if digits = 0 ∨ exponent + places < -400 then
    some (.ofNat (double.withSign negative 0))
  else if 400 < exponent + places then
    none
  else
    let magnitude :=
      if 0 ≤ exponent then double.roundRatio (digits * Nat.pow 10 exponent.toNat) 1
      else double.roundRatio digits (Nat.pow 10 (-exponent).toNat)
    if magnitude = double.infinity then none
    else some (.ofNat (double.withSign negative magnitude))

example : single.decode 0x3fc00000 = .finite false 12582912 (-23) := by decide
example : double.roundRatio 1 10 = 0x3fb999999999999a := by decide
example : double.roundRatio (Nat.pow 2 53 + 1) 1 = double.roundRatio (Nat.pow 2 53) 1 := by decide

end BinaryFormat

end ScadaBridge

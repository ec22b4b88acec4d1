import ScadaBridge.Number.Binary

/-!
# Numbers written in decimal

Readers of numerals in texts: natural numbers and integers of limited size, and numbers with a point or
an exponent. They accept a sign in front and nothing but the numeral.
-/

namespace ScadaBridge.Numeral

def decimal (digits : List Char) : Nat := digits.foldl (fun n c => n * 10 + (c.toNat - 48)) 0

/-- The number that a text of nothing but decimal digits spells. -/
def digits? (cs : List Char) : Option Nat :=
  if cs.isEmpty || !cs.all Char.isDigit then none else some (decimal cs)

/-- Splits off a sign; true stands for a minus. -/
def sign : List Char → Bool × List Char
  | '+' :: rest => (false, rest)
  | '-' :: rest => (true, rest)
  | cs => (false, cs)

/-- The natural number below `bound`; a plus may precede it. -/
def natural? (bound : Nat) (cs : List Char) : Option Nat :=
  let unsigned :=
    match cs with
    | '+' :: rest => rest
    | cs => cs
  (digits? unsigned).filter fun n => n < bound

/-- The integer with at most `bound` as its absolute value. -/
def integer? (bound : Nat) (cs : List Char) : Option Int :=
  let (negative, unsigned) := sign cs
  ((digits? unsigned).filter fun n => n ≤ bound).map fun n => if negative then -(n : Int) else n

/-- The exponent at the end of a numeral. -/
def exponent? : List Char → Option Int
  | [] => some 0
  | c :: rest =>
    if c = 'e' || c = 'E' then
      let (negative, unsigned) := sign rest
      (digits? unsigned).map fun n => if negative then -(n : Int) else n
    else none

/-- The digits after a point, and what follows them. -/
def fraction : List Char → List Char × List Char
  | '.' :: rest => rest.span Char.isDigit
  | cs => ([], cs)

/-- The double-precision number nearest to a numeral, which may have a point and an exponent; beyond the
greatest double it is infinite. -/
def double? (cs : List Char) : Option UInt64 :=
  let (negative, unsigned) := sign cs
  let (whole, afterWhole) := unsigned.span Char.isDigit
  let (fraction, afterFraction) := fraction afterWhole
  if whole.isEmpty && fraction.isEmpty then none
  else
    (exponent? afterFraction).map fun e =>
      match BinaryFormat.doubleOfDecimal? negative (decimal (whole ++ fraction))
          (e - fraction.length) with
      | some bits => bits
      | none => .ofNat (BinaryFormat.double.withSign negative BinaryFormat.double.infinity)

example : double? "-1.5e1".toList = some 0xc02e000000000000 := by decide +kernel
example : double? ".5".toList = some 0x3fe0000000000000 := by decide +kernel
example : double? "1.2.3".toList = none := by decide +kernel
example : natural? UInt64.size "+18446744073709551615".toList = some (UInt64.size - 1) := by decide +kernel
example : natural? UInt64.size "18446744073709551616".toList = none := by decide +kernel

end ScadaBridge.Numeral

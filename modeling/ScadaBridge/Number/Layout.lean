import ScadaBridge.Number.Shortest

/-!
# How numbers with a fraction are laid out

A `DecimalLayout` says how shortest digits become text. Three layouts occur: those of numbers of either
precision in JSON texts, and the one of messages that quote a wire value. All write a number
positionally, with at least one fractional digit, while its leading digit lies in a range of powers of
ten, and in scientific notation outside it.
-/

namespace ScadaBridge

/-- The decisions of a number format. -/
structure DecimalLayout where
  /-- Which of two equally near digits is taken. -/
  half : HalfRule
  /-- The least power of ten of a leading digit that is written positionally. -/
  leastPositional : Int
  /-- The greatest such power. -/
  greatestPositional : Int
  /-- Whether a positive exponent is written with a sign. -/
  plusSign : Bool
  nan : String
  infinity : String
  negativeInfinity : String

namespace DecimalLayout

/-- Double-precision numbers in JSON texts; a text has no number for NaN and the infinities. -/
def json : DecimalLayout := ⟨.toEven, -5, 15, true, "null", "null", "null"⟩

/-- Single-precision numbers in JSON texts. -/
def jsonSingle : DecimalLayout := { json with leastPositional := -6, greatestPositional := 12 }

/-- Numbers in messages about wire values. -/
def message : DecimalLayout := ⟨.up, -4, 15, false, "NaN", "inf", "-inf"⟩

def natText (n : Nat) : List Char := Nat.toDigits 10 n

/-- The digits of an integer, after a minus if negative. -/
def intText (i : Int) : List Char :=
  if i < 0 then '-' :: natText i.natAbs else natText i.natAbs

/-- Positional notation with at least one fractional digit. -/
def positional (d : DecimalDigits) : List Char :=
  let text := natText d.numeral
  if d.exponent < 0 then
    '0' :: '.' :: (List.replicate (-d.exponent - 1).toNat '0' ++ text)
  else
    let whole := d.exponent.toNat + 1
    let fraction := text.drop whole
    text.take whole ++ List.replicate (whole - text.length) '0' ++
      '.' :: (if fraction.isEmpty then ['0'] else fraction)

/-- Scientific notation without a point when there is one digit. -/
def scientific (l : DecimalLayout) (d : DecimalDigits) : List Char :=
  let mantissa :=
    match natText d.numeral with
    | first :: second :: rest => first :: '.' :: second :: rest
    | short => short
  let sign := if 0 ≤ d.exponent && l.plusSign then ['+'] else []
  mantissa ++ 'e' :: (sign ++ intText d.exponent)

def text (l : DecimalLayout) (f : BinaryFormat) (bits : Nat) : List Char :=
  match f.decode bits with
  | .nan => l.nan.toList
  | .infinite negative => (if negative then l.negativeInfinity else l.infinity).toList
  | .finite negative m e =>
    let d := if m = 0 then ⟨0, 0⟩ else Shortest.digits l.half f m e
    let body :=
      if l.leastPositional ≤ d.exponent ∧ d.exponent ≤ l.greatestPositional then positional d
      else l.scientific d
    if negative then '-' :: body else body

/-- The text of a single-precision pattern, with the digits of that precision. -/
def singleText (l : DecimalLayout) (bits : UInt32) : String :=
  String.ofList (l.text .single bits.toNat)

/-- The text of a double-precision pattern. -/
def doubleText (l : DecimalLayout) (bits : UInt64) : String :=
  String.ofList (l.text .double bits.toNat)

example : json.doubleText 0x430c6bf526340000 = "1000000000000000.0" := by decide +kernel
example : json.doubleText 0x4341c37937e08000 = "1e+16" := by decide +kernel
example : json.doubleText 0x3ee4f8b588e368f1 = "0.00001" := by decide +kernel
example : json.doubleText 0x3eb0c6f7a0b5ed8d = "1e-6" := by decide +kernel
example : jsonSingle.singleText 0x358637bd = "0.000001" := by decide +kernel
example : jsonSingle.singleText 0x551184e7 = "1e+13" := by decide +kernel
example : message.singleText 0x39800000 = "0.00024414063" := by decide +kernel
example : message.singleText 0x40f00000 = "7.5" := by decide +kernel
example : message.singleText 0xff800000 = "-inf" := by decide +kernel

end DecimalLayout

end ScadaBridge

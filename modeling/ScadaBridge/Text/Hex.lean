/-!
# Hexadecimal digits

Bytes written as pairs of digits: writing uses lower case; reading accepts both cases and reports the
first byte that is no digit. Also numerals, with which escapes give the code point of a character.
-/

namespace ScadaBridge.Hex

/-- The value of a digit, given as the byte of its character. -/
def digitValue? (b : UInt8) : Option UInt8 :=
  if 0x30 ≤ b && b ≤ 0x39 then some (b - 0x30)
  else if 0x41 ≤ b && b ≤ 0x46 then some (b - 0x37)
  else if 0x61 ≤ b && b ≤ 0x66 then some (b - 0x57)
  else none

/-- A byte that is no digit, and where it stands. -/
structure Fault where
  byte : UInt8
  /-- Its index among the digits. -/
  position : Nat
deriving DecidableEq, Repr

/-- The value of the digit at `position`. -/
def digitAt (position : Nat) (b : UInt8) : Except Fault UInt8 :=
  match digitValue? b with
  | some v => .ok v
  | none => .error ⟨b, position⟩

/-- Reads pairs of digits from `position` on; a single digit at the end has no partner and is
dropped, so callers pad to an even count. -/
def decodeFrom (position : Nat) : List UInt8 → Except Fault (List UInt8)
  | high :: low :: rest => do
    let h ← digitAt position high
    let l ← digitAt (position + 1) low
    let bytes ← decodeFrom (position + 2) rest
    return (h * 16 + l) :: bytes
  | _ => .ok []

/-- The bytes behind an even number of digits. -/
def decode (digits : List UInt8) : Except Fault (List UInt8) := decodeFrom 0 digits

/-- The lower-case digit of a value below sixteen. -/
def digitChar (n : UInt8) : Char := Nat.digitChar n.toNat

/-- Two digits per byte. -/
def encode (bytes : List UInt8) : List Char :=
  bytes.flatMap fun b => [digitChar (b / 16), digitChar (b % 16)]

/-! ## Numerals -/

/-- The number that a digit stands for. -/
def digit? (c : Char) : Option Nat :=
  if c.toNat < 0x80 then (digitValue? (.ofNat c.toNat)).map UInt8.toNat else none

/-- The number that digits spell. -/
def number? (digits : List Char) : Option Nat :=
  digits.foldlM (fun n c => (digit? c).map fun d => n * 16 + d) 0

/-- The digits of a number, at least `width` of them. -/
def padded (width n : Nat) : List Char :=
  let digits := Nat.toDigits 16 n
  List.replicate (width - digits.length) '0' ++ digits

/-- The character whose code point `count` digits at the front spell, and what follows them. -/
def codePoint? (count : Nat) (cs : List Char) : Option (Char × List Char) :=
  let digits := cs.take count
  if digits.length < count then none
  else
    match number? digits with
    | some n => if n.isValidChar then some (Char.ofNat n, cs.drop count) else none
    | none => none

example : encode [0x0F, 0xA0] = "0fa0".toList := by decide
example : codePoint? 4 "00e9x".toList = some ('é', ['x']) := by decide
example : padded 4 0xAB = "00ab".toList := by decide

end ScadaBridge.Hex

import ScadaBridge.Fault
import ScadaBridge.Scalar.Basic
import ScadaBridge.Text.Blank

/-!
# Scalar values in registers

The registers of a device are read and written as a hexadecimal numeral, most significant digit
first. Zero bytes in front that a type of numbers has no room for are passed over; a text is the bytes
without the zero bytes at their end.
-/

namespace ScadaBridge.Scalar

/-- A text without any repetition of `0` and `marker` at its front. -/
def dropMarker (marker : Char) : List Char → List Char
  | '0' :: c :: rest => if c = marker then dropMarker marker rest else '0' :: c :: rest
  | cs => cs

/-- The digits of a register text: without blanks around it and without the markers `0x` and then
`0X` in front of it. -/
def registerDigits (raw : String) : List Char :=
  dropMarker 'X' (dropMarker 'x' (Blank.trim raw.toList))

/-- The digits as bytes of text, with a zero in front if their number is odd. -/
def evenDigits (raw : String) : List UInt8 :=
  let bytes := Utf8.encode (String.ofList (registerDigits raw))
  if bytes.length % 2 = 1 then 0x30 :: bytes else bytes

/-- The bytes that a register text holds. -/
def registerBytes (raw : String) : Except Fault (List UInt8) :=
  match Hex.decode (evenDigits raw) with
  | .ok bytes => .ok bytes
  | .error fault => .error (.malformedRecord (.hex raw fault))

/-- The number of a sequence of bytes, most significant first. -/
def bigEndian (bytes : List UInt8) : Nat := bytes.foldl (fun n b => n * 256 + b.toNat) 0

/-- The bytes of a number, most significant first, `count` of them. -/
def bigEndianBytes : Nat → Nat → List UInt8
  | 0, _ => []
  | count + 1, n => bigEndianBytes count (n / 256) ++ [.ofNat (n % 256)]

/-- Bytes without the zero bytes at their end. -/
def dropZeros (bytes : List UInt8) : List UInt8 := (bytes.reverse.dropWhile (· == 0)).reverse

/-- The bytes from the first one that is not zero. -/
def significant (bytes : List UInt8) : List UInt8 := bytes.drop (bytes.findIdx (· != 0))

/-- The bytes at the end of `count` of them, behind zeros. If there are more than that, only those from the first
one that is not zero count, which must not be more. -/
def fitted (raw : String) (bytes : List UInt8) (count : Nat) : Except Fault (List UInt8) :=
  let source := if bytes.length ≤ count then bytes else significant bytes
  if count < source.length then .error (.malformedRecord (.tooWide raw count))
  else .ok (List.replicate (count - source.length) 0 ++ source)

def ofRegisters (raw : String) (type : DataType) : Except Fault Scalar := do
  let bytes ← registerBytes raw
  match type with
  | .boolean => return .boolean (bytes.any (· != 0))
  | .integer kind => return ofPattern kind (bigEndian (← fitted raw bytes (kind.width.bytes)))
  | .float => return .float (.ofNat (bigEndian (← fitted raw bytes 4)))
  | .double => return .double (.ofNat (bigEndian (← fitted raw bytes 8)))
  | .string =>
    match Utf8.decode (dropZeros bytes) with
    | .ok s => return .text s
    | .error fault => .error (.malformedRecord (.utf8 raw fault))
  | .template | .unknown => .error (.unsupportedType (.registers type))

/-- The bytes of a text, filled up with zero bytes to `width` registers. -/
def textRegisters (s : String) (width : UInt32) : Except Fault (List UInt8) :=
  let bytes := Utf8.encode s
  let capacity := 2 * width.toNat
  if capacity < bytes.length then .error (.malformedRecord (.tooLong bytes.length width))
  else .ok (bytes ++ List.replicate (capacity - bytes.length) 0)

/-- The bytes with which a value is written; the width in registers concerns texts alone. -/
def registerContent (v : Scalar) (width : UInt32) : Except Fault (List UInt8) :=
  match v with
  | .boolean b => .ok [if b then 1 else 0]
  | .integer kind n _ => .ok (bigEndianBytes (kind.width.bytes) (kind.pattern n))
  | .float bits => .ok (bigEndianBytes 4 bits.toNat)
  | .double bits => .ok (bigEndianBytes 8 bits.toNat)
  | .text s => textRegisters s width
  | .unknown => .error (.unsupportedType .noValues)

/-- The register text that writes a value. -/
def toRegisters (v : Scalar) (width : UInt32) : Except Fault String :=
  match v.registerContent width with
  | .ok bytes => .ok (String.ofList ('0' :: 'x' :: Hex.encode bytes))
  | .error fault => .error fault

end ScadaBridge.Scalar

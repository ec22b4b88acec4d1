import ScadaBridge.Fault
import ScadaBridge.Scalar.Basic

/-!
# Scalar values on the wire

A value travels as a datatype code and a value field. Numbers of up to 32 bits travel as 32-bit
patterns, the negative ones sign-extended; 64-bit numbers have a field of their own. Reading accepts
a pattern only if it is the one that writing would have chosen.
-/

namespace ScadaBridge.Scalar

/-- The 32-bit word of the lowest bits of a number. -/
def word32 (v : Int) : UInt32 := .ofNat (v % UInt32.size).toNat

/-- The 64-bit word of the lowest bits of a number. -/
def word64 (v : Int) : UInt64 := .ofNat (v % UInt64.size).toNat

/-- The value field of a value. -/
def toWire : Scalar → Wire.Value
  | .boolean b => .boolean b
  | .integer kind v _ => if kind.width = .w64 then .long (word64 v) else .int (word32 v)
  | .float bits => .float bits
  | .double bits => .double bits
  | .text s => .string s
  | .unknown => .null

def fillMetric (v : Scalar) (m : Wire.Metric) : Wire.Metric :=
  { m with
    datatype := v.dataType.code
    value := v.toWire
    isNull := v = .unknown }

/-- A labelled entry that carries the value. -/
def toEntry (v : Scalar) (label : String) : Wire.Entry :=
  ⟨label, v.dataType.code, v.toWire⟩

/-- The number that a word with `size` patterns stands for in an integer type: signed or unsigned, over
all bits of the word. -/
def ofWord (kind : IntKind) (size pattern : Nat) : Int :=
  if kind.signed then (pattern : Int).bmod size else pattern

/-- The value of a type that a value field carries. -/
def ofWireValue? : DataType → Wire.Value → Option Scalar
  | .integer kind, .int pattern =>
    if kind.width = .w64 then none else ofInt? kind (ofWord kind UInt32.size pattern.toNat)
  | .integer kind, .long pattern =>
    if kind.width = .w64 then ofInt? kind (ofWord kind UInt64.size pattern.toNat) else none
  | .float, .float bits => some (.float bits)
  | .double, .double bits => some (.double bits)
  | .boolean, .boolean b => some (.boolean b)
  | .string, .string s => some (.text s)
  | _, _ => none

/-- The value behind a datatype code and a value field. -/
def ofWire (code : UInt32) (value : Wire.Value) : Except Fault Scalar :=
  match DataType.ofCode code with
  | .error fault => .error fault
  | .ok .template => .error (.unsupportedType .templateAsScalar)
  | .ok type =>
    match ofWireValue? type value with
    | some v => .ok v
    | none => .error (.malformedRecord (.wireValue value type))

end ScadaBridge.Scalar

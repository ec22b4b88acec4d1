import ScadaBridge.Fault
import ScadaBridge.Scalar.Basic

/-!
# Scalar values in JSON

Numbers, truth values and texts are written as their JSON counterparts. Reading is strict: an integer
must be written as one and lie in the range of the type, and only floating-point types accept any
number.
-/

namespace ScadaBridge.Scalar

/-- The document of a value; the unknown value, NaN and the infinities are null. -/
def toJson : Scalar → Json
  | .boolean b => .bool b
  | .integer _ v _ => .ofInt v
  | .float bits => .ofSingle bits
  | .double bits => .ofDouble bits
  | .text s => .str s
  | .unknown => .null

/-- The value of a type that a document stands for, for types that have values. A number that is
read as a Float is rounded to double precision first. -/
def ofJson? : DataType → Json → Option Scalar
  | .boolean, j => j.bool?.map .boolean
  | .integer kind, j => j.int?.bind (ofInt? kind)
  | .float, j => j.double?.map fun bits => .float (BinaryFormat.narrow bits)
  | .double, j => j.double?.map .double
  | .string, j => j.text?.map .text
  | .template, _ | .unknown, _ => none

/-- Reads a value of a type. -/
def ofJson (type : DataType) (j : Json) : Except Fault Scalar :=
  match type with
  | .template => .error (.unsupportedType .templateAsScalar)
  | .unknown => .error (.unsupportedType .noValues)
  | type =>
    match ofJson? type j with
    | some v => .ok v
    | none => .error (.malformedRecord (.jsonValue j type))

/-- Types without values are the only ones that are refused before the document is looked at. -/
theorem ofJson_eq_ok_iff {type : DataType} {j : Json} {v : Scalar} :
    ofJson type j = .ok v ↔ ofJson? type j = some v := by
  unfold ofJson
  split
  · simp [ofJson?]
  · simp [ofJson?]
  · split
    · next hread => simp [hread]
    · next hread => simp [hread]

/-- The value as it is shown: a text bare, other values as JSON. -/
def display : Scalar → String
  | .text s => s
  | .unknown => "<unknown>"
  | v => v.toJson.compact

end ScadaBridge.Scalar

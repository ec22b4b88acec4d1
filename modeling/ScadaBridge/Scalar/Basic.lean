import ScadaBridge.DataType

/-!
# Scalar values

One value of a reading, with its type. Floating-point values are bit patterns, so that equality of
values is equality of bits: a NaN that is read again is the same reading, and the two zeros differ.

`Scalar.compare` says how a value relates to a newer one, `Scalar.assign` takes over the newer one if
it differs, and `Scalar.coerce?` carries a number from one integer type to another.
-/

namespace ScadaBridge

inductive Scalar where
  | boolean (b : Bool)
  /-- A number of an integer type, within its range. -/
  | integer (kind : IntKind) (value : Int) (fits : kind.Contains value)
  /-- A single-precision number, as its bits. -/
  | float (bits : UInt32)
  /-- A double-precision number, as its bits. -/
  | double (bits : UInt64)
  | text (s : String)
  /-- No value of any type. -/
  | unknown
deriving DecidableEq

/-- How a stored value or metric relates to an incoming one. -/
inductive Comparison where
  /-- Nothing in the incoming one differs. -/
  | equal
  | typeMismatch
  | different
deriving DecidableEq, Repr

/-- What taking over an incoming value or metric did. -/
inductive Outcome where
  /-- Nothing. -/
  | noChange
  /-- It changed the stored one. -/
  | assigned
  /-- It was refused for its type. -/
  | typeMismatch
deriving DecidableEq, Repr

namespace Scalar

def dataType : Scalar → DataType
  | .boolean _ => .boolean
  | .integer kind _ _ => .integer kind
  | .float _ => .float
  | .double _ => .double
  | .text _ => .string
  | .unknown => .unknown

/-- The number as a value of an integer type, if it is in range. -/
def ofInt? (kind : IntKind) (v : Int) : Option Scalar :=
  if h : kind.Contains v then some (.integer kind v h) else none

/-- The value of an integer type with the given bits. -/
def ofPattern (kind : IntKind) (pattern : Nat) : Scalar :=
  .integer kind (kind.ofPattern pattern) (kind.contains_ofPattern pattern)

/-- The number, if the value is of an integer type. -/
def int? : Scalar → Option Int
  | .integer _ v _ => some v
  | _ => none

/-- The zero value of a type; a template has none. -/
def zero? : DataType → Option Scalar
  | .boolean => some (.boolean false)
  | .integer kind => some (.integer kind 0 kind.contains_zero)
  | .float => some (.float 0)
  | .double => some (.double 0)
  | .string => some (.text "")
  | .unknown => some .unknown
  | .template => none

/-- The value in another type: the same type, or an integer in the range of another integer type. -/
def coerce? (v : Scalar) (target : DataType) : Option Scalar :=
  if v.dataType = target then some v
  else
    match v, target with
    | .integer _ n _, .integer kind => ofInt? kind n
    | _, _ => none

/-- How a stored value relates to an incoming one. -/
def compare (stored incoming : Scalar) : Comparison :=
  if stored.dataType ≠ incoming.dataType then .typeMismatch
  else if stored = incoming then .equal
  else .different

/-- The value stored after an incoming one arrives, and what that did. -/
def assign (stored incoming : Scalar) : Scalar × Outcome :=
  match stored.compare incoming with
  | .equal => (stored, .noChange)
  | .typeMismatch => (stored, .typeMismatch)
  | .different => (incoming, .assigned)

theorem ofInt?_eq_some {kind : IntKind} {v : Int} (h : kind.Contains v) :
    ofInt? kind v = some (.integer kind v h) := by simp [ofInt?, h]

theorem ofInt?_eq_none {kind : IntKind} {v : Int} (h : ¬kind.Contains v) :
    ofInt? kind v = none := by simp [ofInt?, h]

theorem ofInt?_eq_some_iff {kind : IntKind} {n : Int} {v : Scalar} :
    ofInt? kind n = some v ↔ ∃ fits : kind.Contains n, v = .integer kind n fits := by
  by_cases h : kind.Contains n
  · simp [ofInt?_eq_some h, h, @eq_comm _ v]
  · simp [ofInt?_eq_none h, h]

end Scalar

end ScadaBridge

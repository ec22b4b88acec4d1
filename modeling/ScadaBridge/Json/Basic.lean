import ScadaBridge.Number.Binary
import ScadaBridge.Ordered

/-!
# JSON trees

A `Json` tree holds a document as it was written: the members of an object stand in their order and
may repeat a name. `Json.canonical` gives the value that a document stands for when nothing more is
known about it: members in the order of their names, of several members with one name the last.

A document may also hold a part that is well-formed but stands for no value, such as a number beyond
the greatest double. Such a part is `unreadable`; it matters only to those who read it.
-/

namespace ScadaBridge

/-- A number of a JSON document. -/
inductive Json.Number where
  | int (i : Int)
  /-- A number with a fraction or exponent, as a double-precision pattern. -/
  | double (bits : UInt64)
  /-- The same in single precision; written with the digits of that precision. -/
  | single (bits : UInt32)
deriving DecidableEq, Repr

/-- A JSON document. -/
inductive Json where
  | null
  | bool (b : Bool)
  | num (n : Json.Number)
  | str (s : String)
  | arr (items : List Json)
  /-- An object, its members as written. -/
  | obj (members : List (String × Json))
  /-- A well-formed part that stands for no value. -/
  | unreadable
deriving Repr, Inhabited

namespace Json

/-- A natural number as a document. -/
def ofNat (n : Nat) : Json := .num (.int n)

/-- An integer as a document. -/
def ofInt (i : Int) : Json := .num (.int i)

/-- A double-precision number as a document; NaN and the infinities have none and become null. -/
def ofDouble (bits : UInt64) : Json :=
  if BinaryFormat.double.isFinite bits.toNat then .num (.double bits) else .null

/-- A single-precision number as a document, widened. -/
def ofSingle (bits : UInt32) : Json :=
  if BinaryFormat.single.isFinite bits.toNat then .num (.double (BinaryFormat.widen bits)) else .null

/-- A list of strings as a document. -/
def ofTexts (texts : List String) : Json := .arr (texts.map .str)

/-- The first member with this name among `members`. -/
def member? (name : String) : List (String × Json) → Option Json
  | [] => none
  | (n, v) :: rest => if n = name then some v else member? name rest

/-- The member of an object; nothing for a document of another kind. -/
def get? (name : String) : Json → Option Json
  | .obj members => member? name members
  | _ => none

/-- The items of an array. -/
def items? : Json → Option (List Json)
  | .arr items => some items
  | _ => none

def text? : Json → Option String
  | .str s => some s
  | _ => none

/-- The truth value. -/
def bool? : Json → Option Bool
  | .bool b => some b
  | _ => none

/-- The integer, of any size. -/
def int? : Json → Option Int
  | .num (.int i) => some i
  | _ => none

/-- The integer, if it is a natural number below `bound`. -/
def natBelow? (bound : Nat) (j : Json) : Option Nat :=
  match j.int? with
  | some i => if 0 ≤ i ∧ i < bound then some i.toNat else none
  | none => none

/-- The natural number, if it fits 64 bits. -/
def uint64? (j : Json) : Option UInt64 := (j.natBelow? UInt64.size).map .ofNat

/-- The natural number, if it fits 32 bits. -/
def uint32? (j : Json) : Option UInt32 := (j.natBelow? UInt32.size).map .ofNat

/-- The number in double precision; integers are rounded. -/
def double? : Json → Option UInt64
  | .num (.int i) => some (BinaryFormat.doubleOfInt i)
  | .num (.double bits) => some bits
  | .num (.single bits) => some (BinaryFormat.widen bits)
  | _ => none

/-- The number in single precision, rounded once. -/
def single? : Json → Option UInt32
  | .num (.int i) => some (BinaryFormat.singleOfInt i)
  | .num (.double bits) => some (BinaryFormat.narrow bits)
  | .num (.single bits) => some bits
  | _ => none

mutual

/-- The value a document stands for: members in order of name, the last of a name; single-precision
numbers widened; null for a number that is not finite. Nothing if a part of the document is unreadable. -/
def canonical : Json → Option Json
  | .null => some .null
  | .bool b => some (.bool b)
  | .num (.int i) => some (.num (.int i))
  | .num (.double bits) => some (ofDouble bits)
  | .num (.single bits) => some (ofSingle bits)
  | .str s => some (.str s)
  | .arr items => (canonicalItems items).map .arr
  | .obj members => (canonicalMembers members).map fun ms => .obj (Ordered.ofList Prod.fst ms)
  | .unreadable => none

/-- The values of array items. -/
def canonicalItems : List Json → Option (List Json)
  | [] => some []
  | j :: rest =>
    match canonical j, canonicalItems rest with
    | some j', some rest' => some (j' :: rest')
    | _, _ => none

/-- The values of members, each with its name. -/
def canonicalMembers : List (String × Json) → Option (List (String × Json))
  | [] => some []
  | (n, j) :: rest =>
    match canonical j, canonicalMembers rest with
    | some j', some rest' => some ((n, j') :: rest')
    | _, _ => none

end

mutual

/-- How deeply arrays and objects are nested. -/
def depth : Json → Nat
  | .arr items => depthItems items + 1
  | .obj members => depthMembers members + 1
  | _ => 0

/-- The greatest depth among items. -/
def depthItems : List Json → Nat
  | [] => 0
  | j :: rest => max (depth j) (depthItems rest)

/-- The greatest depth among members. -/
def depthMembers : List (String × Json) → Nat
  | [] => 0
  | (_, j) :: rest => max (depth j) (depthMembers rest)

end

end Json

end ScadaBridge

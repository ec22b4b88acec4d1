/-!
# Values of YAML

What the nodes of a document stand for. Values differ from documents of other formats in two respects: a
minus is kept even before a zero, and a value may have a private tag.
-/

namespace ScadaBridge.Yaml

inductive Value where
  | null
  | bool (b : Bool)
  /-- An integer with a minus or without, and its absolute value. -/
  | integer (isNegative : Bool) (magnitude : Nat)
  /-- A number with a fraction or exponent, as a double-precision pattern. -/
  | double (bits : UInt64)
  | text (s : String)
  | sequence (items : List Value)
  /-- A mapping, its members in the order written; a name may be repeated. -/
  | mapping (members : List (String × Value))
  /-- A value with a private tag of this name. -/
  | tagged (name : String) (content : Value)
deriving Repr, Inhabited

end ScadaBridge.Yaml

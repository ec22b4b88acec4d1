/-!
# The types of readings

A reading has one of eight integer types, two floating-point types, or is a truth value, a text or a
template (a UDT, which groups other metrics). Every type has a name and a Sparkplug datatype code;
`DataType.ofCode?` and `DataType.ofName?` read them back.
-/

namespace ScadaBridge

/-- The number of bits of an integer type. -/
inductive IntWidth where
  | w8
  | w16
  | w32
  | w64
deriving DecidableEq, Repr

def IntWidth.bytes : IntWidth → Nat
  | .w8 => 1
  | .w16 => 2
  | .w32 => 4
  | .w64 => 8

/-- The number of patterns of the width. -/
def IntWidth.size : IntWidth → Nat
  | .w8 => UInt8.size
  | .w16 => UInt16.size
  | .w32 => UInt32.size
  | .w64 => UInt64.size

theorem IntWidth.size_pos (w : IntWidth) : 0 < w.size := by cases w <;> decide

/-- An integer type. -/
structure IntKind where
  /-- Whether negative numbers belong to it. -/
  signed : Bool
  width : IntWidth
deriving DecidableEq, Repr

namespace IntKind

def least (k : IntKind) : Int := if k.signed then -(k.width.size / 2 : Nat) else 0

/-- The first number beyond the type. -/
def bound (k : IntKind) : Int := if k.signed then (k.width.size / 2 : Nat) else k.width.size

/-- The number lies in the range of the type. -/
def Contains (k : IntKind) (v : Int) : Prop := k.least ≤ v ∧ v < k.bound

instance (k : IntKind) (v : Int) : Decidable (k.Contains v) :=
  inferInstanceAs (Decidable (_ ∧ _))

/-- The number whose lowest bits are `pattern`: the upper half of the patterns are the negative
numbers of a signed type. -/
def ofPattern (k : IntKind) (pattern : Nat) : Int :=
  if k.signed then (pattern : Int).bmod k.width.size else (pattern % k.width.size : Nat)

/-- The bits of a number as a natural number below the number of patterns. -/
def pattern (k : IntKind) (v : Int) : Nat := (v % k.width.size).toNat

theorem contains_zero (k : IntKind) : k.Contains 0 := by
  rcases k with ⟨signed, width⟩
  cases signed <;> cases width <;> decide

theorem contains_ofPattern (k : IntKind) (n : Nat) : k.Contains (k.ofPattern n) := by
  rcases k with ⟨signed, width⟩
  cases signed
  · simp only [Contains, least, bound, ofPattern, Bool.false_eq_true, if_false]
    have hlt : n % width.size < width.size := Nat.mod_lt _ width.size_pos
    exact ⟨by omega, by exact_mod_cast hlt⟩
  · simp only [Contains, least, bound, ofPattern, if_true]
    have hlow := Int.le_bmod (x := (n : Int)) width.size_pos
    have hhigh := Int.bmod_lt (x := (n : Int)) width.size_pos
    cases width <;>
      simp only [IntWidth.size, UInt8.size, UInt16.size, UInt32.size, UInt64.size] at * <;> omega

end IntKind

/-- The declared type of a metric or value. -/
inductive DataType where
  | integer (kind : IntKind)
  /-- A single-precision number. -/
  | float
  /-- A double-precision number. -/
  | double
  | boolean
  | string
  /-- A group of metrics. -/
  | template
  | unknown
deriving DecidableEq, Repr

namespace DataType

abbrev int8 : DataType := .integer ⟨true, .w8⟩
abbrev int16 : DataType := .integer ⟨true, .w16⟩
abbrev int32 : DataType := .integer ⟨true, .w32⟩
abbrev int64 : DataType := .integer ⟨true, .w64⟩
abbrev uint8 : DataType := .integer ⟨false, .w8⟩
abbrev uint16 : DataType := .integer ⟨false, .w16⟩
abbrev uint32 : DataType := .integer ⟨false, .w32⟩
abbrev uint64 : DataType := .integer ⟨false, .w64⟩

def all : List DataType :=
  [int8, int16, int32, int64, uint8, uint16, uint32, uint64, .float, .double, .boolean, .string,
    .template, .unknown]

def name : DataType → String
  | .integer ⟨true, .w8⟩ => "Int8"
  | .integer ⟨true, .w16⟩ => "Int16"
  | .integer ⟨true, .w32⟩ => "Int32"
  | .integer ⟨true, .w64⟩ => "Int64"
  | .integer ⟨false, .w8⟩ => "UInt8"
  | .integer ⟨false, .w16⟩ => "UInt16"
  | .integer ⟨false, .w32⟩ => "UInt32"
  | .integer ⟨false, .w64⟩ => "UInt64"
  | .float => "Float"
  | .double => "Double"
  | .boolean => "Boolean"
  | .string => "String"
  | .template => "Template"
  | .unknown => "Unknown"

/-- The Sparkplug datatype code. -/
def code : DataType → UInt32
  | .unknown => 0
  | .integer ⟨true, .w8⟩ => 1
  | .integer ⟨true, .w16⟩ => 2
  | .integer ⟨true, .w32⟩ => 3
  | .integer ⟨true, .w64⟩ => 4
  | .integer ⟨false, .w8⟩ => 5
  | .integer ⟨false, .w16⟩ => 6
  | .integer ⟨false, .w32⟩ => 7
  | .integer ⟨false, .w64⟩ => 8
  | .float => 9
  | .double => 10
  | .boolean => 11
  | .string => 12
  | .template => 19

/-- The types that can be announced by code or name: all but the unknown one. -/
def known : List DataType := all.filter (· ≠ .unknown)

/-- The type of a Sparkplug code. Codes of types that readings cannot have, and the code of the
unknown type, have none. -/
def ofCode? (c : UInt32) : Option DataType := known.find? fun t => t.code == c

/-- A text in lower case, by ASCII letters alone. -/
def lowerCase (s : String) : String := String.ofList (s.toList.map Char.toLower)

/-- The type called `s`, in any case of ASCII letters; `bool` and `udt` are other names of two
types. -/
def ofName? (s : String) : Option DataType :=
  let s := lowerCase s
  if s = "bool" then some .boolean
  else if s = "udt" then some .template
  else known.find? fun t => lowerCase t.name == s

def isInteger : DataType → Bool
  | .integer _ => true
  | _ => false

/-- Whether a value of one type is accepted for the other: the same type, or two integer types. -/
def compatible (a b : DataType) : Bool := a == b || (a.isInteger && b.isInteger)

theorem ofCode?_code {t : DataType} (h : t ≠ .unknown) : ofCode? t.code = some t :=
  match t with
  | .integer ⟨signed, width⟩ => by cases signed <;> cases width <;> rfl
  | .float | .double | .boolean | .string | .template => rfl
  | .unknown => absurd rfl h

theorem code_of_ofCode?_eq_some {c : UInt32} {t : DataType} (h : ofCode? c = some t) :
    t.code = c ∧ t ≠ .unknown := by
  have hc := List.find?_some h
  have hm := List.mem_of_find?_eq_some h
  refine ⟨by simpa using hc, ?_⟩
  simpa using (List.mem_filter.1 hm).2

example : ofName? "uInT16" = some uint16 ∧ ofName? "UDT" = some .template := by decide +kernel
example : ofName? "Unknown" = none ∧ ofName? "DateTime" = none := by decide +kernel

end DataType

end ScadaBridge

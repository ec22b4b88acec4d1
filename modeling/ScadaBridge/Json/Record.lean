import ScadaBridge.Json.Basic

/-!
# Records in JSON

A record with fixed fields is written as an object or, by position, as an array. `Json.fields?` reads
either form: members with other names are skipped, a field that occurs twice is refused, and an array
may stop early. The functions below read one field of the result; a record is read when all its fields
are.

A choice between named alternatives is written as the name, or as an object with a member of that name
(`Json.alternative?`).

What is too much, an item beyond the record or a member beyond the alternative, is refused in a document
that is read as it was written, and left out in one that was gathered from layers (`RecordForm`).
-/

namespace ScadaBridge

/-- What becomes of items and members that are too much. -/
inductive RecordForm where
  /-- They are refused. -/
  | exact
  /-- They are left out. -/
  | loose
deriving DecidableEq, Repr

namespace Json

/-- The fields of a record with their documents, in the order written. -/
abbrev Fields := List (String × Json)

def hasRepeat : Fields → Bool
  | [] => false
  | (n, _) :: rest => rest.any (fun m => m.1 == n) || hasRepeat rest

/-- The fields of a record whose field names are `names`. -/
def fields? (form : RecordForm) (names : List String) : Json → Option Fields
  | .obj members =>
    let known := members.filter fun m => names.contains m.1
    if hasRepeat known then none else some known
  | .arr items =>
    if form = .exact ∧ names.length < items.length then none else some (names.zip items)
  | _ => none

def Fields.required {α : Type} (fields : Fields) (name : String) (reader : Json → Option α) :
    Option α :=
  (member? name fields).bind reader

def Fields.defaulted {α : Type} (fields : Fields) (name : String) (reader : Json → Option α)
    (default : α) : Option α :=
  match member? name fields with
  | some j => reader j
  | none => some default

def Fields.optional {α : Type} (fields : Fields) (name : String) (reader : Json → Option α) :
    Option (Option α) :=
  match member? name fields with
  | none | some .null => some none
  | some j => (reader j).map some

/-- Reads every item of an array. -/
def listOf? {α : Type} (reader : Json → Option α) : Json → Option (List α)
  | .arr items => items.mapM reader
  | _ => none

/-- The name of an alternative and, if it is written as an object, the document it carries: that of the
first member. -/
def alternative? (form : RecordForm) : Json → Option (String × Option Json)
  | .str name => some (name, none)
  | .obj ((name, j) :: rest) =>
    if form == .exact && !rest.isEmpty then none else some (name, some j)
  | _ => none

/-- The name of an alternative that carries nothing. -/
def plainAlternative? (form : RecordForm) (j : Json) : Option String :=
  match alternative? form j with
  | some (name, none) | some (name, some .null) => some name
  | _ => none

end Json

end ScadaBridge

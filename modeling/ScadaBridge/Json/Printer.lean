import ScadaBridge.Json.Basic
import ScadaBridge.Number.Layout
import ScadaBridge.Text.Quoted

/-!
# Writing JSON

`Json.compact` writes a document without blanks, members in the order in which they stand.
`Json.pretty` writes one member or item a line, indented by two columns a level; empty arrays and
objects stay on one line.
-/

namespace ScadaBridge.Json

def Number.text : Number → List Char
  | .int i => DecimalLayout.intText i
  | .double bits => DecimalLayout.json.text .double bits.toNat
  | .single bits => DecimalLayout.jsonSingle.text .single bits.toNat

/-- A document without an inner part on one line; what is unreadable is written as null. -/
def atomText : Json → List Char
  | .bool b => (if b then "true" else "false").toList
  | .num n => n.text
  | .str s => Quoted.json s
  | .arr _ => "[]".toList
  | .obj _ => "\x7b\x7d".toList
  | .null | .unreadable => "null".toList

mutual

def compactChars : Json → List Char
  | .arr (j :: rest) => '[' :: (compactChars j ++ compactItems rest)
  | .obj ((n, j) :: rest) =>
    '\x7b' :: (Quoted.json n ++ ':' :: (compactChars j ++ compactMembers rest))
  | j => atomText j

/-- The items after the first, and the closing bracket. -/
def compactItems : List Json → List Char
  | [] => [']']
  | j :: rest => ',' :: (compactChars j ++ compactItems rest)

/-- The members after the first, and the closing brace. -/
def compactMembers : List (String × Json) → List Char
  | [] => ['\x7d']
  | (n, j) :: rest => ',' :: (Quoted.json n ++ ':' :: (compactChars j ++ compactMembers rest))

end

/-- The document on one line, without blanks. -/
def compact (j : Json) : String := String.ofList (compactChars j)

/-- A line break and the indentation of a level. -/
def lineBreak (level : Nat) : List Char := '\n' :: List.replicate (2 * level) ' '

mutual

/-- The text over several lines, for a document at a level. -/
def prettyChars (level : Nat) : Json → List Char
  | .arr (j :: rest) =>
    '[' :: (lineBreak (level + 1) ++ prettyChars (level + 1) j ++ prettyItems level rest)
  | .obj ((n, j) :: rest) =>
    '\x7b' :: (lineBreak (level + 1) ++ Quoted.json n ++
      ':' :: ' ' :: (prettyChars (level + 1) j ++ prettyMembers level rest))
  | j => atomText j

/-- The items after the first, and the closing bracket. -/
def prettyItems (level : Nat) : List Json → List Char
  | [] => lineBreak level ++ [']']
  | j :: rest =>
    ',' :: (lineBreak (level + 1) ++ prettyChars (level + 1) j ++ prettyItems level rest)

/-- The members after the first, and the closing brace. -/
def prettyMembers (level : Nat) : List (String × Json) → List Char
  | [] => lineBreak level ++ ['\x7d']
  | (n, j) :: rest =>
    ',' :: (lineBreak (level + 1) ++ Quoted.json n ++
      ':' :: ' ' :: (prettyChars (level + 1) j ++ prettyMembers level rest))

end

/-- The document over several lines. -/
def pretty (j : Json) : String := String.ofList (prettyChars 0 j)

example : compact (.obj [("a", .arr [.null, .bool true]), ("b", .obj [])]) =
    "\x7b\"a\":[null,true],\"b\":\x7b\x7d\x7d" := by decide +kernel

end ScadaBridge.Json

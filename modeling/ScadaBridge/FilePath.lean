/-!
# Paths of files

A path is a text in which slashes separate the names of directories and, at the end, that of a file.
Empty parts and single points between the slashes say nothing, two points lead up to the directory that
holds a directory (`FilePath.follow?`). File systems limit the length of names and of whole paths
(`FilePath.isStorable`).
-/

namespace ScadaBridge.FilePath

/-- Whether a part of a path says nothing: it is empty or a point, which stands for the directory
itself. -/
def isIdle (part : List Char) : Bool := part == [] || part == ['.']

/-- The part that leads up. -/
def up : List Char := ['.', '.']

/-- The parts of a path that say something. -/
def parts (path : String) : List (List Char) :=
  (path.toList.splitOn '/').filter fun part => !isIdle part

/-- The name of the file or directory to which a path leads, if its last part is a name. -/
def fileName? (path : String) : Option (List Char) :=
  (parts path).getLast?.filter fun name => name != up

/-- The path without its last part and the slashes before it. -/
def directory (path : String) : String :=
  let reversed := (path.toList.splitOn '/').reverse
  match ((reversed.dropWhile isIdle).drop 1).dropWhile isIdle with
  | [] => if path.toList.head? == some '/' then "/" else ""
  | rest => String.ofList (['/'].intercalate rest.reverse)

/-- Whether a path leads to a directory by its form: its last part says nothing. -/
def endsInDirectory (path : String) : Bool :=
  ((path.toList.splitOn '/').getLast?.map isIdle).getD true

example : parts "config//c.d/./o.yaml" = ["config".toList, "c.d".toList, "o.yaml".toList] := by
  decide +kernel
example : directory "a/.//o.yaml/" = "a" ∧ directory "/o.yaml" = "/" := by decide +kernel
example : endsInDirectory "o.yaml/." = true ∧ fileName? "a/.." = none := by decide +kernel

/-! ## Limits -/

/-- The greatest number of bytes in a name. -/
def longestName : Nat := 255

/-- The greatest number of bytes in a path. -/
def longest : Nat := 4095

/-- Whether a file system takes a path: neither it nor a name in it is too long, and no character is
zero. -/
def isStorable (path : String) : Bool :=
  path.utf8ByteSize ≤ longest && !path.toList.contains '\x00' &&
    (parts path).all fun name => (String.ofList name).utf8ByteSize ≤ longestName

/-! ## Places -/

/-- A place in a tree of directories: the names on the way to it from the root of the tree, the last one
first. -/
abbrev Place := List (List Char)

/-- The place to which the parts of a path lead. Only a directory can be left, for a name in it or
upwards, and nothing leads out of the tree. -/
def follow? (isDirectory : Place → Bool) : Place → List (List Char) → Option Place
  | place, [] => some place
  | place, part :: rest =>
    if !isDirectory place then none
    else if part = up then
      match place with
      | [] => none
      | _ :: above => follow? isDirectory above rest
    else follow? isDirectory (part :: place) rest

end ScadaBridge.FilePath

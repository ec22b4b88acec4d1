import ScadaBridge.Text.Hex
import ScadaBridge.Text.Utf8
import ScadaBridge.Yaml.Cursor

/-!
# Tags

A tag names the type of a node. It is written in full between angle brackets, or as a handle with a
suffix; directives at the front of a document tell what the handles stand for. Tags are compared by
their bytes, since an escape in a tag gives a byte.
-/

namespace ScadaBridge.Yaml

/-- A tag in full. -/
abbrev Tag := List UInt8

/-- A tag as written: a handle, empty if the suffix is the tag in full, and a suffix. -/
structure WrittenTag where
  /-- The handle with its exclamation marks. -/
  handle : List Char
  suffix : Tag
deriving DecidableEq, Repr

/-- A line at the front of a document that begins with a percent sign. -/
inductive Directive where
  /-- The version of the format. -/
  | version (major minor : Nat)
  /-- What a handle stands for. -/
  | handle (name : List Char) (start : Tag)
deriving DecidableEq, Repr

/-! ## Suffixes -/

/-- The byte of an escape: a percent sign and two hexadecimal digits. -/
def octet? : List Char → Option UInt8
  | '%' :: a :: b :: _ => (Hex.number? [a, b]).map .ofNat
  | _ => none

/-- The number of bytes of a character that begins with a byte. -/
def characterLength? (b : UInt8) : Option Nat :=
  if b < 0x80 then some 1
  else if b < 0xC0 then none
  else if b < 0xE0 then some 2
  else if b < 0xF0 then some 3
  else if b < 0xF8 then some 4
  else none

/-- Reads the escapes of the bytes of a character after the first. -/
def followingOctets? : Nat → Cursor → Option (List UInt8 × Cursor)
  | 0, c => some ([], c)
  | n + 1, c =>
    match octet? c.rest with
    | none => none
    | some b =>
      if b < 0x80 || 0xC0 ≤ b then none
      else (followingOctets? n (c.skip 3)).map fun (bytes, beyond) => (b :: bytes, beyond)

/-- Reads the escapes of one character. -/
def octets? (c : Cursor) : Option (List UInt8 × Cursor) :=
  match octet? c.rest with
  | none => none
  | some b =>
    match characterLength? b with
    | none => none
    | some length =>
      (followingOctets? (length - 1) (c.skip 3)).map fun (bytes, beyond) => (b :: bytes, beyond)

/-- Whether a suffix may hold a character; a tag in full may also hold commas and square brackets. -/
def isSuffixChar (full : Bool) (c : Char) : Bool :=
  isNameChar c ||
    [';', '/', '?', ':', '@', '&', '=', '+', '$', '.', '%', '!', '~', '*', '\'', '(', ')'].contains c ||
    (full && [',', '[', ']'].contains c)

/-- Reads characters of a suffix as far as they go. -/
def suffixFrom? (full : Bool) : Nat → Cursor → Option (Tag × Cursor)
  | 0, _ => none
  | fuel + 1, c =>
    match c.head? with
    | none => some ([], c)
    | some ch =>
      if !isSuffixChar full ch then some ([], c)
      else
        match if ch = '%' then octets? c else some ([.ofNat ch.toNat], c.skip 1) with
        | none => none
        | some (bytes, c) =>
          (suffixFrom? full fuel c).map fun (more, beyond) => (bytes ++ more, beyond)

/-- What counts of a suffix: the bytes before the first zero. -/
def beforeZero (suffix : Tag) : Tag := suffix.takeWhile (· != 0)

def suffix? (full : Bool) (c : Cursor) : Option (Tag × Cursor) :=
  (suffixFrom? full (c.rest.length + 1) c).map fun (tag, c) => (beforeZero tag, c)

/-- Reads a suffix of at least one character. -/
def someSuffix? (full : Bool) (c : Cursor) : Option (Tag × Cursor) :=
  if (c.head?.map (isSuffixChar full)).getD false then suffix? full c else none

/-! ## Tags -/

/-- Reads a tag from its exclamation mark on. One mark alone is a tag in full. -/
def writtenTag? (c : Cursor) : Option (WrittenTag × Cursor) :=
  if c.second? == some '<' then
    match someSuffix? true (c.skip 2) with
    | none => none
    | some (tag, c) => if c.isAt '>' then some (⟨[], tag⟩, c.skip 1) else none
  else
    let (name, c) := (c.skip 1).span isNameChar
    if c.isAt '!' then
      (someSuffix? false (c.skip 1)).map fun (tag, c) => (⟨'!' :: (name ++ ['!']), tag⟩, c)
    else
      (suffix? false c).map fun (tag, c) =>
        let suffix := Utf8.encode (String.ofList name) ++ tag
        (if suffix.isEmpty then ⟨[], [0x21]⟩ else ⟨['!'], suffix⟩, c)

/-- Reads a tag, behind which a gap must come; in a flow collection a comma will do. -/
def tag? (inFlow : Bool) (c : Cursor) : Option (WrittenTag × Cursor) :=
  (writtenTag? c).filter fun (_, c) => isGap c.head? || (inFlow && c.isAt ',')

/-! ## Directives -/

def shortNumber? (c : Cursor) : Option (Nat × Cursor) :=
  let (digits, c) := c.span Char.isDigit
  if digits.isEmpty || 9 < digits.length then none
  else some (digits.foldl (fun n d => n * 10 + (d.toNat - 48)) 0, c)

def version? (c : Cursor) : Option (Directive × Cursor) :=
  match shortNumber? (c.skipWhile isBlank) with
  | none => none
  | some (major, c) =>
    if !c.isAt '.' then none
    else (shortNumber? (c.skip 1)).map fun (minor, c) => (.version major minor, c)

def handle? (c : Cursor) : Option (List Char × Cursor) :=
  if !c.isAt '!' then none
  else
    let (name, c) := (c.skip 1).span isNameChar
    if c.isAt '!' then some ('!' :: (name ++ ['!']), c.skip 1)
    else if name.isEmpty then some (['!'], c)
    else none

/-- Reads the value of a directive for a handle. -/
def handleDirective? (c : Cursor) : Option (Directive × Cursor) :=
  match handle? (c.skipWhile isBlank) with
  | none => none
  | some (name, c) =>
    if !(c.head?.map isBlank).getD false then none
    else
      match someSuffix? true (c.skipWhile isBlank) with
      | none => none
      | some (start, c) => if isGap c.head? then some (.handle name start, c) else none

/-- Reads a directive and the rest of its line. -/
def directive? (c : Cursor) : Option (Directive × Cursor) :=
  let (name, c) := (c.skip 1).span isNameChar
  let value :=
    if !isGap c.head? then none
    else if name == "YAML".toList then version? c
    else if name == "TAG".toList then handleDirective? c
    else none
  match value with
  | none => none
  | some (directive, c) => c.endOfLine?.map fun c => (directive, c)

example : (writtenTag? (.start "!!str x".toList)).map Prod.fst =
    some ⟨"!!".toList, Utf8.encode "str"⟩ := by decide +kernel
example : (writtenTag? (.start "! x".toList)).map Prod.fst = some ⟨[], [0x21]⟩ := by decide +kernel
example : (directive? (.start "%YAML 1.2 # c".toList)).map Prod.fst = some (.version 1 2) := by
  decide +kernel

end ScadaBridge.Yaml

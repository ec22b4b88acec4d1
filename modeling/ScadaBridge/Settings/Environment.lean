import ScadaBridge.Json.Basic
import ScadaBridge.Number.Numeral
import ScadaBridge.Settings.Layers
import ScadaBridge.Text.Blank
import ScadaBridge.Text.Hex
import ScadaBridge.Text.Uppercase

/-!
# Settings in environment variables

A variable whose name starts with the prefix of the service sets the member that the rest of the name
tells: letters in lower case, nested names separated by two underscores. The value is a truth value, a
number, a list, an object, a quoted text or, if it reads as none of these, the text as it stands.
-/

namespace ScadaBridge.Environment

/-- The prefix of the variables of a service: its name in upper case, with underscores. -/
def prefixOf (service : String) : String :=
  String.ofList ((Uppercase.ofString service).toList.map fun c => if c = '-' then '_' else c) ++ "_"

/-! ## Values -/

/-- Blanks around values. -/
def isBlank (c : Char) : Bool := c == ' ' || c == '\t' || c == '\n' || c == '\x0c' || c == '\r'

/-- What ends a bare value. -/
def isSeparator (c : Char) : Bool := [',', '\x7b', '\x7d', '[', ']'].contains c

/-- What a bare name consists of. -/
def isNameChar (c : Char) : Bool := c.isAlphanum || c == '_' || c == '-'

/-- The character of an escape of one letter. -/
def escaped? (c : Char) : Option Char :=
  if c = 'b' then some '\x08'
  else if c = 't' then some '\t'
  else if c = 'n' then some '\n'
  else if c = 'f' then some '\x0c'
  else if c = 'r' then some '\r'
  else if c = '"' || c = '\\' then some c
  else none

/-- Whether a character may stand for itself in a quoted text: any but the control characters; of those
the tab may. -/
def isQuotable (c : Char) : Bool := c == '\t' || (0x20 ≤ c.toNat && c.toNat != 0x7F)

/-- Reads the part of a quoted text from an escape on, up to its closing mark. -/
def escapedPart? : Nat → List Char → Option (List Char × List Char)
  | 0, _ | _, [] => none
  | fuel + 1, c :: rest =>
    if c = '"' then some ([], rest)
    else if c = '\\' then
      match rest with
      | [] => none
      | e :: after =>
        let character :=
          if e = 'u' then Hex.codePoint? 4 after
          else if e = 'U' then Hex.codePoint? 8 after
          else (escaped? e).map fun c => (c, after)
        match character with
        | some (c, after) =>
          (escapedPart? fuel after).map fun (text, beyond) => (c :: text, beyond)
        | none => none
    else if isQuotable c then
      (escapedPart? fuel rest).map fun (text, beyond) => (c :: text, beyond)
    else none

/-- The characters at the front that fit a number of bytes. -/
def withinBytes : Nat → List Char → List Char
  | _, [] => []
  | count, c :: rest => if c.utf8Size ≤ count then c :: withinBytes (count - c.utf8Size) rest else []

/-- Reads a quoted text after its opening mark. Of the characters before the first escape only those are
kept that fit as many bytes as there are characters: all of them if they are ASCII. -/
def quoted? (cs : List Char) : Option (List Char × List Char) :=
  let (front, rest) := cs.span fun c => isQuotable c && c != '"' && c != '\\'
  match rest with
  | '"' :: after => some (front, after)
  | '\\' :: _ =>
    (escapedPart? (rest.length + 1) rest).map fun (text, after) =>
      (withinBytes front.length front ++ text, after)
  | _ => none

/-- A bare value: a number, if it reads as one, else the text. Only numerals with a point are read as
numbers with a fraction. -/
def bare (cs : List Char) : Json :=
  let text := Blank.trim cs
  match if text.contains '.' then Numeral.double? text else none with
  | some bits => .num (.double bits)
  | none =>
    match Numeral.natural? UInt64.size text with
    | some n => .num (.int n)
    | none =>
      match Numeral.integer? (UInt64.size / 2) text with
      | some i => .num (.int i)
      | none => .str (String.ofList text)

/-- What follows a word at the front. -/
def afterWord? (word : String) (cs : List Char) : Option (List Char) :=
  if word.toList.isPrefixOf cs then some (cs.drop word.length) else none

def name? (cs : List Char) : Option (String × List Char) :=
  match cs with
  | '"' :: rest =>
    (quoted? rest).map fun (text, after) => (String.ofList text, after)
  | cs =>
    let (text, after) := cs.span isNameChar
    if text.isEmpty then none else some (String.ofList text, after)

mutual

/-- Reads a value at the front. -/
def value? : Nat → List Char → Option (Json × List Char)
  | 0, _ => none
  | fuel + 1, cs =>
    let cs := cs.dropWhile isBlank
    let read : Option (Json × List Char) :=
      match afterWord? "true" cs, afterWord? "false" cs, cs with
      | some rest, _, _ => some (.bool true, rest)
      | none, some rest, _ => some (.bool false, rest)
      | none, none, '[' :: rest => (items? fuel rest).map fun (js, after) => (.arr js, after)
      | none, none, '\x7b' :: rest => (members? fuel rest).map fun (ms, after) => (.obj ms, after)
      | none, none, '"' :: rest =>
        (quoted? rest).map fun (text, after) => (.str (String.ofList text), after)
      | none, none, '\'' :: c :: '\'' :: rest => some (.str (String.ofList [c]), rest)
      | none, none, '\'' :: _ => none
      | none, none, cs =>
        let (text, after) := cs.span fun c => !isSeparator c
        some (bare text, after)
    read.map fun (j, after) => (j, after.dropWhile isBlank)

/-- Reads the items of a list after its opening bracket; a comma may follow the last one. -/
def items? : Nat → List Char → Option (List Json × List Char)
  | 0, _ => none
  | _, ']' :: rest => some ([], rest)
  | fuel + 1, cs =>
    match value? fuel cs with
    | some (j, ',' :: rest) => (items? fuel rest).map fun (js, after) => (j :: js, after)
    | some (j, ']' :: rest) => some ([j], rest)
    | _ => none

/-- Reads the members of an object after its opening brace; a comma may follow the last one. -/
def members? : Nat → List Char → Option (List (String × Json) × List Char)
  | 0, _ => none
  | _, '\x7d' :: rest => some ([], rest)
  | fuel + 1, cs =>
    match name? (cs.dropWhile isBlank) with
    | none => none
    | some (name, afterName) =>
      match afterName.dropWhile isBlank with
      | '=' :: afterSign =>
        match value? fuel afterSign with
        | some (j, ',' :: rest) =>
          (members? fuel rest).map fun (ms, after) => ((name, j) :: ms, after)
        | some (j, '\x7d' :: rest) => some ([(name, j)], rest)
        | _ => none
      | _ => none

end

/-- The value of a variable. -/
def value (text : String) : Json :=
  match value? (text.length + 1) text.toList with
  | some (j, []) => (j.canonical).getD (.str text)
  | _ => .str text

/-! ## Names -/

/-- The text with every pair of underscores replaced by a point. -/
def dotted : List Char → List Char
  | '_' :: '_' :: rest => '.' :: dotted rest
  | c :: rest => c :: dotted rest
  | [] => []

/-- The path of nested names that a variable sets, if it has the prefix and no name is empty. Case does
not count, nor does white space around the name or what is left of it behind the prefix. -/
def path? (start name : String) : Option (List String) :=
  let lower := (Blank.trim name.toList).map Char.toLower
  let wanted := start.toList.map Char.toLower
  if wanted.isPrefixOf lower then
    let parts := (Blank.trim (dotted (lower.drop wanted.length))).splitOn '.'
    if parts.any List.isEmpty then none else some (parts.map String.ofList)
  else none

/-- The settings in those of the variables that have the prefix; later variables count before earlier
ones. -/
def document (start : String) (environment : List (String × String)) : Json :=
  environment.foldl
    (fun known v =>
      match path? start v.1 with
      | some names => known.overlay ((value v.2).nest names)
      | none => known)
    (.obj [])

example : prefixOf "sparkplug-bridge" = "SPARKPLUG_BRIDGE_" := by decide +kernel
example : path? "A_" "a_LOGGING__LEVEL" = some ["logging", "level"] := by decide +kernel
example : path? "A_" " A_ APP_NAME " = some ["app_name"] := by decide +kernel
example : quoted? "éa\\tb\"".toList = some (['é', '\t', 'b'], []) := by decide +kernel

end ScadaBridge.Environment

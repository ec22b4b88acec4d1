import ScadaBridge.Json.Printer
import ScadaBridge.Yaml.Character
import ScadaBridge.Yaml.Plain

/-!
# Writing YAML

Documents are written in block style: one member or entry a line, nested mappings two columns further
in, and the entries of a sequence at the column of its key. A text is written plainly where it reads
back as the text, and in quotation marks elsewhere; a text with line feeds is a literal block.
-/

namespace ScadaBridge.Yaml

/-! ## Texts -/

/-- Whether a plain scalar with these characters would stand for something other than a text, or looks
like a number. -/
def isAmbiguous (text : String) : Bool :=
  isPaddedNumeral text.toList ||
    match plain text.toList with
    | .text _ => false
    | _ => true

def isPrintable (c : Char) : Bool :=
  let n := c.toNat
  n == 0x0A || (0x20 ≤ n && n ≤ 0x7E) || (0xA0 ≤ n && n ≤ 0xD7FF) ||
    (0xE000 ≤ n && n ≤ 0xFFFD && n != 0xFEFF) || 0x10000 ≤ n

/-- Whether a later character of a plain scalar would end it: a colon before a gap, or a number sign
after one. -/
def hasMark : Option Char → List Char → Bool
  | _, [] => false
  | previous, c :: rest =>
    (c == ':' && isGap rest.head?) || (c == '#' && isGap previous) || hasMark (some c) rest

/-- Whether the first characters keep a scalar from being plain. -/
def beginsMarked (cs : List Char) : Bool :=
  "---".toList.isPrefixOf cs || "...".toList.isPrefixOf cs ||
    match cs with
    | [] => false
    | c :: rest =>
      ['#', ',', '[', ']', '\x7b', '\x7d', '&', '*', '!', '|', '>', '\'', '"', '%', '@',
        '\x60'].contains c ||
        ((c == '?' || c == ':' || c == '-') && isGap rest.head?)

/-- Whether a break is followed by a space somewhere. -/
def hasBreakSpace : List Char → Bool
  | c :: d :: rest => (isBreak c && d == ' ') || hasBreakSpace (d :: rest)
  | _ => false

/-- Whether a space is followed by a break somewhere. -/
def hasSpaceBreak : List Char → Bool
  | c :: d :: rest => (c == ' ' && isBreak d) || hasSpaceBreak (d :: rest)
  | _ => false

/-- Whether a text has a blank or a break at an end. -/
def hasOuterGap (cs : List Char) : Bool :=
  let isEdge (c : Option Char) : Bool := (c.map fun c => c == ' ' || isBreak c).getD false
  isEdge cs.head? || isEdge cs.getLast?

/-- Whether a text can only be written with escapes. -/
def needsEscapes (cs : List Char) : Bool := cs.any (fun c => !isPrintable c) || hasSpaceBreak cs

/-- The ways to write a text. -/
inductive Style where
  /-- As it is. -/
  | plain
  /-- In single quotation marks. -/
  | singleQuoted
  /-- In double quotation marks, with escapes. -/
  | doubleQuoted
  /-- As a literal block. -/
  | literal
deriving DecidableEq

/-- The way in which a text is written. -/
def Style.of (text : String) : Style :=
  let cs := text.toList
  if needsEscapes cs then .doubleQuoted
  else if cs.contains '\n' then
    if cs.getLast? == some ' ' then .doubleQuoted else .literal
  else if hasBreakSpace cs then .doubleQuoted
  else if isAmbiguous text || hasOuterGap cs || cs.any isBreak || beginsMarked cs ||
      hasMark (some ' ') cs then .singleQuoted
  else .plain

/-- The digits of a code point, in upper case. -/
def codePointDigits (width : Nat) (c : Char) : List Char := (Hex.padded width c.toNat).map Char.toUpper

/-- One character between double quotation marks. -/
def doubleQuotedChar (c : Char) : List Char :=
  if c = '"' || c = '\\' then ['\\', c]
  else if isPrintable c && !isBreak c then [c]
  else
    match c with
    | '\x00' => ['\\', '0']
    | '\x07' => ['\\', 'a']
    | '\x08' => ['\\', 'b']
    | '\t' => ['\\', 't']
    | '\n' => ['\\', 'n']
    | '\x0b' => ['\\', 'v']
    | '\x0c' => ['\\', 'f']
    | '\r' => ['\\', 'r']
    | '\x1b' => ['\\', 'e']
    | '\u0085' => ['\\', 'N']
    | '\u2028' => ['\\', 'L']
    | '\u2029' => ['\\', 'P']
    | c =>
      if c.toNat ≤ 0xFF then '\\' :: 'x' :: codePointDigits 2 c
      else if c.toNat ≤ 0xFFFF then '\\' :: 'u' :: codePointDigits 4 c
      else '\\' :: 'U' :: codePointDigits 8 c

/-- Blanks up to a column. -/
def indentation (column : Nat) : List Char := List.replicate column ' '

/-- A text between single quotation marks, up to the closing one. Breaks are written as they are, and
what follows them is indented; `broken` tells that a break comes before. -/
def singleQuotedChars (column : Nat) (broken : Bool) : List Char → List Char
  | [] => (if broken then indentation column else []) ++ ['\'']
  | c :: rest =>
    if isBreak c then c :: singleQuotedChars column true rest
    else
      (if broken then indentation column else []) ++
        (if c = '\'' then ['\'', '\''] else [c]) ++ singleQuotedChars column false rest

/-- The header of a literal block: its indentation if the text begins with a blank or a break, and what
becomes of the breaks at its end. -/
def blockHeader (cs : List Char) : List Char :=
  let indent :=
    match cs with
    | c :: _ => if c == ' ' || isBreak c then ['2'] else []
    | [] => []
  let chomping :=
    match cs.reverse with
    | c :: rest =>
      if !isBreak c then ['-'] else if (rest.head?.map isBreak).getD true then ['+'] else []
    | [] => ['-']
  '|' :: (indent ++ chomping)

/-- The lines of a literal block. Empty lines are not indented; `broken` tells that a break comes
before. -/
def blockChars (column : Nat) (broken : Bool) : List Char → List Char
  | [] => []
  | c :: rest =>
    if isBreak c then c :: blockChars column true rest
    else (if broken then indentation column else []) ++ c :: blockChars column false rest

/-- A text, with a column for what goes on after a break. -/
def textChars (column : Nat) (text : String) : List Char :=
  let cs := text.toList
  match Style.of text with
  | .plain => cs
  | .singleQuoted => '\'' :: singleQuotedChars column false cs
  | .doubleQuoted => '"' :: (cs.flatMap doubleQuotedChar ++ ['"'])
  | .literal => blockHeader cs ++ '\n' :: blockChars column true cs

/-- A text to the end of its line; a literal block that ends in a break needs no other. -/
def textLine (column : Nat) (text : String) : List Char :=
  let ended := Style.of text == .literal && (text.toList.getLast?.map isBreak).getD false
  textChars column text ++ if ended then [] else ['\n']

/-! ## Documents -/

/-- A document on one line, a scalar or an empty collection, to the end of that line. -/
def atomLine (column : Nat) : Json → List Char
  | .str s => textLine column s
  | j => Json.atomText j ++ ['\n']

mutual

/-- The value of a member whose key stands at a column. -/
def valueLines (column : Nat) : Json → List Char
  | .arr (j :: rest) =>
    '\n' :: (indentation column ++
      '-' :: ' ' :: (contentLines column j ++ entriesLines column rest))
  | .obj ((n, j) :: rest) =>
    '\n' :: (indentation (column + 2) ++ textChars (column + 4) n ++
      ':' :: (valueLines (column + 2) j ++ membersLines (column + 2) rest))
  | j => ' ' :: atomLine (column + 2) j

/-- What follows the mark of an entry of a sequence at a column. -/
def contentLines (column : Nat) : Json → List Char
  | .arr (j :: rest) =>
    '-' :: ' ' :: (contentLines (column + 2) j ++ entriesLines (column + 2) rest)
  | .obj ((n, j) :: rest) =>
    textChars (column + 4) n ++
      ':' :: (valueLines (column + 2) j ++ membersLines (column + 2) rest)
  | j => atomLine (column + 2) j

/-- Entries of a sequence at a column. -/
def entriesLines (column : Nat) : List Json → List Char
  | [] => []
  | j :: rest =>
    indentation column ++ '-' :: ' ' :: (contentLines column j ++ entriesLines column rest)

/-- Members of a mapping at a column. -/
def membersLines (column : Nat) : List (String × Json) → List Char
  | [] => []
  | (n, j) :: rest =>
    indentation column ++ textChars (column + 2) n ++
      ':' :: (valueLines column j ++ membersLines column rest)

end

/-- A document over several lines, with a line break at its end. -/
def write (j : Json) : String :=
  String.ofList <|
    match j with
    | .arr (j :: rest) => entriesLines 0 (j :: rest)
    | .obj (m :: rest) => membersLines 0 (m :: rest)
    | j => atomLine 0 j

end ScadaBridge.Yaml

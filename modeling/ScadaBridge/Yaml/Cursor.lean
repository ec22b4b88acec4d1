import ScadaBridge.Yaml.Character

/-!
# Places in a YAML text

What a part of a YAML text means depends on its column, and a key must stand on one line with its colon.
A `Cursor` is the rest of a text with the position at which it begins.
-/

namespace ScadaBridge.Yaml

structure Position where
  /-- The number of bytes before it. -/
  index : Nat
  /-- The number of line breaks before it. -/
  line : Nat
  /-- The number of characters before it on its line. -/
  column : Nat
deriving DecidableEq, Repr

/-- The position behind a character. -/
def Position.after (p : Position) (c : Char) : Position :=
  if isBreak c then ⟨p.index + c.utf8Size, p.line + 1, 0⟩
  else ⟨p.index + c.utf8Size, p.line, p.column + 1⟩

/-- The rest of a text from a position on. -/
structure Cursor where
  position : Position
  rest : List Char
deriving DecidableEq, Repr

namespace Cursor

def start (text : List Char) : Cursor := ⟨⟨0, 0, 0⟩, text⟩

def column (c : Cursor) : Nat := c.position.column

def head? (c : Cursor) : Option Char := c.rest.head?

def second? (c : Cursor) : Option Char := (c.rest.drop 1).head?

def isAt (c : Cursor) (ch : Char) : Bool := c.head? == some ch

/-- Moves over the next `n` characters. -/
def skip (c : Cursor) : Nat → Cursor
  | 0 => c
  | n + 1 =>
    match c.rest with
    | [] => c
    | ch :: rest => skip ⟨c.position.after ch, rest⟩ n

/-- The characters in a row that satisfy `p`, and the place behind them. -/
def spanFrom (p : Char → Bool) (position : Position) : List Char → List Char × Cursor
  | [] => ([], ⟨position, []⟩)
  | ch :: rest =>
    if p ch then
      let (taken, c) := spanFrom p (position.after ch) rest
      (ch :: taken, c)
    else ([], ⟨position, ch :: rest⟩)

/-- The next characters in a row that satisfy `p`, and the place behind them. -/
def span (c : Cursor) (p : Char → Bool) : List Char × Cursor := spanFrom p c.position c.rest

/-- The place behind the next characters that satisfy `p`. -/
def skipWhile (c : Cursor) (p : Char → Bool) : Cursor := (c.span p).2

/-- Whether three dashes or three points stand at the front of a line, alone. -/
def atDocumentMark (c : Cursor) : Bool :=
  c.column == 0 && (c.rest.take 3 == ['-', '-', '-'] || c.rest.take 3 == ['.', '.', '.']) &&
    isGap (c.rest.drop 3).head?

/-- Passes over blanks, a comment and the break at the end of a line; nothing if the line holds
something else. -/
def endOfLine? (c : Cursor) : Option Cursor :=
  let c := c.skipWhile isBlank
  let c := if c.isAt '#' then c.skipWhile (fun ch => !isBreak ch) else c
  match c.head? with
  | none => some c
  | some ch => if isBreak ch then some (c.skip 1) else none

end Cursor

end ScadaBridge.Yaml

import ScadaBridge.Yaml.Cursor

/-!
# Block scalars

A literal or folded block is the text on the lines below its mark that are indented deeply enough. The
header on the line of the mark may give the indentation, and what becomes of the breaks at the end.
-/

namespace ScadaBridge.Yaml

/-- What becomes of the line breaks at the end of a block. -/
inductive Chomping where
  /-- All are dropped. -/
  | strip
  /-- The first is kept. -/
  | clip
  /-- All are kept. -/
  | keep
deriving DecidableEq, Repr

structure BlockHeader where
  /-- The treatment of the end. -/
  chomping : Chomping
  /-- The indentation beyond that of the collection around the block; none if it is to be found. -/
  indentation : Option Nat
deriving DecidableEq, Repr

/-- The sign for a treatment of the end. -/
def chomping? (c : Cursor) : Option Chomping :=
  if c.isAt '-' then some .strip else if c.isAt '+' then some .keep else none

/-- The digit for an indentation; a zero is refused. -/
def indentationDigit? (c : Cursor) : Option (Option Nat × Cursor) :=
  match c.head? with
  | some ch =>
    if ch.isDigit then if ch = '0' then none else some (some (ch.toNat - 48), c.skip 1)
    else some (none, c)
  | none => some (none, c)

/-- Reads the signs of a header, in either order. -/
def blockHeader? (c : Cursor) : Option (BlockHeader × Cursor) :=
  match chomping? c with
  | some chomping =>
    (indentationDigit? (c.skip 1)).map fun (indentation, c) => (⟨chomping, indentation⟩, c)
  | none =>
    match indentationDigit? c with
    | none => none
    | some (none, c) => some (⟨.clip, none⟩, c)
    | some (indentation, c) =>
      match chomping? c with
      | some chomping => some (⟨chomping, indentation⟩, c.skip 1)
      | none => some (⟨.clip, indentation⟩, c)

/-- What lies before a line with content. -/
structure BlockMargin where
  /-- The breaks of the empty lines. -/
  breaks : List Char
  /-- The greatest column that was reached. -/
  deepest : Nat
  /-- The place of the content. -/
  beyond : Cursor

/-- Passes over empty lines and indentation, up to the column `indentation` if it is known. A tab must
not stand in the indentation. -/
def blockMargin? (indentation : Option Nat) (position : Position) : List Char → Option BlockMargin
  | [] => some ⟨[], position.column, ⟨position, []⟩⟩
  | c :: rest =>
    let isMargin := (indentation.map fun n => decide (position.column < n)).getD true
    if isMargin && c == ' ' then blockMargin? indentation (position.after c) rest
    else if isMargin && c == '\t' then none
    else if isBreak c then
      (blockMargin? indentation (position.after c) rest).map fun m =>
        { m with breaks := c :: m.breaks, deepest := max position.column m.deepest }
    else some ⟨[], position.column, ⟨position, c :: rest⟩⟩

/-- A block, or the part of it from a line on: its text, and what remains of the breaks at the end. -/
structure BlockTail where
  /-- The text of the lines, with what joins them. -/
  text : List Char
  /-- The break behind the last line, if there is one. -/
  lastBreak : List Char
  /-- The breaks of the empty lines that follow. -/
  emptyLines : List Char
  /-- The place behind the block. -/
  beyond : Cursor

/-- Where a line of a block begins: the break behind the line before, the breaks of empty lines in
between, and whether the line before begins with a blank. -/
structure BlockJoint where
  /-- The break behind the line before; none at the first line. -/
  lastBreak : List Char
  /-- The breaks of empty lines. -/
  emptyLines : List Char
  /-- Whether the line before begins with a blank. -/
  afterBlank : Bool

/-- What joins two lines. In a folded block a line feed between two lines that do not begin with blanks
stands for a space, or for nothing where empty lines follow. -/
def BlockJoint.text (folded : Bool) (joint : BlockJoint) (beforeBlank : Bool) : List Char :=
  if folded && joint.lastBreak == ['\n'] && !joint.afterBlank && !beforeBlank then
    if joint.emptyLines.isEmpty then [' '] else joint.emptyLines
  else joint.lastBreak ++ joint.emptyLines

/-- Reads the lines of a block that begin at the column `indentation`. -/
def blockLines? (folded : Bool) (indentation : Nat) : Nat → BlockJoint → Cursor → Option BlockTail
  | 0, _, _ => none
  | fuel + 1, joint, c =>
    match c.head? with
    | none => some ⟨[], joint.lastBreak, joint.emptyLines, c⟩
    | some ch =>
      if c.column != indentation then some ⟨[], joint.lastBreak, joint.emptyLines, c⟩
      else
        let (line, behind) := c.span fun ch => !isBreak ch
        let lastBreak := behind.rest.take 1
        let next := behind.skip 1
        match blockMargin? (some indentation) next.position next.rest with
        | none => none
        | some margin =>
          (blockLines? folded indentation fuel ⟨lastBreak, margin.breaks, isBlank ch⟩
              margin.beyond).map fun tail =>
            { tail with text := joint.text folded (isBlank ch) ++ line ++ tail.text }

/-- The text of a block with its end treated. -/
def BlockTail.chomp (tail : BlockTail) : Chomping → List Char
  | .strip => tail.text
  | .clip => tail.text ++ tail.lastBreak
  | .keep => tail.text ++ tail.lastBreak ++ tail.emptyLines

/-- Reads a block after its mark, in a collection at the column `around` if there is one. Where the
header does not give the indentation it is that of the deepest line up to the first with content. -/
def block? (folded : Bool) (around : Option Nat) (c : Cursor) : Option (List Char × Cursor) :=
  match blockHeader? c with
  | none => none
  | some (header, c) =>
    match c.endOfLine? with
    | none => none
    | some c =>
      let given := header.indentation.map fun n => around.getD 0 + n
      match blockMargin? given c.position c.rest with
      | none => none
      | some margin =>
        let least := (around.map (· + 1)).getD 0
        let indentation := given.getD (max (max margin.deepest least) 1)
        (blockLines? folded indentation (c.rest.length + 1) ⟨[], margin.breaks, false⟩
            margin.beyond).map fun tail => (tail.chomp header.chomping, tail.beyond)

example : (block? false none (.start "-\n  a\n   b\n\nc".toList)).map Prod.fst =
    some "a\n b".toList := by decide +kernel
example : (block? true (some 0) (.start "+ # c\n  a\n  b\n\n  c\n\n".toList)).map Prod.fst =
    some "a b\nc\n\n".toList := by decide +kernel

end ScadaBridge.Yaml

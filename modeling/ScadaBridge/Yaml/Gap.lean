import ScadaBridge.Yaml.Cursor

/-!
# Gaps in scalars

A scalar that is not a block may go on over several lines. What lies between two of its parts, blanks
and line breaks, is a `Gap`. `Gap.join` tells what a gap stands for: without a break the blanks
themselves, else as many breaks as there are beyond the first, or one space if there is only one.
-/

namespace ScadaBridge.Yaml

/-- Blanks and breaks between two parts of a scalar. -/
structure Gap where
  /-- The blanks before the first break. -/
  blanks : List Char
  breaks : List Char
deriving DecidableEq, Repr

namespace Gap

def isBroken (g : Gap) : Bool := !g.breaks.isEmpty

/-- What the gap stands for. A separator of lines or paragraphs that comes first is kept. -/
def join (g : Gap) : List Char :=
  match g.breaks with
  | [] => g.blanks
  | ['\n'] => [' ']
  | '\n' :: rest => rest
  | breaks => breaks

/-- Reads a gap; `broken` tells that a break was seen. Behind a break no tab may stand before the
column `least`. -/
def readFrom? (least : Nat) (broken : Bool) (position : Position) :
    List Char → Option (Gap × Cursor)
  | [] => some (⟨[], []⟩, ⟨position, []⟩)
  | c :: rest =>
    if isBlank c then
      if broken && position.column < least && c == '\t' then none
      else
        (readFrom? least broken (position.after c) rest).map fun (g, beyond) =>
          (if broken then g else { g with blanks := c :: g.blanks }, beyond)
    else if isBreak c then
      (readFrom? least true (position.after c) rest).map fun (g, beyond) =>
        ({ g with breaks := c :: g.breaks }, beyond)
    else some (⟨[], []⟩, ⟨position, c :: rest⟩)

/-- Reads the gap at a place. -/
def read? (least : Nat) (c : Cursor) : Option (Gap × Cursor) :=
  readFrom? least false c.position c.rest

/-- Reads what lies between an escaped break and the next part. -/
def readBroken? (c : Cursor) : Option (Gap × Cursor) := readFrom? 0 true c.position c.rest

example : join ⟨[' ', '\t'], []⟩ = [' ', '\t'] := rfl
example : join ⟨[' '], ['\n']⟩ = [' '] := rfl
example : join ⟨[], ['\n', '\n', '\n']⟩ = ['\n', '\n'] := rfl
example : join ⟨[], ['\u2028', '\n']⟩ = ['\u2028', '\n'] := by decide

end Gap

end ScadaBridge.Yaml

import ScadaBridge.Text.Hex
import ScadaBridge.Yaml.Gap

/-!
# Scalars on one or more lines

Plain scalars, and scalars in single or double quotation marks. Each reader gives the text and the place
behind it.
-/

namespace ScadaBridge.Yaml

/-! ## Quoted scalars -/

/-- The character of an escape of one letter. -/
def escaped? (c : Char) : Option Char :=
  match c with
  | '0' => some '\x00'
  | 'a' => some '\x07'
  | 'b' => some '\x08'
  | 't' | '\t' => some '\t'
  | 'n' => some '\n'
  | 'v' => some '\x0b'
  | 'f' => some '\x0c'
  | 'r' => some '\r'
  | 'e' => some '\x1b'
  | ' ' => some ' '
  | '"' => some '"'
  | '/' => some '/'
  | '\\' => some '\\'
  | 'N' => some '\u0085'
  | '_' => some '\u00a0'
  | 'L' => some '\u2028'
  | 'P' => some '\u2029'
  | _ => none

/-- The character of an escape after its backslash, and the number of characters that spell it. -/
def escape? : List Char → Option (Char × Nat)
  | [] => none
  | c :: rest =>
    if c = 'x' then (Hex.codePoint? 2 rest).map fun (ch, _) => (ch, 3)
    else if c = 'u' then (Hex.codePoint? 4 rest).map fun (ch, _) => (ch, 5)
    else if c = 'U' then (Hex.codePoint? 8 rest).map fun (ch, _) => (ch, 9)
    else (escaped? c).map fun ch => (ch, 1)

/-- One step in a quoted scalar: what was read and where it goes on, unless the closing mark was
passed. -/
structure QuotedStep where
  /-- The characters that were read. -/
  text : List Char
  /-- The place behind them. -/
  beyond : Cursor
  /-- Whether the scalar ends here. -/
  closed : Bool

/-- One step between quotation marks of the kind `mark`. Two single marks stand for one; an escaped
break is left out, with the blanks that begin the next line. -/
def quotedStep? (mark : Char) (c : Cursor) : Option QuotedStep :=
  if c.atDocumentMark then none
  else
    match c.head? with
    | none => none
    | some ch =>
      if isBlank ch || isBreak ch then
        (Gap.read? 0 c).map fun (g, beyond) => ⟨g.join, beyond, false⟩
      else if ch = mark then
        if mark = '\'' && c.second? == some '\'' then some ⟨['\''], c.skip 2, false⟩
        else some ⟨[], c.skip 1, true⟩
      else if ch = '\\' && mark = '"' then
        if (c.second?.map isBreak).getD false then
          (Gap.readBroken? (c.skip 2)).map fun (g, beyond) => ⟨g.breaks, beyond, false⟩
        else (escape? (c.rest.drop 1)).map fun (e, count) => ⟨[e], c.skip (count + 1), false⟩
      else some ⟨[ch], c.skip 1, false⟩

/-- Reads a quoted scalar after its opening mark. -/
def quotedFrom? (mark : Char) : Nat → Cursor → Option (List Char × Cursor)
  | 0, _ => none
  | fuel + 1, c =>
    match quotedStep? mark c with
    | none => none
    | some ⟨text, beyond, true⟩ => some (text, beyond)
    | some ⟨text, beyond, false⟩ =>
      (quotedFrom? mark fuel beyond).map fun (more, after) => (text ++ more, after)

/-- Reads a quoted scalar from its opening mark on. -/
def quoted? (mark : Char) (c : Cursor) : Option (List Char × Cursor) :=
  quotedFrom? mark (c.rest.length + 1) (c.skip 1)

/-! ## Plain scalars -/

/-- Whether a plain scalar can begin here. A dash, question mark or colon must have another character
behind it; the last two begin none in a flow collection. -/
def beginsPlain (inFlow : Bool) (c : Cursor) : Bool :=
  match c.head? with
  | none => false
  | some ch =>
    if ch = '-' then !isGap c.second?
    else if ch = '?' || ch = ':' then !inFlow && !isGap c.second?
    else
      !isGap (some ch) && !isFlowMark ch &&
        !(['#', '&', '*', '!', '|', '>', '\'', '"', '%', '@', '\x60'].contains ch)

/-- Whether a plain scalar ends before the characters. -/
def endsPlain (inFlow : Bool) : List Char → Bool
  | [] => true
  | c :: rest =>
    isGap (some c) || (c == ':' && isGap rest.head?) || (inFlow && isFlowMark c)

/-- Whether a colon stands before a mark of a flow collection, or before a question mark. -/
def isStrayColon : List Char → Bool
  | ':' :: c :: _ => isFlowMark c || c == '?'
  | _ => false

/-- The part of a plain scalar up to a gap or its end; in a flow collection it may hold no stray
colon. -/
def plainPart? (inFlow : Bool) (position : Position) : List Char → Option (List Char × Cursor)
  | [] => some ([], ⟨position, []⟩)
  | c :: rest =>
    if isGap (some c) then some ([], ⟨position, c :: rest⟩)
    else if inFlow && isStrayColon (c :: rest) then none
    else if endsPlain inFlow (c :: rest) then some ([], ⟨position, c :: rest⟩)
    else
      (plainPart? inFlow (position.after c) rest).map fun (text, beyond) => (c :: text, beyond)

structure PlainScalar where
  text : List Char
  /-- The place behind it and the gap that follows it. -/
  beyond : Cursor
  /-- Whether that gap reaches another line. -/
  broken : Bool

/-- Reads a plain scalar, or what follows one of its gaps; on further lines it must not begin before
the column `least`, unless it stands in a flow collection. -/
def plainFrom? (inFlow : Bool) (least : Nat) : Nat → Cursor → Option PlainScalar
  | 0, _ => none
  | fuel + 1, c =>
    if c.atDocumentMark || c.isAt '#' then some ⟨[], c, false⟩
    else
      match plainPart? inFlow c.position c.rest with
      | none => none
      | some (text, c) =>
        if !(c.head?.map fun ch => isGap (some ch)).getD false then some ⟨text, c, false⟩
        else
          match Gap.read? least c with
          | none => none
          | some (g, c) =>
            if !inFlow && c.column < least then some ⟨text, c, g.isBroken⟩
            else
              match plainFrom? inFlow least fuel c with
              | none => none
              | some more =>
                if more.text.isEmpty then some ⟨text, more.beyond, g.isBroken⟩
                else some { more with text := text ++ g.join ++ more.text }

def plainScalar? (inFlow : Bool) (least : Nat) (c : Cursor) : Option PlainScalar :=
  plainFrom? inFlow least (c.rest.length + 1) c

example : (quoted? '\'' (.start "'a''b' c".toList)).map Prod.fst = some "a'b".toList := by
  decide +kernel
example : (quoted? '"' (.start "\"a\\\n  \\x41 \n b\"".toList)).map Prod.fst = some "aA b".toList := by
  decide +kernel
example : (plainScalar? false 1 (.start "a b \n  c: d".toList)).map PlainScalar.text =
    some "a b c".toList := by decide +kernel

end ScadaBridge.Yaml

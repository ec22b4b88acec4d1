import ScadaBridge.Yaml.Block
import ScadaBridge.Yaml.Scalar
import ScadaBridge.Yaml.Tag

/-!
# Tokens of YAML

`Token.ofText?` cuts a text into tokens. Marks that stand in the text become tokens of their own.
Indentation becomes tokens that begin and end block collections: a collection begins where an entry or a
key stands further in than the collection around it, and ends before the first token further out.

A key without a question mark is known as one only when its colon is reached. Until then its place among
the tokens is kept as an `ImplicitKey`; it must stand on one line with the colon, at most 1024 bytes before
it.
-/

namespace ScadaBridge.Yaml

inductive Token where
  /-- A directive at the front of a document. -/
  | directive (d : Directive)
  /-- Three dashes at the front of a line. -/
  | documentStart
  /-- Three points at the front of a line. -/
  | documentEnd
  | blockSequenceStart
  | blockMappingStart
  /-- Where a block collection ends. -/
  | blockEnd
  /-- An opening bracket. -/
  | flowSequenceStart
  /-- A closing bracket. -/
  | flowSequenceEnd
  /-- An opening brace. -/
  | flowMappingStart
  /-- A closing brace. -/
  | flowMappingEnd
  /-- The dash before an entry. -/
  | blockEntry
  /-- A comma. -/
  | flowEntry
  /-- What comes before a key: a question mark, or nothing. -/
  | key
  /-- The colon before a value. -/
  | value
  /-- The name of an anchor that is set. -/
  | anchor (name : List Char)
  /-- The name of an anchor whose node is meant. -/
  | reference (name : List Char)
  | tag (t : WrittenTag)
  | scalar (isPlain : Bool) (text : List Char)
deriving DecidableEq, Repr

/-- A place among the tokens where a key may begin. -/
structure ImplicitKey where
  /-- The number of tokens before it. -/
  tokens : Nat
  position : Position
  /-- Whether nothing but a key can stand there. -/
  isRequired : Bool
deriving DecidableEq, Repr

/-- The greatest number of bytes between the beginning of an implicit key and its colon. -/
def greatestKeyLength : Nat := 1024

/-- Whether a key that begins here can still end in a colon at a position. -/
def ImplicitKey.reaches (k : ImplicitKey) (p : Position) : Bool :=
  p.line == k.position.line && p.index ≤ k.position.index + greatestKeyLength

/-- A text that is being cut into tokens. -/
structure Scan where
  /-- The tokens so far, the last one first. -/
  tokens : List Token
  /-- Their number. -/
  count : Nat
  /-- The columns of the block collections around, the innermost first. -/
  indents : List Nat
  /-- Whether a key may begin here. -/
  keyAllowed : Bool
  /-- Where a key may begin in the innermost collection. -/
  candidate : Option ImplicitKey
  /-- The same for the collections around the flow collections that are open. -/
  outer : List (Option ImplicitKey)
  /-- The place in the text. -/
  cursor : Cursor

namespace Scan

/-- The beginning of a text. -/
def start (text : List Char) : Scan := ⟨[], 0, [], true, none, [], .start text⟩

/-- Whether a flow collection is open. -/
def inFlow (s : Scan) : Bool := !s.outer.isEmpty

/-- The column before which scalars must not go on. -/
def least (s : Scan) : Nat := (s.indents.head?.map (· + 1)).getD 0

/-- Adds a token. -/
def push (s : Scan) (t : Token) : Scan := { s with tokens := t :: s.tokens, count := s.count + 1 }

/-- Adds a token as the one with the number `n`. -/
def pushAt (s : Scan) (n : Nat) (t : Token) : Scan :=
  { s with tokens := s.tokens.insertIdx (s.count - n) t, count := s.count + 1 }

/-- Adds the token of a mark of `length` characters and passes over it. -/
def pushMark (s : Scan) (t : Token) (length : Nat) : Scan :=
  { s.push t with cursor := s.cursor.skip length }

/-! ## Indentation -/

/-- Begins a block collection at a column if it stands further in, with a token that is to be the one
with the number `n`. -/
def indentTo (s : Scan) (column n : Nat) (t : Token) : Scan :=
  if s.inFlow then s
  else if (s.indents.head?.map fun i => decide (i < column)).getD true then
    { s.pushAt n t with indents := column :: s.indents }
  else s

/-- Ends the block collections, innermost first, that stand further in than a column. -/
def unindentFrom (column : Nat) : List Nat → Scan → Scan
  | [], s => { s with indents := [] }
  | i :: rest, s =>
    if column < i then unindentFrom column rest (s.push .blockEnd) else { s with indents := i :: rest }

/-- Ends the block collections that stand further in than a column. -/
def unindentTo (s : Scan) (column : Nat) : Scan :=
  if s.inFlow then s else unindentFrom column s.indents s

/-- Ends all block collections. -/
def unindentAll (s : Scan) : Scan :=
  if s.inFlow then s else s.indents.foldl (fun s _ => s.push .blockEnd) { s with indents := [] }

/-! ## Implicit keys -/

/-- Gives up the place where a key may begin, unless nothing but a key can stand there. -/
def dropKey? (s : Scan) : Option Scan :=
  match s.candidate with
  | some k => if k.isRequired then none else some { s with candidate := none }
  | none => some s

/-- Gives up a place that is too far away. -/
def agedKey? (p : Position) (k : Option ImplicitKey) : Option (Option ImplicitKey) :=
  match k with
  | none => some none
  | some k => if k.reaches p then some (some k) else if k.isRequired then none else some none

/-- Gives up all places that are too far away. -/
def ageKeys? (s : Scan) : Option Scan :=
  match agedKey? s.cursor.position s.candidate, s.outer.mapM (agedKey? s.cursor.position) with
  | some candidate, some outer => some { s with candidate := candidate, outer := outer }
  | _, _ => none

/-- Notes that a key may begin here. In a block collection only a key can stand at the column of the
collection. -/
def noteKey? (s : Scan) : Option Scan :=
  if s.keyAllowed then
    s.dropKey?.map fun s =>
      let isRequired := !s.inFlow && s.indents.head? == some s.cursor.column
      { s with candidate := some ⟨s.count, s.cursor.position, isRequired⟩ }
  else some s

/-! ## Marks -/

/-- Passes over blanks, comments and breaks. A tab counts as a blank only where no key may begin. A byte
order mark may stand at the front of a line. -/
def skipGap : Nat → Scan → Scan
  | 0, s => s
  | fuel + 1, s =>
    let c := if s.cursor.column == 0 && s.cursor.isAt '\ufeff' then s.cursor.skip 1 else s.cursor
    let c := c.skipWhile fun ch => ch == ' ' || (ch == '\t' && (s.inFlow || !s.keyAllowed))
    let c := if c.isAt '#' then c.skipWhile fun ch => !isBreak ch else c
    if (c.head?.map isBreak).getD false then
      skipGap fuel { s with cursor := c.skip 1, keyAllowed := s.keyAllowed || !s.inFlow }
    else { s with cursor := c }

def directive? (s : Scan) : Option Scan :=
  s.unindentAll.dropKey?.bind fun s =>
    (Yaml.directive? s.cursor).map fun (d, c) =>
      { s.push (.directive d) with keyAllowed := false, cursor := c }

/-- The mark at the beginning or end of a document. -/
def documentMark? (s : Scan) : Option Scan :=
  s.unindentAll.dropKey?.map fun s =>
    let token := if s.cursor.isAt '-' then Token.documentStart else .documentEnd
    { s.pushMark token 3 with keyAllowed := false }

/-- An opening bracket or brace. -/
def openFlow? (s : Scan) (t : Token) : Option Scan :=
  s.noteKey?.map fun s =>
    { s.pushMark t 1 with outer := s.candidate :: s.outer, candidate := none, keyAllowed := true }

/-- A closing bracket or brace. -/
def closeFlow? (s : Scan) (t : Token) : Option Scan :=
  s.dropKey?.map fun s =>
    let closed := { s.pushMark t 1 with keyAllowed := false }
    match s.outer with
    | candidate :: outer => { closed with candidate := candidate, outer := outer }
    | [] => closed

/-- A comma. -/
def flowEntry? (s : Scan) : Option Scan :=
  s.dropKey?.map fun s => { s.pushMark .flowEntry 1 with keyAllowed := true }

/-- The dash before an entry. -/
def blockEntry? (s : Scan) : Option Scan :=
  if !s.inFlow && !s.keyAllowed then none
  else
    (s.indentTo s.cursor.column s.count .blockSequenceStart).dropKey?.map fun s =>
      { s.pushMark .blockEntry 1 with keyAllowed := true }

/-- The question mark before a key. -/
def key? (s : Scan) : Option Scan :=
  if !s.inFlow && !s.keyAllowed then none
  else
    (s.indentTo s.cursor.column s.count .blockMappingStart).dropKey?.map fun s =>
      { s.pushMark .key 1 with keyAllowed := !s.inFlow }

/-- The colon before a value. It tells that the text from the noted place on is a key. -/
def value? (s : Scan) : Option Scan :=
  match s.candidate with
  | some k =>
    let s := (s.pushAt k.tokens .key).indentTo k.position.column k.tokens .blockMappingStart
    some { s.pushMark .value 1 with candidate := none, keyAllowed := false }
  | none =>
    if !s.inFlow && !s.keyAllowed then none
    else
      let s := s.indentTo s.cursor.column s.count .blockMappingStart
      some { s.pushMark .value 1 with keyAllowed := !s.inFlow }

/-! ## Nodes -/

/-- An anchor, or a reference to one. -/
def anchor? (s : Scan) (token : List Char → Token) : Option Scan :=
  s.noteKey?.bind fun s =>
    let (name, c) := (s.cursor.skip 1).span isNameChar
    let isEnd (ch : Char) : Bool := ['?', ':', ',', ']', '\x7d', '%', '@', '\x60'].contains ch
    if name.isEmpty || !(isGap c.head? || (c.head?.map isEnd).getD false) then none
    else some { s.push (token name) with keyAllowed := false, cursor := c }

def tag? (s : Scan) : Option Scan :=
  s.noteKey?.bind fun s =>
    (Yaml.tag? s.inFlow s.cursor).map fun (t, c) =>
      { s.push (.tag t) with keyAllowed := false, cursor := c }

/-- A literal or folded block. -/
def block? (s : Scan) (folded : Bool) : Option Scan :=
  s.dropKey?.bind fun s =>
    (Yaml.block? folded s.indents.head? (s.cursor.skip 1)).map fun (text, c) =>
      { s.push (.scalar false text) with keyAllowed := true, cursor := c }

/-- A scalar in quotation marks. -/
def quoted? (s : Scan) (mark : Char) : Option Scan :=
  s.noteKey?.bind fun s =>
    (Yaml.quoted? mark s.cursor).map fun (text, c) =>
      { s.push (.scalar false text) with keyAllowed := false, cursor := c }

/-- A plain scalar. A key may begin behind it if it ends with its line. -/
def plain? (s : Scan) : Option Scan :=
  s.noteKey?.bind fun s =>
    (plainScalar? s.inFlow s.least s.cursor).map fun p =>
      { s.push (.scalar true p.text) with keyAllowed := p.broken, cursor := p.beyond }

/-- Reads the token at the place of a scan, which begins with `ch`. -/
def token? (s : Scan) (ch : Char) : Option Scan :=
  let isMark := isGap s.cursor.second?
  if s.cursor.column == 0 && ch == '%' then s.directive?
  else if s.cursor.atDocumentMark then s.documentMark?
  else if ch = '[' then s.openFlow? .flowSequenceStart
  else if ch = '\x7b' then s.openFlow? .flowMappingStart
  else if ch = ']' then s.closeFlow? .flowSequenceEnd
  else if ch = '\x7d' then s.closeFlow? .flowMappingEnd
  else if ch = ',' then s.flowEntry?
  else if ch = '-' && isMark then s.blockEntry?
  else if ch = '?' && (s.inFlow || isMark) then s.key?
  else if ch = ':' && (s.inFlow || isMark) then s.value?
  else if ch = '*' then s.anchor? .reference
  else if ch = '&' then s.anchor? .anchor
  else if ch = '!' then s.tag?
  else if ch = '|' && !s.inFlow then s.block? false
  else if ch = '>' && !s.inFlow then s.block? true
  else if ch = '\'' || ch = '"' then s.quoted? ch
  else if beginsPlain s.inFlow s.cursor then s.plain?
  else none

/-- Reads token after token to the end of the text. -/
def run? : Nat → Scan → Option (List Token)
  | 0, _ => none
  | fuel + 1, s =>
    match (skipGap (fuel + 1) s).ageKeys? with
    | none => none
    | some s =>
      let s := s.unindentTo s.cursor.column
      match s.cursor.head? with
      | none => s.unindentAll.dropKey?.map fun s => s.tokens.reverse
      | some ch =>
        match s.token? ch with
        | none => none
        | some s => run? fuel s

end Scan

/-- The tokens of a text, if it is well-formed. -/
def Token.ofText? (text : List Char) : Option (List Token) :=
  Scan.run? (text.length + 1) (.start text)

example : Token.ofText? "a: [b]".toList =
    some [.blockMappingStart, .key, .scalar true ['a'], .value, .flowSequenceStart,
      .scalar true ['b'], .flowSequenceEnd, .blockEnd] := by decide +kernel
example : Token.ofText? "- a\n- b: c".toList =
    some [.blockSequenceStart, .blockEntry, .scalar true ['a'], .blockEntry, .blockMappingStart, .key,
      .scalar true ['b'], .value, .scalar true ['c'], .blockEnd, .blockEnd] := by decide +kernel

end ScadaBridge.Yaml

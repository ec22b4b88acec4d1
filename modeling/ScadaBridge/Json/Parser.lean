import ScadaBridge.Json.Numeral
import ScadaBridge.Text.Hex
import ScadaBridge.Text.Utf8

/-!
# Reading JSON

A strict reader of JSON from bytes. `Json.parse` gives the document as written, `Json.read` the value
it stands for. Nothing but blanks may follow the document. Arrays and objects may be nested
`Json.nestingLimit` levels deep; what lies deeper is unreadable, as are strings that are not UTF-8 or
hold half a surrogate pair, and numbers beyond the greatest double.

`Json.parseOpening` keeps what was read before a text goes wrong, for readers that must report the
first fault in the order of the text.
-/

namespace ScadaBridge.Json

/-- The greatest number of arrays and objects around a readable part. -/
def nestingLimit : Nat := 127

/-- Space, tab, line feed and carriage return. -/
def isBlank (b : UInt8) : Bool := b == 0x20 || b == 0x09 || b == 0x0A || b == 0x0D

/-- The bytes from the first that is not blank. -/
def skipBlanks (bytes : List UInt8) : List UInt8 := bytes.dropWhile isBlank

/-! ## Strings -/

/-- The number that four hexadecimal digits spell, and what follows them. -/
def hex4? : List UInt8 → Option (Nat × List UInt8)
  | a :: b :: c :: d :: rest =>
    match Hex.digitValue? a, Hex.digitValue? b, Hex.digitValue? c, Hex.digitValue? d with
    | some a, some b, some c, some d =>
      some (((a.toNat * 16 + b.toNat) * 16 + c.toNat) * 16 + d.toNat, rest)
    | _, _, _, _ => none
  | _ => none

/-- One escape: the bytes it stands for (none for half a surrogate pair) and what follows it. -/
structure Escape where
  /-- The bytes of the character, none when the escape names no character. -/
  bytes : Option (List UInt8)
  /-- What follows. -/
  rest : List UInt8

/-- The escape of a code unit, which takes a second escape when it is the first half of a surrogate
pair. -/
def unicodeEscape (unit : Nat) (rest : List UInt8) : Escape :=
  if 0xD800 ≤ unit ∧ unit < 0xDC00 then
    match rest with
    | 0x5C :: 0x75 :: more =>
      match hex4? more with
      | some (second, rest') =>
        if 0xDC00 ≤ second ∧ second < 0xE000 then
          let code := 0x10000 + (unit - 0xD800) * 0x400 + (second - 0xDC00)
          ⟨some (String.utf8EncodeChar (Char.ofNat code)), rest'⟩
        else ⟨none, rest⟩
      | none => ⟨none, rest⟩
    | _ => ⟨none, rest⟩
  else if 0xDC00 ≤ unit ∧ unit < 0xE000 then ⟨none, rest⟩
  else ⟨some (String.utf8EncodeChar (Char.ofNat unit)), rest⟩

def escape? : List UInt8 → Option Escape
  | [] => none
  | b :: rest =>
    if b = 0x22 || b = 0x5C || b = 0x2F then some ⟨some [b], rest⟩
    else if b = 0x62 then some ⟨some [0x08], rest⟩
    else if b = 0x66 then some ⟨some [0x0C], rest⟩
    else if b = 0x6E then some ⟨some [0x0A], rest⟩
    else if b = 0x72 then some ⟨some [0x0D], rest⟩
    else if b = 0x74 then some ⟨some [0x09], rest⟩
    else if b = 0x75 then (hex4? rest).map fun (unit, rest') => unicodeEscape unit rest'
    else none

/-- A string up to its closing quotation mark: its text, if it has one, and what follows. -/
structure StringToken where
  /-- The text, none when the string is unreadable. -/
  text : Option String
  /-- What follows the closing mark. -/
  rest : List UInt8

/-- Reads a string after its opening mark; `seen` holds its bytes in reverse. -/
def stringToken? : Nat → Bool → List UInt8 → List UInt8 → Option StringToken
  | 0, _, _, _ => none
  | _, _, _, [] => none
  | fuel + 1, sound, seen, b :: rest =>
    if b = 0x22 then
      let text := if sound then (Utf8.decode seen.reverse).toOption else none
      some ⟨text, rest⟩
    else if b = 0x5C then
      match escape? rest with
      | none => none
      | some ⟨some bytes, rest'⟩ => stringToken? fuel sound (bytes.reverse ++ seen) rest'
      | some ⟨none, rest'⟩ => stringToken? fuel false seen rest'
    else if b < 0x20 then none
    else stringToken? fuel sound (b :: seen) rest

/-- Reads a string after its opening mark. -/
def string? (bytes : List UInt8) : Option StringToken :=
  stringToken? (bytes.length + 1) true [] bytes

/-! ## Numbers -/

/-- The digits after a point, if there is one; a point without digits is refused. -/
def fraction? : List UInt8 → Option (List UInt8 × List UInt8)
  | 0x2E :: rest =>
    let (digits, rest') := rest.span isDigit
    if digits.isEmpty then none else some (digits, rest')
  | bytes => some ([], bytes)

/-- The exponent, if there is one, with what follows. -/
def exponent? : List UInt8 → Option (Option Int × List UInt8)
  | b :: rest =>
    if b = 0x65 || b = 0x45 then
      let (negative, unsigned) :=
        match rest with
        | 0x2B :: r => (false, r)
        | 0x2D :: r => (true, r)
        | r => (false, r)
      let (digits, rest') := unsigned.span isDigit
      if digits.isEmpty then none
      else
        let n : Int := decimal digits
        some (some (if negative then -n else n), rest')
    else some (none, b :: rest)
  | [] => some (none, [])

/-- Reads the digits of a number after its sign. -/
def unsigned? (negative : Bool) (bytes : List UInt8) : Option (Json × List UInt8) :=
  let (whole, rest) := bytes.span isDigit
  if whole.isEmpty || (whole.head? == some 0x30 && 1 < whole.length) then none
  else
    match fraction? rest with
    | none => none
    | some (fraction, rest') =>
      match exponent? rest' with
      | none => none
      | some (none, after) =>
        if fraction.isEmpty then some (ofNumeral negative whole, after)
        else some (ofDigits negative whole fraction, after)
      | some (some exponent, after) =>
        some (ofDigitsExponent negative whole fraction exponent, after)

def number? : List UInt8 → Option (Json × List UInt8)
  | 0x2D :: rest => unsigned? true rest
  | bytes => unsigned? false bytes

/-! ## Documents -/

/-- What was read of a sequence of items or members. -/
structure Run (α : Type) where
  /-- The entries before the first that is wrong or, among members, has an unreadable name. -/
  entries : List α
  /-- Whether all names are readable. -/
  sound : Bool
  /-- What follows the closing bracket; none when the text is wrong before it. -/
  rest : Option (List UInt8)

/-- A run that goes wrong at once. -/
def Run.wrong {α : Type} : Run α := ⟨[], true, none⟩

/-- A run with one more entry in front. -/
def Run.cons {α : Type} (a : α) (run : Run α) : Run α := { run with entries := a :: run.entries }

/-- Reads a literal whose first byte was seen already. -/
def literal? (tail : List UInt8) (j : Json) (bytes : List UInt8) : Option (Json × List UInt8) :=
  if tail.isPrefixOf bytes then some (j, bytes.drop tail.length) else none

mutual

/-- Reads one document at the front of the bytes, with `depth` more levels that are readable. -/
def value? : Nat → Nat → List UInt8 → Option (Json × List UInt8)
  | 0, _, _ => none
  | fuel + 1, depth, bytes =>
    match skipBlanks bytes with
    | [] => none
    | b :: rest =>
      if b = 0x7B then
        let run := openMembers fuel (depth - 1) rest
        run.rest.map fun r =>
          (if depth = 0 || !run.sound then .unreadable else .obj run.entries, r)
      else if b = 0x5B then
        let run := openItems fuel (depth - 1) rest
        run.rest.map fun r => (if depth = 0 then .unreadable else .arr run.entries, r)
      else if b = 0x22 then
        (string? rest).map fun token =>
          (match token.text with
            | some s => .str s
            | none => .unreadable, token.rest)
      else if b = 0x6E then literal? [0x75, 0x6C, 0x6C] .null rest
      else if b = 0x74 then literal? [0x72, 0x75, 0x65] (.bool true) rest
      else if b = 0x66 then literal? [0x61, 0x6C, 0x73, 0x65] (.bool false) rest
      else number? (b :: rest)

/-- Reads items after the opening bracket. -/
def openItems : Nat → Nat → List UInt8 → Run Json
  | 0, _, _ => Run.wrong
  | fuel + 1, depth, bytes =>
    match skipBlanks bytes with
    | 0x5D :: rest => ⟨[], true, some rest⟩
    | bytes' => items fuel depth bytes'

def items : Nat → Nat → List UInt8 → Run Json
  | 0, _, _ => Run.wrong
  | fuel + 1, depth, bytes =>
    match value? fuel depth bytes with
    | none => Run.wrong
    | some (j, rest) =>
      Run.cons j <|
        match skipBlanks rest with
        | 0x2C :: rest' => items fuel depth rest'
        | 0x5D :: rest' => ⟨[], true, some rest'⟩
        | _ => Run.wrong

/-- Reads members after the opening brace. -/
def openMembers : Nat → Nat → List UInt8 → Run (String × Json)
  | 0, _, _ => Run.wrong
  | fuel + 1, depth, bytes =>
    match skipBlanks bytes with
    | 0x7D :: rest => ⟨[], true, some rest⟩
    | bytes' => members fuel depth bytes'

def members : Nat → Nat → List UInt8 → Run (String × Json)
  | 0, _, _ => Run.wrong
  | fuel + 1, depth, bytes =>
    match skipBlanks bytes with
    | 0x22 :: rest =>
      match string? rest with
      | none => Run.wrong
      | some token =>
        match skipBlanks token.rest with
        | 0x3A :: afterColon =>
          match value? fuel depth afterColon with
          | none => Run.wrong
          | some (j, afterValue) =>
            let more :=
              match skipBlanks afterValue with
              | 0x2C :: next => members fuel depth next
              | 0x7D :: next => ⟨[], true, some next⟩
              | _ => Run.wrong
            match token.text with
            | some name => Run.cons (name, j) more
            | none => ⟨[], false, more.rest⟩
        | _ => Run.wrong
    | _ => Run.wrong

end

/-- Enough steps for any document in these bytes. -/
def stepsFor (bytes : List UInt8) : Nat := 3 * bytes.length + 3

/-- The document that the bytes hold, as written. -/
def parse (bytes : List UInt8) : Option Json :=
  match value? (stepsFor bytes) nestingLimit bytes with
  | some (j, rest) => if (skipBlanks rest).isEmpty then some j else none
  | none => none

/-- The value of the document that the bytes hold. -/
def read (bytes : List UInt8) : Option Json := (parse bytes).bind canonical

/-- The document that a text holds, as written. -/
def parseText (text : String) : Option Json := parse (Utf8.encode text)

/-- The value of the document that a text holds. -/
def readText (text : String) : Option Json := read (Utf8.encode text)

/-- What could be read of an array or object before its text goes wrong. -/
inductive Opening where
  /-- The members of an object; `complete` when the whole text was sound. -/
  | members (entries : List (String × Json)) (complete : Bool)
  /-- The items of an array. -/
  | items (entries : List Json) (complete : Bool)
  /-- A document of another kind, or none. -/
  | other

/-- Whether a run closed and nothing follows it. -/
def Run.isComplete {α : Type} (run : Run α) : Bool :=
  run.sound && (run.rest.map fun r => (skipBlanks r).isEmpty).getD false

/-- Reads as much as possible of an array or object. -/
def parseOpening (bytes : List UInt8) : Opening :=
  match skipBlanks bytes with
  | 0x7B :: rest =>
    let run := openMembers (stepsFor bytes) (nestingLimit - 1) rest
    .members run.entries run.isComplete
  | 0x5B :: rest =>
    let run := openItems (stepsFor bytes) (nestingLimit - 1) rest
    .items run.entries run.isComplete
  | _ => .other

end ScadaBridge.Json

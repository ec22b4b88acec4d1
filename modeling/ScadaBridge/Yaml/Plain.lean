import ScadaBridge.Number.Numeral
import ScadaBridge.Text.Hex
import ScadaBridge.Yaml.Value

/-!
# Plain scalars of YAML

A scalar without quotation marks stands for null, a truth value or a number if it is spelled like one,
and for its text otherwise.
-/

namespace ScadaBridge.Yaml

/-- The spellings of null, besides nothing at all. -/
def nullWords : List String := ["~", "null", "Null", "NULL"]

/-- The spellings of the truth values. -/
def truthWords : List (String × Bool) :=
  [("true", true), ("True", true), ("TRUE", true), ("false", false), ("False", false),
    ("FALSE", false)]

/-- The truth value that a text spells. -/
def truth? (text : String) : Option Bool := (truthWords.find? fun w => w.1 == text).map Prod.snd

/-- Whether a text is a zero followed by further digits, which is no number. -/
def isPaddedNumeral (cs : List Char) : Bool :=
  match (Numeral.sign cs).2 with
  | '0' :: rest => !rest.isEmpty && rest.all Char.isDigit
  | _ => false

/-- The number that digits of a base spell. -/
def inBase? (base : Nat) (cs : List Char) : Option Nat :=
  if cs.isEmpty then none
  else
    cs.foldlM
      (fun n c =>
        match Hex.digit? c with
        | some digit => if digit < base then some (n * base + digit) else none
        | none => none)
      0

/-- The natural number that a text without sign spells. -/
def unsigned? : List Char → Option Nat
  | '0' :: 'x' :: rest => inBase? 16 rest
  | '0' :: 'o' :: rest => inBase? 8 rest
  | '0' :: 'b' :: rest => inBase? 2 rest
  | cs => if isPaddedNumeral cs then none else inBase? 10 cs

/-- The integer of at most 128 bits that a text spells. -/
def integer? : List Char → Option Value
  | '-' :: rest => ((unsigned? rest).filter fun n => n ≤ Nat.pow 2 127).map (.integer true)
  | '+' :: rest => ((unsigned? rest).filter fun n => n < Nat.pow 2 128).map (.integer false)
  | cs => ((unsigned? cs).filter fun n => n < Nat.pow 2 128).map (.integer false)

/-- The spellings of numbers that are not finite. -/
def specialWords : List (String × UInt64) :=
  [(".inf", 0x7ff0000000000000), (".Inf", 0x7ff0000000000000), (".INF", 0x7ff0000000000000),
    ("+.inf", 0x7ff0000000000000), ("+.Inf", 0x7ff0000000000000), ("+.INF", 0x7ff0000000000000),
    ("-.inf", 0xfff0000000000000), ("-.Inf", 0xfff0000000000000), ("-.INF", 0xfff0000000000000),
    (".nan", 0x7ff8000000000000), (".NaN", 0x7ff8000000000000), (".NAN", 0x7ff8000000000000)]

/-- The number that a text spells, with or without a fraction and an exponent. -/
def double? (cs : List Char) : Option UInt64 :=
  match specialWords.find? fun w => w.1.toList == cs with
  | some (_, bits) => some bits
  | none => (Numeral.double? cs).filter fun bits => BinaryFormat.double.isFinite bits.toNat

/-- What a plain scalar stands for. -/
def plain (cs : List Char) : Value :=
  let text := String.ofList cs
  if text = "" || nullWords.contains text then .null
  else
    match truth? text with
    | some b => .bool b
    | none =>
      match integer? cs with
      | some i => i
      | none =>
        match if isPaddedNumeral cs then none else double? cs with
        | some bits => .double bits
        | none => .text text

example : (integer? "0x1F".toList matches some (.integer false 31)) = true := by decide +kernel
example : (integer? "-0".toList matches some (.integer true 0)) = true := by decide +kernel
example : (integer? "012".toList).isNone = true ∧ isPaddedNumeral "012".toList = true := by
  decide +kernel

end ScadaBridge.Yaml

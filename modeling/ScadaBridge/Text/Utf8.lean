/-!
# UTF-8 and where it goes wrong

`Utf8.decode` turns bytes into text. When the bytes are not UTF-8 it says where: the length of the
longest part that is UTF-8, and how many bytes after it rule the text out, or that the bytes end
inside a character that was sound so far.
-/

namespace ScadaBridge.Utf8

/-- The first place where bytes are not UTF-8. -/
structure Fault where
  /-- The number of bytes before it, all of which are UTF-8. -/
  validLength : Nat
  /-- The length of the sequence at fault; none when the bytes end too early. -/
  faultLength : Option Nat
deriving DecidableEq, Repr

/-- The wording of a fault. -/
def Fault.message (fault : Fault) : String :=
  match fault.faultLength with
  | some n => s!"invalid utf-8 sequence of {n} bytes from index {fault.validLength}"
  | none => s!"incomplete utf-8 byte sequence from index {fault.validLength}"

/-- How many bytes follow the first byte of a character, and the bounds of the next one. The bounds
keep out overlong forms, surrogates and code points beyond the last plane. -/
def following (first : UInt8) : Option (Nat × UInt8 × UInt8) :=
  if first < 0x80 then some (0, 0x80, 0xBF)
  else if first < 0xC2 then none
  else if first < 0xE0 then some (1, 0x80, 0xBF)
  else if first = 0xE0 then some (2, 0xA0, 0xBF)
  else if first = 0xED then some (2, 0x80, 0x9F)
  else if first < 0xF0 then some (2, 0x80, 0xBF)
  else if first = 0xF0 then some (3, 0x90, 0xBF)
  else if first < 0xF4 then some (3, 0x80, 0xBF)
  else if first = 0xF4 then some (3, 0x80, 0x8F)
  else none

/-- Looks for the first fault. `start` is where the current character began, `read` how many of its
bytes were seen, `owed` how many must follow, the next of them between `low` and `high`. -/
def firstFault (start read owed : Nat) (low high : UInt8) : List UInt8 → Option Fault
  | [] => if owed = 0 then none else some ⟨start, none⟩
  | b :: rest =>
    match owed with
    | 0 =>
      match following b with
      | none => some ⟨start + read, some 1⟩
      | some (n, low', high') => firstFault (start + read) 1 n low' high' rest
    | n + 1 =>
      if low ≤ b && b ≤ high then firstFault start (read + 1) n 0x80 0xBF rest
      else some ⟨start, some read⟩

/-- The text that the bytes spell, or the first fault. -/
def decode (bytes : List UInt8) : Except Fault String :=
  match String.fromUTF8? bytes.toByteArray with
  | some text => .ok text
  | none => .error ((firstFault 0 0 0 0x80 0xBF bytes).getD ⟨0, none⟩)

def encode (text : String) : List UInt8 := text.toByteArray.toList

example : firstFault 0 0 0 0x80 0xBF [0x41, 0xE2, 0x82] = some ⟨1, none⟩ := by decide
example : firstFault 0 0 0 0x80 0xBF [0x0F, 0xA0] = some ⟨1, some 1⟩ := by decide
example : firstFault 0 0 0 0x80 0xBF [0xF0, 0x9F, 0x41] = some ⟨0, some 2⟩ := by decide

end ScadaBridge.Utf8

import ScadaBridge.Text.Hex
import ScadaBridge.Text.Unprintable

/-!
# Quoted text

Two ways to put a text between quotation marks: as a JSON string, and as a message quotes it, where
characters that do not show are written as code points.
-/

namespace ScadaBridge.Quoted

/-- One character inside a JSON string. -/
def jsonChar (c : Char) : List Char :=
  if c = '"' then ['\\', '"']
  else if c = '\\' then ['\\', '\\']
  else if c = '\x08' then ['\\', 'b']
  else if c = '\x0c' then ['\\', 'f']
  else if c = '\n' then ['\\', 'n']
  else if c = '\r' then ['\\', 'r']
  else if c = '\t' then ['\\', 't']
  else if c.toNat < 0x20 then '\\' :: 'u' :: Hex.padded 4 c.toNat
  else [c]

def json (text : String) : List Char :=
  '"' :: (text.toList.flatMap jsonChar ++ ['"'])

/-- One character between marks of the kind `mark` in a message. -/
def messageChar (mark : Char) (c : Char) : List Char :=
  if c = '\x00' then ['\\', '0']
  else if c = '\t' then ['\\', 't']
  else if c = '\r' then ['\\', 'r']
  else if c = '\n' then ['\\', 'n']
  else if c = '\\' || c = mark then ['\\', c]
  else if Unprintable.contains c then
    '\\' :: 'u' :: '\x7b' :: (Hex.padded 1 c.toNat ++ ['\x7d'])
  else [c]

/-- A text in double quotation marks, as messages quote it. -/
def message (text : String) : String :=
  String.ofList ('"' :: (text.toList.flatMap (messageChar '"') ++ ['"']))

/-- A character in single quotation marks, as messages quote it. -/
def messageOfChar (c : Char) : String :=
  String.ofList ('\'' :: (messageChar '\'' c ++ ['\'']))

example : json "a\"\n\x01é" = "\"a\\\"\\n\\u0001é\"".toList := by decide +kernel
example : message "a\"\x01" = "\"a\\\"\\u\x7b1\x7d\"" := by decide +kernel
example : messageOfChar '\'' = "'\\''" := by decide +kernel

end ScadaBridge.Quoted

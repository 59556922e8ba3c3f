import GlyphCanvas.Text.Invisible
import GlyphCanvas.Text.Extending

/-!
# Quoted text

`quoted` shows a text between double quotes on one line: quotes and backslashes are escaped,
and so is every character that could not be seen or that would merge with its neighbour.
-/

namespace GlyphCanvas.Text

/-- The lower-case hexadecimal digits of a number, without leading zeros. -/
def hexDigits (n : Nat) : List Char :=
  Nat.toDigits 16 n

/-- How one character is shown inside quotes. -/
def quotedChar (c : Char) : List Char :=
  if c = '"' then ['\\', '"']
  else if c = '\\' then ['\\', '\\']
  else if c = '\n' then ['\\', 'n']
  else if c = '\r' then ['\\', 'r']
  else if c = '\t' then ['\\', 't']
  else if c = '\x00' then ['\\', '0']
  else if isExtending c || isInvisible c then
    ['\\', 'u', '\x7b'] ++ hexDigits c.toNat ++ ['\x7d']
  else [c]

/-- A text between double quotes, with what is not plainly visible escaped. -/
def quoted (text : String) : String :=
  String.ofList ('"' :: text.toList.flatMap quotedChar ++ ['"'])

example : quoted "a\"b'c" = "\"a\\\"b'c\"" := by decide +kernel

end GlyphCanvas.Text

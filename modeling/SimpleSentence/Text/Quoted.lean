import SimpleSentence.Text.Unprintable
import SimpleSentence.Text.Basic

/-!
A text inside a message stands between double quotes. A quote and a backslash
are written after a backslash, the common controls by name, and a character
that a reader could not see by its code point in braces. No escape is the start
of another one, so the quoted form determines the text.
-/

namespace SimpleSentence.Text

/-- Lowercase hexadecimal without leading zeros. -/
def hexadecimal (number : Nat) : Text := Nat.toDigits 16 number

def escapeChar (char : Char) : Text :=
  if char = '"' || char = '\\' then ['\\', char]
  else if char = '\n' then ['\\', 'n']
  else if char = '\r' then ['\\', 'r']
  else if char = '\t' then ['\\', 't']
  else if char = '\x00' then ['\\', '0']
  else if isUnprintable char then
    ['\\', 'u', '\x7b'] ++ hexadecimal char.toNat ++ ['\x7d']
  else [char]

def escape : Text → Text
  | [] => []
  | char :: rest => escapeChar char ++ escape rest

def quote (text : Text) : Text := '"' :: (escape text ++ ['"'])

end SimpleSentence.Text

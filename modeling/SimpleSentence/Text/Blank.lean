import SimpleSentence.Text.Basic

/-!
Blank characters are those with the Unicode property White_Space. The zero
width space, the byte order mark and the information separators U+001C to
U+001F are outside it, so trimming leaves them where they are.
-/

namespace SimpleSentence.Text

def isBlank (char : Char) : Bool :=
  let code := char.toNat
  (9 ≤ code && code ≤ 13) || code == 0x20 || code == 0x85 || code == 0xA0 ||
    code == 0x1680 || (0x2000 ≤ code && code ≤ 0x200A) || code == 0x2028 ||
    code == 0x2029 || code == 0x202F || code == 0x205F || code == 0x3000

/-- Removes the characters of a class from the end. -/
def trimEndBy (drop : Char → Bool) (text : Text) : Text :=
  (text.reverse.dropWhile drop).reverse

/-- Removes the characters of a class from both ends. -/
def trimBy (drop : Char → Bool) (text : Text) : Text :=
  trimEndBy drop (text.dropWhile drop)

def trim (text : Text) : Text := trimBy isBlank text

def trimEnd (text : Text) : Text := trimEndBy isBlank text

/-- Whether nothing is left after trimming. -/
def blank (text : Text) : Bool := text.all isBlank

end SimpleSentence.Text

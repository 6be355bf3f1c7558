import SimpleSentence.Text.Combining
import SimpleSentence.Text.Ignorable
import SimpleSentence.Text.Unassigned

/-!
Characters that a reader of a message cannot see or tell apart: controls,
formats, separators other than the plain space and private use, by the
categories of Unicode 17; and what is combining, ignorable or unassigned.
-/

namespace SimpleSentence.Text

def formatRanges : Ranges :=
  [(0x7F, 0xA0), (0xAD, 0xAD), (0x600, 0x605), (0x61C, 0x61C), (0x6DD, 0x6DD), (0x70F, 0x70F),
   (0x890, 0x891), (0x8E2, 0x8E2), (0x1680, 0x1680), (0x180E, 0x180E), (0x2000, 0x200F),
   (0x2028, 0x202F), (0x205F, 0x2064), (0x2066, 0x206F), (0x3000, 0x3000), (0xE000, 0xF8FF),
   (0xFEFF, 0xFEFF), (0xFFF9, 0xFFFB), (0x110BD, 0x110BD), (0x110CD, 0x110CD), (0x13430, 0x1343F),
   (0x1BCA0, 0x1BCA3), (0x1D173, 0x1D17A), (0xE0001, 0xE0001), (0xE0020, 0xE007F),
   (0xF0000, 0xFFFFD), (0x100000, 0x10FFFD)]

/-- Every character from the plain space up to the tilde is printable. -/
def isUnprintable (char : Char) : Bool :=
  char.toNat < 0x20 ||
    (0x7F ≤ char.toNat &&
      (inRanges formatRanges char || isCombining char || isIgnorable char ||
        isUnassigned char))

end SimpleSentence.Text

import SimpleSentence.Text.Basic

/-!
A drawn line is a row of cells, each a character in a style. The plain and the
coloured form of a drawing are read off the same cells, so they show the same
characters in the same places; the coloured form only puts escape sequences
between runs of one style.
-/

namespace SimpleSentence.Snippet

inductive Style where
  | plain
  | strong
  | alarm
  | gutter
  deriving DecidableEq, Repr

structure Cell where
  char : Char
  style : Style
  deriving DecidableEq, Repr

abbrev Line := List Cell

def styled (style : Style) (text : Text) : Line := text.map fun char => ⟨char, style⟩

def spaces (count : Nat) : Line := List.replicate count ⟨' ', .plain⟩

/-- Writes cells over a line from a column on; a gap before them is filled with spaces. -/
def overlay (column : Nat) (cells line : Line) : Line :=
  let padded := line ++ spaces (column - line.length)
  padded.take column ++ cells ++ padded.drop (column + cells.length)

def ellipsis : Line := styled .gutter "...".toList

/-- Replaces the cells from one column up to another by dots, if the line reaches that far. -/
def elide (first past : Nat) (line : Line) : Line :=
  if first = past || line.length < first || line.length < past then line
  else line.take first ++ ellipsis ++ line.drop past

def escapeSequence (parameter : Text) : Text := '\x1b' :: '[' :: (parameter ++ ['m'])

def Style.opening : Style → Text
  | plain => []
  | strong => escapeSequence "1".toList
  | alarm => escapeSequence "1".toList ++ escapeSequence "91".toList
  | gutter => escapeSequence "1".toList ++ escapeSequence "94".toList

def Style.closing : Style → Text
  | plain => []
  | _ => escapeSequence "0".toList

def plainLine (line : Line) : Text := line.map Cell.char

/-- The rest of a line when the style in force is `current`; its end closes the style. -/
def colouredFrom (current : Style) : Line → Text
  | [] => current.closing
  | cell :: rest =>
      if cell.style = current then cell.char :: colouredFrom current rest
      else current.closing ++ cell.style.opening ++ cell.char :: colouredFrom cell.style rest

def colouredLine (line : Line) : Text := colouredFrom .plain line

def drawingText (coloured : Bool) (lines : List Line) : Text :=
  Text.joinWith ['\n'] (lines.map (if coloured then colouredLine else plainLine))

end SimpleSentence.Snippet

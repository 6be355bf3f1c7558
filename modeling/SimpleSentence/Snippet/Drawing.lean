import SimpleSentence.Snippet.Cell
import SimpleSentence.Snippet.Window

/-!
The drawing of one marked range: the message, the place if a path is known, and
the source line in a gutter with its number, the range underlined below it and
a note beside the underline. Characters that would disturb the drawing are
replaced by visible ones. The source line has one cell for each character, while
the underline counts terminal columns.
-/

namespace SimpleSentence.Snippet

structure Excerpt where
  message : Text
  note : Text
  source : Text
  path : Option Text
  range : Span
  deriving DecidableEq, Repr

/-- What is drawn for a character: a picture for a control, a replacement for a character
that changes the direction of writing, nothing for a joiner. -/
def pictureOf (char : Char) : Text :=
  let code := char.toNat
  if char = '\t' then [' ', ' ', ' ', ' ']
  else if code < 0x20 then [Char.ofNat (0x2400 + code)]
  else if code = 0x7F then ['\u2421']
  else if code = 0x200D then []
  else if Text.turnsDirection char then ['\uFFFD']
  else [char]

def picture (text : Text) : Text := text.flatMap pictureOf

-- A drawn source line, with the number of columns cut off at its left.
structure CodeLine where
  cells : Line
  cut : Nat
  deriving DecidableEq, Repr

/-- The shown part of a line. Dots stand over its first and last characters where something
is cut away on that side. -/
def codeLine (room : Nat) (window : Window) (text : Text) : CodeLine :=
  let length := Text.columns text
  let left := min window.left length
  let right := if length - window.left ≤ room then length else min length window.right
  let (dropped, kept) := dropColumns left 0 text
  let shown := takeColumns (right - left) kept
  let covered := if 0 < window.left then reachColumns 3 shown else []
  let start := Text.columns covered
  let rest := shown.drop covered.length
  let opened := if 0 < window.left then overlay 0 ellipsis [] else []
  let written := if rest.isEmpty then opened else overlay start (styled .plain rest) opened
  let cells :=
    if right < length then
      let last := (reachColumns 3 shown.reverse).length
      overlay (start + rest.length - last) ellipsis written
    else written
  ⟨cells, max left dropped⟩

namespace Excerpt

def titleLine (excerpt : Excerpt) : Line :=
  styled .alarm "error".toList ++ styled .strong (": ".toList ++ picture excerpt.message)

def placeLine (width : Nat) (position : Position) (path : Text) : Line :=
  spaces width ++ styled .gutter "--> ".toList ++
    styled .plain (path ++ ':' :: (Text.numeral position.line.number ++
      ':' :: Text.numeral position.column))

def bar : Line := styled .gutter ['|']

def emptyLine (width : Nat) : Line := spaces (width + 1) ++ bar

/-- The line number at the right edge of its columns, then the source line. -/
def sourceLine (width number : Nat) (code : Line) : Line :=
  let digits := Text.numeral number
  spaces (width - digits.length) ++ styled .gutter digits ++ spaces 1 ++ bar ++
    if code.isEmpty then [] else spaces 1 ++ code

/-- The underline and the note, at their columns less those cut off. -/
def underline (position : Position) (cut : Nat) (note : Text) : Line :=
  overlay (position.past + 1 - cut) (styled .alarm note)
    (overlay (position.first - cut)
      (styled .alarm (List.replicate (position.past - position.first) '^')) [])

/-- A range more than twice as wide as the room loses its middle, in the source line and in
the underline alike. -/
def shorten (room : Nat) (position : Position) (cut : Nat) (line : Line) : Line :=
  if 2 * room < position.past - position.first then
    elide (position.first + room / 3 - cut) (position.past - room / 3 - cut) line
  else line

def lines (excerpt : Excerpt) : List Line :=
  let position := locate excerpt.source excerpt.range
  let width := numberWidth excerpt.source excerpt.range
  let room := codeColumns width
  let extent : Extent :=
    { room := room
      indent := indentColumns position.line.text
      first := position.first
      past := position.past
      note := Text.columns excerpt.note + 1
      length := Text.columns position.line.text }
  let code := codeLine room extent.window (picture position.line.text)
  let shorter := shorten room position code.cut
  let place := match excerpt.path with
    | none => []
    | some path => [placeLine width position path]
  [excerpt.titleLine] ++ place ++
    [emptyLine width,
      sourceLine width position.line.number (shorter code.cells),
      emptyLine width ++ spaces 1 ++
        shorter (underline position code.cut excerpt.note)]

def render (coloured : Bool) (excerpt : Excerpt) : Text :=
  drawingText coloured excerpt.lines

end Excerpt

end SimpleSentence.Snippet

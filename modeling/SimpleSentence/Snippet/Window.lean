import SimpleSentence.Snippet.Source

/-!
The part of a long line that is shown. A drawing is at most 140 columns wide
with its gutter; a longer line is cut so that the marked range stays in view,
with its note if there is room, and some columns around it. Every subtraction
stops at zero.
-/

namespace SimpleSentence.Snippet

/-- The columns left for source text beside line numbers of some width. -/
def codeColumns (numberWidth : Nat) : Nat := 140 - (3 + numberWidth)

structure Window where
  left : Nat
  right : Nat
  deriving DecidableEq, Repr

-- What the choice of a window depends on, all in columns.
structure Extent where
  room : Nat
  indent : Nat
  first : Nat
  past : Nat
  note : Nat
  length : Nat
  deriving DecidableEq, Repr

/-- Columns kept around the indentation, the range and its note. -/
def margin : Nat := 6

/-- An indentation wider than 20 columns is shown as its last 16. -/
def Extent.start (extent : Extent) : Window :=
  let blank := min extent.indent extent.first - margin
  let left := if 20 < blank then blank - 16 else 0
  ⟨left, max extent.length left⟩

/-- From the indentation if the range and the note fit there, else around both, else around
the range alone, else the range with its margins. -/
def Extent.window (extent : Extent) : Window :=
  let start := extent.start
  let room := extent.room
  let blank := min extent.indent extent.first - margin
  let first := extent.first - margin
  let past := extent.past + margin
  let noted := extent.past + extent.note + margin
  if start.right - start.left ≤ room then start
  else if noted - blank ≤ room && blank ≤ noted then ⟨blank, blank + room⟩
  else if noted - first ≤ room then
    let left := first - (room - (noted - first)) / 2
    ⟨left, left + room⟩
  else if past - first ≤ room then
    let left := first - (room - (past - first)) / 5 * 2
    ⟨left, left + room⟩
  else ⟨first, past⟩

/-- Drops characters until their columns reach `left`; also the columns dropped. -/
def dropColumns (left dropped : Nat) : Text → Nat × Text
  | [] => (dropped, [])
  | char :: rest =>
      if dropped < left then dropColumns left (dropped + Text.columnsOf char) rest
      else (dropped, char :: rest)

/-- The longest beginning that fits in some columns. -/
def takeColumns (room : Nat) : Text → Text
  | [] => []
  | char :: rest =>
      if Text.columnsOf char ≤ room then
        char :: takeColumns (room - Text.columnsOf char) rest
      else []

/-- The shortest beginning whose columns reach a goal, or all of the text. -/
def reachColumns (goal : Nat) : Text → Text
  | [] => []
  | char :: rest =>
      if goal ≤ Text.columnsOf char then [char]
      else char :: reachColumns (goal - Text.columnsOf char) rest

end SimpleSentence.Snippet

import SimpleSentence.Text.Blank
import SimpleSentence.Text.Width
import SimpleSentence.Word

/-!
Where a range of bytes lies in a source text. The source is cut at its line
feeds; a carriage return right before one belongs to the line break, and a line
feed at the very end opens no further line. A range lies on the line in which
it starts, and on the last line if it starts at or past the end.
-/

namespace SimpleSentence.Snippet

structure SourceLine where
  number : Nat
  start : Nat
  text : Text
  stop : Nat
  deriving DecidableEq, Repr

/-- A line without its line break. -/
def withoutBreak (raw : Text) : Text :=
  match raw.reverse with
  | '\n' :: '\r' :: rest => rest.reverse
  | '\n' :: rest => rest.reverse
  | _ => raw

def sourceLinesFrom (number start : Nat) : List Text → List SourceLine
  | [] => []
  | raw :: rest =>
      let stop := start + Text.byteLength raw
      ⟨number, start, withoutBreak raw, stop⟩ :: sourceLinesFrom (number + 1) stop rest

def sourceLines (source : Text) : List SourceLine :=
  sourceLinesFrom 1 0 (Text.linesOf source)

/-- The first line that ends after an offset, else the last one. -/
def lineAt (offset : Nat) : List SourceLine → SourceLine
  | [] => ⟨1, 0, [], 0⟩
  | [only] => only
  | line :: next :: rest => if offset < line.stop then line else lineAt offset (next :: rest)

-- A range on its line: terminal columns from 0, the character column from 1.
structure Position where
  line : SourceLine
  first : Nat
  past : Nat
  column : Nat
  deriving DecidableEq, Repr

/-- The part of a line before an offset of the source. -/
def SourceLine.before (line : SourceLine) (offset : Nat) : Text :=
  Text.takeBytes (offset - line.start) line.text

/-- A range without columns of its own still covers one. A start inside the line break is
counted as one character further than the end of the line. -/
def locate (source : Text) (range : Span) : Position :=
  let line := lineAt range.start (sourceLines source)
  let lead := line.before range.start
  let first := Text.columns lead
  let past := Text.columns (line.before range.stop)
  let inBreak := Text.byteLength line.text < range.start - line.start
  { line := line
    first := first
    past := if past ≤ first then first + 1 else past
    column := lead.length + 1 + if inBreak then 1 else 0 }

/-- The digits that the line numbers of a range take. -/
def numberWidth (source : Text) (range : Span) : Nat :=
  let before := Text.takeBytes range.stop source
  let whole := match before.reverse with
    | '\n' :: rest => rest
    | reversed => reversed
  (Text.numeral (1 + whole.count '\n')).length

/-- Leading blanks of a line in columns; a blank line counts as having none. -/
def indentColumns (text : Text) : Nat :=
  if Text.blank text then 0
  else (text.takeWhile Text.isBlank).foldl
    (fun sum char => sum + if char = '\t' then 4 else 1) 0

end SimpleSentence.Snippet

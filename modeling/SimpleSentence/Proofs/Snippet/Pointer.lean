import SimpleSentence.Proofs.Snippet.Shown

/-!
What a drawing is made of: its message, the place if a path is known, lines that point
into the source, and the note. What is cut off a long line at its left never reaches the
marked range, so the marks keep their width, the note stands one column behind them,
and shortening the marks leaves the note where it is.
-/

namespace SimpleSentence

theorem Text.columnsOf_le (char : Char) : columnsOf char ≤ 4 := by
  unfold columnsOf
  repeat' split
  all_goals decide

namespace Snippet

/-! ### What is cut off -/

theorem dropColumns_zero (text : Text) : dropColumns 0 0 text = (0, text) := by
  cases text <;> rfl

-- The last character dropped may reach a few columns past the goal.
theorem dropColumns_le {left dropped : Nat} (text : Text) (begun : dropped ≤ left + 3) :
    (dropColumns left dropped text).1 ≤ left + 3 := by
  induction text generalizing dropped with
  | nil => exact begun
  | cons char rest ih =>
      have wide := Text.columnsOf_le char
      rw [dropColumns]
      split
      · exact ih (by omega)
      · exact begun

theorem window_left_le (extent : Extent) : extent.window.left ≤ extent.first - margin := by
  have start : extent.start.left ≤ extent.first - margin := by
    simp only [Extent.start]
    split <;> omega
  simp only [Extent.window]
  split
  · exact start
  · split
    · show min extent.indent extent.first - margin ≤ extent.first - margin
      omega
    · split
      · exact Nat.sub_le _ _
      · split
        · exact Nat.sub_le _ _
        · exact Nat.le_refl _

/-- The marked range begins in the part of the line that is shown. -/
theorem cut_le_first (room : Nat) (extent : Extent) (text : Text) :
    (codeLine room extent.window text).cut ≤ extent.first := by
  have bound := window_left_le extent
  rw [margin] at bound
  generalize extent.window = window at bound
  show max (min window.left (Text.columns text))
    (dropColumns (min window.left (Text.columns text)) 0 text).1 ≤ extent.first
  by_cases whole : min window.left (Text.columns text) = 0
  · rw [whole, dropColumns_zero]
    exact Nat.zero_le _
  · have dropped := @dropColumns_le (min window.left (Text.columns text)) 0 text (Nat.zero_le _)
    omega

/-! ### The marks and the note -/

section Line

variable {cells line : Line}

theorem overlay_behind {column : Nat} (short : line.length ≤ column) :
    overlay column cells line = line ++ spaces (column - line.length) ++ cells := by
  have long : (line ++ spaces (column - line.length)).length = column := by
    rw [List.length_append, spaces, List.length_replicate]
    omega
  simp only [overlay]
  rw [List.take_of_length_le (Nat.le_of_eq long), List.drop_eq_nil_of_le (by omega),
    List.append_nil]

theorem elide_append {first past : Nat} (begun : first ≤ line.length) (ended : past ≤ line.length) :
    elide first past (line ++ cells) = elide first past line ++ cells := by
  unfold elide
  by_cases same : first = past
  · simp [same]
  · have short : ¬ line.length < first ∧ ¬ line.length < past := by omega
    have shorter : ¬ (line ++ cells).length < first ∧ ¬ (line ++ cells).length < past := by
      rw [List.length_append]
      omega
    simp only [same, short, shorter, decide_false, Bool.or_self, Bool.false_eq_true, ↓reduceIte]
    rw [List.take_append_of_le_length begun, List.drop_append_of_le_length ended]
    exact (List.append_assoc _ _ _).symm

end Line

namespace Excerpt

/-- The marks below the source line, in front of the note. -/
def marks (position : Position) (cut : Nat) : Line :=
  spaces (position.first - cut) ++ styled .alarm (List.replicate (position.past - position.first) '^')

section Marks

variable {position : Position} {cut : Nat} (wide : position.first < position.past)
  (shown : cut ≤ position.first)
include wide shown

theorem length_marks : (marks position cut).length = position.past - cut := by
  simp only [marks, spaces, styled, List.length_append, List.length_replicate, List.length_map]
  omega

theorem underline_eq (note : Text) :
    underline position cut note = marks position cut ++ (spaces 1 ++ styled .alarm note) := by
  have length := length_marks wide shown
  have gap : position.past + 1 - cut - (marks position cut).length = 1 := by omega
  have under : overlay (position.first - cut)
      (styled .alarm (List.replicate (position.past - position.first) '^')) [] =
      marks position cut := by
    rw [overlay_behind (Nat.zero_le _)]
    rfl
  rw [underline, under, overlay_behind (by omega), gap, List.append_assoc]

theorem shorten_underline (room : Nat) (note : Text) :
    shorten room position cut (underline position cut note) =
      shorten room position cut (marks position cut) ++ (spaces 1 ++ styled .alarm note) := by
  have length := length_marks wide shown
  rw [underline_eq wide shown]
  unfold shorten
  split
  · exact elide_append (by omega) (by omega)
  · rfl

end Marks

/-- The marks, shortened or not, are blanks, carets and dots. -/
theorem char_of_mem_marks {room : Nat} {position : Position} {cut : Nat} {cell : Cell}
    (member : cell ∈ shorten room position cut (marks position cut)) :
    cell.char ∈ [' ', '^', '.'] := by
  have own {cell : Cell} (member : cell ∈ marks position cut) : cell.char ∈ [' ', '^', '.'] := by
    rcases List.mem_append.mp member with space | caret
    · rw [(List.mem_replicate.mp space).2]
      decide
    · obtain ⟨char, listed, rfl⟩ := List.mem_map.mp caret
      rw [(List.mem_replicate.mp listed).2]
      decide
  unfold shorten elide at member
  split at member
  · split at member
    · exact own member
    · rcases List.mem_append.mp member with front | behind
      · rcases List.mem_append.mp front with before | dot
        · exact own (List.mem_of_mem_take before)
        · obtain ⟨char, listed, rfl⟩ := List.mem_map.mp dot
          have isDot : char = '.' := by simpa using listed
          rw [isDot]
          decide
      · exact own (List.mem_of_mem_drop behind)
  · exact own member

end Excerpt

/-! ### The lines between the message and the note -/

theorem plainLine_append (line cells : Line) :
    plainLine (line ++ cells) = plainLine line ++ plainLine cells := List.map_append

theorem plainLine_styled (style : Style) (text : Text) : plainLine (styled style text) = text := by
  simp [plainLine, styled, Function.comp_def]

theorem plainLine_spaces (count : Nat) : plainLine (spaces count) = List.replicate count ' ' :=
  List.map_replicate

theorem drawingText_cons (line next : Line) (rest : List Line) :
    drawingText false (line :: next :: rest) =
      plainLine line ++ '\n' :: drawingText false (next :: rest) := List.append_assoc _ ['\n'] _

theorem plainLine_sourceLine (width number : Nat) (code : Line) :
    plainLine (Excerpt.sourceLine width number code) =
      List.replicate (width - (Text.numeral number).length) ' ' ++ Text.numeral number ++
        " |".toList ++ if (plainLine code).isEmpty then [] else ' ' :: plainLine code := by
  have empty : (plainLine code).isEmpty = code.isEmpty := List.isEmpty_map
  simp only [Excerpt.sourceLine, plainLine_append, plainLine_styled, plainLine_spaces, Excerpt.bar]
  rw [empty, List.append_assoc _ (List.replicate 1 ' ')]
  cases code with
  | nil => rfl
  | cons cell rest => rfl

/-- Lines that point into a source: an empty one, a line of the source with its number, and the
marks below it with a blank behind them. -/
structure Pointer where
  width : Nat
  number : Nat
  code : Text
  marks : Text
  drawn : ∀ char ∈ marks, char ∈ [' ', '^', '.']

namespace Pointer

def gutter (pointer : Pointer) : Text := List.replicate (pointer.width + 1) ' ' ++ ['|']

def sourceLine (pointer : Pointer) : Text :=
  let digits := Text.numeral pointer.number
  List.replicate (pointer.width - digits.length) ' ' ++ digits ++ " |".toList ++
    if pointer.code.isEmpty then [] else ' ' :: pointer.code

def text (pointer : Pointer) : Text :=
  pointer.gutter ++ '\n' :: (pointer.sourceLine ++ '\n' ::
    (pointer.gutter ++ ' ' :: (pointer.marks ++ [' '])))

end Pointer

namespace Excerpt

variable (excerpt : Excerpt)

/-! ### The parts of a drawing -/

def position : Position := locate excerpt.source excerpt.range

def width : Nat := numberWidth excerpt.source excerpt.range

def room : Nat := codeColumns excerpt.width

def extent : Extent :=
  { room := excerpt.room
    indent := indentColumns excerpt.position.line.text
    first := excerpt.position.first
    past := excerpt.position.past
    note := Text.columns excerpt.note + 1
    length := Text.columns excerpt.position.line.text }

def code : CodeLine :=
  codeLine excerpt.room excerpt.extent.window (picture excerpt.position.line.text)

/-- A line of the drawing that reaches over the marked range, shortened with it. -/
def shortened (line : Line) : Line :=
  shorten excerpt.room excerpt.position excerpt.code.cut line

theorem lines_eq :
    excerpt.lines = excerpt.titleLine ::
      (excerpt.path.toList.map (placeLine excerpt.width excerpt.position) ++
        [emptyLine excerpt.width,
          sourceLine excerpt.width excerpt.position.line.number
            (excerpt.shortened excerpt.code.cells),
          emptyLine excerpt.width ++ spaces 1 ++
            excerpt.shortened (underline excerpt.position excerpt.code.cut excerpt.note)]) := by
  rw [lines]
  cases excerpt.path <;> rfl

theorem wide : excerpt.position.first < excerpt.position.past := locate_first_lt_past _ _

theorem cut_le : excerpt.code.cut ≤ excerpt.position.first :=
  cut_le_first excerpt.room excerpt.extent _

def pointer : Pointer :=
  { width := excerpt.width
    number := excerpt.position.line.number
    code := plainLine (excerpt.shortened excerpt.code.cells)
    marks := plainLine (excerpt.shortened (marks excerpt.position excerpt.code.cut))
    drawn := by
      intro char member
      obtain ⟨cell, inside, rfl⟩ := List.mem_map.mp member
      exact char_of_mem_marks inside }

/-- The place below the message, if a path is known. -/
def place : Text :=
  match excerpt.path with
  | none => []
  | some path =>
      '\n' :: (List.replicate excerpt.width ' ' ++ "--> ".toList ++
        (path ++ ':' :: (Text.numeral excerpt.position.line.number ++
          ':' :: Text.numeral excerpt.position.column)))

/-- A drawing is its message, its place, lines that point into the source, and the note. -/
theorem drawing_eq :
    drawingText false excerpt.lines =
      plainLine excerpt.titleLine ++ excerpt.place ++
        '\n' :: (excerpt.pointer.text ++ excerpt.note) := by
  let first := emptyLine excerpt.width
  let second := sourceLine excerpt.width excerpt.position.line.number
    (excerpt.shortened excerpt.code.cells)
  let third := emptyLine excerpt.width ++ spaces 1 ++
    excerpt.shortened (underline excerpt.position excerpt.code.cut excerpt.note)
  have gutter : plainLine first = excerpt.pointer.gutter := by
    rw [show first = emptyLine excerpt.width from rfl, emptyLine, plainLine_append,
      plainLine_spaces, bar, plainLine_styled]
    rfl
  have source : plainLine second = excerpt.pointer.sourceLine := plainLine_sourceLine _ _ _
  have under : plainLine third =
      excerpt.pointer.gutter ++ ' ' :: (excerpt.pointer.marks ++ ' ' :: excerpt.note) := by
    have marked := shorten_underline excerpt.wide excerpt.cut_le excerpt.room excerpt.note
    rw [show third = first ++ spaces 1 ++ _ from rfl, shortened, marked, plainLine_append,
      plainLine_append, plainLine_append, plainLine_append, plainLine_styled, gutter,
      List.append_assoc]
    rfl
  have below : drawingText false [first, second, third] = excerpt.pointer.text ++ excerpt.note := by
    have single : drawingText false [third] = plainLine third := rfl
    rw [drawingText_cons, drawingText_cons, single, gutter, source, under, Pointer.text]
    simp only [List.append_assoc, List.cons_append, List.nil_append]
  cases known : excerpt.path with
  | none =>
      have lines : excerpt.lines = [excerpt.titleLine, first, second, third] := by
        rw [lines_eq, known]
        rfl
      rw [lines, drawingText_cons, below, place, known, List.append_nil]
  | some path =>
      let placed := placeLine excerpt.width excerpt.position path
      have lines : excerpt.lines = [excerpt.titleLine, placed, first, second, third] := by
        rw [lines_eq, known]
        rfl
      have own : excerpt.place = '\n' :: plainLine placed := by
        rw [place, known, show placed = placeLine _ _ _ from rfl, placeLine, plainLine_append,
          plainLine_append, plainLine_spaces, plainLine_styled, plainLine_styled]
      rw [lines, drawingText_cons, drawingText_cons, below, own, List.append_assoc, List.cons_append]

theorem drawing_unplaced (unplaced : excerpt.path = none) :
    ∃ pointer : Pointer, drawingText false excerpt.lines =
      plainLine excerpt.titleLine ++ '\n' :: (pointer.text ++ excerpt.note) := by
  refine ⟨excerpt.pointer, ?_⟩
  rw [drawing_eq, place, unplaced, List.append_nil]

end Excerpt

end Snippet

end SimpleSentence

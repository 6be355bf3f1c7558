import SimpleSentence.Csv.Writer

/-!
The ways of writing a table down. Any field may stand in quotes, and a field
that has no comma and no line end and does not begin with a quote may stand
bare. Rows are parted by any of three line ends, empty lines may stand before a
row, and the last row need not be ended. The writer makes one of these layouts.
-/

namespace SimpleSentence.Csv

/-- Whether a field is read back without quotes around it. -/
def canStandBare (field : Text) : Bool :=
  field.head? != some '"' && field.all fun char => char != ',' && char != '\n' && char != '\r'

-- A field and how it is written.
structure Field where
  text : Text
  quoted : Bool
  fits : quoted = true ∨ canStandBare text = true

def Field.written (field : Field) : Text :=
  if field.quoted then '"' :: (doubleQuotes field.text ++ ['"']) else field.text

inductive LineEnd where
  | feed
  | carriage
  | both
  deriving DecidableEq, Repr

def LineEnd.text : LineEnd → Text
  | feed => ['\n']
  | carriage => ['\r']
  | both => ['\r', '\n']

-- A row without its own end, and the empty lines before it.
structure Line where
  empty : List LineEnd
  fields : List Field

namespace Line

def texts (line : Line) : List Text := line.fields.map Field.text

def body (line : Line) : Text := Text.joinWith [','] (line.fields.map Field.written)

def written (line : Line) : Text := line.empty.flatMap LineEnd.text ++ line.body

end Line

-- Every row stands behind the end of the line before it.
structure Layout where
  marked : Bool
  header : Line
  rows : List (LineEnd × Line)
  ends : List LineEnd

namespace Layout

def written (layout : Layout) : Text :=
  layout.header.written ++
    layout.rows.flatMap (fun row => row.1.text ++ row.2.written) ++
    layout.ends.flatMap LineEnd.text

/-- The bytes of a layout, behind a byte order mark if it is marked. -/
def bytes (layout : Layout) : Bytes :=
  (if layout.marked then byteOrderMark else []) ++ Utf8.encode layout.written

def columns (layout : Layout) : List Text := layout.header.texts

def table (layout : Layout) : List (List Text) := layout.rows.map fun row => row.2.texts

end Layout

-- A field that the writer leaves bare has no quote at all, so it begins with none.
theorem canStandBare_of_plain {field : Text} (plain : needsQuotes field = false) :
    canStandBare field = true := by
  have other : ∀ char ∈ field, char ≠ ',' ∧ char ≠ '"' ∧ char ≠ '\r' ∧ char ≠ '\n' := by
    intro char member
    have none := List.any_eq_false.mp plain char member
    simpa [and_assoc] using none
  have head : field.head? ≠ some '"' := by
    intro first
    exact (other '"' (List.mem_of_mem_head? first)).2.1 rfl
  have inside : ∀ char ∈ field, char ≠ ',' ∧ char ≠ '\n' ∧ char ≠ '\r' := by
    intro char member
    rcases other char member with ⟨comma, _, carriage, feed⟩
    exact ⟨comma, feed, carriage⟩
  simpa [canStandBare, and_assoc] using ⟨head, inside⟩

/-- A field as the writer writes it. -/
def Field.plain (text : Text) : Field :=
  { text := text
    quoted := needsQuotes text
    fits := by
      cases plain : needsQuotes text with
      | true => exact .inl rfl
      | false => exact .inr (canStandBare_of_plain plain) }

def Line.plain (row : List Text) : Line := ⟨[], row.map Field.plain⟩

/-- The layout that the writer makes of a table. -/
def Layout.plain (columns : List Text) (table : List (List Text)) : Layout :=
  { marked := false
    header := .plain columns
    rows := table.map fun row => (.feed, .plain row)
    ends := [.feed] }

theorem Line.texts_plain (row : List Text) : (Line.plain row).texts = row := by
  simp [Line.plain, Line.texts, Field.plain, Function.comp_def]

theorem Line.written_plain (row : List Text) :
    (Line.plain row).written ++ ['\n'] = writeRow row := by
  have fields : (row.map Field.plain).map Field.written = row.map writeField := by
    rw [List.map_map]
    rfl
  simp only [Line.plain, Line.written, Line.body, fields, List.flatMap_nil, List.nil_append,
    writeRow]

theorem Layout.written_plain (columns : List Text) (table : List (List Text)) :
    (Layout.plain columns table).written = writeRows (columns :: table) := by
  induction table generalizing columns with
  | nil => simpa [Layout.plain, Layout.written, LineEnd.text, writeRows] using
      Line.written_plain columns
  | cons row rest ih =>
      have later := ih row
      rw [writeRows, ← Line.written_plain columns, ← later]
      simp [Layout.plain, Layout.written, LineEnd.text]

theorem Layout.bytes_plain (columns : List Text) (table : List (List Text)) :
    (Layout.plain columns table).bytes = Utf8.encode (writeRows (columns :: table)) := by
  rw [← written_plain]
  rfl

theorem Layout.columns_plain (columns : List Text) (table : List (List Text)) :
    (Layout.plain columns table).columns = columns := Line.texts_plain columns

theorem Layout.table_plain (columns : List Text) (table : List (List Text)) :
    (Layout.plain columns table).table = table := by
  simp [Layout.plain, Layout.table, Line.texts_plain, Function.comp_def]

end SimpleSentence.Csv

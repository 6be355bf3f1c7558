import SimpleSentence.Proofs.Csv.Decoding
import SimpleSentence.Proofs.Lexicon.Invariant
import SimpleSentence.Proofs.Lexicon.Reads

/-!
Loading a lexicon from any layout of a table. What is asked for is the lexicon
of the cells below two header cells, said without numbers of columns. The lines
that leave no row behind would have been records with an empty word, which no
lexicon keeps, so it does not matter that they are not read.
-/

namespace SimpleSentence.Lexicon

/-- Whether a header cell has one of the names, its outer blanks aside. -/
def named (names : List Text) (cell : Text) : Bool :=
  names.any (Text.sameAscii (Text.trim cell))

/-- The cell of a row below the first header cell with one of the names. Where the row
is too short for it, the cell is empty. -/
def cellUnder (names : List Text) : List Text → List Text → Text
  | [], _ => []
  | cell :: columns, row =>
      if named names cell then row.headD [] else cellUnder names columns row.tail

def recordUnder (columns row : List Text) : Record :=
  ⟨cellUnder [wordColumn] columns row, cellUnder markingColumns columns row⟩

theorem getD_findIdx (names : List Text) {columns : List Text} (row : List Text)
    (held : ∃ cell ∈ columns, named names cell = true) :
    row.getD (columns.findIdx (named names)) [] = cellUnder names columns row := by
  induction columns generalizing row with
  | nil =>
      rcases held with ⟨cell, member, _⟩
      cases member
  | cons first others ih =>
      by_cases here : named names first = true
      · rw [List.findIdx_cons, here, cellUnder, if_pos here]
        cases row <;> rfl
      · have later : ∃ cell ∈ others, named names cell = true := by
          rcases held with ⟨cell, member, carries⟩
          rcases List.mem_cons.mp member with rfl | inside
          · exact absurd carries here
          · exact ⟨cell, inside, carries⟩
        have absent : named names first = false := Bool.eq_false_iff.mpr here
        rw [List.findIdx_cons, absent, cellUnder, if_neg here, ← ih row.tail later]
        cases row <;> simp

theorem column?_trim {names columns : List Text}
    (held : ∃ cell ∈ columns, named names cell = true) :
    column? names (columns.map Text.trim) = some (columns.findIdx (named names)) := by
  rw [column?, List.findIdx?_map]
  exact List.findIdx?_eq_some_of_exists held

theorem columnsOf_trim {columns : List Text}
    (word : ∃ cell ∈ columns, named [wordColumn] cell = true)
    (marking : ∃ cell ∈ columns, named markingColumns cell = true) :
    columnsOf (columns.map Text.trim) =
      .ok ⟨columns.findIdx (named [wordColumn]), columns.findIdx (named markingColumns)⟩ := by
  rw [columnsOf, column?_trim word, column?_trim marking]

/-- Loading rows that are the encodings of texts. -/
theorem load_of_scan {bytes : Bytes} {header : List Text} {cells : List (List Text)}
    {columns : Columns}
    (read : (Csv.scan bytes).table = (header :: cells).map (List.map Utf8.encode))
    (found : columnsOf (header.map Text.trim) = .ok columns) :
    load ⟨bytes, none⟩ = .ok (ofRecords (cells.map columns.record)) := by
  have whole : Input.cause? ⟨bytes, none⟩ = none := ite_self none
  have delivered : Input.delivered ⟨bytes, none⟩ = Csv.records bytes := by
    rw [Input.delivered, whole]
  have fields := Csv.placeRows_fields .first (Csv.records bytes)
  have table : (Csv.records bytes).map Csv.Row.fields =
      (header :: cells).map (List.map Utf8.encode) := read
  rw [table, List.map_cons] at fields
  rw [load_eq_loadWhole, loadWhole, delivered, whole]
  cases placed : Csv.placeRows .first (Csv.records bytes) with
  | nil =>
      rw [placed] at fields
      cases fields
  | cons first data =>
      rw [placed, List.map_cons, List.cons.injEq] at fields
      have columnsFound : loadHeader first = .ok columns := by
        rw [loadHeader, Csv.decodeRow_of_fields fields.1]
        exact found
      rw [loadRows, columnsFound, Csv.decodeRows_of_fields fields.2]

theorem cellUnder_empty (names columns : List Text) {row : List Text}
    (empty : ∀ cell ∈ row, cell = []) : cellUnder names columns row = [] := by
  induction columns generalizing row with
  | nil => rfl
  | cons first others ih =>
      rw [cellUnder]
      split
      · cases row with
        | nil => rfl
        | cons cell rest => exact empty cell List.mem_cons_self
      · exact ih fun cell member => empty cell (List.mem_of_mem_tail member)

-- Induction on the rows; a row that is not kept stands for no entry.
theorem foldl_insert_kept (columns : List Text) (rows : List (Csv.LineEnd × Csv.Line))
    (lexicon : Lexicon) :
    ((rows.flatMap fun row => row.2.kept).map (recordUnder columns)).foldl insert lexicon =
      ((rows.map fun row => row.2.texts).map (recordUnder columns)).foldl insert lexicon := by
  induction rows generalizing lexicon with
  | nil => rfl
  | cons row rest ih =>
      by_cases empty : row.2.body = []
      · have cells := Csv.Line.texts_of_body_empty empty
        have record : recordUnder columns row.2.texts = ⟨[], []⟩ := by
          rw [recordUnder, cellUnder_empty _ _ cells, cellUnder_empty _ _ cells]
        have skipped : lexicon.insert ⟨[], []⟩ = lexicon := insert_of_none rfl
        rw [List.flatMap_cons, Csv.Line.kept_of_empty empty, List.nil_append, ih, List.map_cons, List.map_cons,
          List.foldl_cons, record, skipped]
      · rw [List.flatMap_cons, Csv.Line.kept_of_filled empty]
        exact ih (lexicon.insert (recordUnder columns row.2.texts))

-- A line with nothing on it has no cell with a name.
theorem body_of_named {layout : Csv.Layout}
    (word : ∃ cell ∈ layout.columns, named [wordColumn] cell = true) :
    layout.header.body ≠ [] := by
  intro empty
  rcases word with ⟨cell, member, isWord⟩
  rw [Csv.Line.texts_of_body_empty empty cell member] at isWord
  cases isWord

/-- What a layout is loaded as, from the rows that leave something on their line. -/
theorem load_kept {layout : Csv.Layout}
    (unmarked : ∀ cell ∈ layout.columns, cell.head? ≠ some '\uFEFF')
    (word : ∃ cell ∈ layout.columns, named [wordColumn] cell = true)
    (marking : ∃ cell ∈ layout.columns, named markingColumns cell = true) :
    load ⟨layout.bytes, none⟩ =
      .ok (ofRecords (layout.kept.map (recordUnder layout.columns))) := by
  have read := Csv.Layout.scan_eq_kept (body_of_named word) unmarked
  have loaded := load_of_scan read (columnsOf_trim word marking)
  have record : Columns.record ⟨layout.columns.findIdx (named [wordColumn]),
      layout.columns.findIdx (named markingColumns)⟩ = recordUnder layout.columns := by
    funext row
    rw [Columns.record, getD_findIdx _ row word, getD_findIdx _ row marking]
    rfl
  rw [loaded, record]

theorem ofRecords_kept (layout : Csv.Layout) :
    ofRecords (layout.kept.map (recordUnder layout.columns)) =
      ofRecords (layout.table.map (recordUnder layout.columns)) :=
  foldl_insert_kept layout.columns layout.rows empty

/-- However a table is laid out, the lexicon loaded from it is the lexicon of the cells
below its word column and its marking column. -/
theorem load_layout (layout : Csv.Layout)
    (unmarked : ∀ cell ∈ layout.columns, cell.head? ≠ some '\uFEFF')
    (word : ∃ cell ∈ layout.columns, named [wordColumn] cell = true)
    (marking : ∃ cell ∈ layout.columns, named markingColumns cell = true) :
    load ⟨layout.bytes, none⟩ =
      .ok (ofRecords (layout.table.map (recordUnder layout.columns))) := by
  rw [load_kept unmarked word marking, ofRecords_kept]

-- Every freedom at once: a mark, quotes or none, blanks around names, a second word column,
-- three line ends, empty lines, short rows, and a last row that nothing ends.
def mixedLayout : Csv.Layout :=
  { marked := true
    header := ⟨[.carriage], [.plain "Count".toList, ⟨" WORD".toList, true, .inl rfl⟩,
      .plain "Raw_Pos ".toList, .plain "word".toList]⟩
    rows :=
      [(.both, ⟨[.feed], [.plain "1".toList, ⟨"Dog".toList, true, .inl rfl⟩,
        .plain "n., \"pl.\"\r\n".toList, .plain "cat".toList]⟩),
       (.carriage, ⟨[], [.plain "2".toList, .plain "ran".toList]⟩),
       (.feed, ⟨[], []⟩),
       (.carriage, ⟨[.both], [.plain [], .plain "Sat".toList, ⟨"imp.\"".toList, false, by decide⟩]⟩),
       (.feed, ⟨[], [⟨[], true, .inl rfl⟩, .plain "DOG".toList, .plain "v.".toList]⟩)]
    ends := [] }

theorem mixedLayout_loaded :
    (∀ cell ∈ mixedLayout.columns, cell.head? ≠ some '\uFEFF') ∧
      (∃ cell ∈ mixedLayout.columns, named [wordColumn] cell = true) ∧
      (∃ cell ∈ mixedLayout.columns, named markingColumns cell = true) ∧
      load ⟨mixedLayout.bytes, none⟩ =
        .ok ⟨[⟨"dog".toList, "n., \"pl.\"".toList, .noun⟩,
          ⟨"sat".toList, "imp.\"".toList, .verb⟩]⟩ := by
  have unmarked : ∀ cell ∈ mixedLayout.columns, cell.head? ≠ some '\uFEFF' := by decide
  have word : ∃ cell ∈ mixedLayout.columns, named [wordColumn] cell = true := by decide
  have marking : ∃ cell ∈ mixedLayout.columns, named markingColumns cell = true := by decide
  have entries : ofRecords (mixedLayout.table.map (recordUnder mixedLayout.columns)) =
      ⟨[⟨"dog".toList, "n., \"pl.\"".toList, .noun⟩,
        ⟨"sat".toList, "imp.\"".toList, .verb⟩]⟩ := by decide +kernel
  have loaded := load_layout mixedLayout unmarked word marking
  rw [entries] at loaded
  exact ⟨unmarked, word, marking, loaded⟩

end SimpleSentence.Lexicon

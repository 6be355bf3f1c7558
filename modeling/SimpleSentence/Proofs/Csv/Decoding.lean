import SimpleSentence.Proofs.Csv.Reading

/-!
The rows of a layout as texts. Every field that is read is the encoding of its
text, so decoding cannot fail. A line with nothing on it makes no row; its row
in the table held nothing but empty fields. The header's own cells decide
whether a layout without a byte order mark could be taken for one with it.
-/

namespace SimpleSentence.Csv

theorem placeRows_fields (place : Place) (rows : List Row) :
    (placeRows place rows).map (fun placed => placed.2.fields) = rows.map Row.fields := by
  induction rows generalizing place with
  | nil => rfl
  | cons row rest ih => exact congrArg (List.cons row.fields) (ih (place.after row))

theorem decodeFields_encode (place : Place) (field : Nat) (texts : List Text) :
    decodeFields place field (texts.map Utf8.encode) = .ok texts := by
  induction texts generalizing field with
  | nil => rfl
  | cons text rest ih => rw [List.map_cons, decodeFields, Utf8.decode_encode, ih]

theorem decodeRow_of_fields {placed : Place × Row} {texts : List Text}
    (fields : placed.2.fields = texts.map Utf8.encode) : decodeRow placed = .ok texts := by
  rw [decodeRow, fields, decodeFields_encode]

theorem decodeRows_of_fields {placed : List (Place × Row)} {table : List (List Text)}
    (fields : placed.map (fun row => row.2.fields) = table.map (List.map Utf8.encode)) :
    decodeRows placed = .ok table := by
  induction placed generalizing table with
  | nil =>
      cases table with
      | nil => rfl
      | cons texts others => cases fields
  | cons row rest ih =>
      cases table with
      | nil => cases fields
      | cons texts others =>
          rw [List.map_cons, List.map_cons, List.cons.injEq] at fields
          rw [decodeRows, decodeRow_of_fields fields.1, ih fields.2]

theorem parts_empty {parts : List Text} (empty : Text.joinWith [','] parts = []) :
    ∀ part ∈ parts, part = [] := by
  cases parts with
  | nil => exact fun _ member => nomatch member
  | cons first others =>
      cases others with
      | nil =>
          intro part member
          rw [List.mem_singleton.mp member]
          exact empty
      | cons second more =>
          rw [Text.joinWith] at empty
          · simp at empty
          · simp

-- Quotes would be something on the line.
theorem Field.text_of_written_empty {field : Field} (empty : field.written = []) :
    field.text = [] := by
  rcases field with ⟨text, quoted, fits⟩
  cases quoted with
  | true => cases empty
  | false => exact empty

namespace Line

theorem texts_of_body_empty {line : Line} (empty : line.body = []) :
    ∀ text ∈ line.texts, text = [] := by
  intro text member
  rcases List.mem_map.mp member with ⟨field, inside, rfl⟩
  exact Field.text_of_written_empty
    (parts_empty empty field.written (List.mem_map_of_mem inside))

end Line

theorem mark_not_mem_ends (endings : List LineEnd) :
    '\uFEFF' ∉ endings.flatMap LineEnd.text := by
  intro member
  rcases List.mem_flatMap.mp member with ⟨ending, _, inside⟩
  revert inside
  cases ending <;> decide

theorem Field.head_written (field : Field) (head : field.written.head? = some '\uFEFF') :
    field.text.head? = some '\uFEFF' := by
  rcases field with ⟨text, quoted, fits⟩
  cases quoted with
  | true =>
      have quote : '"' = '\uFEFF' := Option.some.inj head
      exact absurd quote (by decide)
  | false => exact head

theorem head_joinWith {parts : List Text} {char : Char}
    (head : (Text.joinWith [','] parts).head? = some char) :
    char = ',' ∨ ∃ part ∈ parts, part.head? = some char := by
  induction parts with
  | nil => cases head
  | cons first others ih =>
      cases others with
      | nil => exact .inr ⟨first, List.mem_cons_self, head⟩
      | cons second more =>
          rw [Text.joinWith] at head
          · cases first with
            | nil => exact .inl (Option.some.inj head).symm
            | cons start rest => exact .inr ⟨start :: rest, List.mem_cons_self, head⟩
          · simp

namespace Layout

variable {layout : Layout}

/-- A layout without the mark does not begin with it, unless a header cell does. -/
theorem head_written (filled : layout.header.body ≠ [])
    (unmarked : ∀ cell ∈ layout.columns, cell.head? ≠ some '\uFEFF') :
    layout.written.head? ≠ some '\uFEFF' := by
  intro head
  rw [written, Line.written, List.append_assoc, List.append_assoc, List.head?_append,
    List.head?_append, Option.or_eq_some_iff, Option.or_eq_some_iff] at head
  rcases head with inEnds | ⟨_, inBody | ⟨noBody, _⟩⟩
  · exact mark_not_mem_ends layout.header.empty (List.mem_of_mem_head? inEnds)
  · rcases head_joinWith inBody with comma | ⟨part, member, first⟩
    · exact absurd comma (by decide)
    · rcases List.mem_map.mp member with ⟨field, inside, rfl⟩
      exact unmarked field.text (List.mem_map_of_mem inside) (field.head_written first)
  · exact filled (List.head?_eq_none_iff.mp noBody)

/-- The rows of the table that leave something on their line. -/
def kept (layout : Layout) : List (List Text) := layout.rows.flatMap fun row => row.2.kept

theorem scan_eq_kept (filled : layout.header.body ≠ [])
    (unmarked : ∀ cell ∈ layout.columns, cell.head? ≠ some '\uFEFF') :
    (scan layout.bytes).table = (layout.columns :: layout.kept).map (List.map Utf8.encode) := by
  have rows : (layout.rows.flatMap fun row => row.2.read) =
      layout.kept.map (List.map Utf8.encode) := by
    rw [kept, List.map_flatMap]
    rfl
  rw [scan_layout layout (.inr (head_written filled unmarked)), rows, Line.read,
    Line.kept_of_filled filled]
  rfl

end Layout

end SimpleSentence.Csv

import SimpleSentence.Csv.Lemmas
import SimpleSentence.Proofs.Csv.Layout

/-!
Reading a table back from any of its layouts. What is read depends only on the
fields that the scan collects, so the scan is first reduced to them: the mode,
the fields of the row so far and the bytes of the field so far. A field, however
written, leaves its own bytes as the field so far and a mode in which the next
comma or line end closes it; only an empty line leaves no row behind.
-/

namespace SimpleSentence.Csv

variable {fields : List Bytes} {field rest : Bytes}

/-- The fields of all rows of a scan. -/
def Scan.table (scan : Scan) : List (List Bytes) :=
  (scan.rows ++ scan.last?.toList).map Row.fields

/-- The rows of a scan without their places; the newest field and byte come first. -/
def readFrom (mode : Mode) (fields : List Bytes) (field : Bytes) : Bytes → List (List Bytes)
  | [] => if mode = .rowStart then [] else [(field.reverse :: fields).reverse]
  | byte :: rest =>
      match step mode byte with
      | .skip next => readFrom next fields field rest
      | .keep next => readFrom next fields (byte :: field) rest
      | .endField => readFrom .fieldStart (field.reverse :: fields) [] rest
      | .endRow => (field.reverse :: fields).reverse :: readFrom .rowStart [] [] rest

theorem scanFrom_table (mode : Mode) (draft : Draft) (bytes : Bytes) :
    (scanFrom mode draft bytes).table = readFrom mode draft.fields draft.field bytes := by
  induction bytes generalizing mode draft with
  | nil =>
      by_cases fresh : mode = .rowStart
      · simp [scanFrom, Scan.table, readFrom, fresh]
      · simp [scanFrom, Scan.table, readFrom, fresh, Draft.close, Draft.endField]
  | cons byte rest ih =>
      simp only [scanFrom, readFrom]
      cases step mode byte with
      | skip next => exact ih next (draft.note byte)
      | keep next => exact ih next ((draft.note byte).keep byte)
      | endField => exact ih .fieldStart (draft.note byte).endField
      | endRow =>
          have later := ih .rowStart .fresh
          exact congrArg (List.cons _) later

theorem ascii_mem_encode {char : Char} {text : Text} (small : char.toNat < 0x80)
    (member : UInt8.ofNat char.toNat ∈ Utf8.encode text) : char ∈ text := by
  induction text with
  | nil => cases member
  | cons first rest ih =>
      rw [Utf8.encode, List.mem_append] at member
      rcases member with inFirst | inRest
      · by_cases large : 0x80 ≤ first.toNat
        · have high := Utf8.le_of_mem_encodeChar large inFirst
          rw [Utf8.toNat_ofNat_of_lt (by omega)] at high
          omega
        · have bytes : Utf8.encodeChar first = [UInt8.ofNat first.toNat] := by
            simp [Utf8.encodeChar, show first.toNat < 0x80 by omega]
          rw [bytes, List.mem_singleton] at inFirst
          have codes := congrArg UInt8.toNat inFirst
          rw [Utf8.toNat_ofNat_of_lt (by omega), Utf8.toNat_ofNat_of_lt (by omega)] at codes
          rw [Char.toNat_inj.mp codes]
          exact List.mem_cons_self
      · exact List.mem_cons_of_mem first (ih inRest)

/-- A byte that stands for itself in a bare field. -/
def isPlain (byte : UInt8) : Bool := byte != comma && !isLineEnd byte

theorem stepBare_plain {byte : UInt8} (plain : isPlain byte = true) :
    stepBare byte = .keep .bare := by
  simp only [isPlain, bne, Bool.and_eq_true, Bool.not_eq_true'] at plain
  simp [stepBare, plain.1, plain.2]

theorem readFrom_bare {bytes : Bytes} (plain : ∀ byte ∈ bytes, isPlain byte = true) :
    readFrom .bare fields field (bytes ++ rest) =
      readFrom .bare fields (bytes.reverse ++ field) rest := by
  induction bytes generalizing field with
  | nil => rfl
  | cons byte others ih =>
      have later := fun other member => plain other (List.mem_cons_of_mem byte member)
      rw [List.cons_append, readFrom, step, stepBare_plain (plain byte List.mem_cons_self)]
      simp [ih later]

theorem readFrom_quoted {bytes : Bytes} (absent : quoteMark ∉ bytes) :
    readFrom .quoted fields field (bytes ++ rest) =
      readFrom .quoted fields (bytes.reverse ++ field) rest := by
  induction bytes generalizing field with
  | nil => rfl
  | cons byte others ih =>
      have other : (byte == quoteMark) = false :=
        beq_false_of_ne fun same => absent (same ▸ List.mem_cons_self)
      have later : quoteMark ∉ others := fun member => absent (List.mem_cons_of_mem byte member)
      rw [List.cons_append, readFrom, step, other]
      simp [ih later]

-- Inside quotes two quotes are read as one, and the first single quote closes.
theorem readFrom_doubleQuotes (text : Text) :
    readFrom .quoted fields field (Utf8.encode (doubleQuotes text) ++ quoteMark :: rest) =
      readFrom .closing fields ((Utf8.encode text).reverse ++ field) rest := by
  induction text generalizing field with
  | nil => rfl
  | cons char others ih =>
      by_cases quote : char = '"'
      · subst quote
        have two : Utf8.encode (doubleQuotes ('"' :: others)) =
            quoteMark :: quoteMark :: Utf8.encode (doubleQuotes others) := rfl
        have one : Utf8.encode ('"' :: others) = quoteMark :: Utf8.encode others := rfl
        rw [two, one, List.reverse_cons, List.append_assoc]
        exact ih
      · have same : doubleQuotes (char :: others) = char :: doubleQuotes others := by
          simp [doubleQuotes, quote]
        rw [same, Utf8.encode, Utf8.encode, List.append_assoc,
          readFrom_quoted (quoteMark_not_mem_encodeChar quote), ih]
        simp

namespace Mode

/-- Where a field may begin. -/
def begins : Mode → Bool
  | rowStart => true
  | fieldStart => true
  | _ => false

/-- Where a comma or a line end closes a field. -/
def closes : Mode → Bool
  | fieldStart => true
  | bare => true
  | closing => true
  | _ => false

end Mode

theorem step_begins_quote {start : Mode} (begins : start.begins = true) :
    step start quoteMark = .skip .quoted := by
  cases start with
  | rowStart | fieldStart => rfl
  | bare | quoted | closing => cases begins

theorem step_begins_plain {start : Mode} {byte : UInt8} (begins : start.begins = true)
    (plain : isPlain byte = true) (other : byte ≠ quoteMark) :
    step start byte = .keep .bare := by
  have notQuote : (byte == quoteMark) = false := beq_false_of_ne other
  have atField : stepFieldStart byte = .keep .bare := by
    simp [stepFieldStart, notQuote, stepBare_plain plain]
  cases start with
  | rowStart =>
      have notEnd : isLineEnd byte = false := by
        simp only [isPlain, Bool.and_eq_true, Bool.not_eq_true'] at plain
        exact plain.2
      simp [step, notEnd, atField]
  | fieldStart => exact atField
  | bare | quoted | closing => cases begins

/-- The mode behind a field that was begun in some mode. -/
def Field.modeAfter (start : Mode) (field : Field) : Mode :=
  if field.quoted then .closing
  else if field.text.isEmpty then start
  else .bare

theorem isPlain_of_canStandBare {text : Text} (bare : canStandBare text = true) :
    ∀ byte ∈ Utf8.encode text, isPlain byte = true := by
  simp only [canStandBare, Bool.and_eq_true, List.all_eq_true, bne_iff_ne] at bare
  intro byte member
  have notComma : byte ≠ comma := by
    rintro rfl
    exact (bare.2 ',' (ascii_mem_encode (by decide) member)).1.1 rfl
  have notFeed : byte ≠ lineFeed := by
    rintro rfl
    exact (bare.2 '\n' (ascii_mem_encode (by decide) member)).1.2 rfl
  have notCarriage : byte ≠ carriageReturn := by
    rintro rfl
    exact (bare.2 '\r' (ascii_mem_encode (by decide) member)).2 rfl
  simp [isPlain, isLineEnd, notComma, notFeed, notCarriage]

theorem encode_cons_bytes (char : Char) (others : Text) :
    ∃ byte bytes, Utf8.encode (char :: others) = byte :: bytes ∧
      byte ∈ Utf8.encodeChar char := by
  have length := Utf8.length_encodeChar char
  cases shape : Utf8.encodeChar char with
  | nil =>
      rw [shape] at length
      exact absurd length (Nat.ne_of_lt char.utf8Size_pos)
  | cons byte bytes =>
      exact ⟨byte, bytes ++ Utf8.encode others, by simp [Utf8.encode, shape], by simp⟩

theorem readFrom_field {start : Mode} (begins : start.begins = true) (written : Field) :
    readFrom start fields [] (Utf8.encode written.written ++ rest) =
      readFrom (written.modeAfter start) fields (Utf8.encode written.text).reverse rest := by
  rcases written with ⟨text, quoted, fits⟩
  cases quoted with
  | true =>
      have bytes : Utf8.encode ('"' :: (doubleQuotes text ++ ['"'])) =
          quoteMark :: (Utf8.encode (doubleQuotes text) ++ [quoteMark]) := by
        rw [Utf8.encode, Utf8.encode_append]
        rfl
      show readFrom start fields [] (Utf8.encode ('"' :: (doubleQuotes text ++ ['"'])) ++ rest) =
        readFrom .closing fields (Utf8.encode text).reverse rest
      rw [bytes, List.cons_append, List.append_assoc, List.singleton_append, readFrom,
        step_begins_quote begins]
      exact (readFrom_doubleQuotes text).trans (by rw [List.append_nil])
  | false =>
      have bare : canStandBare text = true := by simpa using fits
      have plain := isPlain_of_canStandBare bare
      cases text with
      | nil => rfl
      | cons char others =>
          obtain ⟨byte, bytes, shape, inFirst⟩ := encode_cons_bytes char others
          have notQuote : char ≠ '"' := by
            rintro rfl
            simp [canStandBare] at bare
          have other : byte ≠ quoteMark := fun same =>
            quoteMark_not_mem_encodeChar notQuote (same ▸ inFirst)
          show readFrom start fields [] (Utf8.encode (char :: others) ++ rest) =
            readFrom .bare fields (Utf8.encode (char :: others)).reverse rest
          rw [shape] at plain ⊢
          rw [List.cons_append, readFrom,
            step_begins_plain begins (plain byte List.mem_cons_self) other]
          exact (readFrom_bare fun next member => plain next (List.mem_cons_of_mem byte member)).trans
            (by rw [List.reverse_cons])

theorem modeAfter_cases (start : Mode) (written : Field) :
    (written.modeAfter start).closes = true ∨
      (written.modeAfter start = start ∧ written.written = []) := by
  rcases written with ⟨text, quoted, fits⟩
  cases quoted with
  | true => exact .inl rfl
  | false =>
      cases text with
      | nil => exact .inr ⟨rfl, rfl⟩
      | cons char others => exact .inl rfl

theorem readFrom_comma {mode : Mode} (outside : mode ≠ .quoted) :
    readFrom mode fields field (comma :: rest) =
      readFrom .fieldStart (field.reverse :: fields) [] rest := by
  cases mode with
  | quoted => exact absurd rfl outside
  | rowStart | fieldStart | bare | closing => rfl

/-- A line end behind a field closes its row, and leaves none where no row was begun. -/
theorem readFrom_lineEnd {mode : Mode} (closes : mode.closes = true) (ending : LineEnd) :
    readFrom mode fields field (Utf8.encode ending.text ++ rest) =
      (field.reverse :: fields).reverse :: readFrom .rowStart [] [] rest := by
  cases mode with
  | rowStart | quoted => cases closes
  | fieldStart | bare | closing => cases ending <;> rfl

theorem readFrom_emptyLine (ending : LineEnd) :
    readFrom .rowStart fields field (Utf8.encode ending.text ++ rest) =
      readFrom .rowStart fields field rest := by
  cases ending <;> rfl

theorem readFrom_emptyLines (endings : List LineEnd) :
    readFrom .rowStart fields field (Utf8.encode (endings.flatMap LineEnd.text) ++ rest) =
      readFrom .rowStart fields field rest := by
  induction endings with
  | nil => rfl
  | cons ending others ih =>
      rw [List.flatMap_cons, Utf8.encode_append, List.append_assoc, readFrom_emptyLine, ih]

theorem encode_fields_cons (first second : Field) (others : List Field) :
    Utf8.encode (Text.joinWith [','] ((first :: second :: others).map Field.written)) =
      Utf8.encode first.written ++ comma ::
        Utf8.encode (Text.joinWith [','] ((second :: others).map Field.written)) := by
  rw [List.map_cons, List.map_cons, Text.joinWith, Utf8.encode_append, Utf8.encode_append,
    List.append_assoc]
  · rfl
  · simp

-- Induction on the fields: each but the last is closed by the comma behind it.
theorem readFrom_fields {start : Mode} (begins : start.begins = true) (written : List Field)
    (filled : written ≠ []) (begun : start = .fieldStart ∨
      Text.joinWith [','] (written.map Field.written) ≠ []) :
    ∃ (mode : Mode) (before : List Bytes) (last : Bytes), mode.closes = true ∧
      (last.reverse :: before).reverse =
        fields.reverse ++ written.map (fun field => Utf8.encode field.text) ∧
      ∀ rest, readFrom start fields []
          (Utf8.encode (Text.joinWith [','] (written.map Field.written)) ++ rest) =
        readFrom mode before last rest := by
  induction written generalizing start fields with
  | nil => exact absurd rfl filled
  | cons first others ih =>
      cases others with
      | nil =>
          refine ⟨first.modeAfter start, fields, (Utf8.encode first.text).reverse, ?_, by simp,
            fun rest => readFrom_field begins first⟩
          rcases modeAfter_cases start first with closes | ⟨same, empty⟩
          · exact closes
          · rcases begun with atField | nonempty
            · rw [same, atField]
              rfl
            · exact absurd empty nonempty
      | cons second more =>
          obtain ⟨mode, before, last, closes, shape, read⟩ :=
            @ih ((Utf8.encode first.text) :: fields) .fieldStart rfl (by simp) (.inl rfl)
          refine ⟨mode, before, last, closes, by simpa using shape, fun rest => ?_⟩
          have outside : first.modeAfter start ≠ .quoted := by
            intro quoted
            rcases modeAfter_cases start first with closes | ⟨same, _⟩
            · rw [quoted] at closes
              cases closes
            · rw [← same, quoted] at begins
              cases begins
          rw [encode_fields_cons, List.append_assoc, readFrom_field begins, List.cons_append,
            readFrom_comma outside, List.reverse_reverse]
          exact read rest

/-- The rows of texts as which a line is read: none if nothing is on it. -/
def Line.kept (line : Line) : List (List Text) :=
  if line.body.isEmpty then [] else [line.texts]

theorem Line.kept_of_empty {line : Line} (empty : line.body = []) : line.kept = [] := by
  rw [kept, empty]
  rfl

theorem Line.kept_of_filled {line : Line} (filled : line.body ≠ []) :
    line.kept = [line.texts] := by
  have notEmpty : line.body.isEmpty = false := by simpa using filled
  rw [kept, notEmpty]
  rfl

/-- The rows of bytes as which a line is read. -/
def Line.read (line : Line) : List (List Bytes) := line.kept.map (List.map Utf8.encode)

theorem readFrom_body {line : Line} (filled : line.body ≠ []) :
    ∃ (mode : Mode) (before : List Bytes) (last : Bytes), mode.closes = true ∧
      [(last.reverse :: before).reverse] = line.read ∧
      ∀ rest, readFrom .rowStart [] [] (Utf8.encode line.body ++ rest) =
        readFrom mode before last rest := by
  have fields : line.fields ≠ [] := by
    intro none
    rw [Line.body, none] at filled
    exact filled rfl
  obtain ⟨mode, before, last, closes, shape, read⟩ :=
    @readFrom_fields [] .rowStart rfl line.fields fields (.inr filled)
  refine ⟨mode, before, last, closes, ?_, read⟩
  rw [shape, Line.read, Line.kept_of_filled filled, Line.texts, List.map_singleton, List.map_map]
  rfl

theorem readFrom_line (line : Line) (ending : LineEnd) (rest : Bytes) :
    readFrom .rowStart [] [] (Utf8.encode line.written ++ (Utf8.encode ending.text ++ rest)) =
      line.read ++ readFrom .rowStart [] [] rest := by
  rw [Line.written, Utf8.encode_append, List.append_assoc, readFrom_emptyLines]
  by_cases empty : line.body = []
  · rw [empty, Line.read, Line.kept_of_empty empty]
    exact readFrom_emptyLine ending
  · obtain ⟨mode, before, last, closes, row, read⟩ := readFrom_body empty
    rw [read, readFrom_lineEnd closes, ← row]
    rfl

theorem readFrom_lastLine (line : Line) :
    readFrom .rowStart [] [] (Utf8.encode line.written) = line.read := by
  rw [Line.written, Utf8.encode_append, readFrom_emptyLines]
  by_cases empty : line.body = []
  · rw [empty, Line.read, Line.kept_of_empty empty]
    rfl
  · obtain ⟨mode, before, last, closes, row, read⟩ := readFrom_body empty
    have atEnd := read []
    have begun : mode ≠ .rowStart := by
      rintro rfl
      cases closes
    rw [List.append_nil] at atEnd
    rw [atEnd, readFrom, if_neg begun, row]

-- Induction on the rows: each line is ended by the row behind it, the last by the ends or not.
theorem readFrom_lines (line : Line) (rows : List (LineEnd × Line)) (ends : List LineEnd) :
    readFrom .rowStart [] [] (Utf8.encode (line.written ++
      rows.flatMap (fun row => row.1.text ++ row.2.written) ++ ends.flatMap LineEnd.text)) =
      line.read ++ rows.flatMap fun row => row.2.read := by
  induction rows generalizing line with
  | nil =>
      rw [List.flatMap_nil, List.flatMap_nil, List.append_nil, List.append_nil]
      cases ends with
      | nil =>
          rw [List.flatMap_nil, List.append_nil]
          exact readFrom_lastLine line
      | cons ending others =>
          have after : readFrom .rowStart [] [] (Utf8.encode (others.flatMap LineEnd.text)) = [] := by
            have read := @readFrom_emptyLines [] [] [] others
            rwa [List.append_nil] at read
          rw [List.flatMap_cons, Utf8.encode_append, Utf8.encode_append, readFrom_line, after,
            List.append_nil]
  | cons row others ih =>
      have later := ih row.2
      rw [List.flatMap_cons, List.flatMap_cons, ← later]
      simp only [List.append_assoc, Utf8.encode_append]
      exact readFrom_line line row.1 _

-- The mark is the three bytes of one character, so only a text that begins with it has them.
theorem mark_of_encode {text : Text} {more : Bytes}
    (marked : Utf8.encode text = byteOrderMark ++ more) : text.head? = some '\uFEFF' := by
  have whole := Utf8.decode_encode text
  rw [marked] at whole
  have first : Utf8.decode (byteOrderMark ++ more) = Utf8.extend 0xFEFF 3 (Utf8.decode more) :=
    Utf8.decode_three (by decide) (by decide) (by decide)
  rw [first] at whole
  cases later : Utf8.decode more with
  | error valid =>
      rw [later] at whole
      cases whole
  | ok rest =>
      rw [later] at whole
      have same := Except.ok.inj whole
      rw [← same]
      rfl

theorem scan_layout (layout : Layout)
    (distinct : layout.marked = true ∨ layout.written.head? ≠ some '\uFEFF') :
    (scan layout.bytes).table =
      layout.header.read ++ layout.rows.flatMap fun row => row.2.read := by
  have rows := readFrom_lines layout.header layout.rows layout.ends
  cases marked : layout.marked with
  | true =>
      have bytes : layout.bytes = byteOrderMark ++ Utf8.encode layout.written := by
        rw [Layout.bytes, marked]
        rfl
      have front : byteOrderMark.isPrefixOf layout.bytes = true := by
        rw [bytes]
        exact List.isPrefixOf_iff_prefix.mpr (List.prefix_append _ _)
      rw [scan, if_pos front, scanFrom_table, bytes, List.drop_left]
      exact rows
  | false =>
      have bytes : layout.bytes = Utf8.encode layout.written := by
        rw [Layout.bytes, marked]
        rfl
      have front : ¬ byteOrderMark.isPrefixOf layout.bytes = true := by
        intro mark
        rcases List.isPrefixOf_iff_prefix.mp mark with ⟨more, whole⟩
        rw [bytes] at whole
        rcases distinct with isMarked | other
        · rw [marked] at isMarked
          cases isMarked
        · exact other (mark_of_encode whole.symm)
      rw [scan, if_neg front, scanFrom_table, bytes]
      exact rows

end SimpleSentence.Csv

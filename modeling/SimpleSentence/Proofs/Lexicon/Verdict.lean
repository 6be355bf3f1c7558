import SimpleSentence.Proofs.Lexicon.Loading

/-!
What becomes of any bytes that are loaded. The header is settled first, by its
own fields and then by its columns, then the records behind it in order, and
last the failure of the input, if it fails. The earliest of these problems is
the error; without one, and only then, there is a lexicon.
-/

namespace SimpleSentence.Lexicon

/-- Whether a header row has a column with one of the names. -/
def HasColumn (names : List Text) (header : Csv.Row) : Prop :=
  ∃ cell, Utf8.encode cell ∈ header.fields ∧ named names cell = true

theorem hasColumn_iff {header : Csv.Row} {cells : List Text}
    (fields : header.fields = cells.map Utf8.encode) (names : List Text) :
    HasColumn names header ↔ (column? names (cells.map Text.trim)).isSome = true := by
  have found : (column? names (cells.map Text.trim)).isSome = cells.any (named names) := by
    rw [column?, List.findIdx?_map, List.findIdx?_isSome]
    rfl
  rw [found, HasColumn, fields, List.any_eq_true]
  constructor
  · rintro ⟨cell, member, isNamed⟩
    obtain ⟨other, inside, same⟩ := List.mem_map.mp member
    obtain rfl := Utf8.encode_injective same
    exact ⟨other, inside, isNamed⟩
  · rintro ⟨cell, inside, isNamed⟩
    exact ⟨cell, List.mem_map_of_mem inside, isNamed⟩

/-- What becomes of a header row. -/
inductive HeaderSettled (place : Csv.Place) (header : Csv.Row) :
    Except LexiconError Columns → Prop where
  | garbled {fault : Csv.Fault} (earliest : ∀ rows, fault.Earliest place (header :: rows)) :
      HeaderSettled place header (.error (.malformed fault))
  | wordless (text : header.IsText) (word : ¬ HasColumn [wordColumn] header) :
      HeaderSettled place header (.error (.missingColumn wordColumn))
  | unmarked (text : header.IsText) (word : HasColumn [wordColumn] header)
      (marking : ¬ HasColumn markingColumns header) :
      HeaderSettled place header (.error (.missingColumn "pos".toList))
  | usable {columns : Columns} (text : header.IsText) (word : HasColumn [wordColumn] header)
      (marking : HasColumn markingColumns header) : HeaderSettled place header (.ok columns)

theorem loadHeader_settled (place : Csv.Place) (header : Csv.Row) :
    HeaderSettled place header (loadHeader (place, header)) := by
  rw [loadHeader]
  cases decoded : Csv.decodeRow (place, header) with
  | error fault => exact .garbled (Csv.decodeRow_error decoded)
  | ok cells =>
      have fields := Csv.decodeRow_ok decoded
      have text := Csv.isText_of_fields fields
      have hasWord := hasColumn_iff fields [wordColumn]
      have hasMarking := hasColumn_iff fields markingColumns
      simp only [columnsOf]
      cases word : column? [wordColumn] (cells.map Text.trim) with
      | none =>
          rw [word] at hasWord
          exact .wordless text (by simp [hasWord])
      | some first =>
          rw [word] at hasWord
          cases marking : column? markingColumns (cells.map Text.trim) with
          | none =>
              rw [marking] at hasMarking
              exact .unmarked text (hasWord.mpr rfl) (by simp [hasMarking])
          | some second =>
              rw [marking] at hasMarking
              exact .usable text (hasWord.mpr rfl) (hasMarking.mpr rfl)

/-- A header with which the records behind it can be loaded. -/
structure Usable (header : Csv.Row) : Prop where
  text : header.IsText
  word : HasColumn [wordColumn] header
  marking : HasColumn markingColumns header

/-- The first of some rows; where there is none, the header has no fields. -/
def headerOf (rows : List Csv.Row) : Csv.Row := rows.headD ⟨[], []⟩

/-- What becomes of the rows read from an input that then ended or failed. -/
inductive Settled (rows : List Csv.Row) (failure : Option Text) :
    Except LexiconError Lexicon → Prop where
  | unread {cause : Text} (nothing : rows = []) (failed : failure = some cause) :
      Settled rows failure (.error (.malformed (.failed cause)))
  | badHeader {fault : Csv.Fault} (earliest : fault.Earliest .first rows)
      (bad : ¬ (headerOf rows).IsText) : Settled rows failure (.error (.malformed fault))
  | wordless (known : rows ≠ [] ∨ failure = none) (text : (headerOf rows).IsText)
      (word : ¬ HasColumn [wordColumn] (headerOf rows)) :
      Settled rows failure (.error (.missingColumn wordColumn))
  | unmarked (text : (headerOf rows).IsText) (word : HasColumn [wordColumn] (headerOf rows))
      (marking : ¬ HasColumn markingColumns (headerOf rows)) :
      Settled rows failure (.error (.missingColumn "pos".toList))
  | badRecord {fault : Csv.Fault} (usable : Usable (headerOf rows))
      (earliest : fault.Earliest .first rows) (bad : ∃ row ∈ rows.tail, ¬ row.IsText) :
      Settled rows failure (.error (.malformed fault))
  | failed {cause : Text} (failed : failure = some cause) (usable : Usable (headerOf rows))
      (text : ∀ row ∈ rows.tail, row.IsText) :
      Settled rows failure (.error (.malformed (.failed cause)))
  | loaded {lexicon : Lexicon} (ended : failure = none) (usable : Usable (headerOf rows))
      (text : ∀ row ∈ rows.tail, row.IsText) : Settled rows failure (.ok lexicon)

theorem not_hasColumn_nil (names : List Text) : ¬ HasColumn names ⟨[], []⟩ := by
  rintro ⟨cell, member, _⟩
  cases member

theorem loadRows_settled (rows : List Csv.Row) (failure : Option Text) :
    Settled rows failure (loadRows (Csv.placeRows .first rows) failure) := by
  cases rows with
  | nil =>
      cases failure with
      | none => exact .wordless (.inr rfl) (fun _ member => nomatch member) (not_hasColumn_nil _)
      | some cause => exact .unread rfl rfl
  | cons header data =>
      rw [Csv.placeRows, loadRows]
      have settled := loadHeader_settled .first header
      generalize loadHeader (Csv.Place.first, header) = found at settled
      cases settled with
      | garbled earliest =>
          obtain ⟨row, member, bad⟩ := (earliest []).bad
          obtain rfl := List.mem_singleton.mp member
          exact .badHeader (earliest data) bad
      | wordless text word => exact .wordless (.inl (List.cons_ne_nil _ _)) text word
      | unmarked text word marking => exact .unmarked text word marking
      | @usable columns text word marking =>
          have usable : Usable (headerOf (header :: data)) := ⟨text, word, marking⟩
          cases decoded : Csv.decodeRows (Csv.placeRows (Csv.Place.first.after header) data) with
          | error fault =>
              have later := Csv.decodeRows_error decoded
              exact .badRecord usable (later.behind text) later.bad
          | ok cells =>
              have texts := Csv.decodeRows_ok decoded
              cases failure with
              | none => exact .loaded rfl usable texts
              | some cause => exact .failed rfl usable texts

theorem load_settled (input : Input) : Settled input.delivered input.cause? (load input) := by
  rw [load_eq_loadWhole]
  exact loadRows_settled _ _

/-- Bytes that are all there are loaded whole or not at all, and then the earliest problem is the
error. -/
structure AllOrNothing (rows : List Csv.Row) (outcome : Except LexiconError Lexicon) : Prop where
  loaded : (∃ lexicon, outcome = .ok lexicon) ↔
    Usable (headerOf rows) ∧ ∀ row ∈ rows.tail, row.IsText
  header : ¬ (headerOf rows).IsText →
    ∃ fault, outcome = .error (.malformed fault) ∧ fault.Earliest .first rows
  wordless : (headerOf rows).IsText → ¬ HasColumn [wordColumn] (headerOf rows) →
    outcome = .error (.missingColumn "word".toList)
  unmarked : (headerOf rows).IsText → HasColumn [wordColumn] (headerOf rows) →
    ¬ HasColumn markingColumns (headerOf rows) → outcome = .error (.missingColumn "pos".toList)
  record : Usable (headerOf rows) → (∃ row ∈ rows.tail, ¬ row.IsText) →
    ∃ fault, outcome = .error (.malformed fault) ∧ fault.Earliest .first rows

/-- Rows behind which the input failed are never loaded; only a complete header decides before
the failure does. -/
structure NeverLoaded (rows : List Csv.Row) (outcome : Except LexiconError Lexicon) : Prop where
  unloaded : ∀ lexicon, outcome ≠ .ok lexicon
  missing : (∃ column, outcome = .error (.missingColumn column)) ↔
    rows ≠ [] ∧ (headerOf rows).IsText ∧
      (¬ HasColumn [wordColumn] (headerOf rows) ∨ ¬ HasColumn markingColumns (headerOf rows))
  malformed : (∀ column, outcome ≠ .error (.missingColumn column)) →
    ∃ fault, outcome = .error (.malformed fault)

section Settled

variable {rows : List Csv.Row} {outcome : Except LexiconError Lexicon}

theorem Settled.allOrNothing (settled : Settled rows none outcome) : AllOrNothing rows outcome := by
  cases settled with
  | unread nothing failed => cases failed
  | @badHeader fault earliest bad =>
      have unusable : ¬ Usable (headerOf rows) := fun usable => bad usable.text
      exact
        { loaded := by simp [unusable]
          header := fun _ => ⟨fault, rfl, earliest⟩
          wordless := fun text => absurd text bad
          unmarked := fun text => absurd text bad
          record := fun usable => absurd usable unusable }
  | wordless known text word =>
      have unusable : ¬ Usable (headerOf rows) := fun usable => word usable.word
      exact
        { loaded := by simp [unusable]
          header := fun bad => absurd text bad
          wordless := fun _ _ => rfl
          unmarked := fun _ held => absurd held word
          record := fun usable => absurd usable unusable }
  | unmarked text word marking =>
      have unusable : ¬ Usable (headerOf rows) := fun usable => marking usable.marking
      exact
        { loaded := by simp [unusable]
          header := fun bad => absurd text bad
          wordless := fun _ absent => absurd word absent
          unmarked := fun _ _ _ => rfl
          record := fun usable => absurd usable unusable }
  | @badRecord fault usable earliest bad =>
      have broken : ¬ ∀ row ∈ rows.tail, row.IsText := by simpa using bad
      exact
        { loaded := by simp [broken]
          header := fun bad => absurd usable.text bad
          wordless := fun _ absent => absurd usable.word absent
          unmarked := fun _ _ absent => absurd usable.marking absent
          record := fun _ _ => ⟨fault, rfl, earliest⟩ }
  | failed failed => cases failed
  | @loaded lexicon ended usable text =>
      exact
        { loaded := ⟨fun _ => ⟨usable, text⟩, fun _ => ⟨lexicon, rfl⟩⟩
          header := fun bad => absurd usable.text bad
          wordless := fun _ absent => absurd usable.word absent
          unmarked := fun _ _ absent => absurd usable.marking absent
          record := fun _ ⟨row, member, bad⟩ => absurd (text row member) bad }

theorem Settled.neverLoaded {cause : Text} (settled : Settled rows (some cause) outcome) :
    NeverLoaded rows outcome := by
  cases settled with
  | unread nothing failed => exact ⟨by simp, by simp [nothing], fun _ => ⟨_, rfl⟩⟩
  | badHeader earliest bad => exact ⟨by simp, by simp [bad], fun _ => ⟨_, rfl⟩⟩
  | wordless known text word =>
      have some : rows ≠ [] := by simpa using known
      exact ⟨by simp, by simp [some, text, word], fun never => absurd rfl (never _)⟩
  | unmarked text word marking =>
      have some : rows ≠ [] := by
        rintro rfl
        exact not_hasColumn_nil _ word
      exact ⟨by simp, by simp [some, text, marking], fun never => absurd rfl (never _)⟩
  | badRecord usable =>
      exact ⟨by simp, by simp [usable.word, usable.marking], fun _ => ⟨_, rfl⟩⟩
  | failed failed usable =>
      exact ⟨by simp, by simp [usable.word, usable.marking], fun _ => ⟨_, rfl⟩⟩
  | loaded ended => cases ended

/-- No other error comes of the bytes than a fault of the table or a missing column. -/
theorem Settled.error {failure : Option Text} {error : LexiconError}
    (settled : Settled rows failure (.error error)) :
    (∃ fault, error = .malformed fault) ∨ ∃ column, error = .missingColumn column := by
  cases settled with
  | unread | badHeader | badRecord | failed => exact .inl ⟨_, rfl⟩
  | wordless | unmarked => exact .inr ⟨_, rfl⟩

end Settled

-- A byte order mark that is all there is is taken for an empty table, whatever comes of reading on:
-- the one read that gives it is the first case of `loadReads_mark`.
theorem not_neverLoaded_mark (cause : Text) :
    ¬ NeverLoaded (Csv.scan Csv.byteOrderMark).rows (load ⟨Csv.byteOrderMark, some cause⟩) := by
  intro never
  have nothing : (Csv.scan Csv.byteOrderMark).rows = [] := by decide
  have missing : load ⟨Csv.byteOrderMark, some cause⟩ = .error (.missingColumn wordColumn) := rfl
  exact (never.missing.mp ⟨wordColumn, missing⟩).1 nothing

/-- The whole of some bytes is loaded or nothing is, and the earliest problem decides. Behind
bytes that a failure cuts off nothing is ever loaded and only a complete header comes before the
failure, exactly if these bytes are not a byte order mark alone. -/
theorem earliest_problem_decides (input : Input) :
    (input.failure = none → AllOrNothing (Csv.records input.bytes) (load input)) ∧
      (∀ cause, input.failure = some cause →
        (NeverLoaded (Csv.scan input.bytes).rows (load input) ↔
          input.bytes ≠ Csv.byteOrderMark)) ∧
      ∀ error, load input = .error error →
        (∃ fault, error = .malformed fault) ∨ ∃ column, error = .missingColumn column := by
  have settled := load_settled input
  constructor
  · intro unfailing
    have ended : input.cause? = none := by rw [Input.cause?, unfailing, ite_self]
    rw [Input.delivered, ended] at settled
    exact settled.allOrNothing
  constructor
  · intro cause failed
    constructor
    · intro never mark
      apply not_neverLoaded_mark cause
      rwa [← mark, ← failed]
    · intro other
      have cut : input.cause? = some cause := by rw [Input.cause?, if_neg other, failed]
      rw [Input.delivered, cut] at settled
      exact settled.neverLoaded
  · intro error failed
    rw [failed] at settled
    exact settled.error

-- A byte that is no text behind the complete header, and a failure behind that.
def termTable : Bytes := Utf8.encode "term,pos\r\nTree,\"n.".toList ++ [0xFF]

theorem termTable_never_loaded :
    termTable ≠ Csv.byteOrderMark ∧
      NeverLoaded (Csv.scan termTable).rows (load ⟨termTable, some "read failure".toList⟩) ∧
      load ⟨termTable, some "read failure".toList⟩ = .error (.missingColumn "word".toList) := by
  have other : termTable ≠ Csv.byteOrderMark := by decide
  have decided := earliest_problem_decides ⟨termTable, some "read failure".toList⟩
  exact ⟨other, (decided.2.1 _ rfl).mpr other, by decide +kernel⟩

/-- The failure behind a lone byte order mark is not reported, though no header came before it. -/
theorem failure_lost_behind_mark : ¬ ∀ (bytes : Bytes) (cause : Text),
    NeverLoaded (Csv.scan bytes).rows (load ⟨bytes, some cause⟩) := by
  intro always
  exact not_neverLoaded_mark "read failure".toList (always _ _)

end SimpleSentence.Lexicon

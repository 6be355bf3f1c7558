import SimpleSentence.Csv.Lemmas

/-!
Where decoding fails. A row is text if each of its fields is, and rows are
decoded to the end exactly when all of them are text. Otherwise the fault is
that of the earliest row that is none, at its earliest field that is none, and
it is placed behind the bytes of all the rows before.
-/

namespace SimpleSentence.Csv

def Row.IsText (row : Row) : Prop := ∀ field ∈ row.fields, Utf8.Valid field

/-- The records of bytes that are all there: the end of the bytes closes the last one. -/
def records (bytes : Bytes) : List Row := (scan bytes).rows ++ (scan bytes).last?.toList

/-- Where a row stands behind other rows. -/
def Place.behind (place : Place) (rows : List Row) : Place := rows.foldl Place.after place

/-- The fault of the first row that is no text, at its first field that is none. -/
inductive Fault.Earliest (start : Place) : List Row → Fault → Prop where
  | field {before after : List Row} {source : Bytes} {good later : List Bytes} {bad : Bytes}
      {valid : Nat} (rowsBefore : ∀ row ∈ before, row.IsText)
      (fieldsBefore : ∀ field ∈ good, Utf8.Valid field)
      (broken : Utf8.decode bad = .error valid) :
      Earliest start (before ++ ⟨source, good ++ bad :: later⟩ :: after)
        (.notText (start.behind before) good.length valid)

section Fields

variable {place : Place} {fields : List Bytes}

theorem decodeFields_ok {number : Nat} {texts : List Text}
    (read : decodeFields place number fields = .ok texts) : fields = texts.map Utf8.encode := by
  induction fields generalizing number texts with
  | nil =>
      cases read
      rfl
  | cons bytes rest ih =>
      rw [decodeFields] at read
      split at read
      · cases read
      · next text own =>
          split at read
          · cases read
          · next others later =>
              cases read
              rw [List.map_cons, Utf8.encode_of_decode own, ← ih later]

theorem decodeFields_error {number : Nat} {fault : Fault}
    (failed : decodeFields place number fields = .error fault) :
    ∃ good bad later valid, fields = good ++ bad :: later ∧
      (∀ field ∈ good, Utf8.Valid field) ∧ Utf8.decode bad = .error valid ∧
      fault = .notText place (number + good.length) valid := by
  induction fields generalizing number with
  | nil => cases failed
  | cons bytes rest ih =>
      rw [decodeFields] at failed
      split at failed
      · next valid broken =>
          cases failed
          exact ⟨[], bytes, rest, valid, rfl, by simp, broken, rfl⟩
      · next text own =>
          split at failed
          · next found later =>
              cases failed
              obtain ⟨good, bad, left, valid, rfl, areGood, broken, rfl⟩ := ih later
              have first : Utf8.Valid bytes := ⟨text, Utf8.encode_of_decode own⟩
              refine ⟨bytes :: good, bad, left, valid, rfl, ?_, broken, ?_⟩
              · simpa using ⟨first, areGood⟩
              · rw [List.length_cons, Nat.add_right_comm, Nat.add_assoc]
          · cases failed

end Fields

section Rows

variable {place : Place} {row : Row} {rows : List Row} {fault : Fault}

theorem isText_of_fields {texts : List Text} (fields : row.fields = texts.map Utf8.encode) :
    row.IsText := by
  intro field member
  rw [fields] at member
  obtain ⟨text, _, rfl⟩ := List.mem_map.mp member
  exact ⟨text, rfl⟩

theorem decodeRow_ok {texts : List Text} (read : decodeRow (place, row) = .ok texts) :
    row.fields = texts.map Utf8.encode := decodeFields_ok read

theorem decodeRow_error (failed : decodeRow (place, row) = .error fault) (others : List Row) :
    fault.Earliest place (row :: others) := by
  obtain ⟨source, fields⟩ := row
  obtain ⟨good, bad, later, valid, rfl, areGood, broken, rfl⟩ := decodeFields_error failed
  rw [Nat.zero_add]
  exact @Fault.Earliest.field place [] others source good later bad valid (by simp) areGood broken

theorem Fault.Earliest.behind (first : row.IsText)
    (earliest : fault.Earliest (place.after row) rows) : fault.Earliest place (row :: rows) := by
  cases earliest with
  | @field before after source good later bad valid rowsBefore fieldsBefore broken =>
      have allBefore : ∀ other ∈ row :: before, other.IsText := by
        simpa using ⟨first, rowsBefore⟩
      exact .field allBefore fieldsBefore broken

theorem Fault.Earliest.bad (earliest : fault.Earliest place rows) : ∃ row ∈ rows, ¬ row.IsText := by
  cases earliest with
  | @field before after source good later bad valid rowsBefore fieldsBefore broken =>
      refine ⟨⟨source, good ++ bad :: later⟩, by simp, fun text => ?_⟩
      exact Utf8.not_valid_of_error broken (text bad (by simp))

-- Induction on the rows; a row that is read moves the place on, as the fault counts it.
theorem decodeRows_error (failed : decodeRows (placeRows place rows) = .error fault) :
    fault.Earliest place rows := by
  induction rows generalizing place with
  | nil => cases failed
  | cons row rest ih =>
      rw [placeRows, decodeRows] at failed
      split at failed
      · next found own =>
          cases failed
          exact decodeRow_error own rest
      · next texts own =>
          split at failed
          · next found later =>
              cases failed
              exact (ih later).behind (isText_of_fields (decodeRow_ok own))
          · cases failed

theorem decodeRows_ok {table : List (List Text)}
    (read : decodeRows (placeRows place rows) = .ok table) : ∀ row ∈ rows, row.IsText := by
  induction rows generalizing place table with
  | nil => simp
  | cons row rest ih =>
      rw [placeRows, decodeRows] at read
      split at read
      · cases read
      · next texts own =>
          split at read
          · cases read
          · next others later =>
              have first := isText_of_fields (decodeRow_ok own)
              simpa using ⟨first, ih later⟩

end Rows

end SimpleSentence.Csv

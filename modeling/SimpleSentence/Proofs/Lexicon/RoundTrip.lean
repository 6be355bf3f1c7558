import SimpleSentence.Lexicon.Starter
import SimpleSentence.Proofs.Lexicon.Loading

/-!
Writing a lexicon and loading it again. The table that is written is one of the
layouts that can be loaded, and its two columns are the records of the lexicon.
Those build the lexicon again because of its invariant, which holds however the
lexicon came about.
-/

namespace SimpleSentence.Lexicon

/-- How a lexicon comes about. -/
inductive Built : Lexicon → Prop where
  | listed (records : List Record) : Built (ofRecords records)
  | loaded (input : Input) {lexicon : Lexicon} (done : load input = .ok lexicon) : Built lexicon
  | starter : Built starter

theorem loadRows_ok {rows : List (Csv.Place × Csv.Row)} {failure : Option Text}
    {lexicon : Lexicon} (done : loadRows rows failure = .ok lexicon) :
    ∃ records, lexicon = ofRecords records := by
  cases rows with
  | nil => cases failure <;> cases done
  | cons header data =>
      rw [loadRows] at done
      cases columns : loadHeader header with
      | error fault =>
          rw [columns] at done
          cases done
      | ok found =>
          cases cells : Csv.decodeRows data with
          | error fault =>
              rw [columns, cells] at done
              cases done
          | ok table =>
              rw [columns, cells] at done
              cases failure with
              | some cause => cases done
              | none => exact ⟨table.map found.record, (Except.ok.inj done).symm⟩

theorem Built.sound {lexicon : Lexicon} (built : lexicon.Built) : lexicon.Sound := by
  cases built with
  | listed records => exact ofRecords_sound records
  | loaded input done =>
      rcases loadRows_ok done with ⟨records, rfl⟩
      exact ofRecords_sound records
  | starter => exact ofRecords_sound starterRecords

/-! ### What is handed over -/

/-- A receiver that takes everything is handed all blocks in order. -/
theorem handOver_willing (blocks : List Bytes) (operation : Nat) :
    handOver .willing operation blocks = ⟨blocks.flatten, .ok ()⟩ := by
  induction blocks generalizing operation with
  | nil => rfl
  | cons block rest ih =>
      have taken : handOver .willing operation (block :: rest) =
          (handOver .willing (operation + 1) rest).behind block := by
        cases rest <;> rfl
      rw [taken, ih, List.flatten_cons]
      rfl

/-- A writing that ends well hands over all blocks in order, whatever the receiver is. -/
theorem handOver_ok {receiver : Receiver} {operation : Nat} {blocks : List Bytes}
    (ended : (handOver receiver operation blocks).verdict = .ok ()) :
    (handOver receiver operation blocks).handed = blocks.flatten := by
  fun_induction handOver receiver operation blocks with
  | case1 operation cause refused => rfl
  | case2 operation taken => rfl
  | case3 operation last cause refused => cases ended
  | case4 operation last taken ih => rw [Writing.behind, ih ended, List.flatten_cons]
  | case5 operation block rest more cause refused => cases ended
  | case6 operation block rest more taken ih => rw [Writing.behind, ih ended, List.flatten_cons]

theorem writeTo_willing (lexicon : Lexicon) :
    lexicon.writeTo .willing = ⟨lexicon.blocks.flatten, .ok ()⟩ := handOver_willing _ 0

theorem written_eq_blocks (lexicon : Lexicon) : lexicon.written = lexicon.blocks.flatten := by
  rw [written, writeTo_willing]

/-- Whoever takes the table to its end has got the written table. -/
theorem handed_of_ok {lexicon : Lexicon} {receiver : Receiver}
    (ended : (lexicon.writeTo receiver).verdict = .ok ()) :
    (lexicon.writeTo receiver).handed = lexicon.written := by
  rw [written_eq_blocks]
  exact handOver_ok ended

theorem written_eq_encode (lexicon : Lexicon) :
    lexicon.written = Utf8.encode (Csv.writeRows lexicon.table) := by
  rw [written_eq_blocks]
  exact Csv.blocks_flatten _ _

/-! ### Loading it again -/

/-- The layout that a lexicon is written in. -/
def layout (lexicon : Lexicon) : Csv.Layout :=
  .plain headerRow (lexicon.entries.map entryRow)

theorem written_eq_layout (lexicon : Lexicon) : lexicon.written = lexicon.layout.bytes := by
  rw [written_eq_encode, layout, Csv.Layout.bytes_plain]
  rfl

theorem layout_records (lexicon : Lexicon) :
    lexicon.layout.table.map (recordUnder lexicon.layout.columns) = lexicon.records := by
  rw [layout, Csv.Layout.table_plain, Csv.Layout.columns_plain, List.map_map]
  rfl

theorem load_written {lexicon : Lexicon} (sound : lexicon.Sound) :
    load ⟨lexicon.written, none⟩ = .ok lexicon := by
  have columns : lexicon.layout.columns = headerRow := Csv.Layout.columns_plain headerRow _
  have unmarked : ∀ cell ∈ lexicon.layout.columns, cell.head? ≠ some '\uFEFF' := by
    rw [columns]
    decide
  have word : ∃ cell ∈ lexicon.layout.columns, named [wordColumn] cell = true := by
    rw [columns]
    decide
  have marking : ∃ cell ∈ lexicon.layout.columns, named markingColumns cell = true := by
    rw [columns]
    decide
  rw [written_eq_layout, load_kept unmarked word marking, ofRecords_kept, layout_records,
    ofRecords_records sound]

/-- Every lexicon that can come about is written without a fault. What the receiver has been handed
is loaded again with the same entries in the same order, and these are then written as the same
bytes. -/
theorem written_loads_back {lexicon : Lexicon} (built : lexicon.Built) :
    (lexicon.writeTo .willing).verdict = .ok () ∧
      ∃ reloaded, load ⟨(lexicon.writeTo .willing).handed, none⟩ = .ok reloaded ∧
        reloaded.entries = lexicon.entries ∧
        (reloaded.writeTo .willing).handed = (lexicon.writeTo .willing).handed := by
  constructor
  · rw [writeTo_willing]
  · exact ⟨lexicon, load_written built.sound, rfl, rfl⟩

-- Markings with everything that a field is quoted for, and one that only trimming keeps apart.
def quotedRecords : List Record :=
  [⟨" Dog ".toList, "n., \"pl.\"\r\n of dog".toList⟩, ⟨"dog".toList, "v.".toList⟩,
    ⟨"R2-D2".toList, "n.".toList⟩, ⟨"Over-all".toList, "\u00A0\"a., \u1E9E\"\n".toList⟩]

theorem quotedRecords_loads_back :
    (ofRecords quotedRecords).entries =
        [⟨"dog".toList, "n., \"pl.\"\r\n of dog".toList, .noun⟩,
          ⟨"over-all".toList, "\"a., \u1E9E\"".toList, .adjective⟩] ∧
      (ofRecords quotedRecords).Built ∧
      ((ofRecords quotedRecords).writeTo .willing).verdict = .ok () ∧
      ∃ reloaded, load ⟨((ofRecords quotedRecords).writeTo .willing).handed, none⟩ = .ok reloaded ∧
        reloaded.entries = (ofRecords quotedRecords).entries ∧
        (reloaded.writeTo .willing).handed = ((ofRecords quotedRecords).writeTo .willing).handed := by
  have entries : (ofRecords quotedRecords).entries =
      [⟨"dog".toList, "n., \"pl.\"\r\n of dog".toList, .noun⟩,
        ⟨"over-all".toList, "\"a., \u1E9E\"".toList, .adjective⟩] := by decide +kernel
  have built : (ofRecords quotedRecords).Built := .listed quotedRecords
  exact ⟨entries, built, written_loads_back built⟩

end SimpleSentence.Lexicon

import SimpleSentence.Csv.Writer
import SimpleSentence.Text.Utf8.Lemmas

/-!
Laws of blocks. The blocks written, joined in order, are the encoded text of the
rows, whatever the capacity of a block is.
-/

namespace SimpleSentence.Csv

theorem quotedPieces_append (first second : Bytes) :
    quotedPieces (first ++ second) = quotedPieces first ++ quotedPieces second := by
  induction first with
  | nil => rfl
  | cons byte rest ih => simp [quotedPieces, ih]

theorem quotedPieces_flatten_of_not_mem {bytes : Bytes} (absent : quoteMark ∉ bytes) :
    (quotedPieces bytes).flatten = bytes := by
  induction bytes with
  | nil => rfl
  | cons byte rest ih =>
      have later : quoteMark ∉ rest := fun member => absent (List.mem_cons_of_mem byte member)
      have different : (byte == quoteMark) = false :=
        beq_false_of_ne fun same => absent (same ▸ List.mem_cons_self)
      simp [quotedPieces, different, ih later]

-- The quote is one byte, and no other character holds that byte.
theorem quoteMark_not_mem_encodeChar {char : Char} (other : char ≠ '"') :
    quoteMark ∉ Utf8.encodeChar char := by
  intro member
  by_cases small : char.toNat < 0x80
  · have same : quoteMark = UInt8.ofNat char.toNat := by
      simpa [Utf8.encodeChar, small] using member
    have codes := congrArg UInt8.toNat same
    rw [Utf8.toNat_ofNat_of_lt (by omega)] at codes
    exact other (Char.toNat_inj.mp codes.symm)
  · have large := Utf8.le_of_mem_encodeChar (by omega) member
    exact absurd large (by decide)

theorem quotedPieces_flatten (field : Text) :
    (quotedPieces (Utf8.encode field)).flatten = Utf8.encode (doubleQuotes field) := by
  induction field with
  | nil => rfl
  | cons char rest ih =>
      rw [Utf8.encode, quotedPieces_append, List.flatten_append, ih]
      by_cases quote : char = '"'
      · subst quote
        rfl
      · rw [quotedPieces_flatten_of_not_mem (quoteMark_not_mem_encodeChar quote)]
        simp [doubleQuotes, quote, Utf8.encode]

theorem fieldPieces_flatten (field : Text) :
    (fieldPieces field).flatten = Utf8.encode (writeField field) := by
  unfold fieldPieces writeField
  split
  · simp only [List.flatten_cons, List.flatten_append, quotedPieces_flatten, Utf8.encode,
      Utf8.encode_append]
    rfl
  · simp [← List.flatMap_def]

theorem rowPieces_flatten (fields : List Text) :
    (rowPieces fields).flatten = Utf8.encode (writeRow fields) := by
  induction fields with
  | nil => rfl
  | cons first rest ih =>
      cases rest with
      | nil =>
          simp only [rowPieces, writeRow, List.flatten_append, fieldPieces_flatten,
            Utf8.encode_append, List.map_cons, List.map_nil, Text.joinWith]
          rfl
      | cons second others =>
          simp only [rowPieces, List.flatten_append, List.flatten_cons, fieldPieces_flatten, ih]
          have mark : Utf8.encode [','] = [comma] := rfl
          simp only [writeRow, List.map_cons, Text.joinWith, Utf8.encode_append, mark,
            List.append_assoc]

theorem blocksFrom_flatten (capacity : Nat) (pieces : List Bytes) (filled : Bytes)
    (count : Nat) :
    (blocksFrom capacity filled count pieces).flatten = filled.reverse ++ pieces.flatten := by
  induction pieces generalizing filled count with
  | nil => simp [blocksFrom]
  | cons piece rest ih =>
      by_cases fits : count + piece.length ≤ capacity
      · simp [blocksFrom, fits, ih]
      · simp [blocksFrom, fits, ih]

-- Joined in order the blocks are the written text.
theorem blocks_flatten (capacity : Nat) (rows : List (List Text)) :
    (blocks capacity rows).flatten = Utf8.encode (writeRows rows) := by
  rw [blocks, blocksFrom_flatten, List.reverse_nil, List.nil_append]
  induction rows with
  | nil => rfl
  | cons row rest ih =>
      rw [List.flatMap_cons, List.flatten_append, ih, rowPieces_flatten, writeRows,
        Utf8.encode_append]

end SimpleSentence.Csv

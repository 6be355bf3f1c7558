import SimpleSentence.Text.Utf8

/-!
Comma separated rows in a stream of bytes. A row ends at a line feed or a
carriage return, and line ends before a row are skipped, so empty lines and the
second half of a two-byte line end make no rows. A field that begins with a
double quote runs to the closing quote, commas and line ends included, with two
quotes for one; what follows the closing quote is read as if it were bare. A
quote anywhere else stands for itself.

Every row keeps the bytes it was read from, and these place the rows behind it:
the offset and the line of a row are counted over the bytes of the rows before.

The bytes come in reads. Where one read ends and the next begins matters in front
only: a byte order mark counts as one if the first read gives all of it, and if
that read gives nothing else, the input is taken to have ended there.
-/

namespace SimpleSentence.Csv

inductive Mode where
  | rowStart
  | fieldStart
  | bare
  | quoted
  | closing
  deriving DecidableEq, Repr

-- What one byte does to the row being read.
inductive Step where
  | skip (mode : Mode)
  | keep (mode : Mode)
  | endField
  | endRow
  deriving DecidableEq, Repr

def comma : UInt8 := 0x2C

def quoteMark : UInt8 := 0x22

def lineFeed : UInt8 := 0x0A

def carriageReturn : UInt8 := 0x0D

def isLineEnd (byte : UInt8) : Bool := byte == lineFeed || byte == carriageReturn

def stepBare (byte : UInt8) : Step :=
  if byte == comma then .endField
  else if isLineEnd byte then .endRow
  else .keep .bare

def stepFieldStart (byte : UInt8) : Step :=
  if byte == quoteMark then .skip .quoted else stepBare byte

def step : Mode → UInt8 → Step
  | .rowStart, byte => if isLineEnd byte then .skip .rowStart else stepFieldStart byte
  | .fieldStart, byte => stepFieldStart byte
  | .bare, byte => stepBare byte
  | .quoted, byte => if byte == quoteMark then .skip .closing else .keep .quoted
  | .closing, byte => if byte == quoteMark then .keep .quoted else stepBare byte

structure Row where
  source : Bytes
  fields : List Bytes
  deriving DecidableEq, Repr

-- The row being read, each list with its newest element first.
structure Draft where
  source : Bytes
  fields : List Bytes
  field : Bytes

namespace Draft

def fresh : Draft := ⟨[], [], []⟩

def note (draft : Draft) (byte : UInt8) : Draft := { draft with source := byte :: draft.source }

def keep (draft : Draft) (byte : UInt8) : Draft := { draft with field := byte :: draft.field }

def endField (draft : Draft) : Draft :=
  { draft with fields := draft.field.reverse :: draft.fields, field := [] }

def close (draft : Draft) : Row := ⟨draft.source.reverse, draft.endField.fields.reverse⟩

end Draft

-- `rows` were closed by a line end; `last?` is closed only by the end of the input.
structure Scan where
  rows : List Row
  last? : Option Row
  deriving DecidableEq, Repr

def scanFrom (mode : Mode) (draft : Draft) : Bytes → Scan
  | [] => ⟨[], if mode = .rowStart then none else some draft.close⟩
  | byte :: rest =>
      let noted := draft.note byte
      match step mode byte with
      | .skip next => scanFrom next noted rest
      | .keep next => scanFrom next (noted.keep byte) rest
      | .endField => scanFrom .fieldStart noted.endField rest
      | .endRow =>
          let after := scanFrom .rowStart .fresh rest
          ⟨noted.close :: after.rows, after.last?⟩

def byteOrderMark : Bytes := [0xEF, 0xBB, 0xBF]

/-- The scan of bytes that are all there from the start. A byte order mark in front belongs to
the first row's bytes but to no field. -/
def scan (bytes : Bytes) : Scan :=
  if byteOrderMark.isPrefixOf bytes then
    scanFrom .rowStart ⟨byteOrderMark.reverse, [], []⟩ (bytes.drop byteOrderMark.length)
  else scanFrom .rowStart .fresh bytes

-- Where a row was found: its number from 0, the line from 1 and the offset in
-- bytes at which the row before it ended.
structure Place where
  row : Nat
  line : Nat
  byte : Nat
  deriving DecidableEq, Repr

def Place.first : Place := ⟨0, 1, 0⟩

def Place.after (place : Place) (row : Row) : Place :=
  ⟨place.row + 1, place.line + row.source.countP (· == lineFeed),
    place.byte + row.source.length⟩

def placeRows (place : Place) : List Row → List (Place × Row)
  | [] => []
  | row :: rest => (place, row) :: placeRows (place.after row) rest

-- What is seen of an input: the byte order mark that was passed over, the bytes
-- behind it, and the cause if reading failed before the end was seen.
structure Seen where
  mark : Bytes
  bytes : Bytes
  failure : Option Text
  deriving DecidableEq, Repr

/-- Takes in what each read gives. A read that gives nothing is the end of the input, whatever
would come behind it. -/
def takeIn (mark : Bytes) : List Bytes → Option Text → Seen
  | [], failure => ⟨mark, [], failure⟩
  | [] :: _, _ => ⟨mark, [], none⟩
  | read :: rest, failure =>
      let later := takeIn mark rest failure
      { later with bytes := read ++ later.bytes }

/-- A byte order mark is passed over where the first read gives the whole of it. If it gives
nothing else, nothing is left of that read. -/
def see : List Bytes → Option Text → Seen
  | [], failure => takeIn [] [] failure
  | first :: rest, failure =>
      if byteOrderMark.isPrefixOf first then
        takeIn byteOrderMark (first.drop byteOrderMark.length :: rest) failure
      else takeIn [] (first :: rest) failure

/-- Only the end of the input closes a row that no line end closes. -/
def Seen.rows (seen : Seen) : List Row :=
  let scan := scanFrom .rowStart ⟨seen.mark.reverse, [], []⟩ seen.bytes
  match seen.failure with
  | none => scan.rows ++ scan.last?.toList
  | some _ => scan.rows

/-- Reading fails on bytes that are no text, or because the input itself fails. -/
inductive Fault where
  | notText (place : Place) (field valid : Nat)
  | failed (cause : Text)
  deriving DecidableEq, Repr

def Fault.message : Fault → Text
  | .failed cause => cause
  | .notText place field valid =>
      "CSV parse error: record ".toList ++ Text.numeral place.row ++
        " (line ".toList ++ Text.numeral place.line ++
        ", field: ".toList ++ Text.numeral field ++
        ", byte: ".toList ++ Text.numeral place.byte ++
        "): invalid utf-8: invalid UTF-8 in field ".toList ++ Text.numeral field ++
        " near byte index ".toList ++ Text.numeral valid

/-- The first field that is no text decides. -/
def decodeFields (place : Place) (field : Nat) : List Bytes → Except Fault (List Text)
  | [] => .ok []
  | bytes :: rest =>
      match Utf8.decode bytes with
      | .error valid => .error (.notText place field valid)
      | .ok text =>
          match decodeFields place (field + 1) rest with
          | .error fault => .error fault
          | .ok texts => .ok (text :: texts)

def decodeRow (placed : Place × Row) : Except Fault (List Text) :=
  decodeFields placed.1 0 placed.2.fields

/-- The first row that is no text decides. -/
def decodeRows : List (Place × Row) → Except Fault (List (List Text))
  | [] => .ok []
  | placed :: rest =>
      match decodeRow placed with
      | .error fault => .error fault
      | .ok row =>
          match decodeRows rest with
          | .error fault => .error fault
          | .ok rows => .ok (row :: rows)

end SimpleSentence.Csv

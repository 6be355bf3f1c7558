import SimpleSentence.Lexicon
import SimpleSentence.Csv.Reader
import SimpleSentence.Csv.Writer

/-!
A lexicon as a table. Reading takes the first column named `word` and the first
named `pos` or `raw_pos`, whatever the case of the names and whatever else the
table holds; a row that is too short has empty cells there. Nothing is loaded
unless the whole input is read. Writing gives the columns `word`, `raw_pos` and
`coarse_pos`, which can be read back; it tells what it has handed over as well as
how it ended.
-/

namespace SimpleSentence

inductive LexiconError where
  | unreadable (path cause : Text)
  | unwritable (cause : Text)
  | malformed (fault : Csv.Fault)
  | missingColumn (column : Text)
  deriving DecidableEq, Repr

def LexiconError.message : LexiconError → Text
  | .unreadable path cause =>
      "failed to read '".toList ++ path ++ "': ".toList ++ cause
  | .unwritable cause => "failed to write lexicon: ".toList ++ cause
  | .malformed fault => "malformed lexicon CSV: ".toList ++ fault.message
  | .missingColumn column => "lexicon CSV has no '".toList ++ column ++ "' column".toList

namespace Lexicon

def wordColumn : Text := "word".toList

def markingColumns : List Text := ["pos".toList, "raw_pos".toList]

/-- The first header cell with one of the names. -/
def column? (names : List Text) (header : List Text) : Option Nat :=
  header.findIdx? fun cell => names.any (Text.sameAscii cell)

-- The two columns that matter.
structure Columns where
  word : Nat
  marking : Nat
  deriving DecidableEq, Repr

/-- The absence of a word column is reported before that of a marking column. -/
def columnsOf (header : List Text) : Except LexiconError Columns :=
  match column? [wordColumn] header, column? markingColumns header with
  | none, _ => .error (.missingColumn wordColumn)
  | some _, none => .error (.missingColumn "pos".toList)
  | some word, some marking => .ok ⟨word, marking⟩

def Columns.record (columns : Columns) (row : List Text) : Record :=
  ⟨row.getD columns.word [], row.getD columns.marking []⟩

/-- Header cells lose their outer blanks, data cells keep them. -/
def loadHeader (placed : Csv.Place × Csv.Row) : Except LexiconError Columns :=
  match Csv.decodeRow placed with
  | .error fault => .error (.malformed fault)
  | .ok header => columnsOf (header.map Text.trim)

/-- The first row is the header. With no row at all the header is empty, unless the
input failed before it could be known. -/
def loadRows (rows : List (Csv.Place × Csv.Row)) (failure : Option Text) :
    Except LexiconError Lexicon :=
  match rows, failure with
  | [], some cause => .error (.malformed (.failed cause))
  | [], none => .error (.missingColumn wordColumn)
  | header :: data, failure =>
      match loadHeader header with
      | .error error => .error error
      | .ok columns =>
          match Csv.decodeRows data, failure with
          | .error fault, _ => .error (.malformed fault)
          | .ok _, some cause => .error (.malformed (.failed cause))
          | .ok cells, none => .ok (ofRecords (cells.map columns.record))

-- Bytes that can be read, and the cause if reading fails after them.
structure Input where
  bytes : Bytes
  failure : Option Text
  deriving DecidableEq, Repr

/-- The most bytes that one read gives. -/
def readCapacity : Nat := 8192

/-- Bytes as reads give them; `filled` is what the newest read has given, newest byte first, and
`room` what it can still give. -/
def readsFrom (filled : Bytes) (room : Nat) : Bytes → List Bytes
  | [] => if filled.isEmpty then [] else [filled.reverse]
  | byte :: rest =>
      match room with
      | 0 => filled.reverse :: readsFrom [byte] (readCapacity - 1) rest
      | room + 1 => readsFrom (byte :: filled) room rest

/-- Every read but the last gives as much as it can. -/
def Input.reads (input : Input) : List Bytes := readsFrom [] readCapacity input.bytes

def loadReads (reads : List Bytes) (failure : Option Text) : Except LexiconError Lexicon :=
  let seen := Csv.see reads failure
  loadRows (Csv.placeRows .first seen.rows) seen.failure

def load (input : Input) : Except LexiconError Lexicon := loadReads input.reads input.failure

def headerRow : List Text := ["word".toList, "raw_pos".toList, "coarse_pos".toList]

def entryRow (entry : Entry) : List Text := [entry.word, entry.marking, entry.category.code]

def table (lexicon : Lexicon) : List (List Text) := headerRow :: lexicon.entries.map entryRow

-- A receiver of blocks: the cause with which its operation of each number
-- fails, if it does. The operation after the last block is the final flush.
abbrev Receiver := Nat → Option Text

/-- The receiver that takes everything. -/
def Receiver.willing : Receiver := fun _ => none

-- What comes of writing: the bytes of the blocks that were taken, and whether all
-- was well to the end.
structure Writing where
  handed : Bytes
  verdict : Except LexiconError Unit

/-- A writing in front of which one more block was taken. -/
def Writing.behind (block : Bytes) (writing : Writing) : Writing :=
  { writing with handed := block ++ writing.handed }

def blockCapacity : Nat := 8192

/-- Hands blocks over in order; the number of the next operation is the first argument. A block
that leaves while rows are still being added fails as a fault of the table, the last block and the
flush as a fault of writing. -/
def handOver (receiver : Receiver) (operation : Nat) : List Bytes → Writing
  | [] =>
      match receiver operation with
      | some cause => ⟨[], .error (.unwritable cause)⟩
      | none => ⟨[], .ok ()⟩
  | [last] =>
      match receiver operation with
      | some cause => ⟨[], .error (.unwritable cause)⟩
      | none => (handOver receiver (operation + 1) []).behind last
  | block :: rest =>
      match receiver operation with
      | some cause => ⟨[], .error (.malformed (.failed cause))⟩
      | none => (handOver receiver (operation + 1) rest).behind block

/-- The blocks that the table leaves in. -/
def blocks (lexicon : Lexicon) : List Bytes := Csv.blocks blockCapacity lexicon.table

/-- Writes the table to a receiver. -/
def writeTo (receiver : Receiver) (lexicon : Lexicon) : Writing :=
  handOver receiver 0 lexicon.blocks

/-- The written table: what a receiver gets that takes everything. -/
def written (lexicon : Lexicon) : Bytes := (lexicon.writeTo .willing).handed

end Lexicon

end SimpleSentence

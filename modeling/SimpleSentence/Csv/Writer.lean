import SimpleSentence.Csv.Reader

/-!
Writing comma separated rows. A field is quoted only if it holds a comma, a
quote or a line end; inside quotes a quote is written twice. Each row ends with
a line feed.

The bytes leave in blocks of bounded size. A row is made of pieces that are
never torn apart, single bytes and doubled quotes, and a block is handed over
when the next piece no longer fits; the last block is handed over at the end.
Joined in order the blocks are the written text.
-/

namespace SimpleSentence.Csv

def needsQuotes (field : Text) : Bool :=
  field.any fun char => char == ',' || char == '"' || char == '\r' || char == '\n'

def doubleQuotes : Text → Text
  | [] => []
  | char :: rest =>
      if char = '"' then '"' :: '"' :: doubleQuotes rest else char :: doubleQuotes rest

def writeField (field : Text) : Text :=
  if needsQuotes field then '"' :: (doubleQuotes field ++ ['"']) else field

def writeRow (fields : List Text) : Text :=
  Text.joinWith [','] (fields.map writeField) ++ ['\n']

def writeRows : List (List Text) → Text
  | [] => []
  | row :: rest => writeRow row ++ writeRows rest

/-- The bytes of a quoted field's content, doubled quotes held together. -/
def quotedPieces : Bytes → List Bytes
  | [] => []
  | byte :: rest =>
      (if byte == quoteMark then [quoteMark, quoteMark] else [byte]) :: quotedPieces rest

def fieldPieces (field : Text) : List Bytes :=
  let bytes := Utf8.encode field
  if needsQuotes field then [quoteMark] :: (quotedPieces bytes ++ [[quoteMark]])
  else bytes.map fun byte => [byte]

def rowPieces : List Text → List Bytes
  | [] => [[lineFeed]]
  | [only] => fieldPieces only ++ [[lineFeed]]
  | first :: rest => fieldPieces first ++ [comma] :: rowPieces rest

/-- Fills blocks of at most `capacity` bytes; `filled` is the newest block, newest byte first. -/
def blocksFrom (capacity : Nat) (filled : Bytes) (count : Nat) : List Bytes → List Bytes
  | [] => [filled.reverse]
  | piece :: rest =>
      if count + piece.length ≤ capacity then
        blocksFrom capacity (piece.reverse ++ filled) (count + piece.length) rest
      else filled.reverse :: blocksFrom capacity piece.reverse piece.length rest

def blocks (capacity : Nat) (rows : List (List Text)) : List Bytes :=
  blocksFrom capacity [] 0 (rows.flatMap rowPieces)

end SimpleSentence.Csv

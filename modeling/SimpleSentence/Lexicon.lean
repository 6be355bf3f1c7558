import SimpleSentence.Category

/-!
A lexicon is built from records in order. A record adds an entry when its
trimmed word is simple, its marking names a category, and no earlier entry has
the same lowercase word; every other record is passed over in silence. Entries
keep the order in which they were added, and look-ups compare words exactly.
-/

namespace SimpleSentence

structure Record where
  word : Text
  marking : Text
  deriving DecidableEq, Repr

structure Entry where
  word : Text
  marking : Text
  category : Category
  deriving DecidableEq, Repr

structure Lexicon where
  entries : List Entry
  deriving DecidableEq, Repr

def isSimpleLetter (char : Char) : Bool := char.isAlpha || char == '\'' || char == '-'

/-- A simple word is not empty and has ASCII letters, apostrophes and hyphens only. -/
def isSimpleWord (word : Text) : Bool := !word.isEmpty && word.all isSimpleLetter

namespace Record

/-- The entry that a record stands for, if it stands for one. -/
def entry? (record : Record) : Option Entry :=
  let word := Text.trim record.word
  let category := Category.ofMarking record.marking
  if isSimpleWord word && category != .unknown then
    some { word := Text.lower word, marking := Text.trim record.marking, category := category }
  else none

end Record

namespace Lexicon

def empty : Lexicon := ⟨[]⟩

def get? (lexicon : Lexicon) (word : Text) : Option Entry :=
  lexicon.entries.find? fun entry => entry.word == word

def lookup? (lexicon : Lexicon) (word : Text) : Option Category :=
  (lexicon.get? word).map Entry.category

def contains (lexicon : Lexicon) (word : Text) : Bool := (lexicon.get? word).isSome

def size (lexicon : Lexicon) : Nat := lexicon.entries.length

/-- The first record of a word wins. -/
def insert (lexicon : Lexicon) (record : Record) : Lexicon :=
  match record.entry? with
  | none => lexicon
  | some entry =>
      if lexicon.contains entry.word then lexicon else ⟨lexicon.entries ++ [entry]⟩

def ofRecords (records : List Record) : Lexicon := records.foldl insert empty

/-- The records from which a lexicon can be built again. -/
def records (lexicon : Lexicon) : List Record :=
  lexicon.entries.map fun entry => ⟨entry.word, entry.marking⟩

end Lexicon

end SimpleSentence
